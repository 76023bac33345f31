import JobImages.CommandLine.Reader
import JobImages.Text.Terminal

/-!
# Help

The full help of a command: what it does, how it is used, and its flags, each with its variable and
the value of that in the environment, unless it is secret, and with the value it has otherwise.  On
a terminal the flags are in bold.
-/

namespace JobImages.CommandLine

/-- A text whose lines after the first are indented like help texts. -/
def indented (text : String) : String :=
  String.ofList (text.toList.flatMap fun c =>
    if c = '\n' then '\n' :: List.replicate 10 ' ' else [c])

/-- The note on a flag's variable. -/
def variableNote (environment : Environment) (flag : Flag) : String :=
  if flag.secret then s!" [env: {flag.variableName}]"
  else
    let value := (variableText environment flag).getD ""
    s!" [env: {flag.variableName}={value}]"

/-- The note on the value that a flag has otherwise. -/
def fallbackNote (flag : Flag) : String :=
  match flag.fallback with
  | some text => s!" [default: {text}]"
  | none => ""

/-- An entry of the list: how something is written, and below it what it is for. -/
def helpEntry (head text : String) : List String :=
  [head, String.ofList (List.replicate 10 ' ') ++ indented text]

/-- The entry of a flag. -/
def flagEntry (environment : Environment) (flag : Flag) : List String :=
  helpEntry s!"      {Text.strong flag.long} <{flag.valueName}>"
    (flag.help ++ variableNote environment flag ++ fallbackNote flag)

/-- How a command is used: its name, and the flags that have to be given. -/
def Command.usageLine (command : Command) : String :=
  let required := (command.flags.filter (·.fallback.isNone)).map Flag.usage
  " ".intercalate ("Usage:" :: command.name :: "[OPTIONS]" :: required)

/-- The entry of a question, by its letter and its name. -/
def questionEntry (letter name text : String) : List String :=
  helpEntry s!"  {Text.strong letter}, {Text.strong name}" text

/-- The full help, for a terminal. -/
def Command.helpText (command : Command) (environment : Environment) : String :=
  "\n".intercalate
    ([command.about, "", command.usageLine, "", "Options:"] ++
      command.flags.flatMap (flagEntry environment) ++
      questionEntry "-h" "--help" "Print help" ++ questionEntry "-V" "--version" "Print version")

/-- The full help, where there is no terminal. -/
def Command.help (command : Command) (environment : Environment) : String :=
  Text.plain (command.helpText environment)

end JobImages.CommandLine
