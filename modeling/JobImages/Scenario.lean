import JobImages.Engine.Program
import JobImages.FileTree.Edit
import JobImages.Http.Client
import JobImages.Json.Access
import JobImages.Url.Host

/-!
# Scenarios

The surroundings of a run, described by a JSON document: the steps in which a tree of files is made,
the programs that are installed, what their processes do, and how a server replies.  A member that
is left out describes an ordinary case: no files, `docker` installed, processes that succeed
silently.

## Main definitions

* `Scenario` — a machine and a network;
* `Scenario.change?`, `Scenario.behaviour`, `Scenario.reply` — the parts of a description;
* `Scenario.ofJson` — the scenario that a document describes.
-/

namespace JobImages

/-- The surroundings of a run. -/
structure Scenario where
  /-- The machine on which programs are started. -/
  machine : Machine
  /-- The network on which requests are sent. -/
  network : Network

namespace Scenario

/-- A scenario has no rules for domain names beyond ASCII, so that there are none of these. -/
instance : Url.International where
  toAscii? _ := none

/-- The value of a lower-case hexadecimal digit. -/
def hexValue (digit : Char) : Nat :=
  if digit.isDigit then digit.toNat - '0'.toNat else digit.toNat - 'a'.toNat + 10

/-- The bytes that pairs of hexadecimal digits stand for. -/
def hexBytes : List Char → List UInt8
  | high :: low :: rest => UInt8.ofNat (hexValue high * 16 + hexValue low) :: hexBytes rest
  | _ => []

/-- Bytes, described as text or, under a key of its own, in hexadecimal. -/
def bytesAt (object : Json) (key : String) : List UInt8 :=
  match object.textAt? (key ++ "_hex") with
  | some digits => hexBytes digits.toList
  | none => Text.toBytes (object.textAt key "")

/-- A step in the making of a tree. -/
def change? (step : Json) : Option FileTree.Change :=
  let path : Path := ⟨step.textAt "path" ""⟩
  match step.textAt "do" "" with
  | "dir" => some (.directory path)
  | "file" => some (.file path (bytesAt step "content"))
  | "link" => some (.link path ⟨step.textAt "target" ""⟩)
  | "remove" => some (.remove path)
  | "rename" => some (.rename path ⟨step.textAt "to" ""⟩)
  | _ => none

/-- The tree that some steps make. -/
def files (document : Json) : FileTree :=
  FileTree.empty.make ((document.itemsAt "tree").filterMap change?)

/-- What a process does. -/
def behaviour (process : Json) : Machine.Behaviour :=
  { output := bytesAt process "out"
    errorOutput := bytesAt process "err"
    ending :=
      match process.integerAt? "signal" with
      | some number => .signalled number.toNat
      | none => .ofCode ((process.integerAt? "exit").getD 0)
    readsInput := process.boolAt "read_stdin" true }

/-- The names that a member lists, or others. -/
def namesAt (document : Json) (key : String) (otherwise : List String) : List String :=
  match document.itemsAt? key with
  | some names => names.filterMap Json.text?
  | none => otherwise

/-- The machine of a scenario. -/
def machineOf (document : Json) : Machine :=
  { files := files document
    installed := namesAt document "installed" ["docker"]
    notExecutable := namesAt document "not_executable" []
    processes := (document.itemsAt "engine").map behaviour }

/-- A header of a reply. -/
def header? (member : String × Json) : Option (String × String) :=
  member.2.text?.map fun text => (member.1, text)

/-- What a server does with a request. -/
def reply (answer : Json) : Network.Reply :=
  if answer.boolAt "drop" false then .close
  else
    let headers :=
      match answer.field? "headers" with
      | some (.object members) => members.filterMap header?
      | _ => []
    .answer (answer.naturalAt "status" Coordinator.accepted) headers (bytesAt answer "body")
      (!answer.boolAt "short" false)

/-- The network of a scenario: without replies, no server can be reached. -/
def networkOf (document : Json) : Network :=
  match document.itemsAt? "coordinator" with
  | some answers => .replies (answers.map reply)
  | none => .unreachable

/-- The scenario that a document describes. -/
def ofJson (document : Json) : Scenario :=
  { machine := machineOf document, network := networkOf document }

end Scenario

end JobImages
