import JobImages.Proofs.CommandLine.Arguments
import JobImages.Proofs.Json.NumberLiteral

/-!
# Where values come from

Each option of a command has one text: that of its flag, else that of its variable, else its own.
The command line is good if every option has a text and every text is one that the option can have.

## Main definitions

* `CommandLine.Flag.effective?` — the text of an option;
* `CommandLine.IsSeconds`, `CommandLine.Kind.Accepts` — the texts that an option can have;
* `CommandLine.Command.IsResolved` — every option has a text that it can have.

## Main results

* `CommandLine.readSeconds_eq_ok_iff` — what is read as a number of seconds;
* `CommandLine.read_cases` — the values of all options;
* `CommandLine.exists_read_iff` — when there are any.
-/

namespace JobImages.CommandLine

/-! ## Texts and values -/

/-- A text is a number of seconds: digits, a plus sign before them allowed, whose number fits in 64
bits. -/
def IsSeconds (text : String) (number : Nat) : Prop :=
  ∃ digits : List Char, digits ≠ [] ∧ (∀ c ∈ digits, c.isDigit = true) ∧
    (text.toList = digits ∨ text.toList = '+' :: digits) ∧
    number = Json.digitsValue digits ∧ number < 2 ^ 64

/-- The texts that an option of a kind can have. -/
def Kind.Accepts [Url.International] (kind : Kind) (text : String) : Prop :=
  match kind with
  | .text => True
  | .path => text ≠ ""
  | .seconds => ∃ number, IsSeconds text number
  | .url => ∃ uri, Url.read text = .ok uri

/-- Digits are read to the end if all of them are digits and their number fits; it only grows. -/
theorem readDigits_eq_ok_iff {number : Nat} (digits : List Char) :
    ∀ value < 2 ^ 64, readDigits value digits = .ok number ↔
      (∀ c ∈ digits, c.isDigit = true) ∧ number = Json.digitsAfter value digits ∧
        number < 2 ^ 64 := by
  induction digits with
  | nil =>
    intro value hvalue
    rw [readDigits, Except.ok.injEq]
    constructor
    · rintro rfl
      exact ⟨by simp, rfl, hvalue⟩
    · rintro ⟨-, hnumber, -⟩
      exact hnumber.symm
  | cons c rest ih =>
    intro value hvalue
    rw [Json.digitsAfter_cons]
    cases hdigit : c.isDigit with
    | false => simp [readDigits, hdigit]
    | true =>
      have hstep : readDigits value (c :: rest) =
          if value * 10 + Json.digitValue c < 2 ^ 64 then
            readDigits (value * 10 + Json.digitValue c) rest
          else .error .tooLarge := by
        rw [readDigits, hdigit]
        rfl
      by_cases hfits : value * 10 + Json.digitValue c < 2 ^ 64
      · rw [hstep, if_pos hfits, ih _ hfits]
        simp [hdigit]
      · rw [hstep, if_neg hfits]
        constructor
        · intro h
          cases h
        · -- More digits make the number no smaller, so that it would not fit at the end either.
          rintro ⟨-, rfl, hnumber⟩
          have hle := Json.le_digitsAfter (value * 10 + Json.digitValue c) rest
          exact absurd (Nat.lt_of_le_of_lt hle hnumber) hfits

theorem readSeconds_eq_ok_iff {text : String} {number : Nat} :
    readSeconds text.toList = .ok number ↔ IsSeconds text number := by
  have hread (digits : List Char) : readDigits 0 digits = .ok number ↔
      (∀ c ∈ digits, c.isDigit = true) ∧ number = Json.digitsValue digits ∧ number < 2 ^ 64 :=
    readDigits_eq_ok_iff digits 0 (by decide)
  unfold readSeconds IsSeconds
  split
  · next hempty =>
    constructor
    · intro h
      cases h
    · rintro ⟨digits, hne, -, htext | htext, -⟩
      · exact absurd (htext.symm.trans hempty) hne
      · cases htext.symm.trans hempty
  · next hplus =>
    constructor
    · intro h
      cases h
    · rintro ⟨digits, hne, hdigits, htext | htext, -⟩
      · have hmem : '+' ∈ digits := by simp [← htext, hplus]
        exact absurd (hdigits _ hmem) (by decide)
      · cases htext.symm.trans hplus
        exact absurd rfl hne
  · -- A plus sign is no digit, so that it is not one of the digits itself.
    next digits hne hplus =>
    rw [hread]
    constructor
    · rintro ⟨hdigits, hnumber⟩
      exact ⟨digits, hne, hdigits, .inr hplus, hnumber⟩
    · rintro ⟨digits', -, hdigits, htext | htext, hnumber⟩
      · have hmem : '+' ∈ digits' := by simp [← htext, hplus]
        exact absurd (hdigits _ hmem) (by decide)
      · cases htext.symm.trans hplus
        exact ⟨hdigits, hnumber⟩
  · next hempty hplus hother =>
    rw [hread]
    constructor
    · rintro ⟨hdigits, hnumber⟩
      exact ⟨text.toList, fun h => hempty h, hdigits, .inl rfl, hnumber⟩
    · rintro ⟨digits, -, hdigits, htext | htext, hnumber⟩
      · rw [htext]
        exact ⟨hdigits, hnumber⟩
      · exact absurd htext (hother digits)

/-- The options that are accepted are those that stand for a value. -/
theorem Kind.accepts_iff [Url.International] {kind : Kind} {text : String} :
    kind.Accepts text ↔ ∃ value, kind.read text = .ok value := by
  cases kind with
  | text => simp [Accepts, read]
  | path =>
    by_cases h : text = "" <;> simp [Accepts, read, h]
  | seconds =>
    simp only [Accepts, read, ← readSeconds_eq_ok_iff]
    cases readSeconds text.toList <;> simp [Except.map]
  | url =>
    simp only [Accepts, read]
    cases Url.read text <;> simp

/-! ## The texts of the options -/

/-- The text of an option: that of its flag, else that of its variable, else its own. -/
def Flag.effective? (given : List (String × String)) (environment : Environment) (flag : Flag) :
    Option String :=
  (given.lookup flag.name).or ((environment.lookup flag.variableName).or flag.fallback)

/-- Every option that has to be given is, and every option has a text that it can have. -/
def Command.IsResolved [Url.International] (command : Command) (given : List (String × String))
    (environment : Environment) : Prop :=
  ∀ flag ∈ command.flags,
    (flag.fallback = none → flag.effective? given environment ≠ none) ∧
    ∀ text, flag.effective? given environment = some text → flag.kind.Accepts text

variable {command : Command}

/-! ## Reading the options -/

theorem Assignment.Agrees.lookup_eq_none_iff [Url.International]
    {flags : List Flag} {text? : Flag → Option String}
    {values : Assignment} (h : values.Agrees flags text?) {flag : Flag} (hflag : flag ∈ flags) :
    values.lookup flag.name = none ↔ text? flag = none := by
  have htakes := h flag hflag
  generalize values.lookup flag.name = found at htakes ⊢
  generalize text? flag = text at htakes ⊢
  cases htakes <;> simp

/-- One flag is passed over if it has a text or there is none for it, and else given its value, if
it can have that; the rest follows. -/
theorem complete_cons_cases [Url.International]
    {flags : List Flag} (hnames : (flags.map Flag.name).Nodup)
    (text? : Flag → Option String) {flag : Flag} (hflag : flag ∈ flags) (rest : List Flag)
    {values : Assignment} {base? : Flag → Option String} (hvalues : values.Agrees flags base?) :
    (∃ given : Assignment, complete text? values (flag :: rest) = complete text? given rest ∧
      given.Agrees flags (Function.update base? flag ((base? flag).or (text? flag)))) ∨
    ∃ complaint, complete text? values (flag :: rest) = .error complaint ∧
      ∃ text fault, base? flag = none ∧ text? flag = some text ∧
        flag.kind.read text = .error fault := by
  have hlookup := hvalues.lookup_eq_none_iff hflag
  by_cases hopen : ∃ text, base? flag = none ∧ text? flag = some text
  · obtain ⟨text, hnone, htext⟩ := hopen
    have hstep : complete text? values (flag :: rest) =
        (assign values flag text >>= fun given => complete text? given rest) := by
      simp only [complete, hlookup.2 hnone, htext]
    rw [hstep, hnone, Option.none_or, htext]
    rcases assign_cases hnames hvalues hflag hnone text with
      ⟨given, hassign, hgiven⟩ | ⟨fault, hread, hassign⟩
    · exact .inl ⟨given, by rw [hassign]; rfl, hgiven⟩
    · exact .inr ⟨_, by rw [hassign]; rfl, text, fault, rfl, rfl, hread⟩
  · have hskip : complete text? values (flag :: rest) = complete text? values rest := by
      rw [complete]
      split
      · next text hfound htext => exact absurd ⟨text, hlookup.1 hfound, htext⟩ hopen
      · rfl
    have hsame : (base? flag).or (text? flag) = base? flag := by
      cases hbase : base? flag with
      | some text => rfl
      | none =>
        rw [Option.none_or]
        cases htext : text? flag with
        | none => rfl
        | some text => exact absurd ⟨text, hbase, htext⟩ hopen
    refine .inl ⟨values, hskip, ?_⟩
    rwa [hsame, Function.update_eq_self]

/-- What is looked up is added to what the flags have that are not open, unless something is found
for an open flag that it cannot have. -/
theorem complete_cases [Url.International]
    {flags : List Flag} (hnames : (flags.map Flag.name).Nodup)
    (text? : Flag → Option String) (rest : List Flag) (hrest : ∀ flag ∈ rest, flag ∈ flags) :
    ∀ {values : Assignment} {base? : Flag → Option String}, values.Agrees flags base? →
      (∃ values', complete text? values rest = .ok values' ∧
        values'.Agrees flags fun flag =>
          (base? flag).or (if flag ∈ rest then text? flag else none)) ∨
      ∃ complaint, complete text? values rest = .error complaint ∧
        ∃ flag ∈ rest, ∃ text fault, base? flag = none ∧ text? flag = some text ∧
          flag.kind.read text = .error fault := by
  induction rest with
  | nil =>
    intro values base? hvalues
    exact .inl ⟨values, rfl, hvalues.congr fun flag _ => by simp⟩
  | cons flag rest ih =>
    intro values base? hvalues
    have hflag := hrest flag List.mem_cons_self
    have hrest' := fun other hother => hrest other (List.mem_cons_of_mem flag hother)
    rcases complete_cons_cases hnames text? hflag rest hvalues with
      ⟨given, hstep, hgiven⟩ | ⟨complaint, hstep, text, fault, hnone, htext, hread⟩
    case inr =>
      exact .inr ⟨complaint, hstep, flag, List.mem_cons_self, text, fault, hnone, htext, hread⟩
    rw [hstep]
    rcases ih hrest' hgiven with
      ⟨values', hcomplete, hvalues'⟩ |
        ⟨complaint, hcomplete, other, hother, text, fault, hbase, htext, hread⟩
    · refine .inl ⟨values', hcomplete, hvalues'.congr fun other _ => ?_⟩
      by_cases hsame : other = flag
      · -- The flag may come again, but then it finds its text in place.
        subst hsame
        by_cases hagain : other ∈ rest <;> simp [hagain, Option.or_assoc]
      · simp [hsame]
    · refine .inr ⟨complaint, hcomplete, other, List.mem_cons_of_mem _ hother, text, fault, ?_,
        htext, hread⟩
      have hsame : other ≠ flag := by
        rintro rfl
        rw [Function.update_self, Option.or_eq_none_iff, htext] at hbase
        cases hbase.2
      rwa [Function.update_of_ne hsame] at hbase

/-- The values of the options, before those are refused that have to be given and are not. -/
def fill [Url.International]
    (command : Command) (arguments : List String) (environment : Environment) :
    Except Complaint Assignment := do
  let given ← readArguments command arguments
  let given ← complete (variableText environment) given command.flags
  complete Flag.fallback given command.flags

/-- The values, unless an option has none. -/
def refuseOpen (flags : List Flag) (values : Assignment) : Except Complaint Assignment :=
  match open? values flags with
  | [] => .ok values
  | flags => .error (.missing flags)

theorem read_eq_fill [Url.International]
    (command : Command) (arguments : List String) (environment : Environment) :
    read command arguments environment =
      (fill command arguments environment >>= refuseOpen command.flags) := by
  unfold read fill
  cases readArguments command arguments with
  | error complaint => rfl
  | ok first =>
    show (complete _ first _ >>= _) = ((complete _ first _ >>= _) >>= _)
    cases complete (variableText environment) first command.flags with
    | error complaint => rfl
    | ok second => rfl

theorem refuseOpen_cases (flags : List Flag) (values : Assignment) :
    ((∀ flag ∈ flags, values.lookup flag.name ≠ none) ∧ refuseOpen flags values = .ok values) ∨
      ∃ flag ∈ flags, values.lookup flag.name = none ∧
        ∃ complaint, refuseOpen flags values = .error complaint := by
  unfold refuseOpen
  split
  · next hopen =>
    refine .inl ⟨fun flag hflag hnone => ?_, rfl⟩
    have hmem : flag ∈ open? values flags := List.mem_filter.2 ⟨hflag, by rw [hnone]; rfl⟩
    rw [hopen] at hmem
    cases hmem
  · next missing hne =>
    obtain ⟨flag, rest, hmissing⟩ := List.exists_cons_of_ne_nil fun h => hne h
    have hmem : flag ∈ open? values flags := by rw [hmissing]; exact List.mem_cons_self
    obtain ⟨hflag, hnone⟩ := List.mem_filter.1 hmem
    exact .inr ⟨flag, hflag, Option.isNone_iff_eq_none.1 hnone, _, rfl⟩

section

variable [Url.International] (hplain : command.IsPlain) {given : List (String × String)}
  (hdistinct : (given.map Prod.fst).Nodup)
  (hknown : ∀ option ∈ given, option.1 ∈ command.flags.map Flag.name) (environment : Environment)

include hplain hdistinct hknown

/-- Every option is given the value of its text, unless it cannot have that. -/
theorem fill_cases :
    (∃ values, fill command (written given) environment = .ok values ∧
      values.Agrees command.flags (Flag.effective? given environment)) ∨
    ∃ complaint, fill command (written given) environment = .error complaint ∧
      ∃ flag ∈ command.flags, ∃ text fault, flag.effective? given environment = some text ∧
        flag.kind.read text = .error fault := by
  -- First the arguments, then the variables, and last what the flags have of their own.
  rcases readArguments_cases hplain hdistinct hknown with
    ⟨first, hfirst, hagrees⟩ | ⟨complaint, hfirst, flag, hflag, text, fault, htext, hread⟩
  case inr =>
    refine .inr ⟨complaint, by rw [fill, hfirst]; rfl, flag, hflag, text, fault, ?_, hread⟩
    rw [Flag.effective?, htext, Option.some_or]
  rcases complete_cases hplain.nodup (variableText environment) command.flags (fun _ h => h)
      hagrees with
    ⟨second, hsecond, hagrees'⟩ |
      ⟨complaint, hsecond, flag, hflag, text, fault, hopen, htext, hread⟩
  case inr =>
    refine .inr ⟨complaint, ?_, flag, hflag, text, fault, ?_, hread⟩
    · rw [fill, hfirst]
      show (complete _ first _ >>= _) = _
      rw [hsecond]
      rfl
    · rw [Flag.effective?, hopen, ← variableText, htext, Option.none_or, Option.some_or]
  have hfill : fill command (written given) environment =
      complete Flag.fallback second command.flags := by
    rw [fill, hfirst]
    show (complete _ first _ >>= _) = _
    rw [hsecond]
    rfl
  rw [hfill]
  rcases complete_cases hplain.nodup Flag.fallback command.flags (fun _ h => h) hagrees' with
    ⟨third, hthird, hagrees''⟩ | ⟨complaint, hthird, flag, hflag, text, fault, hopen, htext, hread⟩
  · refine .inl ⟨third, hthird, hagrees''.congr fun flag hflag => ?_⟩
    rw [if_pos hflag, if_pos hflag, Option.or_assoc, Flag.effective?, variableText]
  · refine .inr ⟨complaint, hthird, flag, hflag, text, fault, ?_, hread⟩
    rw [if_pos hflag, Option.or_eq_none_iff] at hopen
    rw [Flag.effective?, hopen.1, ← variableText, hopen.2, Option.none_or, Option.none_or, htext]

/-- A command line gives every option the value of its text, or an option has no text that it can
have. -/
theorem read_cases :
    (∃ values, read command (written given) environment = .ok values ∧
      ∀ flag ∈ command.flags, ∃ text value, flag.effective? given environment = some text ∧
        flag.kind.read text = .ok value ∧ values.lookup flag.name = some value) ∨
    ∃ complaint, read command (written given) environment = .error complaint ∧
      ∃ flag ∈ command.flags, ∀ text, flag.effective? given environment = some text →
        ∃ fault, flag.kind.read text = .error fault := by
  rw [read_eq_fill]
  rcases fill_cases hplain hdistinct hknown environment with
    ⟨values, hfill, hagrees⟩ | ⟨complaint, hfill, flag, hflag, text, fault, htext, hread⟩
  · rw [hfill]
    show (∃ _, refuseOpen command.flags values = _ ∧ _) ∨
      ∃ _, refuseOpen command.flags values = _ ∧ _
    rcases refuseOpen_cases command.flags values with
      ⟨hall, hok⟩ | ⟨flag, hflag, hnone, complaint, herror⟩
    · refine .inl ⟨values, hok, fun flag hflag => ?_⟩
      have htakes := hagrees flag hflag
      have hsome := hall flag hflag
      generalize values.lookup flag.name = found at htakes hsome ⊢
      generalize flag.effective? given environment = text at htakes ⊢
      -- No flag is open any more, so that none has neither a text nor a value.
      cases htakes with
      | nothing => exact absurd rfl hsome
      | value hread => exact ⟨_, _, rfl, hread, rfl⟩
    · refine .inr ⟨complaint, herror, flag, hflag, fun text htext => ?_⟩
      rw [(hagrees.lookup_eq_none_iff hflag).1 hnone] at htext
      cases htext
  · rw [hfill]
    refine .inr ⟨complaint, rfl, flag, hflag, fun text' htext' => ⟨fault, ?_⟩⟩
    cases htext.symm.trans htext'
    exact hread

/-- There are values if every option has a text that it can have. -/
theorem exists_read_iff :
    (∃ values, read command (written given) environment = .ok values) ↔
      command.IsResolved given environment := by
  rcases read_cases hplain hdistinct hknown environment with
    ⟨values, hread, hvalues⟩ | ⟨complaint, hread, flag, hflag, hfault⟩
  · refine iff_of_true ⟨values, hread⟩ fun flag hflag => ?_
    obtain ⟨text, value, htext, hvalue, -⟩ := hvalues flag hflag
    refine ⟨fun _ => by simp [htext], fun text' htext' => ?_⟩
    cases htext.symm.trans htext'
    exact Kind.accepts_iff.2 ⟨value, hvalue⟩
  · refine iff_of_false ?_ fun hresolved => ?_
    · rintro ⟨values, hok⟩
      cases hread.symm.trans hok
    · obtain ⟨hgiven, haccepts⟩ := hresolved flag hflag
      obtain ⟨text, htext⟩ : ∃ text, flag.effective? given environment = some text := by
        cases hfallback : flag.fallback with
        | none => exact Option.ne_none_iff_exists'.1 (hgiven hfallback)
        | some text =>
          refine Option.ne_none_iff_exists'.1 fun hnone => ?_
          rw [Flag.effective?, hfallback, Option.or_eq_none_iff, Option.or_eq_none_iff] at hnone
          cases hnone.2.2
      obtain ⟨value, hvalue⟩ := Kind.accepts_iff.1 (haccepts text htext)
      obtain ⟨fault, hfault⟩ := hfault text htext
      cases hfault.symm.trans hvalue

end

end JobImages.CommandLine
