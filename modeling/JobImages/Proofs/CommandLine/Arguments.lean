import JobImages.CommandLine.Reader
import Mathlib.Data.List.Nodup
import Mathlib.Logic.Function.Basic

/-!
# Values of flags

What a command line says is told by what each flag of the command has: a text, and the value for
which it stands.  To assign a value changes that of one flag; arguments that give each flag at most
once assign them one after the other, so that in the end each flag has what its own argument says.

## Main definitions

* `CommandLine.written` — arguments that give values;
* `CommandLine.Command.IsPlain` — flags that can be told apart;
* `CommandLine.Assignment.Agrees` — values that are those of some texts.

## Main results

* `CommandLine.assign_cases` — a value that is assigned;
* `CommandLine.takeArgument_written` — an argument that gives one;
* `CommandLine.readArguments_cases` — what all the arguments come to.
-/

namespace JobImages.CommandLine

/-- The arguments that give values to flags by their names, each value in its flag's argument. -/
def written (given : List (String × String)) : List String :=
  given.map fun option => "--" ++ option.1 ++ "=" ++ option.2

/-- The flags of a command have different names, and no equals sign is in them. -/
structure Command.IsPlain (command : Command) : Prop where
  nodup : (command.flags.map Flag.name).Nodup
  no_equals : ∀ flag ∈ command.flags, '=' ∉ flag.name.toList

/-- A flag has the value for which a text stands, or neither a text nor a value. -/
inductive Flag.Takes [Url.International] (flag : Flag) : Option String → Option Value → Prop where
  | nothing : Takes flag none none
  | value {text : String} {value : Value} (h : flag.kind.read text = .ok value) :
      Takes flag (some text) (some value)

/-- The values of some flags are those for which their texts stand. -/
def Assignment.Agrees [Url.International]
    (flags : List Flag) (text? : Flag → Option String) (values : Assignment) :
    Prop :=
  ∀ flag ∈ flags, flag.Takes (text? flag) (values.lookup flag.name)

theorem Assignment.Agrees.congr [Url.International]
    {flags : List Flag} {text? text?' : Flag → Option String}
    {values : Assignment} (h : values.Agrees flags text?)
    (hsame : ∀ flag ∈ flags, text?' flag = text? flag) : values.Agrees flags text?' := by
  intro flag hflag
  rw [hsame flag hflag]
  exact h flag hflag

theorem lookup_eq_none_of_not_mem {given : List (String × String)} {name : String}
    (h : name ∉ given.map Prod.fst) : given.lookup name = none := by
  rw [List.lookup_eq_none_iff]
  intro option hoption
  simpa using ne_of_mem_of_not_mem (List.mem_map_of_mem hoption) h |>.symm

/-! ## One value -/

section

variable {flags : List Flag} (hnames : (flags.map Flag.name).Nodup)

include hnames

theorem eq_of_name_eq {flag other : Flag} (hflag : flag ∈ flags) (hother : other ∈ flags)
    (h : other.name = flag.name) : other = flag :=
  List.inj_on_of_nodup_map hnames hother hflag h

/-- A flag that has no text is given one: it has that value from then on, if it can have it. -/
theorem assign_cases [Url.International] {text? : Flag → Option String} {values : Assignment}
    (hvalues : values.Agrees flags text?) {flag : Flag} (hflag : flag ∈ flags)
    (hopen : text? flag = none) (text : String) :
    (∃ given, assign values flag text = .ok given ∧
      given.Agrees flags (Function.update text? flag (some text))) ∨
    ∃ fault, flag.kind.read text = .error fault ∧
      assign values flag text = .error (.ofFault flag text fault) := by
  have hnone : values.lookup flag.name = none := by
    have htakes := hvalues flag hflag
    rw [hopen] at htakes
    cases hlookup : values.lookup flag.name with
    | none => rfl
    | some value =>
      rw [hlookup] at htakes
      cases htakes
  unfold assign
  rw [hnone]
  cases hread : flag.kind.read text with
  | error fault => exact .inr ⟨fault, rfl, rfl⟩
  | ok value =>
    refine .inl ⟨_, rfl, fun other hother => ?_⟩
    rw [List.lookup_append]
    by_cases hsame : other = flag
    · subst hsame
      rw [hnone, Function.update_self]
      simpa using Flag.Takes.value hread
    · -- Another flag has another name, so that its value is found where it was.
      have hname : other.name ≠ flag.name := fun h => hsame (eq_of_name_eq hnames hflag hother h)
      have hrest : List.lookup other.name [(flag.name, value)] = none := by simp [hname]
      rw [Function.update_of_ne hsame, hrest, Option.or_none]
      exact hvalues other hother

end

/-! ## Arguments -/

/-- A text is cut at its first equals sign. -/
theorem cutValue_of_no_equals {name : List Char} (h : '=' ∉ name) (value : List Char) :
    cutValue (name ++ '=' :: value) = (String.ofList name, some (String.ofList value)) := by
  have hname : (name ++ '=' :: value).takeWhile (· != '=') = name := by
    rw [List.takeWhile_append_of_pos fun c hc => by simpa using ne_of_mem_of_not_mem hc h]
    simp
  simp only [cutValue, hname, List.drop_left]

variable {command : Command}

theorem flag?_eq_some (hplain : command.IsPlain) {flag : Flag} (hflag : flag ∈ command.flags) :
    command.flag? flag.name = some flag := by
  obtain ⟨other, hother⟩ : ∃ other, command.flag? flag.name = some other :=
    Option.isSome_iff_exists.1 (List.find?_isSome.2 ⟨flag, hflag, by simp⟩)
  have hname : other.name = flag.name := by simpa using List.find?_some hother
  rw [hother, eq_of_name_eq hplain.nodup hflag (List.mem_of_find?_eq_some hother) hname]

/-- An argument with a flag's name and a value assigns that at once. -/
theorem takeArgument_written [Url.International]
    (hplain : command.IsPlain) {flag : Flag} (hflag : flag ∈ command.flags)
    (values : Assignment) (text : String) :
    takeArgument command { given := values, pending := none, trailing := false }
        ("--" ++ flag.name ++ "=" ++ text) =
      (assign values flag text).map fun given =>
        { given, pending := none, trailing := false } := by
  have hcut := cutValue_of_no_equals (hplain.no_equals flag hflag) text.toList
  rw [String.ofList_toList, String.ofList_toList] at hcut
  have hargument : ("--" ++ flag.name ++ "=" ++ text).toList =
      '-' :: '-' :: (flag.name.toList ++ '=' :: text.toList) := by
    simp
  obtain ⟨c, rest, hrest⟩ : ∃ c rest, flag.name.toList ++ '=' :: text.toList = c :: rest :=
    List.exists_cons_of_ne_nil (by simp)
  rw [takeArgument, hargument, hrest]
  -- Something follows the dashes, so that this is not the end of the flags.
  show takeLong command _ (c :: rest) = _
  rw [← hrest, takeLong, hcut]
  simp only [flag?_eq_some hplain hflag]
  show (assign values flag text >>= _) = _
  cases assign values flag text with
  | ok given => rfl
  | error complaint => rfl

/-- What arguments say is added to what the flags have that they do not name, unless one of them
says what a flag cannot have. -/
theorem takeArguments_cases [Url.International]
    (hplain : command.IsPlain) {given : List (String × String)}
    (hdistinct : (given.map Prod.fst).Nodup)
    (hknown : ∀ option ∈ given, option.1 ∈ command.flags.map Flag.name) :
    ∀ {values : Assignment} {text? : Flag → Option String},
      values.Agrees command.flags text? →
      (∀ flag ∈ command.flags, flag.name ∈ given.map Prod.fst → text? flag = none) →
      (∃ values', (written given).foldlM (takeArgument command)
            { given := values, pending := none, trailing := false } =
          .ok { given := values', pending := none, trailing := false } ∧
        values'.Agrees command.flags fun flag => (given.lookup flag.name).or (text? flag)) ∨
      ∃ complaint, (written given).foldlM (takeArgument command)
            { given := values, pending := none, trailing := false } = .error complaint ∧
        ∃ flag ∈ command.flags, ∃ text fault,
          given.lookup flag.name = some text ∧ flag.kind.read text = .error fault := by
  -- The flags of the arguments that follow are still open, as no name comes twice.
  induction given with
  | nil =>
    intro values text? hvalues _
    exact .inl ⟨values, rfl, hvalues⟩
  | cons option rest ih =>
    intro values text? hvalues hopen
    obtain ⟨name, text⟩ := option
    rw [List.map_cons, List.nodup_cons] at hdistinct
    obtain ⟨flag, hflag, rfl⟩ := List.mem_map.1 (hknown (name, text) List.mem_cons_self)
    have hstep := takeArgument_written hplain hflag values text
    rw [written, List.map_cons, List.foldlM_cons, hstep]
    rcases assign_cases hplain.nodup hvalues hflag (hopen flag hflag (by simp)) text with
      ⟨given', hassign, hgiven'⟩ | ⟨fault, hread, hassign⟩
    · rw [hassign]
      have hother (other : Flag) (hne : other ≠ flag) (hmem : other ∈ command.flags) :
          ((flag.name, text) :: rest).lookup other.name = rest.lookup other.name := by
        have hname : other.name ≠ flag.name := fun h =>
          hne (eq_of_name_eq hplain.nodup hflag hmem h)
        rw [List.lookup_cons, beq_false_of_ne hname]
      have hnone := lookup_eq_none_of_not_mem hdistinct.1
      have hknown' := fun option hoption => hknown option (List.mem_cons_of_mem _ hoption)
      have hopen' : ∀ other ∈ command.flags, other.name ∈ rest.map Prod.fst →
          Function.update text? flag (some text) other = none := by
        intro other hmem hnamed
        have hsame : other ≠ flag := by
          rintro rfl
          exact hdistinct.1 hnamed
        rw [Function.update_of_ne hsame]
        exact hopen other hmem (by simp [hnamed])
      rcases ih hdistinct.2 hknown' hgiven' hopen' with
        ⟨values', hrest, hvalues'⟩ | ⟨complaint, hrest, other, hmem, text', fault, hlookup, hread⟩
      · refine .inl ⟨values', hrest, hvalues'.congr fun other hmem => ?_⟩
        by_cases hsame : other = flag
        · subst hsame
          simp [hnone]
        · rw [hother other hsame hmem, Function.update_of_ne hsame]
      · refine .inr ⟨complaint, hrest, other, hmem, text', fault, ?_, hread⟩
        have hsame : other ≠ flag := by
          rintro rfl
          rw [hnone] at hlookup
          cases hlookup
        rw [hother other hsame hmem, hlookup]
    · rw [hassign]
      exact .inr ⟨_, rfl, flag, hflag, text, fault, by simp, hread⟩

/-- Arguments give each flag what they say of it, or one of them says what a flag cannot have. -/
theorem readArguments_cases [Url.International]
    (hplain : command.IsPlain) {given : List (String × String)}
    (hdistinct : (given.map Prod.fst).Nodup)
    (hknown : ∀ option ∈ given, option.1 ∈ command.flags.map Flag.name) :
    (∃ values, readArguments command (written given) = .ok values ∧
      values.Agrees command.flags fun flag => given.lookup flag.name) ∨
    ∃ complaint, readArguments command (written given) = .error complaint ∧
      ∃ flag ∈ command.flags, ∃ text fault,
        given.lookup flag.name = some text ∧ flag.kind.read text = .error fault := by
  have hstart : Assignment.Agrees command.flags (fun _ => none) [] := fun flag _ => .nothing
  rcases takeArguments_cases hplain hdistinct hknown hstart (fun _ _ _ => rfl) with
    ⟨values, hread, hvalues⟩ | ⟨complaint, hread, hfault⟩
  · refine .inl ⟨values, ?_, hvalues.congr fun flag _ => by simp⟩
    rw [readArguments, Progress.start, hread]
    rfl
  · refine .inr ⟨complaint, ?_, hfault⟩
    rw [readArguments, Progress.start, hread]
    rfl

end JobImages.CommandLine
