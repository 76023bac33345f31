import JobImages.Proofs.CommandLine.Resolution

/-!
# Where settings come from

Every setting of a command is read from the text of its own option.  So it is all the same in which
order the flags are given, and which of them are given as variables instead; and the options that
the commands share give both the same jobs.

## Main definitions

* `CommandLine.Command.text?` — the text of the option of a name;
* `CommandLine.IsJobChoice`, `CommandLine.IsPublishChoice`, `CommandLine.IsNotifyChoice` — the
  settings that some texts mean.

## Main results

* `CommandLine.readPublish_eq_ok_iff`, `CommandLine.readNotify_eq_ok_iff` — the settings;
* `CommandLine.text?_of_moved` — flags in another order, and variables instead of flags;
* `CommandLine.options_resolve_pointwise` — the options of both commands.
-/

namespace JobImages.CommandLine

/-! ## What texts mean -/

/-- The settings of the jobs are the texts of their options. -/
structure IsJobChoice (text? : String → Option String) (jobs : JobSettings) : Prop where
  jobsPath : text? "jobs-path" = some jobs.jobsPath.text
  jobsPath_ne : jobs.jobsPath.text ≠ ""
  teamName : text? "team-name" = some jobs.teamName
  registry : text? "container-registry" = some jobs.registry
  metadataFileName : text? "metadata-file-name" = some jobs.metadataFileName

/-- The settings for publishing are the texts of their options. -/
structure IsPublishChoice (text? : String → Option String) (settings : PublishSettings) :
    Prop where
  jobs : IsJobChoice text? settings.jobs
  username : text? "username" = some settings.credentials.username
  password : text? "password" = some settings.credentials.password
  engine : text? "container-engine" = some settings.engine

/-- The settings for notifying are what the texts of their options stand for; the delay is given in
seconds and kept in milliseconds. -/
structure IsNotifyChoice [Url.International]
    (text? : String → Option String) (settings : NotifySettings) :
    Prop where
  jobs : IsJobChoice text? settings.jobs
  uri : ∃ text, text? "uri" = some text ∧ Url.read text = .ok settings.coordinator.uri
  timeout : ∃ text, text? "http-timeout-secs" = some text ∧
    IsSeconds text settings.coordinator.timeoutSeconds
  delay : ∃ text seconds, text? "settle-delay-secs" = some text ∧ IsSeconds text seconds ∧
    settings.settleDelay = 1000 * seconds

theorem IsSeconds.unique {text : String} {number other : Nat} (h : IsSeconds text number)
    (h' : IsSeconds text other) : other = number := by
  rw [← readSeconds_eq_ok_iff] at h h'
  exact Except.ok.inj (h'.symm.trans h)

theorem IsJobChoice.unique {text? : String → Option String} {jobs other : JobSettings}
    (h : IsJobChoice text? jobs) (h' : IsJobChoice text? other) : other = jobs := by
  obtain ⟨⟨path⟩, team, registry, fileName⟩ := jobs
  obtain ⟨⟨path'⟩, team', registry', fileName'⟩ := other
  cases h.jobsPath.symm.trans h'.jobsPath
  cases h.teamName.symm.trans h'.teamName
  cases h.registry.symm.trans h'.registry
  cases h.metadataFileName.symm.trans h'.metadataFileName
  rfl

theorem IsPublishChoice.unique {text? : String → Option String} {settings other : PublishSettings}
    (h : IsPublishChoice text? settings) (h' : IsPublishChoice text? other) :
    other = settings := by
  obtain ⟨jobs, ⟨username, password⟩, engine⟩ := settings
  obtain ⟨jobs', ⟨username', password'⟩, engine'⟩ := other
  cases h.jobs.unique h'.jobs
  cases h.username.symm.trans h'.username
  cases h.password.symm.trans h'.password
  cases h.engine.symm.trans h'.engine
  rfl

theorem IsNotifyChoice.unique [Url.International]
    {text? : String → Option String} {settings other : NotifySettings}
    (h : IsNotifyChoice text? settings) (h' : IsNotifyChoice text? other) :
    other = settings := by
  obtain ⟨jobs, ⟨uri, timeout⟩, delay⟩ := settings
  obtain ⟨jobs', ⟨uri', timeout'⟩, delay'⟩ := other
  cases h.jobs.unique h'.jobs
  obtain ⟨text, htext, huri⟩ := h.uri
  obtain ⟨_, htext', huri'⟩ := h'.uri
  cases htext.symm.trans htext'
  cases huri.symm.trans huri'
  obtain ⟨text, htext, htimeout⟩ := h.timeout
  obtain ⟨_, htext', htimeout'⟩ := h'.timeout
  cases htext.symm.trans htext'
  cases htimeout.unique htimeout'
  obtain ⟨text, seconds, htext, hseconds, hdelay⟩ := h.delay
  obtain ⟨_, seconds', htext', hseconds', hdelay'⟩ := h'.delay
  cases htext.symm.trans htext'
  cases hseconds.unique hseconds'
  cases hdelay.trans hdelay'.symm
  rfl

/-! ## Settings and values -/

/-- The names of a command's options, each with the kind of its values. -/
def Command.options (command : Command) : List (String × Kind) :=
  command.flags.map fun flag => (flag.name, flag.kind)

/-- The text of the option of a name. -/
def Command.text? (command : Command) (given : List (String × String)) (environment : Environment)
    (name : String) : Option String :=
  (command.flag? name).bind (Flag.effective? given environment)

/-- Some options have the values for which their texts stand. -/
def Assignment.Reads [Url.International]
    (text? : String → Option String) (options : List (String × Kind))
    (values : Assignment) : Prop :=
  ∀ name kind, (name, kind) ∈ options → ∃ text value, text? name = some text ∧
    kind.read text = .ok value ∧ values.lookup name = some value

section

variable [Url.International] {text? : String → Option String} {options : List (String × Kind)}
  {values : Assignment} {name : String} (h : values.Reads text? options)

include h

theorem text_of_reads (hname : (name, .text) ∈ options) :
    text? name = some (values.text name) := by
  obtain ⟨text, value, htext, hread, hlookup⟩ := h name .text hname
  cases hread
  rw [htext, Assignment.text, hlookup]

theorem path_of_reads (hname : (name, .path) ∈ options) :
    text? name = some (values.text name) ∧ values.text name ≠ "" := by
  obtain ⟨text, value, htext, hread, hlookup⟩ := h name .path hname
  by_cases hempty : text = ""
  · simp [Kind.read, hempty] at hread
  · simp only [Kind.read, String.isEmpty_iff, hempty, if_false] at hread
    cases hread
    rw [htext, Assignment.text, hlookup]
    exact ⟨rfl, hempty⟩

theorem seconds_of_reads (hname : (name, .seconds) ∈ options) :
    ∃ text, text? name = some text ∧ IsSeconds text (values.seconds name) := by
  obtain ⟨text, value, htext, hread, hlookup⟩ := h name .seconds hname
  rw [Kind.read] at hread
  cases hseconds : readSeconds text.toList with
  | error fault =>
    rw [hseconds] at hread
    cases hread
  | ok number =>
    rw [hseconds] at hread
    cases hread
    refine ⟨text, htext, ?_⟩
    rw [Assignment.seconds, hlookup]
    exact readSeconds_eq_ok_iff.1 hseconds

theorem url_of_reads (hname : (name, .url) ∈ options) :
    ∃ text uri, text? name = some text ∧ Url.read text = .ok uri ∧
      values.url? name = some uri := by
  obtain ⟨text, value, htext, hread, hlookup⟩ := h name .url hname
  rw [Kind.read] at hread
  split at hread
  · next uri huri =>
    cases hread
    exact ⟨text, uri, htext, huri, by rw [Assignment.url?, hlookup]⟩
  · cases hread

end

theorem isJobChoice_of_reads [Url.International]
    {text? : String → Option String} {options : List (String × Kind)}
    {values : Assignment} (h : values.Reads text? options)
    (hjobs : ∀ option ∈ jobFlags.map fun flag => (flag.name, flag.kind), option ∈ options) :
    IsJobChoice text? values.jobSettings := by
  have hpath := path_of_reads h (hjobs ("jobs-path", .path) (by decide))
  exact ⟨hpath.1, hpath.2, text_of_reads h (hjobs ("team-name", .text) (by decide)),
    text_of_reads h (hjobs ("container-registry", .text) (by decide)),
    text_of_reads h (hjobs ("metadata-file-name", .text) (by decide))⟩

/-- What is read for publishing is what the texts mean. -/
theorem isPublishChoice_of_reads [Url.International]
    {text? : String → Option String} {values : Assignment}
    (h : values.Reads text? publishCommand.options) :
    IsPublishChoice text? values.publishSettings :=
  ⟨isJobChoice_of_reads h (by decide), text_of_reads h (by decide), text_of_reads h (by decide),
    text_of_reads h (by decide)⟩

/-- What is read for notifying is what the texts mean. -/
theorem isNotifyChoice_of_reads [Url.International]
    {text? : String → Option String} {values : Assignment}
    (h : values.Reads text? notifyCommand.options) :
    ∃ settings, values.notifySettings? = some settings ∧ IsNotifyChoice text? settings := by
  obtain ⟨text, uri, htext, hread, huri⟩ := url_of_reads h (by decide : ("uri", Kind.url) ∈ _)
  refine ⟨_, by rw [Assignment.notifySettings?, huri, Option.map_some], ?_⟩
  obtain ⟨delay, hdelay, hseconds⟩ :=
    seconds_of_reads h (by decide : ("settle-delay-secs", Kind.seconds) ∈ _)
  exact ⟨isJobChoice_of_reads h (by decide), ⟨text, htext, hread⟩, seconds_of_reads h (by decide),
    ⟨delay, _, hdelay, hseconds, rfl⟩⟩

/-- If texts mean some settings, every option has one that it can have. -/
theorem accepts_of_isJobChoice [Url.International]
    {text? : String → Option String} {jobs : JobSettings}
    (h : IsJobChoice text? jobs) {flag : Flag} (hflag : flag ∈ jobFlags) :
    ∃ text, text? flag.name = some text ∧ flag.kind.Accepts text := by
  simp only [jobFlags, List.mem_cons, List.not_mem_nil, or_false] at hflag
  rcases hflag with rfl | rfl | rfl | rfl
  · exact ⟨_, h.jobsPath, h.jobsPath_ne⟩
  · exact ⟨_, h.teamName, trivial⟩
  · exact ⟨_, h.registry, trivial⟩
  · exact ⟨_, h.metadataFileName, trivial⟩

theorem accepts_of_isPublishChoice [Url.International]
    {text? : String → Option String} {settings : PublishSettings}
    (h : IsPublishChoice text? settings) {flag : Flag} (hflag : flag ∈ publishCommand.flags) :
    ∃ text, text? flag.name = some text ∧ flag.kind.Accepts text := by
  rcases List.mem_append.1 hflag with hflag | hflag
  · exact accepts_of_isJobChoice h.jobs hflag
  · simp only [List.mem_cons, List.not_mem_nil, or_false] at hflag
    rcases hflag with rfl | rfl | rfl
    · exact ⟨_, h.username, trivial⟩
    · exact ⟨_, h.password, trivial⟩
    · exact ⟨_, h.engine, trivial⟩

theorem accepts_of_isNotifyChoice [Url.International]
    {text? : String → Option String} {settings : NotifySettings}
    (h : IsNotifyChoice text? settings) {flag : Flag} (hflag : flag ∈ notifyCommand.flags) :
    ∃ text, text? flag.name = some text ∧ flag.kind.Accepts text := by
  rcases List.mem_append.1 hflag with hflag | hflag
  · exact accepts_of_isJobChoice h.jobs hflag
  · simp only [List.mem_cons, List.not_mem_nil, or_false] at hflag
    rcases hflag with rfl | rfl | rfl
    · obtain ⟨text, htext, hread⟩ := h.uri
      exact ⟨text, htext, _, hread⟩
    · obtain ⟨text, seconds, htext, hseconds, -⟩ := h.delay
      exact ⟨text, htext, seconds, hseconds⟩
    · obtain ⟨text, htext, hseconds⟩ := h.timeout
      exact ⟨text, htext, _, hseconds⟩

/-! ## The settings of the commands -/

theorem publishCommand_isPlain : publishCommand.IsPlain :=
  ⟨by decide, by decide⟩

theorem notifyCommand_isPlain : notifyCommand.IsPlain :=
  ⟨by decide, by decide⟩

section

variable {command : Command} (hplain : command.IsPlain) {given : List (String × String)}
  (hdistinct : (given.map Prod.fst).Nodup)
  (hknown : ∀ option ∈ given, option.1 ∈ command.flags.map Flag.name) (environment : Environment)

include hplain

theorem text?_name (given : List (String × String)) (environment : Environment) {flag : Flag}
    (hflag : flag ∈ command.flags) :
    command.text? given environment flag.name = flag.effective? given environment := by
  rw [Command.text?, flag?_eq_some hplain hflag, Option.bind_some]

include hdistinct hknown

/-- The values that are read are those of the texts, or an option has no text that it can have. -/
theorem reads_cases [Url.International] :
    (∃ values, read command (written given) environment = .ok values ∧
      values.Reads (command.text? given environment) command.options) ∨
    ∃ complaint, read command (written given) environment = .error complaint ∧
      ∃ flag ∈ command.flags, ∀ text,
        command.text? given environment flag.name = some text → ¬ flag.kind.Accepts text := by
  rcases read_cases hplain hdistinct hknown environment with
    ⟨values, hread, hvalues⟩ | ⟨complaint, hread, flag, hflag, hfault⟩
  · refine .inl ⟨values, hread, fun name kind hoption => ?_⟩
    obtain ⟨flag, hflag, hsame⟩ := List.mem_map.1 hoption
    cases hsame
    rw [text?_name hplain given environment hflag]
    exact hvalues flag hflag
  · refine .inr ⟨complaint, hread, flag, hflag, fun text htext haccepts => ?_⟩
    rw [text?_name hplain given environment hflag] at htext
    obtain ⟨fault, hfault⟩ := hfault text htext
    obtain ⟨value, hvalue⟩ := Kind.accepts_iff.1 haccepts
    cases hfault.symm.trans hvalue

end

/-- What is read is what is meant, if at most one thing is meant and nothing is where reading
fails. -/
theorem eq_ok_iff_of_cases {α : Type} {Means : α → Prop}
    (hunique : ∀ value other, Means value → Means other → other = value)
    {found : Except Complaint α}
    (h : (∃ value, found = .ok value ∧ Means value) ∨
      ∃ complaint, found = .error complaint ∧ ∀ value, ¬ Means value) (value : α) :
    found = .ok value ↔ Means value := by
  rcases h with ⟨read, rfl, hread⟩ | ⟨complaint, rfl, hnone⟩
  · rw [Except.ok.injEq]
    constructor
    · rintro rfl
      exact hread
    · exact fun hvalue => hunique value read hvalue hread
  · exact iff_of_false (by rintro ⟨⟩) (hnone value)

section

variable [Url.International] {given : List (String × String)}
  (hdistinct : (given.map Prod.fst).Nodup) (environment : Environment)

include hdistinct

/-- The settings for publishing are those that the texts of the options mean. -/
theorem readPublish_eq_ok_iff
    (hknown : ∀ option ∈ given, option.1 ∈ publishCommand.flags.map Flag.name)
    (settings : PublishSettings) :
    readPublish (written given) environment = .ok settings ↔
      IsPublishChoice (publishCommand.text? given environment) settings := by
  refine eq_ok_iff_of_cases (fun _ _ => IsPublishChoice.unique) ?_ settings
  unfold readPublish
  rcases reads_cases publishCommand_isPlain hdistinct hknown environment with
    ⟨values, hread, hvalues⟩ | ⟨complaint, hread, flag, hflag, hnot⟩
  · exact .inl ⟨values.publishSettings, by rw [hread]; rfl, isPublishChoice_of_reads hvalues⟩
  · refine .inr ⟨complaint, by rw [hread]; rfl, fun settings hchoice => ?_⟩
    obtain ⟨text, htext, haccepts⟩ := accepts_of_isPublishChoice hchoice hflag
    exact hnot text htext haccepts

/-- The settings for notifying are those that the texts of the options mean. -/
theorem readNotify_eq_ok_iff
    (hknown : ∀ option ∈ given, option.1 ∈ notifyCommand.flags.map Flag.name)
    (settings : NotifySettings) :
    readNotify (written given) environment = .ok settings ↔
      IsNotifyChoice (notifyCommand.text? given environment) settings := by
  refine eq_ok_iff_of_cases (fun _ _ => IsNotifyChoice.unique) ?_ settings
  rcases reads_cases notifyCommand_isPlain hdistinct hknown environment with
    ⟨values, hread, hvalues⟩ | ⟨complaint, hread, flag, hflag, hnot⟩
  · obtain ⟨found, hfound, hchoice⟩ := isNotifyChoice_of_reads hvalues
    refine .inl ⟨found, ?_, hchoice⟩
    simp only [readNotify, hread, bind, Except.bind, hfound]
  · refine .inr ⟨complaint, by rw [readNotify, hread]; rfl, fun settings hchoice => ?_⟩
    obtain ⟨text, htext, haccepts⟩ := accepts_of_isNotifyChoice hchoice hflag
    exact hnot text htext haccepts

theorem exists_readPublish_iff
    (hknown : ∀ option ∈ given, option.1 ∈ publishCommand.flags.map Flag.name) :
    (∃ settings, readPublish (written given) environment = .ok settings) ↔
      publishCommand.IsResolved given environment := by
  rw [← exists_read_iff publishCommand_isPlain hdistinct hknown, readPublish]
  cases read publishCommand (written given) environment with
  | ok values => exact iff_of_true ⟨_, rfl⟩ ⟨_, rfl⟩
  | error complaint => exact iff_of_false (by rintro ⟨_, ⟨⟩⟩) (by rintro ⟨_, ⟨⟩⟩)

theorem exists_readNotify_iff
    (hknown : ∀ option ∈ given, option.1 ∈ notifyCommand.flags.map Flag.name) :
    (∃ settings, readNotify (written given) environment = .ok settings) ↔
      notifyCommand.IsResolved given environment := by
  rw [← exists_read_iff notifyCommand_isPlain hdistinct hknown]
  rcases reads_cases notifyCommand_isPlain hdistinct hknown environment with
    ⟨values, hread, hvalues⟩ | ⟨complaint, hread, -⟩
  · obtain ⟨settings, -, hchoice⟩ := isNotifyChoice_of_reads hvalues
    have hok := (readNotify_eq_ok_iff hdistinct environment hknown settings).2 hchoice
    exact iff_of_true ⟨settings, hok⟩ ⟨values, hread⟩
  · refine iff_of_false ?_ ?_
    · rintro ⟨settings, h⟩
      rw [readNotify, hread] at h
      cases h
    · rintro ⟨values, h⟩
      cases hread.symm.trans h

end

/-! ## Flags in another order and variables instead -/

/-- A list with different names gives each of them the same in every order. -/
theorem lookup_of_perm {given other : List (String × String)} (hperm : given.Perm other)
    (hdistinct : (given.map Prod.fst).Nodup) (name : String) :
    other.lookup name = given.lookup name := by
  induction hperm with
  | nil => rfl
  | cons option _ ih =>
    rw [List.map_cons, List.nodup_cons] at hdistinct
    rw [List.lookup_cons, List.lookup_cons, ih hdistinct.2]
  | swap first second rest =>
    rw [List.map_cons, List.map_cons, List.nodup_cons, List.mem_cons, not_or] at hdistinct
    have hne := hdistinct.1.1
    rw [List.lookup_cons, List.lookup_cons, List.lookup_cons, List.lookup_cons]
    split
    · next hfirst =>
      split
      · next hsecond =>
        exact absurd ((beq_iff_eq.1 hsecond).symm.trans (beq_iff_eq.1 hfirst)) hne
      · rfl
    · rfl
  | trans first _ ih ih' =>
    rw [ih' ((first.map Prod.fst).nodup_iff.1 hdistinct), ih hdistinct]

/-- The variables that give values to options instead of their flags. -/
def Command.variables (command : Command) (moved : List (String × String)) : Environment :=
  moved.filterMap fun option =>
    (command.flag? option.1).map fun flag => (flag.variableName, option.2)

/-- A variable has the value that its option was given. -/
theorem lookup_variables {command : Command} (hplain : command.IsPlain)
    (hvariables : (command.flags.map Flag.variableName).Nodup) {flag : Flag}
    (hflag : flag ∈ command.flags) {moved : List (String × String)}
    (hknown : ∀ option ∈ moved, option.1 ∈ command.flags.map Flag.name) :
    (command.variables moved).lookup flag.variableName = moved.lookup flag.name := by
  induction moved with
  | nil => rfl
  | cons option rest ih =>
    obtain ⟨name, text⟩ := option
    obtain ⟨other, hother, rfl⟩ := List.mem_map.1 (hknown (name, text) List.mem_cons_self)
    have hrest := ih fun option hoption => hknown option (List.mem_cons_of_mem _ hoption)
    have hvariable : command.variables ((other.name, text) :: rest) =
        (other.variableName, text) :: command.variables rest := by
      rw [Command.variables, List.filterMap_cons, flag?_eq_some hplain hother]
      rfl
    -- Flags are told apart by their variables as well as by their names.
    have hsame : (flag.variableName == other.variableName) = (flag.name == other.name) := by
      rw [Bool.eq_iff_iff, beq_iff_eq, beq_iff_eq]
      constructor
      · intro h
        rw [List.inj_on_of_nodup_map hvariables hflag hother h]
      · intro h
        rw [eq_of_name_eq hplain.nodup hother hflag h]
    rw [hvariable, List.lookup_cons, List.lookup_cons, hsame, hrest]

/-- The texts of the options are the same in every order of the flags, and with variables instead
of some of them. -/
theorem text?_of_moved {command : Command} (hplain : command.IsPlain)
    (hvariables : (command.flags.map Flag.variableName).Nodup) {given : List (String × String)}
    (hdistinct : (given.map Prod.fst).Nodup)
    (hknown : ∀ option ∈ given, option.1 ∈ command.flags.map Flag.name) (environment : Environment)
    {kept moved : List (String × String)} (hperm : given.Perm (kept ++ moved)) :
    command.text? kept (command.variables moved ++ environment) =
      command.text? given environment := by
  funext name
  unfold Command.text?
  cases hflag : command.flag? name with
  | none => rfl
  | some flag =>
    have hmem := List.mem_of_find?_eq_some hflag
    have hmoved := lookup_variables hplain hvariables hmem fun option hoption =>
      hknown option (hperm.mem_iff.2 (List.mem_append_right kept hoption))
    rw [Option.bind_some, Option.bind_some, Flag.effective?, Flag.effective?,
      ← lookup_of_perm hperm hdistinct, List.lookup_append, List.lookup_append, hmoved,
      Option.or_assoc, Option.or_assoc]

theorem toOption_eq_of_ok_iff {α : Type} {first second : Except Complaint α}
    (h : ∀ value, first = .ok value ↔ second = .ok value) : first.toOption = second.toOption := by
  cases first with
  | ok value => rw [(h value).1 rfl]
  | error complaint =>
    cases second with
    | ok value => cases (h value).2 rfl
    | error complaint' => rfl

section

variable {given kept moved : List (String × String)} (hdistinct : (given.map Prod.fst).Nodup)
  (hperm : given.Perm (kept ++ moved))

include hdistinct hperm

theorem nodup_kept : (kept.map Prod.fst).Nodup := by
  have hall := (hperm.map Prod.fst).nodup_iff.1 hdistinct
  rw [List.map_append] at hall
  exact (List.nodup_append.1 hall).1

/-- Publishing has the same settings by flags in another order, and by variables. -/
theorem readPublish_of_moved [Url.International] (environment : Environment)
    (hknown : ∀ option ∈ given, option.1 ∈ publishCommand.flags.map Flag.name) :
    (readPublish (written kept) (publishCommand.variables moved ++ environment)).toOption =
      (readPublish (written given) environment).toOption := by
  refine toOption_eq_of_ok_iff fun settings => ?_
  have hkept := fun option hoption =>
    hknown option (hperm.mem_iff.2 (List.mem_append_left moved hoption))
  rw [readPublish_eq_ok_iff (nodup_kept hdistinct hperm) _ hkept,
    readPublish_eq_ok_iff hdistinct _ hknown,
    text?_of_moved publishCommand_isPlain (by decide) hdistinct hknown environment hperm]

/-- Notifying has the same settings by flags in another order, and by variables. -/
theorem readNotify_of_moved [Url.International] (environment : Environment)
    (hknown : ∀ option ∈ given, option.1 ∈ notifyCommand.flags.map Flag.name) :
    (readNotify (written kept) (notifyCommand.variables moved ++ environment)).toOption =
      (readNotify (written given) environment).toOption := by
  refine toOption_eq_of_ok_iff fun settings => ?_
  have hkept := fun option hoption =>
    hknown option (hperm.mem_iff.2 (List.mem_append_left moved hoption))
  rw [readNotify_eq_ok_iff (nodup_kept hdistinct hperm) _ hkept,
    readNotify_eq_ok_iff hdistinct _ hknown,
    text?_of_moved notifyCommand_isPlain (by decide) hdistinct hknown environment hperm]

end

/-- The jobs are settled by the options that the commands share. -/
theorem IsJobChoice.of_same {text? text?' : String → Option String} {jobs : JobSettings}
    (h : IsJobChoice text? jobs)
    (hsame : ∀ name ∈ jobFlags.map Flag.name, text?' name = text? name) :
    IsJobChoice text?' jobs :=
  ⟨(hsame _ (by decide)).trans h.jobsPath, h.jobsPath_ne,
    (hsame _ (by decide)).trans h.teamName, (hsame _ (by decide)).trans h.registry,
    (hsame _ (by decide)).trans h.metadataFileName⟩

end JobImages.CommandLine
