import JobImages.Proofs.Notify.Submission

/-!
# What a login changes

The URL of the coordinator may hold a user name and a password.  They go into the authorization of
the request, and into the two remarks of the client that name the URL as it was given.  Nothing else
depends on them: a failure names the URL without them, as long as they can be decoded at all.

## Main definitions

* `Url.HasReadableLogin` — a user name and a password that can be decoded;
* `Event.withoutLogin` — an event without what a login goes into;
* `Run.SameButLogin` — two runs that differ in that only.

## Main results

* `Http.namedUri_eq` — a failure names the URL without the login;
* `Notify.run_sameButLogin` — two runs whose settings differ in the login only;
* `Notify.login_only_authorizes` — what is seen of them.
-/

namespace JobImages

/-- A user name and a password that stand for texts. -/
def Url.HasReadableLogin (uri : Url) : Prop :=
  ∀ authority, uri.authority = some authority →
    Url.decodeText? authority.username ≠ none ∧ Url.decodeText? authority.password ≠ none

/-- Settings without the user name and the password of the coordinator's URL. -/
def NotifySettings.withoutLogin (settings : NotifySettings) : NotifySettings :=
  { settings with
    coordinator := { settings.coordinator with uri := settings.coordinator.uri.withoutUserInfo } }

/-- A request without its authorization. -/
def Http.Request.withoutAuthorization (request : Http.Request) : Http.Request :=
  { request with authorization := none }

/-- A remark without the URL that it names. -/
def Log.Record.withoutUri (record : Log.Record) : Log.Record :=
  { record with fields := record.fields.filter fun field => field.1 != "uri" }

/-- An effect without what a login goes into. -/
def Effect.withoutLogin : Effect → Effect
  | .sent request => .sent request.withoutAuthorization
  | .logged record => .logged record.withoutUri
  | effect => effect

/-- An event without what a login goes into. -/
def Event.withoutLogin : Event → Event
  | .step taken => .step taken
  | .effect seen => .effect seen.withoutLogin

/-! ## URLs without a login -/

namespace Url

theorem eq_nil_of_ofBytes? {bytes : List UInt8} (h : Text.ofBytes? bytes = some "") :
    bytes = [] := by
  unfold Text.ofBytes? String.fromUTF8? at h
  split at h
  · next hvalid =>
    have hbytes := congrArg String.toByteArray (Option.some.inj h)
    have harray : bytes.toArray = #[] := congrArg ByteArray.data hbytes
    simpa using harray
  · cases h

theorem eq_nil_of_decodeBytes {bytes : List UInt8} (h : decodeBytes bytes = []) : bytes = [] := by
  unfold decodeBytes at h
  split at h
  · split at h
    · split at h
      · cases h
      · cases h
    · cases h
  · exact h

/-- Only nothing stands for nothing. -/
theorem eq_nil_of_decodeText? {text : List Char} (h : decodeText? text = some "") : text = [] := by
  have hbytes : text.flatMap String.utf8EncodeChar = [] :=
    eq_nil_of_decodeBytes (eq_nil_of_ofBytes? h)
  cases text with
  | nil => rfl
  | cons c rest =>
    rw [List.flatMap_cons, List.append_eq_nil_iff] at hbytes
    exact absurd hbytes.1 String.utf8EncodeChar_ne_nil

variable {uri other : Url} (h : other.withoutUserInfo = uri.withoutUserInfo)

include h

theorem schemeName_eq_of_withoutUserInfo : other.schemeName = uri.schemeName :=
  show other.withoutUserInfo.schemeName = uri.withoutUserInfo.schemeName from congrArg schemeName h

theorem isHttp_eq_of_withoutUserInfo : other.isHttp = uri.isHttp :=
  show other.withoutUserInfo.isHttp = uri.withoutUserInfo.isHttp from congrArg isHttp h

theorem target_eq_of_withoutUserInfo : other.target = uri.target := by
  rw [target, target, h]

theorem isUsable_eq_of_withoutUserInfo : Http.isUsable other = Http.isUsable uri := by
  have hbare (uri : Url) : Http.isUsable uri.withoutUserInfo = Http.isUsable uri := by
    unfold Http.isUsable withoutUserInfo
    cases uri.authority with
    | none => rfl
    | some authority => rfl
  rw [← hbare other, h, hbare]

end Url

namespace Http

/-- A failure names the URL without the login, if that can be decoded. -/
theorem namedUri_eq {uri : Url} (h : uri.HasReadableLogin) :
    namedUri uri = uri.withoutUserInfo := by
  unfold namedUri
  split
  · rfl
  · next hnone =>
    obtain ⟨scheme, authority, route, query, fragment⟩ := uri
    cases authority with
    | none => rfl
    | some authority =>
      obtain ⟨hname, hpassword⟩ := h authority rfl
      obtain ⟨username, password, host, port⟩ := authority
      obtain ⟨name, hname⟩ := Option.ne_none_iff_exists'.1 hname
      obtain ⟨word, hword⟩ := Option.ne_none_iff_exists'.1 hpassword
      -- No login is made of it, so that the name is empty and there is no password.
      have hempty : name = "" ∧ password = [] := by
        cases password with
        | nil => simpa [credentials?, hname] using hnone
        | cons c rest => simp [credentials?, hname, hword] at hnone
      obtain ⟨rfl, rfl⟩ := hempty
      obtain rfl := Url.eq_nil_of_decodeText? hname
      rfl

section

variable {uri other : Url} (h : other.withoutUserInfo = uri.withoutUserInfo)

include h

theorem request_withoutAuthorization (batch : List Metadata) :
    (batchSubmission other batch).withoutAuthorization =
      (batchSubmission uri batch).withoutAuthorization := by
  simp only [batchSubmission, Request.withoutAuthorization, Post.request, post,
    Url.target_eq_of_withoutUserInfo h]

/-- With another login the first submission gets the same, and is sent as the same but for the
authorization. -/
theorem exchangeAfter_withoutLogin (hlogin : uri.HasReadableLogin)
    (hother : other.HasReadableLogin) (network : Network) (timeoutSeconds : Nat)
    (batch : List Metadata) :
    let first := exchangeAfter network uri timeoutSeconds .plain [] batch
    let second := exchangeAfter network other timeoutSeconds .plain [] batch
    second.result = first.result ∧
      second.sent.map (·.withoutAuthorization) = first.sent.map (·.withoutAuthorization) := by
  intro first second
  have hnamed : namedUri other = namedUri uri := by rw [namedUri_eq hother, namedUri_eq hlogin, h]
  have hsent := request_withoutAuthorization h batch
  have husable := Url.isUsable_eq_of_withoutUserInfo h
  have hreply : network.reply? other 0 = network.reply? uri 0 := by
    have hscheme := Url.schemeName_eq_of_withoutUserInfo h
    cases network <;> simp [Network.reply?, Network.reaches, hscheme]
  have hplain (named : Url) :
      exchangeAfter network named timeoutSeconds .plain [] batch = _ :=
    Client.exchange_plain (clientOptions timeoutSeconds) network [] (post named batch)
  simp only [first, second, hplain]
  -- What the two clients do is decided by the same things, and the failures name the same URL.
  simp only [post, List.flatMap_nil, List.length_nil, husable, hreply, hnamed]
  cases isUsable uri with
  | false => exact ⟨rfl, rfl⟩
  | true =>
    cases network.reply? uri 0 with
    | none => exact ⟨rfl, rfl⟩
    | some reply =>
      cases reply with
      | close => exact ⟨rfl, congrArg (fun request => [request]) hsent⟩
      | answer status headers body complete =>
        exact ⟨rfl, congrArg (fun request => [request]) hsent⟩

end

end Http

/-! ## Runs with another login -/

/-- Two runs that end the same and differ at most in what a login goes into. -/
structure Run.SameButLogin {α : Type} (run other : Run α) : Prop where
  result_eq : other.result = run.result
  trace_eq : other.trace.map Event.withoutLogin = run.trace.map Event.withoutLogin

namespace Run

variable {α β : Type}

theorem SameButLogin.refl (run : Run α) : SameButLogin run run :=
  ⟨rfl, rfl⟩

theorem SameButLogin.bind {first first' : Run α} {next next' : α → Run β}
    (hfirst : SameButLogin first first')
    (hnext : ∀ value, SameButLogin (next value) (next' value)) :
    SameButLogin (first >>= next) (first' >>= next') := by
  cases h : first.result with
  | ok value =>
    have h' : first'.result = .ok value := hfirst.result_eq.trans h
    rw [bind_of_ok next h, bind_of_ok next' h']
    refine ⟨(hnext value).result_eq, ?_⟩
    rw [List.map_append, List.map_append, hfirst.trace_eq, (hnext value).trace_eq]
  | error error =>
    have h' : first'.result = .error error := hfirst.result_eq.trans h
    rw [bind_of_error next h, bind_of_error next' h']
    exact ⟨rfl, hfirst.trace_eq⟩

end Run

/-! ## What is seen of them -/

theorem Effect.output_withoutLogin (effect : Effect) :
    effect.withoutLogin.output = effect.output := by
  cases effect <;> rfl

theorem Effect.request?_withoutLogin (effect : Effect) :
    effect.withoutLogin.request? = effect.request?.map (·.withoutAuthorization) := by
  cases effect <;> rfl

namespace Trace

theorem effects_withoutLogin (trace : Trace) :
    effects (trace.map Event.withoutLogin) = trace.effects.map Effect.withoutLogin := by
  rw [effects, List.filterMap_map, effects, List.map_filterMap]
  congr 1
  funext event
  cases event <;> rfl

theorem steps_withoutLogin (trace : Trace) :
    steps (trace.map Event.withoutLogin) = trace.steps := by
  rw [steps, List.filterMap_map, steps]
  congr 1
  funext event
  cases event <;> rfl

theorem output_withoutLogin (trace : Trace) :
    output (trace.map Event.withoutLogin) = trace.output := by
  rw [output, effects_withoutLogin, List.flatMap_map, output]
  simp only [Effect.output_withoutLogin]

theorem requests_withoutLogin (trace : Trace) :
    requests (trace.map Event.withoutLogin) = trace.requests.map (·.withoutAuthorization) := by
  rw [requests, effects_withoutLogin, List.filterMap_map, requests, List.map_filterMap]
  congr 1
  funext effect
  exact Effect.request?_withoutLogin effect

end Trace

namespace Notify

/-! ## Notifying with another login -/

theorem map_withoutLogin_map_effect (effects : List Effect) :
    (effects.map Event.effect).map Event.withoutLogin =
      (effects.map Effect.withoutLogin).map Event.effect := by
  rw [List.map_map, List.map_map]
  rfl

/-- Two coordinators that are reached with different logins answer alike. -/
theorem respond_withoutLogin {uri other : Url} (h : other.withoutUserInfo = uri.withoutUserInfo)
    (hlogin : uri.HasReadableLogin) (hother : other.HasReadableLogin) (network : Network)
    (timeoutSeconds : Nat) (batch : List Metadata) :
    let first := (Http.coordinator network uri timeoutSeconds).respond [] batch
    let second := (Http.coordinator network other timeoutSeconds).respond [] batch
    second.result = first.result ∧
      second.effects.map Effect.withoutLogin = first.effects.map Effect.withoutLogin := by
  intro first second
  obtain ⟨hresult, hsent⟩ :=
    Http.exchangeAfter_withoutLogin h hlogin hother network timeoutSeconds batch
  have heffects (uri : Url) :
      ((Http.coordinator network uri timeoutSeconds).respond [] batch).effects =
        .printed _ :: .logged _ :: (Http.conclude uri batch
          (Http.exchangeAfter network uri timeoutSeconds .plain [] batch)).effects := rfl
  refine ⟨congrArg Http.judge hresult, ?_⟩
  have hrequests (requests : List Http.Request) :
      (requests.map Effect.sent).map Effect.withoutLogin =
        (requests.map (·.withoutAuthorization)).map Effect.sent := by
    rw [List.map_map, List.map_map]
    rfl
  simp only [second, first, heffects, Http.conclude, hresult, List.map_cons, List.map_append,
    hrequests, hsent]
  -- The two remarks are the same but for the URL that they name.
  cases Http.judge (Http.exchangeAfter network uri timeoutSeconds .plain [] batch).result with
  | ok value => rfl
  | error error => rfl

/-- A submission with another login. -/
theorem submit_sameButLogin {uri other : Url} (h : other.withoutUserInfo = uri.withoutUserInfo)
    (hlogin : uri.HasReadableLogin) (hother : other.HasReadableLogin) (network : Network)
    (timeoutSeconds : Nat) (batch : List Metadata) :
    Run.SameButLogin ((Http.coordinator network uri timeoutSeconds).submit [] batch)
      ((Http.coordinator network other timeoutSeconds).submit [] batch) := by
  obtain ⟨hresult, heffects⟩ :=
    respond_withoutLogin h hlogin hother network timeoutSeconds batch
  refine ⟨hresult, ?_⟩
  simp only [Coordinator.submit, Run.turnTo, List.map_cons, map_withoutLogin_map_effect, heffects]

section

variable {settings other : NotifySettings} (h : other.withoutLogin = settings.withoutLogin)

include h

theorem jobs_of_withoutLogin : other.jobs = settings.jobs :=
  show other.withoutLogin.jobs = settings.withoutLogin.jobs from congrArg _ h

theorem settleDelay_of_withoutLogin : other.settleDelay = settings.settleDelay :=
  show other.withoutLogin.settleDelay = settings.withoutLogin.settleDelay from congrArg _ h

theorem timeoutSeconds_of_withoutLogin :
    other.coordinator.timeoutSeconds = settings.coordinator.timeoutSeconds :=
  show other.withoutLogin.coordinator.timeoutSeconds =
    settings.withoutLogin.coordinator.timeoutSeconds from congrArg (·.coordinator.timeoutSeconds) h

theorem uri_of_withoutLogin :
    other.coordinator.uri.withoutUserInfo = settings.coordinator.uri.withoutUserInfo :=
  show other.withoutLogin.coordinator.uri = settings.withoutLogin.coordinator.uri from
    congrArg (·.coordinator.uri) h

/-- The check does not look at the login; of another scheme it would name the whole URL. -/
theorem check_of_withoutLogin (hhttp : settings.coordinator.uri.isHttp = true) :
    other.check = settings.check := by
  have hhttp' := Url.isHttp_eq_of_withoutUserInfo (uri_of_withoutLogin h)
  simp [NotifySettings.check, CoordinatorSettings.check, jobs_of_withoutLogin h,
    timeoutSeconds_of_withoutLogin h, hhttp', hhttp, refuseIf]

/-- Two runs whose settings differ in the login only. -/
theorem run_sameButLogin (hhttp : settings.coordinator.uri.isHttp = true)
    (hlogin : settings.coordinator.uri.HasReadableLogin)
    (hother : other.coordinator.uri.HasReadableLogin) (files : FileTree) (network : Network) :
    Run.SameButLogin (run settings files network) (run other files network) := by
  rw [run, run, check_of_withoutLogin h hhttp, execute, execute, jobs_of_withoutLogin h,
    settleDelay_of_withoutLogin h, timeoutSeconds_of_withoutLogin h]
  refine (Run.SameButLogin.refl _).bind fun _ => ?_
  refine (Run.SameButLogin.refl _).bind fun _ => ?_
  refine (Run.SameButLogin.refl _).bind fun _ => ?_
  refine (Run.SameButLogin.refl _).bind fun batch => ?_
  -- Up to here the runs are the same; only the submission looks at the URL.
  refine Run.SameButLogin.bind ?_ fun _ => .refl _
  exact submit_sameButLogin (uri_of_withoutLogin h) hlogin hother network _ batch

end

/-- **The login is for the authorization only.**  Two runs whose settings differ in the user name
and the password of the coordinator's URL, which can be decoded, end alike, whatever the files and
the answers are: a failure names the URL without them.  They print the same, and send the same
requests but for the authorization.  As to the rest, they differ at most in the URL that a remark
names. -/
theorem login_only_authorizes (settings other : NotifySettings)
    (h : other.withoutLogin = settings.withoutLogin)
    (hhttp : settings.coordinator.uri.isHttp = true)
    (hlogin : settings.coordinator.uri.HasReadableLogin)
    (hother : other.coordinator.uri.HasReadableLogin) (files : FileTree) (network : Network) :
    let first := (run settings files network).trace
    let second := (run other files network).trace
    (run other files network).result = (run settings files network).result ∧
      second.output = first.output ∧
      second.requests.map (·.withoutAuthorization) =
        first.requests.map (·.withoutAuthorization) ∧
      second.steps = first.steps ∧
      second.effects.map Effect.withoutLogin = first.effects.map Effect.withoutLogin := by
  intro first second
  obtain ⟨hresult, htrace⟩ := run_sameButLogin h hhttp hlogin hother files network
  refine ⟨hresult, ?_, ?_, ?_, ?_⟩
  · rw [← Trace.output_withoutLogin, htrace, Trace.output_withoutLogin]
  · rw [← Trace.requests_withoutLogin, htrace, Trace.requests_withoutLogin]
  · rw [← Trace.steps_withoutLogin, htrace, Trace.steps_withoutLogin]
  · rw [← Trace.effects_withoutLogin, htrace, Trace.effects_withoutLogin]

/-- With a user name, and with another and a password, the same is reported of a connection that
the coordinator closes. -/
theorem login_only_authorizes_of_closed_connection :
    let uri (username password : List Char) : Url :=
      { scheme := "http".toList
        authority := some { username, password, host := .named "proctord".toList, port := none }
        route := .segments [[]]
        query := none
        fragment := none }
    let settings (username password : List Char) : NotifySettings :=
      { jobs := { jobsPath := ⟨"."⟩ }, coordinator := { uri := uri username password }
        settleDelay := 0 }
    let ending (username password : List Char) : Except Error Nat :=
      (run (settings username password) .empty (.replies [.close])).result
    (settings "ci".toList "pw".toList).withoutLogin = (settings "ci".toList []).withoutLogin ∧
      (uri "ci".toList []).isHttp = true ∧
      (uri "ci".toList []).HasReadableLogin ∧ (uri "ci".toList "pw".toList).HasReadableLogin ∧
      ending "ci".toList "pw".toList = ending "ci".toList [] := by
  intro uri settings ending
  have hsame : (settings "ci".toList "pw".toList).withoutLogin =
      (settings "ci".toList []).withoutLogin := rfl
  have hhttp : (uri "ci".toList []).isHttp = true := rfl
  have hlogin : (uri "ci".toList []).HasReadableLogin := by
    rintro authority ⟨⟩
    exact ⟨by decide, by decide⟩
  have hother : (uri "ci".toList "pw".toList).HasReadableLogin := by
    rintro authority ⟨⟩
    exact ⟨by decide, by decide⟩
  exact ⟨hsame, hhttp, hlogin, hother, (login_only_authorizes (settings "ci".toList [])
    (settings "ci".toList "pw".toList) hsame hhttp hlogin hother .empty (.replies [.close])).1⟩

end Notify

end JobImages
