import JobImages.Proofs.Http.Exchange
import JobImages.Proofs.Sessions

/-!
# Many batches through one coordinator

Whoever submits several batches may go on after a failure.  To a URL that the client accepts, and
that needs no encryption, every submission is one request, so the server, which counts requests, and
the client, which counts batches, never disagree about whose turn it is.  Each submission is
therefore judged by the answer to its own request, and what became of those before it does not
matter.

That there is no second request is due to the client's options: with others a library may well
follow a redirection.

## Main definitions

* `Http.Library.following` — a library whose clients follow one redirection, if they may.

## Main results

* `Http.exists_result_of_session` — what becomes of a submission of a session;
* `Http.session_judged_by_answers` — the law of sessions;
* `Http.Library.second_request_of_following` — what the options are for.
-/

namespace JobImages

/-- As many things are asked in front of a place as it says. -/
theorem length_take_of_getElem? {α : Type} {asked : List α} {i : Nat} {next : α}
    (h : asked[i]? = some next) : (asked.take i).length = i := by
  obtain ⟨hlt, -⟩ := List.getElem?_eq_some_iff.1 h
  exact List.length_take_of_le (Nat.le_of_lt hlt)

namespace Http

/-! ## One submission -/

/-- What a reply comes to, if no answer comes to a given failure. -/
def resultOn (failure : Failure) (reply : Network.Reply) : Except Failure Response :=
  reply.response?.elim (.error failure) .ok

section Reply

variable {failure : Failure} {reply : Network.Reply}

theorem resultOn_eq_ok_iff {response : Response} :
    resultOn failure reply = .ok response ↔ reply.response? = some response := by
  unfold resultOn
  cases reply.response? <;> simp

theorem resultOn_eq_error_iff {other : Failure} :
    resultOn failure reply = .error other ↔ reply = .close ∧ other = failure := by
  rw [← Network.Reply.response?_eq_none_iff]
  unfold resultOn
  cases reply.response? <;> simp [eq_comm]

/-- The status alone accepts a batch. -/
theorem judge_resultOn_eq_ok_iff :
    judge (resultOn failure reply) = .ok () ↔
      ∃ headers body complete, reply = .answer Coordinator.accepted headers body complete := by
  rw [judge_eq_ok_iff]
  simp only [resultOn_eq_ok_iff, Network.Reply.response?_eq_some_iff]
  constructor
  · rintro ⟨response, ⟨headers, body, complete, rfl, -⟩, hstatus⟩
    exact ⟨headers, body, complete, by rw [hstatus]⟩
  · rintro ⟨headers, body, complete, rfl⟩
    exact ⟨⟨_, _⟩, ⟨headers, body, complete, rfl, rfl⟩, rfl⟩

/-- Every other status rejects it, with the body of the answer as far as that can be read. -/
theorem judge_resultOn_eq_rejected_iff {status : Nat} {text : String} :
    judge (resultOn failure reply) = .error (.rejected status text) ↔
      status ≠ Coordinator.accepted ∧
        ∃ headers body complete, reply = .answer status headers body complete ∧
          text = (bodyText? body complete).getD "<unreadable body>" := by
  simp only [judge_eq_rejected_iff, resultOn_eq_ok_iff, Network.Reply.response?_eq_some_iff]
  constructor
  · rintro ⟨hstatus, response, ⟨headers, body, complete, rfl, htext⟩, rfl, rfl⟩
    exact ⟨hstatus, headers, body, complete, rfl, by rw [Response.body, htext]⟩
  · rintro ⟨hstatus, headers, body, complete, rfl, rfl⟩
    exact ⟨hstatus, ⟨status, _⟩, ⟨headers, body, complete, rfl, rfl⟩, rfl, rfl⟩

/-- Without an answer there is no verdict on it, but an error of the connection. -/
theorem judge_resultOn_eq_http_iff :
    (∃ other, judge (resultOn failure reply) = .error (.http other)) ↔ reply = .close := by
  simp [judge_eq_http_iff, resultOn_eq_error_iff]

end Reply

/-! ## Sessions with a server -/

theorem reaches_replies {uri : Url} (hplain : uri.schemeName = plainScheme)
    (replies : List Network.Reply) : Network.reaches (.replies replies) uri = true := by
  rw [Network.reaches, hplain, beq_self_eq_true]

section Server

variable {library : Library} (hdocumented : library.Documented) {timeoutSeconds : Nat} {uri : Url}
  (haccepts : library.Accepts (clientOptions timeoutSeconds) uri)
  (hplain : uri.schemeName = plainScheme)

include hdocumented haccepts hplain

theorem requests_submit_to_server (replies : List Network.Reply)
    (earlier : List (List Metadata)) (batch : List Metadata) :
    ((coordinator (.replies replies) uri timeoutSeconds library).submit earlier
      batch).trace.requests = [batchSubmission uri batch] := by
  rw [requests_submit]
  exact (comesOf_exchangeAfter hdocumented haccepts (reaches_replies hplain replies) earlier
    batch).1

/-- A session sends the batches in order, each once, and nothing else. -/
theorem requests_session (replies : List Network.Reply) (earlier batches : List (List Metadata)) :
    (session (coordinator (.replies replies) uri timeoutSeconds library).submit earlier
        batches).flatMap (·.trace.requests) = batches.map (batchSubmission uri) := by
  rw [List.map_eq_flatMap]
  refine flatMap_session _ (fun before batch => ?_) batches earlier
  exact requests_submit_to_server hdocumented haccepts hplain replies before batch

/-- A submission is judged by the reply at its place in the session, and by nothing else. -/
theorem exists_result_of_session :
    ∃ failure, ∀ (replies : List Network.Reply) (batches : List (List Metadata)) (i : Nat)
      (run : Run Unit),
      (session (coordinator (.replies replies) uri timeoutSeconds library).submit []
        batches)[i]? = some run →
        run.result = judge (resultOn failure (Network.Reply.after replies i)) := by
  obtain ⟨failure, hfailure⟩ := exists_failure_exchangeAfter hdocumented haccepts
  refine ⟨failure, fun replies batches i run hrun => ?_⟩
  rw [getElem?_session, Option.map_eq_some_iff] at hrun
  obtain ⟨batch, hbatch, rfl⟩ := hrun
  have hreaches := reaches_replies hplain replies
  have hcomes := comesOf_exchangeAfter hdocumented haccepts hreaches (batches.take i) batch
  have hclose := hfailure _ hreaches (batches.take i) batch
  -- The server has seen a request for each of the batches in front.
  rw [length_take_of_getElem? hbatch] at hcomes hclose
  have hresult : (exchangeAfter (.replies replies) uri timeoutSeconds library (batches.take i)
      batch).result = resultOn failure (Network.Reply.after replies i) := by
    rw [resultOn]
    cases hresponse : (Network.Reply.after replies i).response? with
    | some response => exact hcomes.result_eq_ok_iff.2 hresponse
    | none => exact hclose (Network.Reply.response?_eq_none_iff.1 hresponse)
  rw [← hresult]
  rfl

/-- **The law of submissions.**  Every submission of a session sends exactly one request, a POST of
the JSON text that its line shows to the URL without user name, password and fragment; so the server
has seen as many requests before it as there were batches.  How it ends is settled by the reply to
that request: it succeeds exactly with the one status that accepts, is rejected with any other, and
is an error of the connection without an answer.  Two submissions whose requests meet with the same
reply end alike, whatever else was submitted or answered in their sessions. -/
theorem session_judged_by_answers (replies : List Network.Reply)
    (batches : List (List Metadata)) :
    let submit (replies : List Network.Reply) :=
      (coordinator (.replies replies) uri timeoutSeconds library).submit
    let runs := session (submit replies) [] batches
    runs.length = batches.length ∧
    ∀ i batch, batches[i]? = some batch →
      let answer := Network.Reply.after replies i
      ∃ run, runs[i]? = some run ∧
        (∃ request, run.trace.requests = [request] ∧
          request.method = "POST" ∧
          request.uri =
            { uri with
              authority := uri.authority.map fun authority =>
                { authority with username := [], password := [] }
              fragment := none } ∧
          request.contentType = "application/json" ∧
          request.body = (Json.array (batch.map Metadata.toJson)).print ∧
          run.trace.output = Effect.lineBytes ("making req with body " ++ request.body)) ∧
        ((runs.take i).flatMap (·.trace.requests)).length = i ∧
        (run.result = .ok () ↔
          ∃ headers body complete, answer = .answer 201 headers body complete) ∧
        (∀ status text, run.result = .error (.rejected status text) ↔
          status ≠ 201 ∧ ∃ headers body complete,
            answer = .answer status headers body complete ∧
              text = (bodyText? body complete).getD "<unreadable body>") ∧
        ((∃ failure, run.result = .error (.http failure)) ↔ answer = .close) ∧
        ∀ (otherReplies : List Network.Reply) (otherBatches : List (List Metadata)) (j : Nat)
          (other : Run Unit),
          (session (submit otherReplies) [] otherBatches)[j]? = some other →
            Network.Reply.after otherReplies j = answer → other.result = run.result := by
  intro submit runs
  obtain ⟨failure, hfailure⟩ := exists_result_of_session hdocumented haccepts hplain
  refine ⟨length_session _ _ _, fun i batch hbatch => ?_⟩
  intro answer
  have hrun : runs[i]? = some (submit replies (batches.take i) batch) := by
    rw [getElem?_session, hbatch]
    rfl
  have hresult := hfailure replies batches i _ hrun
  have hrequests :=
    requests_submit_to_server hdocumented haccepts hplain replies (batches.take i) batch
  refine ⟨_, hrun, ⟨_, hrequests, rfl, rfl, rfl, rfl, output_submit _ _ _ _ _ _⟩, ?_, ?_, ?_, ?_,
    ?_⟩
  · rw [take_session, requests_session hdocumented haccepts hplain, List.length_map,
      length_take_of_getElem? hbatch]
  · rw [hresult]
    exact judge_resultOn_eq_ok_iff
  · intro status text
    rw [hresult]
    exact judge_resultOn_eq_rejected_iff
  · rw [hresult]
    exact judge_resultOn_eq_http_iff
  · intro otherReplies otherBatches j other hother hanswer
    rw [hfailure otherReplies otherBatches j other hother, hanswer, hresult]

end Server

/-- A redirection, a connection that is closed and an acceptance whose body is cut short, in one
session. -/
theorem session_judged_by_answers_of_redirection :
    let uri : Url :=
      { scheme := "http".toList
        authority := some
          { username := "ci".toList, password := "pw".toList, host := .named "proctord".toList,
            port := some 8080 }
        route := .segments ["jobs".toList]
        query := none
        fragment := some "now".toList }
    let replies : List Network.Reply :=
      [.answer 307 [("location", "/elsewhere")] [] true, .close, .answer 201 [] [0xff] false]
    let runs := session (coordinator (.replies replies) uri).submit [] [[], [], []]
    Library.plain.Documented ∧ Library.plain.Accepts (clientOptions 30) uri ∧
      uri.schemeName = plainScheme ∧
      (∃ run, runs[0]? = some run ∧ run.trace.requests.length = 1 ∧
        run.result = .error (.rejected 307 "")) ∧
      (∃ run failure, runs[1]? = some run ∧ run.result = .error (.http failure)) ∧
      ∃ run, runs[2]? = some run ∧ run.result = .ok () := by
  intro uri replies runs
  have hplain : uri.schemeName = plainScheme := rfl
  have haccepts : Library.plain.Accepts (clientOptions 30) uri :=
    Library.accepts_plain (by decide) _
  have hlaw := (session_judged_by_answers Library.documented_plain haccepts hplain replies
    [[], [], []]).2
  obtain ⟨first, hfirst, ⟨_, hone, -⟩, -, -, hredirected, -⟩ := hlaw 0 [] rfl
  obtain ⟨second, hsecond, -, -, -, -, hclosed, -⟩ := hlaw 1 [] rfl
  obtain ⟨third, hthird, -, -, haccepted, -⟩ := hlaw 2 [] rfl
  obtain ⟨failure, hfailure⟩ := hclosed.2 rfl
  refine ⟨Library.documented_plain, haccepts, hplain, ⟨first, hfirst, by rw [hone]; rfl, ?_⟩,
    ⟨second, failure, hsecond, hfailure⟩, third, hthird, haccepted.2 ⟨_, _, _, rfl⟩⟩
  exact (hredirected 307 "").2 ⟨by decide, _, _, _, rfl, by decide⟩

/-! ## What the options are for -/

/-- A library whose clients follow one redirection, if they may, and go on with the same
request. -/
def Library.following : Library where
  create _ := .ok ()
  send options _ post :=
    let failure : Failure := .unanswered (namedUri post.uri)
    let settle (status : Nat) (body : List UInt8) (complete : Bool) : Conversation :=
      .done (.ok { status, text := bodyText? body complete })
    .ask post.request fun
      | some (.answer status headers body complete) =>
        if options.redirects = .none ∨ isRedirection status headers = false then
          settle status body complete
        else
          .ask post.request fun
            | some (.answer status _ body complete) => settle status body complete
            | _ => .done (.error failure)
      | _ => .done (.error failure)

/-- It keeps to the documentation. -/
theorem Library.documented_following : Library.following.Documented where
  refused hsend := by cases hsend
  asked hsend := by
    cases hsend
    rfl
  lost hsend := by
    cases hsend
    exact ⟨_, rfl⟩
  unanswered options uri := by
    refine ⟨.unanswered (namedUri uri), fun huri hsend => ?_⟩
    subst huri
    cases hsend
    rfl
  answered hsend _ _ hfinal body complete := by
    cases hsend
    exact if_pos hfinal

/-- A client that may follow redirections can send a second request for one post. -/
theorem Library.second_request_of_following (timeoutSeconds : Nat) (post : Post)
    (hplain : post.uri.schemeName = plainScheme) :
    let client : Client :=
      { library := .following, options := { timeoutSeconds, redirects := .limited 1 } }
    let network : Network := .replies [.answer 307 [("location", "/elsewhere")] [] true]
    (client.exchange network [] post).sent = [post.request, post.request] := by
  intro client network
  have hreaches : network.reaches post.request.uri = true :=
    reaches_replies hplain [.answer 307 [("location", "/elsewhere")] [] true]
  have hreply (earlier : Nat) :
      network.reply? post.request.uri earlier = some (network.reply earlier) := if_pos hreaches
  have hfirst : network.reply 0 = .answer 307 [("location", "/elsewhere")] [] true := rfl
  have hsecond : network.reply 1 = .answer Coordinator.accepted [] [] true := rfl
  have helsewhere : isRedirection 307 [("location", "/elsewhere")] = true := by decide
  have hsend : client.exchange network [] post =
      (Library.following.send client.options [] post).over network 0 := rfl
  rw [hsend, Library.following]
  simp only [Conversation.over, hreply, hfirst]
  rw [if_neg (by simp [client, helsewhere])]
  simp only [Conversation.over, hreply, hsecond, Nat.zero_add]

end Http

end JobImages
