import JobImages.Http.Client
import JobImages.Proofs.Runs

/-!
# Exchanges with a coordinator

A client that follows no redirections sends one request for a post or none, and gives back what the
request meets with.  So a batch is accepted exactly if its request was sent and answered with the
one status that accepts.  Nothing else of an answer matters.

This is true of every library that keeps to its documentation, whatever else it does.

## Main definitions

* `Network.response?`, `Network.status?` — what a client gives back of an answer;
* `Http.Exchange.ComesOf` — what comes of a request by what it meets with;
* `Http.exchangeAfter` — what comes of a batch that is posted after others.

## Main results

* `Http.Client.comesOf_exchange` — what comes of a post;
* `Http.requests_respond`, `Http.result_respond` — what is seen of a submission, and how it ends;
* `Http.comesOf_exchangeAfter` — what comes of a batch that reaches a server;
* `Http.sent_exchangeAfter`, `Http.judge_exchangeAfter_eq_ok_iff` — what is sent for a batch, and
  when it is accepted;
* `Http.Library.documented_plain`, `Http.Client.exchange_plain` — the plain library.
-/

namespace JobImages

namespace Network

/-- What a client gives back of a reply, if that is an answer. -/
def Reply.response? : Reply → Option Http.Response
  | .answer status _ body complete => some { status, text := Http.bodyText? body complete }
  | .close => none

theorem Reply.response?_eq_some_iff {reply : Reply} {response : Http.Response} :
    reply.response? = some response ↔
      ∃ headers body complete, reply = .answer response.status headers body complete ∧
        response.text = Http.bodyText? body complete := by
  cases reply with
  | close => simp [response?]
  | answer status headers body complete =>
    constructor
    · intro h
      cases h
      exact ⟨headers, body, complete, rfl, rfl⟩
    · rintro ⟨_, _, _, heq, htext⟩
      cases heq
      rw [response?, ← htext]

theorem Reply.response?_eq_none_iff {reply : Reply} : reply.response? = none ↔ reply = .close := by
  cases reply <;> simp [response?]

/-- What a client gives back of the answer to a request that follows `earlier` others. -/
def response? (network : Network) (earlier : Nat) : Option Http.Response :=
  (network.reply earlier).response?

/-- The status with which a request is answered that follows `earlier` others. -/
def status? (network : Network) (earlier : Nat) : Option Nat :=
  (network.response? earlier).map (·.status)

end Network

namespace Http

/-- The request that submits a batch. -/
def batchSubmission (uri : Url) (batch : List Metadata) : Request :=
  (post uri batch).request

/-- What comes of a request that meets with a reply, or with none because it is not made or lost:
it is sent if there is a reply, and gets a response if that is an answer. -/
def Exchange.ComesOf (exchange : Exchange) (request : Request) (met : Option Network.Reply) :
    Prop :=
  exchange.sent = (met.map fun _ => request).toList ∧
    match met.bind Network.Reply.response? with
    | some response => exchange.result = .ok response
    | none => ∃ failure, exchange.result = .error failure

namespace Exchange.ComesOf

variable {exchange : Exchange} {request : Request} {met : Option Network.Reply}
  (h : exchange.ComesOf request met)

include h

/-- The request is sent once, or not at all. -/
theorem sent_eq : exchange.sent = [] ∨ exchange.sent = [request] := by
  cases met with
  | none => exact .inl h.1
  | some reply => exact .inr h.1

/-- The result is the response, if there is one. -/
theorem result_eq_ok_iff {response : Response} :
    exchange.result = .ok response ↔ met.bind Network.Reply.response? = some response := by
  obtain ⟨-, hresult⟩ := h
  cases hresponse : met.bind Network.Reply.response? with
  | some other =>
    rw [hresponse] at hresult
    change exchange.result = .ok other at hresult
    rw [hresult, Except.ok.injEq, Option.some.injEq]
  | none =>
    rw [hresponse] at hresult
    obtain ⟨failure, hfailure⟩ := hresult
    simp [hfailure]

end Exchange.ComesOf

/-! ## Posts -/

namespace Client

section

variable (client : Client) (network : Network) (hdocumented : client.library.Documented)
  (hstays : client.options.redirects = .none) {done : List Exchange} {post : Post}

include hdocumented hstays

/-- A client that makes the request of a post gives back what that meets with. -/
theorem comesOf_exchange_of_ask {request : Request}
    {next : Option Network.Reply → Conversation}
    (hsend : client.library.send client.options done post = .ask request next) :
    (client.exchange network done post).ComesOf post.request
      (network.reply? post.uri (done.flatMap (·.sent)).length) := by
  obtain rfl := hdocumented.asked hsend
  -- Where the request goes differs from the URL in the login and the fragment only.
  have hreply (earlier : Nat) :
      network.reply? post.request.uri earlier = network.reply? post.uri earlier := rfl
  rw [exchange, hsend, Conversation.over, hreply]
  generalize (done.flatMap (·.sent)).length = earlier
  cases network.reply? post.uri earlier with
  | none =>
    obtain ⟨failure, hlost⟩ := hdocumented.lost hsend
    simp only [hlost]
    exact ⟨rfl, failure, rfl⟩
  | some reply =>
    cases reply with
    | close =>
      obtain ⟨failure, hfailure⟩ := hdocumented.unanswered client.options post.uri
      simp only [hfailure rfl hsend]
      exact ⟨rfl, failure, rfl⟩
    | answer status headers body complete =>
      have hanswer : next (some (.answer status headers body complete)) =
          .done (.ok { status, text := bodyText? body complete }) :=
        hdocumented.answered hsend (.inl hstays) body complete
      simp only [hanswer]
      exact ⟨rfl, rfl⟩

/-- Nothing comes of a post, or what its request meets with at a server. -/
theorem comesOf_exchange :
    (client.exchange network done post).ComesOf post.request none ∨
      (client.exchange network done post).ComesOf post.request
        (some (network.reply (done.flatMap (·.sent)).length)) := by
  cases hsend : client.library.send client.options done post with
  | ask request next =>
    have hcomes := client.comesOf_exchange_of_ask network hdocumented hstays hsend
    unfold Network.reply? at hcomes
    split at hcomes
    · exact .inr hcomes
    · exact .inl hcomes
  | done result =>
    obtain ⟨failure, rfl⟩ := hdocumented.refused hsend
    left
    rw [exchange, hsend]
    exact ⟨rfl, failure, rfl⟩

/-- If the client accepts the URL and a server is reached there, the request meets with it. -/
theorem comesOf_exchange_of_accepts
    (haccepts : client.library.Accepts client.options post.uri)
    (hreaches : network.reaches post.uri = true) :
    (client.exchange network done post).ComesOf post.request
      (some (network.reply (done.flatMap (·.sent)).length)) := by
  obtain ⟨request, next, hsend⟩ := haccepts done post.contentType post.body
  have hcomes := client.comesOf_exchange_of_ask network hdocumented hstays hsend
  rwa [Network.reply?, if_pos hreaches] at hcomes

/-- If no server is reached, nothing comes of a post. -/
theorem comesOf_exchange_of_not_reaches (hreaches : network.reaches post.uri = false) :
    (client.exchange network done post).ComesOf post.request none := by
  cases hsend : client.library.send client.options done post with
  | ask request next =>
    have hcomes := client.comesOf_exchange_of_ask network hdocumented hstays hsend
    rwa [Network.reply?, if_neg (by simp [hreaches])] at hcomes
  | done result =>
    obtain ⟨failure, rfl⟩ := hdocumented.refused hsend
    rw [exchange, hsend]
    exact ⟨rfl, failure, rfl⟩

end

/-! ### Many posts -/

variable {client : Client} {network : Network}

theorem exchanges_concat (posts : List Post) (post : Post) :
    client.exchanges network (posts ++ [post]) =
      client.exchanges network posts ++
        [client.exchange network (client.exchanges network posts) post] := by
  rw [exchanges, exchanges, List.foldl_append]
  rfl

/-- If every post sends its request, whatever came before, as many are sent as there are posts. -/
theorem length_sent_exchanges {uri : Url}
    (h : ∀ done post, post.uri = uri →
      (client.exchange network done post).sent = [post.request]) :
    ∀ posts : List Post, (∀ post ∈ posts, post.uri = uri) →
      ((client.exchanges network posts).flatMap (·.sent)).length = posts.length := by
  intro posts
  -- The list is taken apart from its end, where the last post meets with all that came before.
  rw [← posts.reverse_reverse]
  induction posts.reverse with
  | nil => exact fun _ => rfl
  | cons last front ih =>
    intro huri
    rw [List.reverse_cons] at huri ⊢
    rw [exchanges_concat, List.flatMap_append, List.length_append,
      ih fun post hpost => huri post (List.mem_append_left _ hpost), List.flatMap_singleton,
      h _ last (huri last (List.mem_append_right _ List.mem_cons_self)), List.length_append]
    rfl

end Client

/-! ## Submissions -/

/-- What comes of a batch that is posted to a URL after others. -/
def exchangeAfter (network : Network) (uri : Url) (timeoutSeconds : Nat) (library : Library)
    (earlier : List (List Metadata)) (batch : List Metadata) : Exchange :=
  let client := clientFor timeoutSeconds library
  client.exchange network (client.exchanges network (earlier.map (post uri))) (post uri batch)

section Respond

variable (network : Network) (uri : Url) (timeoutSeconds : Nat) (library : Library)
  (earlier : List (List Metadata)) (batch : List Metadata)

/-- A submission ends with what its exchange means. -/
theorem result_respond :
    ((coordinator network uri timeoutSeconds library).respond earlier batch).result =
      judge (exchangeAfter network uri timeoutSeconds library earlier batch).result := rfl

/-- A submission is seen as the line that shows the body, a remark, what is sent, and a remark on a
batch that is accepted. -/
theorem effects_respond :
    ∃ remarks : List Log.Record,
      ((coordinator network uri timeoutSeconds library).respond earlier batch).effects =
        .printed ("making req with body " ++ Metadata.printBatch batch) ::
          .logged (posting uri batch) ::
            ((exchangeAfter network uri timeoutSeconds library earlier batch).sent.map .sent ++
              remarks.map .logged) := by
  show ∃ remarks : List Log.Record, _ :: _ :: (conclude uri batch
    (exchangeAfter network uri timeoutSeconds library earlier batch)).effects = _
  generalize exchangeAfter network uri timeoutSeconds library earlier batch = exchange
  unfold conclude
  cases judge exchange.result with
  | ok value => exact ⟨[accepting uri batch], rfl⟩
  | error error => exact ⟨[], rfl⟩

/-- What is sent for a submission is what its exchange sends. -/
theorem requests_respond :
    ((coordinator network uri timeoutSeconds library).respond earlier batch).effects.filterMap
        Effect.request? =
      (exchangeAfter network uri timeoutSeconds library earlier batch).sent := by
  obtain ⟨remarks, heffects⟩ := effects_respond network uri timeoutSeconds library earlier batch
  have hremarks : (remarks.map Effect.logged).filterMap Effect.request? = [] := by
    simp [List.filterMap_map, Function.comp_def, Effect.request?]
  have hsent (requests : List Request) :
      (requests.map Effect.sent).filterMap Effect.request? = requests := by
    simp [List.filterMap_map, Function.comp_def, Effect.request?]
  rw [heffects]
  simp [Effect.request?, List.filterMap_cons, hremarks, hsent]

/-- On standard output a submission shows the body, in one line. -/
theorem output_respond :
    ((coordinator network uri timeoutSeconds library).respond earlier batch).effects.flatMap
        Effect.output =
      Effect.lineBytes ("making req with body " ++ Metadata.printBatch batch) := by
  obtain ⟨remarks, heffects⟩ := effects_respond network uri timeoutSeconds library earlier batch
  have hremarks : (remarks.map Effect.logged).flatMap Effect.output = [] := by
    simp [Effect.output]
  have hsent (requests : List Request) : (requests.map Effect.sent).flatMap Effect.output = [] := by
    simp [Effect.output]
  rw [heffects]
  simp [Effect.output, hremarks, hsent]

theorem requests_submit :
    ((coordinator network uri timeoutSeconds library).submit earlier batch).trace.requests =
      (exchangeAfter network uri timeoutSeconds library earlier batch).sent := by
  rw [Coordinator.submit, Run.turnTo, Trace.requests_cons_step, Trace.requests_map_effect,
    requests_respond]

theorem output_submit :
    ((coordinator network uri timeoutSeconds library).submit earlier batch).trace.output =
      Effect.lineBytes ("making req with body " ++ Metadata.printBatch batch) := by
  rw [Coordinator.submit, Run.turnTo, Trace.output_cons_step, Trace.output_map_effect,
    output_respond]

end Respond

section Documented

variable {network : Network} {uri : Url} {timeoutSeconds : Nat} {library : Library}
  (hdocumented : library.Documented)

include hdocumented

/-- Nothing comes of a batch, or what its request meets with, the first one at the server. -/
theorem comesOf_exchangeAfter_nil (batch : List Metadata) :
    let exchange := exchangeAfter network uri timeoutSeconds library [] batch
    exchange.ComesOf (batchSubmission uri batch) none ∨
      exchange.ComesOf (batchSubmission uri batch) (some (network.reply 0)) :=
  (clientFor timeoutSeconds library).comesOf_exchange network hdocumented rfl

section Accepted

variable (haccepts : library.Accepts (clientOptions timeoutSeconds) uri)
  (hreaches : network.reaches uri = true)

include haccepts hreaches

/-- If the client accepts the URL and a server is reached there, that has seen a request for each of
the batches before. -/
theorem length_sent_before (earlier : List (List Metadata)) :
    let client := clientFor timeoutSeconds library
    ((client.exchanges network (earlier.map (post uri))).flatMap (·.sent)).length =
      earlier.length := by
  intro client
  -- What came of the posts before is not asked: the next one is sent in any case.
  have hsent (done : List Exchange) (other : Post) (huri : other.uri = uri) :
      (client.exchange network done other).sent = [other.request] := by
    subst huri
    exact (client.comesOf_exchange_of_accepts network hdocumented rfl haccepts hreaches).1
  rw [Client.length_sent_exchanges hsent _ (by simp [post]), List.length_map]

/-- So each batch is sent, and meets with the reply at its place. -/
theorem comesOf_exchangeAfter (earlier : List (List Metadata)) (batch : List Metadata) :
    (exchangeAfter network uri timeoutSeconds library earlier batch).ComesOf
      (batchSubmission uri batch) (some (network.reply earlier.length)) := by
  rw [← length_sent_before hdocumented haccepts hreaches earlier]
  exact (clientFor timeoutSeconds library).comesOf_exchange_of_accepts network hdocumented rfl
    haccepts hreaches

end Accepted

/-- Whenever the reply to a batch is no answer, it is the same failure. -/
theorem exists_failure_exchangeAfter
    (haccepts : library.Accepts (clientOptions timeoutSeconds) uri) :
    ∃ failure, ∀ network : Network, network.reaches uri = true →
      ∀ (earlier : List (List Metadata)) (batch : List Metadata),
        network.reply earlier.length = .close →
          (exchangeAfter network uri timeoutSeconds library earlier batch).result =
            .error failure := by
  -- The failure is up to the library and the URL, so it is named before the network is.
  obtain ⟨failure, hfailure⟩ := hdocumented.unanswered (clientOptions timeoutSeconds) uri
  refine ⟨failure, fun network hreaches earlier batch hclose => ?_⟩
  let client := clientFor timeoutSeconds library
  let done := client.exchanges network (earlier.map (post uri))
  obtain ⟨request, next, hsend⟩ : ∃ request next,
      client.library.send client.options done (post uri batch) = .ask request next :=
    haccepts done (post uri batch).contentType (post uri batch).body
  obtain rfl := hdocumented.asked hsend
  have hreply : network.reply? (post uri batch).request.uri (done.flatMap (·.sent)).length =
      some .close := by
    rw [← hclose, ← length_sent_before hdocumented haccepts hreaches earlier]
    exact if_pos hreaches
  show (client.exchange network done (post uri batch)).result = .error failure
  rw [Client.exchange, hsend, Conversation.over]
  simp only [hreply, hfailure rfl hsend]
  rfl

/-- If no server is reached, nothing comes of a batch. -/
theorem comesOf_exchangeAfter_of_not_reaches (hreaches : network.reaches uri = false)
    (earlier : List (List Metadata)) (batch : List Metadata) :
    (exchangeAfter network uri timeoutSeconds library earlier batch).ComesOf
      (batchSubmission uri batch) none :=
  (clientFor timeoutSeconds library).comesOf_exchange_of_not_reaches network hdocumented rfl
    hreaches

/-- One request is sent for a batch at most, and that submits the batch. -/
theorem sent_exchangeAfter (earlier : List (List Metadata)) (batch : List Metadata) :
    let exchange := exchangeAfter network uri timeoutSeconds library earlier batch
    exchange.sent = [] ∨ exchange.sent = [batchSubmission uri batch] := by
  rcases (clientFor timeoutSeconds library).comesOf_exchange network hdocumented rfl with h | h
  · exact h.sent_eq
  · exact h.sent_eq

/-- The first batch gets a response if its request is sent and answered with that. -/
theorem result_exchangeAfter_eq_ok_iff (batch : List Metadata) (response : Response) :
    let exchange := exchangeAfter network uri timeoutSeconds library [] batch
    exchange.result = .ok response ↔
      exchange.sent = [batchSubmission uri batch] ∧ network.response? 0 = some response := by
  intro exchange
  rcases comesOf_exchangeAfter_nil hdocumented batch with hnone | hmet
  · -- Nothing is sent, so that there is no response either.
    have hsent : exchange.sent = [] := hnone.1
    rw [hnone.result_eq_ok_iff, hsent]
    simp
  · have hsent : exchange.sent = [batchSubmission uri batch] := hmet.1
    rw [hmet.result_eq_ok_iff, hsent]
    exact (and_iff_right rfl).symm

end Documented

/-! ## Judgements -/

section Judge

variable {result : Except Failure Response}

/-- The status alone accepts a batch. -/
theorem judge_eq_ok_iff :
    judge result = .ok () ↔
      ∃ response, result = .ok response ∧ response.status = Coordinator.accepted := by
  cases result with
  | error failure => simp [judge]
  | ok response =>
    by_cases haccepted : response.status = Coordinator.accepted
    · simp [judge, Coordinator.verdict, haccepted]
    · simp [judge, Coordinator.verdict, haccepted]

/-- Every other status rejects it. -/
theorem judge_eq_rejected_iff {status : Nat} {body : String} :
    judge result = .error (.rejected status body) ↔
      status ≠ Coordinator.accepted ∧
        ∃ response, result = .ok response ∧ response.status = status ∧ response.body = body := by
  cases result with
  | error failure => simp [judge]
  | ok response =>
    by_cases haccepted : response.status = Coordinator.accepted
    · -- No status is both the one that accepts and another.
      have hnot : ¬(status ≠ Coordinator.accepted ∧ response.status = status) := by
        rintro ⟨hstatus, rfl⟩
        exact hstatus haccepted
      simp only [judge, Coordinator.verdict, haccepted, if_pos]
      constructor
      · intro h
        cases h
      · rintro ⟨hstatus, other, hother, hsame, -⟩
        cases hother
        exact absurd ⟨hstatus, hsame⟩ hnot
    · simp only [judge, Coordinator.verdict, haccepted, if_neg, not_false_eq_true]
      constructor
      · intro h
        cases h
        exact ⟨haccepted, response, rfl, rfl, rfl⟩
      · rintro ⟨-, other, hother, rfl, rfl⟩
        cases hother
        rfl

/-- Without a response there is no verdict on the batch, but an error of the connection. -/
theorem judge_eq_http_iff {failure : Failure} :
    judge result = .error (.http failure) ↔ result = .error failure := by
  cases result with
  | error other => simp [judge]
  | ok response =>
    by_cases haccepted : response.status = Coordinator.accepted
    · simp [judge, Coordinator.verdict, haccepted]
    · simp [judge, Coordinator.verdict, haccepted]

end Judge

/-- The first batch is accepted if its request is sent and answered with the status that accepts. -/
theorem judge_exchangeAfter_eq_ok_iff {network : Network} {uri : Url} {timeoutSeconds : Nat}
    {library : Library} (hdocumented : library.Documented) (batch : List Metadata) :
    let exchange := exchangeAfter network uri timeoutSeconds library [] batch
    judge exchange.result = .ok () ↔
      exchange.sent = [batchSubmission uri batch] ∧
        network.status? 0 = some Coordinator.accepted := by
  intro exchange
  have hresult (response : Response) : exchange.result = .ok response ↔
      exchange.sent = [batchSubmission uri batch] ∧ network.response? 0 = some response :=
    result_exchangeAfter_eq_ok_iff hdocumented batch response
  simp only [judge_eq_ok_iff, hresult, Network.status?, Option.map_eq_some_iff, and_assoc,
    exists_and_left]

/-! ## The plain library -/

/-- The plain library keeps to the documentation. -/
theorem Library.documented_plain : Library.plain.Documented where
  refused {options done post result} hsend := by
    simp only [plain] at hsend
    split at hsend
    · cases hsend
    · cases hsend
      exact ⟨_, rfl⟩
  asked {options done post request next} hsend := by
    simp only [plain] at hsend
    split at hsend
    · cases hsend
      rfl
    · cases hsend
  lost {options done post request next} hsend := by
    simp only [plain] at hsend
    split at hsend
    · cases hsend
      exact ⟨_, rfl⟩
    · cases hsend
  unanswered options uri := by
    refine ⟨.unanswered (namedUri uri), fun {done post request next} huri hsend => ?_⟩
    simp only [plain, huri] at hsend
    split at hsend
    · cases hsend
      rfl
    · cases hsend
  answered {options done post request next} hsend {status headers} _ body complete := by
    simp only [plain] at hsend
    split at hsend
    · cases hsend
      rfl
    · cases hsend

/-- The plain library accepts the URLs that it can use. -/
theorem Library.accepts_plain {uri : Url} (h : isUsable uri = true) (options : ClientOptions) :
    Library.plain.Accepts options uri := by
  intro done contentType body
  simp only [plain, h, if_true]
  exact ⟨_, _, rfl⟩

/-- What comes of a post through a client of the plain library. -/
theorem Client.exchange_plain (options : ClientOptions) (network : Network)
    (done : List Exchange) (post : Post) :
    let client : Client := { library := .plain, options }
    client.exchange network done post =
      match isUsable post.uri, network.reply? post.uri (done.flatMap (·.sent)).length with
      | true, some (.answer status _ body complete) =>
        { sent := [post.request], result := .ok { status, text := bodyText? body complete } }
      | true, some .close =>
        { sent := [post.request], result := .error (.unanswered (namedUri post.uri)) }
      | true, none => { sent := [], result := .error (.unanswered (namedUri post.uri)) }
      | false, _ => { sent := [], result := .error (.unusable (namedUri post.uri)) } := by
  intro client
  have hreply (earlier : Nat) :
      network.reply? post.request.uri earlier = network.reply? post.uri earlier := rfl
  unfold exchange client
  simp only [Library.plain]
  cases isUsable post.uri with
  | false => rfl
  | true =>
    simp only [if_true, Conversation.over, hreply]
    cases network.reply? post.uri (done.flatMap (·.sent)).length with
    | none => rfl
    | some reply => cases reply <;> rfl

end Http

end JobImages
