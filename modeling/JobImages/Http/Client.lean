import JobImages.Http.Library

/-!
# Coordinators reached by HTTP

A batch is sent as the body of one POST request to the configured URL, by a client that is made for
the run and follows no redirections.  The status of the answer decides; a body is read only if it
does not accept the batch, and only to say why.

## Main definitions

* `Http.Client` — a client of a library;
* `Http.Client.exchange`, `Http.Client.exchanges` — what comes of posts through one client;
* `Http.clientFor`, `Http.created` — the client of a coordinator, and whether it can be made;
* `Http.coordinator` — the coordinator behind a URL.
-/

namespace JobImages.Http

/-- A client of a library, with the options with which it was made. -/
structure Client where
  /-- The library. -/
  library : Library
  /-- The options. -/
  options : ClientOptions

namespace Client

/-- What comes of a post, after what came of others through the same client. -/
def exchange (client : Client) (network : Network) (done : List Exchange) (post : Post) :
    Exchange :=
  (client.library.send client.options done post).over network (done.flatMap (·.sent)).length

/-- What comes of posts, one after the other. -/
def exchanges (client : Client) (network : Network) (posts : List Post) : List Exchange :=
  posts.foldl (fun done post => done ++ [client.exchange network done post]) []

end Client

/-- The options of a coordinator's client. -/
def clientOptions (timeoutSeconds : Nat) : ClientOptions :=
  { timeoutSeconds, redirects := .none }

/-- The client of a coordinator. -/
def clientFor (timeoutSeconds : Nat) (library : Library) : Client :=
  { library, options := clientOptions timeoutSeconds }

/-- Whether the client of a coordinator can be made. -/
def created (timeoutSeconds : Nat) (library : Library) : Except Error Unit :=
  (library.create (clientOptions timeoutSeconds)).mapError fun reason =>
    .settings (.clientFailed reason)

/-- The post that submits a batch. -/
def post (uri : Url) (batch : List Metadata) : Post :=
  { uri, contentType := "application/json", body := Metadata.printBatch batch }

/-- What a remark says a batch is sent to, and how large it is. -/
def submissionFields (uri : Url) (batch : List Metadata) : List (String × String) :=
  [("uri", uri.print), ("jobs", toString batch.length)]

/-- The remark before a request. -/
def posting (uri : Url) (batch : List Metadata) : Log.Record :=
  { source := .coordinator
    level := .debug
    message := "posting job metadata"
    fields := submissionFields uri batch }

/-- The remark after a batch is accepted. -/
def accepting (uri : Url) (batch : List Metadata) : Log.Record :=
  { source := .coordinator
    level := .info
    message := "coordinator accepted job metadata"
    fields := submissionFields uri batch }

/-- The body of a response, as it is reported. -/
def Response.body (response : Response) : String :=
  response.text.getD "<unreadable body>"

/-- What an exchange means for the batch that was posted. -/
def judge : Except Failure Response → Except Error Unit
  | .ok response => Coordinator.verdict response.status response.body
  | .error failure => .error (.http failure)

/-- What is seen of an exchange, and how it ends. -/
def conclude (uri : Url) (batch : List Metadata) (exchange : Exchange) : Answer :=
  let remarks : List Effect :=
    match judge exchange.result with
    | .ok () => [.logged (accepting uri batch)]
    | .error _ => []
  { effects := exchange.sent.map .sent ++ remarks, result := judge exchange.result }

/-- The coordinator behind a URL, reached through one client. -/
def coordinator (network : Network) (uri : Url) (timeoutSeconds : Nat := 30)
    (library : Library := .plain) : Coordinator where
  respond earlier batch :=
    let client := clientFor timeoutSeconds library
    let done := client.exchanges network (earlier.map (post uri))
    let announced : List Effect :=
      [.printed ("making req with body " ++ Metadata.printBatch batch), .logged (posting uri batch)]
    let answer := conclude uri batch (client.exchange network done (post uri batch))
    { answer with effects := announced ++ answer.effects }

end JobImages.Http
