import JobImages.Http.Network
import JobImages.Text.Base64
import JobImages.Text.Lossy

/-!
# Libraries that send requests

A program leaves the sending of requests to a library.  It has the library make a client, with some
options, and hands its posts to the client.  What a client does with a post is a conversation: it
sends requests, goes on with what becomes of each, and comes to a result in the end.  What it does
may depend on all that came of the posts before.

Nothing is known of a library but what its documentation says, which is little: a post is sent as it
was asked for, an answer is the response unless it is a redirection that the client may follow, and
there is no response without an answer.

## Main definitions

* `Http.Post`, `Http.ClientOptions`, `Http.Response` — what a client is given, and what it gives;
* `Http.Conversation`, `Http.Conversation.over` — what a client does, and what comes of it;
* `Http.Library`, `Http.Library.Documented` — a library, and what is known of it;
* `Http.Library.plain` — a library whose clients follow no redirections.
-/

namespace JobImages.Http

/-! ## Posts -/

/-- What a program asks a client to send. -/
structure Post where
  /-- The URL as it is configured. -/
  uri : Url
  /-- The type of the body. -/
  contentType : String
  /-- The body. -/
  body : String

/-- The user name and the password in a URL, if they can be used as a login: the user name has to
be text, a password that is not text is left out, and one of them has to be given. -/
def credentials? (uri : Url) : Option (String × Option String) :=
  match uri.authority with
  | none => none
  | some authority =>
    match Url.decodeText? authority.username with
    | none => none
    | some username =>
      let password :=
        if authority.password.isEmpty then none else Url.decodeText? authority.password
      if username.isEmpty && password.isNone then none else some (username, password)

/-- The authorization with a user name and a password. -/
def authorization (username : String) (password : Option String) : String :=
  let login := username ++ ":" ++ password.getD ""
  "Basic " ++ String.ofList (Text.base64 (Text.toBytes login))

/-- The request that a post asks for: user name and password of the URL go into the authorization,
and the fragment goes nowhere. -/
def Post.request (post : Post) : Request :=
  { method := "POST"
    uri := post.uri.target
    contentType := post.contentType
    authorization := (credentials? post.uri).map fun login => authorization login.1 login.2
    body := post.body }

/-! ## Clients -/

/-- What a client does with an answer that points elsewhere. -/
inductive Redirects where
  /-- It takes the answer as it is. -/
  | none
  /-- It goes there, so many times at most. -/
  | limited (count : Nat)
  deriving DecidableEq

/-- What a client is made with. -/
structure ClientOptions where
  /-- How many seconds it waits for an answer. -/
  timeoutSeconds : Nat
  /-- What it does with redirections. -/
  redirects : Redirects
  deriving DecidableEq

/-- What a client gives back. -/
structure Response where
  /-- The status. -/
  status : Nat
  /-- The body as text, if it can be read to its end. -/
  text : Option String
  deriving DecidableEq

/-- What a client does with a post. -/
inductive Conversation where
  /-- It is done. -/
  | done (result : Except Failure Response)
  /-- It makes a request and goes on with what that meets with, if it reaches a server. -/
  | ask (request : Request) (next : Option Network.Reply → Conversation)

/-- What came of a post. -/
structure Exchange where
  /-- The requests that reached a server, in order. -/
  sent : List Request
  /-- The response, or why there is none. -/
  result : Except Failure Response

/-- What comes of a conversation over a network whose server has seen `earlier` requests. -/
def Conversation.over (network : Network) : Conversation → Nat → Exchange
  | .done result, _ => { sent := [], result }
  | .ask request next, earlier =>
    match network.reply? request.uri earlier with
    | none => (next none).over network earlier
    | some reply =>
      let rest := (next (some reply)).over network (earlier + 1)
      { rest with sent := request :: rest.sent }

/-- A library that sends requests. -/
structure Library where
  /-- Makes a client, or says why it cannot. -/
  create : ClientOptions → Except String Unit
  /-- What a client does with a post, after what came of others. -/
  send : ClientOptions → List Exchange → Post → Conversation

/-! ## What is known of a library -/

/-- The text of a body, unless that is cut short. -/
def bodyText? (body : List UInt8) (complete : Bool) : Option String :=
  if complete then some (Text.ofBytesLossy body) else none

/-- Whether an answer points elsewhere: it has the status of a redirection and says where to go. -/
def isRedirection (status : Nat) (headers : List (String × String)) : Bool :=
  [301, 302, 303, 307, 308].contains status &&
    headers.any fun header => header.1.toList.map Char.toLower == "location".toList

/-- What the documentation of a library says. -/
structure Library.Documented (library : Library) : Prop where
  /-- A post that is not sent gets no response. -/
  refused {options : ClientOptions} {done : List Exchange} {post : Post}
    {result : Except Failure Response} (hsend : library.send options done post = .done result) :
    ∃ failure, result = .error failure
  /-- What is sent first is the request that the post asks for. -/
  asked {options : ClientOptions} {done : List Exchange} {post : Post} {request : Request}
    {next : Option Network.Reply → Conversation}
    (hsend : library.send options done post = .ask request next) : request = post.request
  /-- A request that reaches nobody gets no response. -/
  lost {options : ClientOptions} {done : List Exchange} {post : Post} {request : Request}
    {next : Option Network.Reply → Conversation}
    (hsend : library.send options done post = .ask request next) :
    ∃ failure, next none = .done (.error failure)
  /-- A request that is not answered within the client's time gets no response, and is not made
  again.  The failure names the URL and depends on nothing else. -/
  unanswered (options : ClientOptions) (uri : Url) :
    ∃ failure, ∀ {done : List Exchange} {post : Post} {request : Request}
      {next : Option Network.Reply → Conversation}, post.uri = uri →
      library.send options done post = .ask request next →
        next (some .close) = .done (.error failure)
  /-- An answer is the response, if it is no redirection or the client follows none. -/
  answered {options : ClientOptions} {done : List Exchange} {post : Post} {request : Request}
    {next : Option Network.Reply → Conversation}
    (hsend : library.send options done post = .ask request next) {status : Nat}
    {headers : List (String × String)}
    (hfinal : options.redirects = .none ∨ isRedirection status headers = false)
    (body : List UInt8) (complete : Bool) :
    next (some (.answer status headers body complete)) =
      .done (.ok { status, text := bodyText? body complete })

/-- The clients that are made with some options send posts to a URL, and do not refuse them at
once. -/
def Library.Accepts (library : Library) (options : ClientOptions) (uri : Url) : Prop :=
  ∀ done contentType body, ∃ request next,
    library.send options done { uri, contentType, body } = .ask request next

/-! ## A plain library -/

/-- The URL as it is named in a failure: a login is taken out. -/
def namedUri (uri : Url) : Url :=
  if (credentials? uri).isSome then uri.withoutUserInfo else uri

/-- The characters of domain names that no request can be addressed to. -/
def unusableCharacters : List Char := ['"', '`', '\x7b', '\x7d']

/-- Whether a request can be made to a URL. -/
def isUsable (uri : Url) : Bool :=
  match uri.authority with
  | some authority =>
    uri.isHttp && !authority.host.write.any unusableCharacters.contains
  | none => false

/-- A library whose clients follow no redirections, whatever their options say. -/
def Library.plain : Library where
  create _ := .ok ()
  send _ _ post :=
    if isUsable post.uri then
      .ask post.request fun
        | some (.answer status _ body complete) =>
          .done (.ok { status, text := bodyText? body complete })
        | _ => .done (.error (.unanswered (namedUri post.uri)))
    else .done (.error (.unusable (namedUri post.uri)))

end JobImages.Http
