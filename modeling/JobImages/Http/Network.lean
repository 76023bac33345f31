import JobImages.Coordinator

/-!
# Networks

What becomes of a request is up to the network: it may not reach any server, and if it does, the
server answers the requests in turn, or gives no answer.

## Main definitions

* `Network` — who answers, and what;
* `Network.reply?` — what a request meets with.
-/

namespace JobImages

/-- What a server does with a request. -/
inductive Network.Reply where
  /-- It answers with a status, headers and a body; the connection, or the time that the client
  allows, may end within the body. -/
  | answer (status : Nat) (headers : List (String × String)) (body : List UInt8) (complete : Bool)
  /-- It closes the connection, or says nothing for as long as the client waits. -/
  | close

/-- What requests meet with. -/
inductive Network where
  /-- No server can be reached. -/
  | unreachable
  /-- A server does with each request what the list says, and accepts those after it. -/
  | replies (list : List Network.Reply)

/-- The scheme that needs no encryption, of which this network has none. -/
def Http.plainScheme : String := "http"

namespace Network

/-- What a server that has a list of replies does with a request that follows `earlier` others. -/
def Reply.after (replies : List Reply) (earlier : Nat) : Reply :=
  replies[earlier]?.getD (.answer Coordinator.accepted [] [] true)

/-- Whether requests to a URL reach a server.  An encrypted connection fails before the request, so
that the server never sees it. -/
def reaches (network : Network) (uri : Url) : Bool :=
  match network with
  | .unreachable => false
  | .replies _ => uri.schemeName == Http.plainScheme

/-- What the server does with a request that follows `earlier` others. -/
def reply (network : Network) (earlier : Nat) : Reply :=
  match network with
  | .unreachable => .close
  | .replies list => .after list earlier

/-- What a request to a URL meets with that follows `earlier` others, if it reaches a server. -/
def reply? (network : Network) (uri : Url) (earlier : Nat) : Option Reply :=
  if network.reaches uri then some (network.reply earlier) else none

end Network

end JobImages
