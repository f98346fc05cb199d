import BoxOffice.Web.Endpoint

/-! # Asking for a session

A connection is turned into a session if its request asks for that properly. What makes a request
proper is up to the transport; these are its rules, in the order in which it checks them.
-/

namespace BoxOffice.Web

/-- What is wrong with a request for a session. -/
inductive HandshakeError where
  | method
  | connection
  | upgrade
  | version
  | key
  /-- The connection that carried the request cannot be turned into a session. -/
  | transport
  deriving Repr, DecidableEq

/-- How such a request is turned away. -/
def HandshakeError.response : HandshakeError → Response
  | .method => .ofText 405 "Request method must be `GET`"
  | .connection => .ofText 400 "Connection header did not include 'upgrade'"
  | .upgrade => .ofText 400 "`Upgrade` header did not include 'websocket'"
  | .version => .ofText 400 "`Sec-WebSocket-Version` header did not include '13'"
  | .key => .ofText 400 "`Sec-WebSocket-Key` header missing"
  | .transport =>
      .ofText 426 "WebSocket request couldn't be upgraded since no upgrade state was present"

/-- The first thing that is wrong with a request for a session. -/
def Request.handshakeError? (r : Request) (upgradable : Bool) : Option HandshakeError :=
  if r.method ≠ "GET".toList then some .method
  else if !(r.header? "connection").any fun value => (lowerAscii value).has "upgrade" then
    some .connection
  else if !r.headerIs "upgrade" "websocket" then some .upgrade
  else if !r.headerIs "sec-websocket-version" "13" then some .version
  else if (r.header? "sec-websocket-key").isNone then some .key
  else if !upgradable then some .transport
  else none

def Request.upgrade (r : Request) (upgradable : Bool) : Except Response Unit :=
  match r.handshakeError? upgradable with
  | some error => .error error.response
  | none => .ok ()

def Service.respond (s : Service) (upgradable : Bool) (r : Request) : Response :=
  s.serve (r.upgrade upgradable) r

/-- A request for a session that has everything it needs. -/
def Request.forSession (path : Text) : Request :=
  { method := "GET", path
    headers := [("connection".toList, "Upgrade".toList), ("upgrade".toList, "websocket".toList),
      ("sec-websocket-version".toList, "13".toList), ("sec-websocket-key".toList, "key".toList)] }

theorem Request.upgrade_forSession (path : Text) : (forSession path).upgrade true = .ok () := rfl

end BoxOffice.Web
