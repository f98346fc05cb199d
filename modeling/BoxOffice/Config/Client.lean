import BoxOffice.Config.Environment
import BoxOffice.Json.Reader

/-! # Settings of a client -/

namespace BoxOffice.Config

/-- Where a client finds its server. Neither part is checked before a connection is made. -/
structure Client where
  host : Text
  port : Text
  deriving Repr, DecidableEq

namespace Client

def default : Client := ⟨"localhost", "8080"⟩

def ofEnvironment (env : Environment) : Client :=
  { host := (env.text? "SERVER_HOST").getD default.host
    port := (env.text? "SERVER_PORT").getD default.port }

/-- The address as it is written by people. -/
def address (c : Client) : Text := c.host ++ [':'] ++ c.port

/-- The address as it is given to the transport. -/
def url (c : Client) : Text := "ws://" ++ c.address ++ ['/']

def print (c : Client) : Text :=
  Json.printObject [("host", Json.quote c.host), ("port", Json.quote c.port)]

def parse? (text : Text) : Option Client := do
  let document ← Json.parse text
  match ← document.toRecord? ["host", "port"] with
  | [host, port] => return { host := ← host.toText?, port := ← port.toText? }
  | _ => none

end Client

end BoxOffice.Config
