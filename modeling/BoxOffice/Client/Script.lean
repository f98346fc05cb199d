import BoxOffice.Client.Calls
import BoxOffice.Network

/-! # Scripts of a client

A script drives a client and the server it talks to. The server here does only what the script says.
-/

namespace BoxOffice.Client

inductive Step where
  /-- Connect to the scripted server. -/
  | connect
  /-- Connect to another address, where nobody but the scripted server answers. -/
  | connectTo (address : Config.Client)
  /-- Connect to a server that turns everyone away. -/
  | connectInVain
  /-- The server sends frames. -/
  | push (frames : List Text)
  /-- The server sends a frame that is not text. -/
  | pushOther
  | send (frame : Text)
  | requestData
  | book (request : BoxOffice.Request)
  | disconnect
  /-- The server closes the connection. -/
  | serverCloses
  /-- The server is gone. -/
  | serverDrops
  deriving Repr, DecidableEq

inductive Outcome where
  | connected
  | failed (error : Error)
  /-- What a send came to, and the frame the server got. -/
  | sent (error : Option Error) (frame : Option Text)
  /-- Whether the server saw the connection close. -/
  | disconnected (serverSaw : Bool)
  | done
  deriving Repr, DecidableEq

/-- What can be seen of a client after a step. -/
structure Report where
  outcome : Outcome
  isConnected : Bool
  received : Received
  deriving Repr, DecidableEq

/-- A step that needs the server, while the client has no connection to it. -/
inductive ScriptError where
  | noServer
  deriving Repr, DecidableEq

def ScriptError.message : ScriptError → Text
  | .noServer => "no peer"

/-- A client, the network it is in, and its connection to the scripted server. -/
structure Play where
  network : Network
  client : Client
  server : Option ConnectionId
  deriving Repr, DecidableEq

namespace Play

def serverAddress : Config.Client := ⟨"127.0.0.1", "8080"⟩

def dial : Network → Dial
  | .routed => .accepted
  | .cut cause => .failed cause

/-- Try to connect; the connection becomes that to the scripted server. -/
def connect (p : Play) (address : Config.Client) (dial : Dial) : Outcome × Play :=
  match p.client.connect address dial with
  | (.ok n, client) => (.connected, { p with client, server := some n })
  | (.error error, client) => (.failed error, { p with client })

/-- Let something arrive from the scripted server. -/
def arrive (p : Play) (arrivals : List Arrival) : Except ScriptError (Outcome × Play) :=
  match p.server with
  | none => .error .noServer
  | some n =>
      let client := arrivals.foldl (fun c arrival => c.arrive n arrival) p.client
      .ok (.done, { p with client })

def send (p : Play) (frame : Text) : Outcome × Play :=
  match p.client.send frame with
  | (.ok _, client) => (.sent none (some frame), { p with client })
  | (.error error, client) => (.sent (some error) none, { p with client })

def perform (p : Play) : Step → Except ScriptError (Outcome × Play)
  | .connect => .ok (p.connect serverAddress (dial p.network))
  | .connectTo address => .ok (p.connect address (dial p.network))
  | .connectInVain => .ok (p.connect serverAddress (.failed "HTTP error: 503 Service Unavailable"))
  | .push frames => p.arrive (frames.map .text)
  | .pushOther => p.arrive [.other]
  | .send frame => .ok (p.send frame)
  | .requestData => .ok (p.send dataRequest)
  | .book request => .ok (p.send request.print)
  | .disconnect =>
      let (_, client) := p.client.disconnect
      .ok (.disconnected p.server.isSome, { p with client, server := none })
  | .serverCloses =>
      (p.arrive [.close]).map fun (outcome, p) => (outcome, { p with server := none })
  | .serverDrops =>
      (p.arrive [.failure]).map fun (outcome, p) => (outcome, { p with server := none })

def run (p : Play) : List Step → Except ScriptError (List Report)
  | [] => .ok []
  | step :: rest => do
      let (outcome, p) ← p.perform step
      let p := { p with client := p.client.settle }
      let reports ← p.run rest
      return ⟨outcome, p.client.isConnected, p.client.received⟩ :: reports

end Play

def runScript (network : Network) (script : List Step) : Except ScriptError (List Report) :=
  Play.run ⟨network, .fresh, none⟩ script

end BoxOffice.Client
