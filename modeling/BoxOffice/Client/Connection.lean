import BoxOffice.Client.Received
import BoxOffice.Config.Client
import BoxOffice.Request

/-! # The client and its connections

A client is shared by its callers and by the listeners it has started, one for each connection. Its
flag says whether it takes itself for connected. Everything that happens is made of the atomic steps
below: a step is what happens between two moments at which another caller or a listener may come in
between.
-/

namespace BoxOffice

namespace Client

/-- Connections are numbered in the order in which they were made. -/
abbrev ConnectionId := Nat

/-- What arrives on a connection. -/
inductive Arrival where
  | text (frame : Text)
  /-- A binary frame, a ping or a pong. -/
  | other
  | close
  /-- Reading failed, or the stream ended. -/
  | failure
  deriving Repr, DecidableEq

/-- Where a listener stands. -/
inductive Listener where
  /-- Not yet started. -/
  | unstarted
  /-- Waiting for the next arrival. -/
  | reading
  /-- It reads no more and is to lower the flag. -/
  | leaving
  /-- It has lowered the flag. -/
  | stopped
  /-- It was broken off while it waited. -/
  | aborted
  deriving Repr, DecidableEq

structure Connection where
  /-- Neither side has closed it, and nothing has failed on it. -/
  isLive : Bool
  /-- What has arrived and is not read yet, oldest first. -/
  arrivals : List Arrival
  /-- The frames sent to the server, oldest first. -/
  sent : List Text
  listener : Listener
  /-- Whether the listener has been told to break off. -/
  abortAsked : Bool
  deriving Repr, DecidableEq

def Connection.fresh : Connection := ⟨true, [], [], .unstarted, false⟩

/-- Why a client does not do what it is asked to. -/
inductive Error where
  | invalidAddress (address : Text)
  | alreadyConnected
  | notConnected
  /-- The transport failed, and what it says. -/
  | transport (cause : Text)
  deriving Repr, DecidableEq

def Error.message : Error → Text
  | .invalidAddress address => "Invalid server address: " ++ address
  | .alreadyConnected => "Already connected to server"
  | .notConnected => "Not connected to server"
  | .transport cause => "WebSocket error: " ++ cause

inductive Dial where
  | accepted
  | failed (cause : Text)
  deriving Repr, DecidableEq

end Client

structure Client where
  received : Client.Received
  /-- The flag. -/
  isConnected : Bool
  /-- The connection whose writing end is in the writer slot. -/
  writer : Option Client.ConnectionId
  /-- The connection whose listener is in the listener slot. -/
  listener : Option Client.ConnectionId
  connections : List Client.Connection
  deriving Repr, DecidableEq

namespace Client

/-- A client that has never been connected. -/
def fresh : Client := ⟨.nothing, false, none, none, []⟩

def update (c : Client) (n : ConnectionId) (change : Connection → Connection) : Client :=
  { c with connections := c.connections.modify n change }

/-- Whether an address can be dialled: the host is not blank and the port fits 16 bits. -/
def canDial (address : Config.Client) : Bool :=
  !address.host.trim.isEmpty && (Text.unsigned? 65535 address.port).isSome

/-! ## Steps of a connect -/

/-- Put the writing end of a new connection into the slot. -/
def attach (c : Client) : ConnectionId × Client :=
  (c.connections.length,
    { c with writer := some c.connections.length, connections := c.connections ++ [.fresh] })

def setFlag (c : Client) (isConnected : Bool) : Client := { c with isConnected }

def startListener (c : Client) (n : ConnectionId) : Client :=
  c.update n fun connection => { connection with listener := .reading }

def askAbort (c : Client) (n : ConnectionId) : Client :=
  c.update n fun connection => { connection with abortAsked := true }

/-- Put a listener into the slot; the one that was there is told to break off. -/
def adopt (c : Client) (n : ConnectionId) : Client :=
  let c' := match c.listener with
    | some previous => c.askAbort previous
    | none => c
  { c' with listener := some n }

/-! ## Steps of a send -/

/-- Send a frame on a connection, and whether it went out. -/
def transmit (c : Client) (n : ConnectionId) (frame : Text) : Bool × Client :=
  if (c.connections[n]?).any (·.isLive) then
    (true, c.update n fun connection => { connection with sent := connection.sent ++ [frame] })
  else (false, c)

/-! ## Steps of a disconnect -/

def takeWriter (c : Client) : Option ConnectionId × Client := (c.writer, { c with writer := none })

def takeListener (c : Client) : Option ConnectionId × Client :=
  (c.listener, { c with listener := none })

/-- Close a connection from this side. -/
def close (c : Client) (n : ConnectionId) : Client :=
  c.update n fun connection => { connection with isLive := false }

/-! ## Steps from outside -/

/-- Let something arrive on a connection. One that is closed or has failed is no longer live. -/
def arrive (c : Client) (n : ConnectionId) (arrival : Arrival) : Client :=
  c.update n fun connection =>
    { connection with
      arrivals := connection.arrivals ++ [arrival]
      isLive := connection.isLive && arrival ≠ .close && arrival ≠ .failure }

/-! ## Steps of a listener -/

/-- Read the next arrival or lower the flag; none if the listener waits or is at its end. -/
def listenerStep (c : Client) (n : ConnectionId) : Option Client := do
  let connection ← c.connections[n]?
  match connection.listener with
  | .reading =>
      match connection.arrivals with
      | [] => none
      | arrival :: rest =>
          let read := c.update n fun connection => { connection with arrivals := rest }
          match arrival with
          | .text frame => some { read with received := read.received.take frame }
          | .other => some read
          | .close | .failure =>
              some (read.update n fun connection => { connection with listener := .leaving })
  | .leaving =>
      some ((c.setFlag false).update n fun connection => { connection with listener := .stopped })
  | .unstarted | .stopped | .aborted => none

/-- Break off a listener that was told to and waits; none if it was not, or cannot any more. -/
def abortListener (c : Client) (n : ConnectionId) : Option Client := do
  let connection ← c.connections[n]?
  if connection.abortAsked && connection.listener = .reading then
    some (c.update n fun connection => { connection with listener := .aborted })
  else none

end Client

end BoxOffice
