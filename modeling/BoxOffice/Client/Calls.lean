import BoxOffice.Client.Connection
import BoxOffice.Reply

/-! # Calls of a client

Each call of a client from its first atomic step to its last, with no other call in between, and the
listeners at work until none of them can move.
-/

namespace BoxOffice.Client

/-- Break off the listener of a connection if it was told to, or let it read what has arrived, for
    at most so many steps. -/
def runListener (c : Client) (n : ConnectionId) : Nat → Client
  | 0 => c
  | steps + 1 =>
      match c.abortListener n with
      | some c => c
      | none =>
          match c.listenerStep n with
          | some c => c.runListener n steps
          | none => c

/-- Let every listener work until it has to wait. It takes a step for each arrival and one to lower
    the flag. -/
def settle (c : Client) : Client :=
  (List.range c.connections.length).foldl
    (fun c n => c.runListener n ((c.connections[n]?).elim 0 fun x => x.arrivals.length + 1)) c

/-- Connect to an address; the number of the connection. -/
def connect (c : Client) (address : Config.Client) (dial : Dial) :
    Except Error ConnectionId × Client :=
  if !canDial address then (.error (.invalidAddress address.address), c)
  else if c.isConnected then (.error .alreadyConnected, c)
  else
    match dial with
    | .failed cause => (.error (.transport cause), c)
    | .accepted =>
        let (n, c) := c.attach
        (.ok n, ((c.setFlag true).startListener n).adopt n)

/-- What is said of a send on a connection that has ended. -/
def sendFailed : Error := .transport "Connection closed normally"

/-- Send a frame; the number of the connection it went out on. -/
def send (c : Client) (frame : Text) : Except Error ConnectionId × Client :=
  if !c.isConnected then (.error .notConnected, c)
  else
    match c.writer with
    | none => (.error .notConnected, c)
    | some n =>
        match c.transmit n frame with
        | (true, c) => (.ok n, c)
        | (false, c) => (.error sendFailed, c.setFlag false)

/-- The frame that asks for a snapshot. -/
def dataRequest : Text := "get_data"

/-- Send a request for seats. Nothing is checked before it is sent. -/
def book (c : Client) (request : BoxOffice.Request) : Except Error ConnectionId × Client :=
  c.send request.print

/-- Disconnect; the number of the connection that was closed. The listener is given time to see the
    connection end, and is broken off otherwise. -/
def disconnect (c : Client) : Option ConnectionId × Client :=
  let (writer, c) := c.takeWriter
  let c := c.setFlag false
  let c := match writer with
    | some n => (c.close n).arrive n .close
    | none => c
  let (listener, c) := c.settle.takeListener
  (writer, match listener with
    | some n => (c.askAbort n).settle
    | none => c)

end BoxOffice.Client
