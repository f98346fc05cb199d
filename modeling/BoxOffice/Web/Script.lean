import BoxOffice.Network
import BoxOffice.Web.Socket
import BoxOffice.Web.Upgrade

/-! # Scripts of a server

A script drives a server with its customers over a network, and shuts the server down at the end.
-/

namespace BoxOffice.Web

/-- Customers are told apart by a key that the script chooses. -/
abbrev Key := Nat

inductive Step where
  /-- Ask for a session at a target. -/
  | connect (key : Key) (target : Text)
  /-- Send something, or go away. -/
  | arrive (key : Key) (arrival : Arrival)
  deriving Repr, DecidableEq

/-- What is seen after a step: the response to a request for a session, the frames that each
    customer was sent because of it, how many sessions are registered, and the booked seats. -/
structure Report where
  response : Option Response
  frames : List (Key × List Text)
  registered : Nat
  booked : List (List SeatNumber)
  deriving Repr, DecidableEq

/-- Why a script cannot go on. -/
inductive ScriptError where
  /-- The target is written wrongly. -/
  | target (error : TargetError)
  /-- The server cannot be reached. -/
  | unreachable (cause : Text)
  /-- The customer has no connection. -/
  | noCustomer
  deriving Repr, DecidableEq

def ScriptError.message : ScriptError → Text
  | .target error => "HTTP format error: " ++ error.message
  | .unreachable cause => cause
  | .noCustomer => "no client"

/-- A server, the network it is in, and the sessions of its customers with the number of frames that
    have been reported. -/
structure Play where
  network : Network
  hub : Hub
  customers : List (Key × SessionId × Nat)
  deriving Repr, DecidableEq

namespace Play

/-- The frames each customer was sent since the last look. -/
def look (p : Play) : List (Key × List Text) × Play :=
  let written (id : SessionId) := ((p.hub.session? id).map (·.written)).getD []
  (p.customers.map fun (key, id, seen) => (key, (written id).drop seen),
    { p with customers := p.customers.map fun (key, id, _) => (key, id, (written id).length) })

def serverAddress : Text := "ws://127.0.0.1:8080"

def perform (p : Play) : Step → Except ScriptError (Option Response × Play)
  | .connect key target =>
      match p.network, Target.path (serverAddress ++ target) with
      | _, .error error => .error (.target error)
      | .cut cause, .ok _ => .error (.unreachable cause)
      | .routed, .ok path =>
          let response := Service.respond ⟨p.hub, none⟩ true (.forSession path)
          if response.status = 101 then
            match p.hub.connect ⟨none, false, false⟩ true with
            | (.ok id, hub) =>
                .ok (some response, { p with hub, customers := p.customers ++ [(key, id, 0)] })
            | (.error _, hub) => .ok (some response, { p with hub })
          else .ok (some response, p)
  | .arrive key arrival =>
      match p.customers.lookup key with
      | none => .error .noCustomer
      | some (id, _) =>
          match handle p.hub id arrival with
          | (true, hub) => .ok (none, { p with hub })
          | (false, hub) =>
              let customers := p.customers.filter fun (other, _) => other ≠ key
              .ok (none, { p with hub, customers })

def run (p : Play) : List Step → Except ScriptError (List Report × Play)
  | [] => .ok ([], p)
  | step :: rest => do
      let (response, p) ← p.perform step
      let (frames, p) := { p with hub := p.hub.settle }.look
      let (reports, q) ← p.run rest
      return (⟨response, frames, p.hub.registry.length, p.hub.programme.booked⟩ :: reports, q)

/-- Shut the server down; the frames that each customer is sent on the way. -/
def shutDown (p : Play) : List (Key × List Text) × Play :=
  { p with hub := p.hub.closeAll.2.settle }.look

end Play

end BoxOffice.Web
