import BoxOffice.Proofs.AllOrNothing
import BoxOffice.Proofs.Trail
import BoxOffice.Proofs.Undisturbed
import Mathlib.Algebra.Ring.Nat

/-! # The counters

What happens and what is counted are two things. A booking is decided at one moment and counted at a
later one, when its answer is composed; a session is out of the registry before it is counted out.
Who is to count it owes the count in between. What is counted and what is owed add up to what has
happened, after every event (`ledger_of_run`, `Settled`), so where nobody owes anything the counters
say what has happened (`conserved`).
-/

namespace BoxOffice

/-! ## What became of a booking -/

namespace Programme

theorem Books.isOk_iff {p q : Programme} {message : Text} {result : Except Refusal Request}
    (h : p.Books message result q) : result.isOk = true ↔ q ≠ p := by
  cases h with
  | unread | noShow | taken => simp [Except.isOk, Except.toBool]
  | granted read found here free =>
      have changed := (sold_of_allFree read found here free).ne
      simp [Except.isOk, Except.toBool, changed]

theorem any_isOk_decide (p : Programme) (message : Text) :
    (p.decide message).1.any (·.isOk) = ((p.decide message).2 != p) := by
  by_cases comma : ',' ∈ message
  · rw [decide_of_comma comma, Option.any_some, Bool.eq_iff_iff, (p.books message).isOk_iff,
      bne_iff_ne]
  · simp [decide_of_plain comma]

theorem any_not_isOk_decide (p : Programme) (message : Text) :
    (p.decide message).1.any (!·.isOk) = (message.contains ',' && (p.decide message).2 == p) := by
  by_cases comma : ',' ∈ message
  · have granted := (p.books message).isOk_iff
    rw [decide_of_comma comma, Option.any_some, List.contains_iff_mem.mpr comma, Bool.true_and,
      Bool.eq_iff_iff, Bool.not_eq_true', beq_iff_eq, ← Bool.not_eq_true, granted, not_not]
  · simp [decide_of_plain comma, comma]

end Programme

theorem Reply.bookingResult?_compose (message : Text) (result : Option (Except Refusal Request))
    (seen : Programme) :
    bookingResult? (compose message result seen).text = result.map (·.isOk) := by
  cases result with
  | some result => exact bookingResult?_ofBooking result seen
  | none =>
      simp only [compose]
      split
      · exact bookingResult?_snapshot seen
      · exact bookingResult?_echo message seen

/-- Whether a writer has left the registry and is to count its session out. -/
def Session.Writer.isTelling : Writer → Bool
  | .telling .. => true
  | _ => false

/-- Whether a writer ends, or has ended, on a failed write. -/
def Session.Writer.hasFailed (writer : Writer) : Bool := writer.ending? = some .failed

theorem Session.Writes.writing_of_fails {s next : Session} {canStillCome : Bool}
    (writes : s.Writes canStillCome next) (fails : next.writer = .closingQueue .failed) :
    ∃ frame, s.writer = .writing frame := by
  cases writes with
  | fail stand => exact ⟨_, stand⟩
  | take | drain | write | close | stop => cases fails

/-! ## What calls count -/

/-- A counter of what calls have done. -/
inductive Tally.Column where
  | dispatches
  | granted
  | refused
  | broadcasts
  | recipients
  deriving Repr, DecidableEq

def Tally.entry (t : Tally) : Column → Nat
  | .dispatches => t.dispatches
  | .granted => t.granted
  | .refused => t.refused
  | .broadcasts => t.broadcasts
  | .recipients => t.recipients

namespace Hub

open Tally (Column)

/-- What an inbound call has still to count. The announcement of a booking is owed as soon as the
    seats are reserved. -/
def Service.owes : Service → Column → Nat
  | .lookedUp, .dispatches | .answering .., .dispatches => 1
  | .answering result _, .granted | .answering result _, .broadcasts => (result.any (·.isOk)).toNat
  | .answering result _, .refused => (result.any (!·.isOk)).toNat
  | .answered reply, .broadcasts => reply.announce.toNat
  | .announcing .., .broadcasts | .onRound .., .broadcasts => 1
  | .onRound _ _ round, .recipients => round.reached.length
  | _, _ => 0

def Errand.owes : Errand → Column → Nat
  | .inbound _ _ service, c => service.owes c
  | .broadcasting _, .broadcasts | .crying _, .broadcasts => 1
  | .crying round, .recipients => round.reached.length
  | _, _ => 0

/-- How many sessions a call has removed and not yet counted out. -/
def Errand.uncounted : Errand → Nat
  | .disconnecting .. => 1
  | .closingAll _ uncounted => uncounted
  | _ => 0

/-- The message that a call is to dispatch in its next step. -/
def Errand.dispatching? : Errand → Option Text
  | .inbound _ message .lookedUp => some message
  | _ => none

def Errand.isOver : Errand → Bool
  | .connected .. | .cried .. | .disconnected .. | .closingAll _ 0 => true
  | .inbound _ _ .unknownSender | .inbound _ _ (.returned _) => true
  | _ => false

theorem sum_set {errands : List Errand} {n : Nat} {d : Errand} (turn : errands[n]? = some d)
    (next : Errand) (weigh : Errand → Nat) :
    ((errands.set n next).map weigh).sum + weigh d = (errands.map weigh).sum + weigh next := by
  obtain ⟨after, before, changed⟩ := exists_cut turn
  rw [changed next]
  conv => enter [2]; rw [before]
  simp only [List.map_append, List.map_cons, List.sum_append, List.sum_cons]
  omega

namespace Foyer

/-! ## What happens -/

/-- Whether an inbound call begins that finds its session. -/
def finds (f : Foyer) : Event → Bool
  | .begin (.inbound sender _) => f.hub.isRegistered sender
  | _ => false

def dispatched? (f : Foyer) : Event → Option Text
  | .proceed n => (f.errands[n]?).bind (·.dispatching?)
  | _ => none

/-- Whether an event dispatches a message that reserves seats. -/
def reserves (f : Foyer) (e : Event) : Bool :=
  (f.dispatched? e).any fun message => (f.hub.programme.decide message).2 != f.hub.programme

/-- Whether an event dispatches a message with a comma that reserves no seat. -/
def declines (f : Foyer) (e : Event) : Bool :=
  (f.dispatched? e).any fun message =>
    message.contains ',' && (f.hub.programme.decide message).2 == f.hub.programme

def Event.isBroadcast : Event → Bool
  | .begin (.broadcast _) => true
  | _ => false

def spreads (f : Foyer) (e : Event) : Bool :=
  (f.offer? e).any fun o => o.taken && (f.errands[o.call]?).any (·.isOnRound)

/-- How often it is so in a run, as long as the events can happen. -/
def times (f : Foyer) (is : Foyer → Event → Bool) : List Event → Nat
  | [] => 0
  | e :: rest => (is f e).toNat + ((f.step? e).map fun f => f.times is rest).getD 0

/-- What an event adds to what is counted or owed. -/
def due (f : Foyer) (e : Event) : Column → Nat
  | .dispatches => (f.finds e).toNat
  | .granted => (f.reserves e).toNat
  | .refused => (f.declines e).toNat
  | .broadcasts => (f.reserves e).toNat + e.isBroadcast.toNat
  | .recipients => (f.spreads e).toNat

def dues (f : Foyer) (events : List Event) : Column → Nat
  | .dispatches => f.times finds events
  | .granted => f.times reserves events
  | .refused => f.times declines events
  | .broadcasts => f.times reserves events + f.times (fun _ => Event.isBroadcast) events
  | .recipients => f.times spreads events

def owed (f : Foyer) (c : Column) : Nat := (f.errands.map (·.owes c)).sum

variable {f f' : Foyer} {e : Event} {n : Nat} {d next : Errand} {hub : Hub}

theorem times_append (is : Foyer → Event → Bool) {before : List Event}
    (run : f.run? before = some f') (e : Event) :
    f.times is (before ++ [e]) = f.times is before + (is f' e).toNat := by
  induction before generalizing f with
  | nil =>
      rw [runs.nil, Option.some.injEq] at run
      subst run
      cases step : f.step? e <;> simp [times, step]
  | cons d before ih =>
      rw [runs.cons, Option.bind_eq_some_iff] at run
      obtain ⟨between, step, run⟩ := run
      simp only [List.cons_append, times, step, Option.map_some, Option.getD_some, ih run,
        Nat.add_assoc]

theorem dues_append {before : List Event} (run : f.run? before = some f') (e : Event) (c : Column) :
    f.dues (before ++ [e]) c = f.dues before c + f'.due e c := by
  cases c with
  | broadcasts =>
      simp only [dues, due, times_append _ run]
      omega
  | dispatches | granted | refused | recipients => exact times_append _ run e

theorem due_of_quiet (turn : f.errands[n]? = some d) (plain : d.dispatching? = none)
    (quiet : d.isOnRound = false ∨ d.offering? = none) (c : Column) : f.due (.proceed n) c = 0 := by
  have nothing : f.dispatched? (.proceed n) = none := by simp [dispatched?, turn, plain]
  have nobody : f.spreads (.proceed n) = false := by
    apply Bool.eq_false_iff.mpr
    intro spreads
    obtain ⟨o, offered, taken⟩ := (Option.any_eq_true ..).mp spreads
    obtain ⟨proceeds, -, -, here, place, offering⟩ := offer?_eq_some offered
    cases proceeds
    cases turn.symm.trans place
    rcases quiet with off | silent
    · simp [turn, off] at taken
    · rw [silent] at offering
      cases offering
  cases c with
  | dispatches => rfl
  | granted | refused => simp [due, reserves, declines, nothing]
  | broadcasts => simp [due, reserves, nothing, Event.isBroadcast]
  | recipients => simp [due, nobody]

theorem due_of_dispatch {sender : SessionId} {message : Text}
    (turn : f.errands[n]? = some (.inbound sender message .lookedUp)) (c : Column) :
    f.due (.proceed n) c + Service.owes .lookedUp c =
      Service.owes (.answering (f.hub.programme.decide message).1
        (.begin (f.hub.programme.decide message).2)) c := by
  have dispatched : f.dispatched? (.proceed n) = some message := by
    simp [dispatched?, turn, Errand.dispatching?]
  cases c with
  | dispatches => rfl
  | granted =>
      simp only [due, reserves, dispatched, Option.any_some, Service.owes,
        Programme.any_isOk_decide, Nat.add_zero]
  | refused =>
      simp only [due, declines, dispatched, Option.any_some, Service.owes,
        Programme.any_not_isOk_decide, Nat.add_zero]
  | broadcasts =>
      simp only [due, reserves, dispatched, Option.any_some, Service.owes,
        Programme.any_isOk_decide, Event.isBroadcast, Bool.toNat_false, Nat.add_zero]
  | recipients => simp [due, spreads, offer?_of_turn turn rfl, Service.owes]

theorem due_of_round {id : SessionId} {frame : Text} (turn : f.errands[n]? = some d)
    (offering : d.offering? = some (id, frame)) (plain : d.dispatching? = none)
    (onRound : d.isOnRound) (c : Column) :
    f.due (.proceed n) c = if c = .recipients then ((f.hub.offer id frame).1).toNat else 0 := by
  have nothing : f.dispatched? (.proceed n) = none := by simp [dispatched?, turn, plain]
  cases c with
  | dispatches => rfl
  | granted | refused => simp [due, reserves, declines, nothing]
  | broadcasts => simp [due, reserves, nothing, Event.isBroadcast]
  | recipients => simp [due, spreads, offer?_of_offering turn offering, turn, onRound, offer]

theorem due_of_setOut (f : Foyer) (n : Nat) (order : List SessionId) (c : Column) :
    f.due (.setOut n order) c = 0 := by
  cases c <;> rfl

/-! ## One step -/

theorem ledger_of_turn (turn : f.errands[n]? = some d) {c : Column}
    (even : hub.tally.entry c + next.owes c = f.hub.tally.entry c + d.owes c + f.due e c) :
    hub.tally.entry c + owed ⟨hub, f.errands.set n next⟩ c =
      f.hub.tally.entry c + f.owed c + f.due e c := by
  have changed := sum_set turn next (·.owes c)
  simp only [owed]
  omega

/-- Composing an answer counts the dispatch and what came of it; from then on only an
    announcement is owed. -/
theorem entry_countAnswer (h : Hub) (message : Text) (result : Option (Except Refusal Request))
    (seen : Programme) (c : Column) :
    (h.countAnswer (.compose message result seen)).tally.entry c +
        (Service.answered (.compose message result seen)).owes c =
      h.tally.entry c + (Service.answering result ⟨seen, []⟩).owes c := by
  have announce : (Reply.compose message result seen).announce = result.any (·.isOk) := by
    rw [Bool.eq_iff_iff, Reply.announce_compose]
    rcases result with _ | (refusal | request) <;> simp [Except.isOk, Except.toBool]
  rcases result with _ | (refusal | request) <;> cases c <;>
    simp [countAnswer, Reply.bookingResult?_compose, Service.owes, announce, count, Tally.record,
      Tally.entry, Except.isOk, Except.toBool]

theorem ledger_of_serves {sender : SessionId} {message : Text} {service later : Service}
    (turn : f.errands[n]? = some (.inbound sender message service))
    (serves : f.hub.Serves sender message service later hub) (c : Column) :
    hub.tally.entry c + later.owes c =
      f.hub.tally.entry c + service.owes c + f.due (.proceed n) c := by
  cases serves with
  | decide =>
      -- the dispatch itself was owed before, and what comes of it is owed from now on
      have due := due_of_dispatch turn c
      show f.hub.tally.entry c + _ = _
      omega
  | look | lookAgain | letGo =>
      rw [due_of_quiet turn rfl (.inl rfl)]
      cases c <;> rfl
  | @compose result seen =>
      rw [due_of_quiet turn rfl (.inl rfl)]
      exact entry_countAnswer f.hub message result seen c
  | answer silent =>
      rw [due_of_quiet turn rfl (.inl rfl)]
      cases c <;> simp [Service.owes, silent, offer, update]
  | grant granted =>
      rw [due_of_quiet turn rfl (.inl rfl)]
      cases c <;> simp [Service.owes, granted, offer, update]
  | @reach reply delivered frame id ahead reached =>
      rw [due_of_round turn rfl rfl rfl]
      cases c <;> cases taken : (f.hub.offer id frame).1 <;>
        simp [Service.owes, offer, update, Nat.add_assoc]
  | comeBack =>
      rw [due_of_quiet turn rfl (.inr rfl)]
      cases c <;> simp [Service.owes, count, Tally.record, Tally.entry]

end Foyer

/-! ## What writers count -/

/-- How many sessions have a writer that stands so. -/
def writers (h : Hub) (is : Session.Writer → Bool) : Nat := h.sessions.countP (is ·.writer)

section

variable {h hub : Hub} {id : SessionId} {s : Session} {is : Session.Writer → Bool}

theorem writers_update_of_same {change : Session → Session}
    (same : ∀ s ∈ h.sessions, s.id = id → is (change s).writer = is s.writer) :
    (h.update id change).writers is = h.writers is := by
  simp only [writers, update, List.countP_map]
  apply List.countP_congr
  intro s there
  by_cases own : s.id = id
  · simp [own, same s there own]
  · simp [own]

/-- The change of one session, where no other has its number. -/
theorem writers_update (nodup : (h.sessions.map (·.id)).Nodup) (found : h.session? id = some s)
    (change : Session → Session) :
    (h.update id change).writers is + (is s.writer).toNat =
      h.writers is + (is (change s).writer).toNat := by
  obtain ⟨there, rfl⟩ := mem_of_session? found
  obtain ⟨before, after, cut⟩ := List.append_of_mem there
  rw [cut, List.map_append, List.map_cons, List.nodup_append, List.nodup_cons] at nodup
  obtain ⟨-, ⟨fresh, -⟩, apart⟩ := nodup
  have unchanged {sessions : List Session} (others : ∀ t ∈ sessions, t.id ≠ s.id) :
      (sessions.map fun t => if t.id = s.id then change t else t) = sessions := by
    conv_rhs => rw [← List.map_id sessions]
    exact List.map_congr_left fun t member => if_neg (others t member)
  have earlier : ∀ t ∈ before, t.id ≠ s.id := fun t member =>
    apart t.id (List.mem_map_of_mem member) s.id List.mem_cons_self
  have later : ∀ t ∈ after, t.id ≠ s.id := fun t member same =>
    fresh (same ▸ List.mem_map_of_mem member)
  simp only [writers, update, cut, List.map_append, List.map_cons, unchanged earlier,
    unchanged later, if_true, List.countP_append, List.countP_cons]
  cases is s.writer <;> cases is (change s).writer <;> simp <;> omega

end

/-- Sessions and failures are counted along, but for the sessions that a writer still
    has to count out. -/
structure Settles (h hub : Hub) : Prop where
  connected : hub.tally.connected = h.tally.connected
  failures : hub.tally.writeFailures + h.writers (·.hasFailed) =
    h.tally.writeFailures + hub.writers (·.hasFailed)
  sessions : hub.registry.length + hub.tally.disconnected + hub.writers (·.isTelling) =
    h.registry.length + h.tally.disconnected + h.writers (·.isTelling)

theorem settles_of_update {h : Hub} {id : SessionId} {s : Session} {change : Session → Session}
    {registry : List SessionId} {tally : Tally} (nodup : (h.sessions.map (·.id)).Nodup)
    (found : h.session? id = some s) (connected : tally.connected = h.tally.connected)
    (failures : tally.writeFailures + s.writer.hasFailed.toNat =
      h.tally.writeFailures + (change s).writer.hasFailed.toNat)
    (sessions : registry.length + tally.disconnected + (change s).writer.isTelling.toNat =
      h.registry.length + h.tally.disconnected + s.writer.isTelling.toNat) :
    h.Settles { h.update id change with registry, tally } where
  connected := connected
  failures := by
    have moved : (h.update id change).writers (·.hasFailed) + s.writer.hasFailed.toNat =
        h.writers (·.hasFailed) + (change s).writer.hasFailed.toNat :=
          writers_update nodup found change
    simp only [writers] at moved ⊢
    omega
  sessions := by
    have moved : (h.update id change).writers (·.isTelling) + s.writer.isTelling.toNat =
        h.writers (·.isTelling) + (change s).writer.isTelling.toNat :=
          writers_update nodup found change
    simp only [writers] at moved ⊢
    omega

/-- A write that fails is counted at once. -/
theorem settles_of_writes {h : Hub} {id : SessionId} {s next : Session} {canStillCome : Bool}
    (nodup : (h.sessions.map (·.id)).Nodup) (found : h.session? id = some s)
    (writes : s.Writes canStillCome next) :
    h.Settles (if next.writer = .closingQueue .failed
      then (h.update id fun _ => next).count .writeFailed
      else h.update id fun _ => next) := by
  cases writes with
  | fail stand =>
      simp only [if_true]
      refine settles_of_update nodup found rfl ?_ ?_
      · simp [stand, update, Tally.record, Session.Writer.hasFailed, Session.Writer.ending?]
      · simp [stand, update, Tally.record, Session.Writer.isTelling]
  | take stand | drain stand | write stand | close stand | stop stand =>
      simp only [reduceCtorEq, if_false, Session.Writer.closingQueue.injEq]
      refine settles_of_update nodup found rfl ?_ ?_
      · simp [stand, Session.Writer.hasFailed, Session.Writer.ending?]
      · simp [stand, Session.Writer.isTelling]

/-- Whoever leaves the registry is to tell of it. -/
theorem settles_leave {h : Hub} {id : SessionId} {s : Session} {ending : Session.Ending}
    (nodup : (h.sessions.map (·.id)).Nodup) (found : h.session? id = some s)
    (stand : s.writer = .leaving ending) (registered : h.isRegistered id) :
    h.Settles ({ h with registry := h.registry.erase id }.update id fun s =>
      { s with writer := .telling ending (h.registry.erase id).length }) := by
  have there := isRegistered_iff.mp registered
  have some_session := List.length_pos_of_mem there
  refine settles_of_update nodup found rfl ?_ ?_
  · simp [stand, Session.Writer.hasFailed, Session.Writer.ending?]
  · simp only [stand, Session.Writer.isTelling, List.length_erase_of_mem there, Bool.toNat_true,
      Bool.toNat_false]
    omega

theorem settles_of_writerStep {h hub : Hub} {id : SessionId}
    (nodup : (h.sessions.map (·.id)).Nodup) (step : h.writerStep id = some hub) :
    h.Settles hub := by
  cases found : h.session? id with
  | none => simp [writerStep, found] at step
  | some s =>
      simp only [writerStep, found, Option.bind_eq_bind, Option.bind_some] at step
      cases stand : s.writer with
      | leaving ending =>
          simp only [stand, remove] at step
          by_cases registered : h.isRegistered id
          · simp only [registered, if_true] at step
            cases step
            exact settles_leave nodup found stand registered
          · simp only [registered, Bool.false_eq_true, if_false] at step
            cases step
            refine settles_of_update nodup found rfl ?_ ?_
            · simp [stand, Session.Writer.hasFailed, Session.Writer.ending?]
            · simp [stand, Session.Writer.isTelling]
      | telling ending remaining =>
          simp only [stand] at step
          cases step
          refine settles_of_update nodup found rfl ?_ ?_
          · simp [stand, count, Tally.record, Session.Writer.hasFailed, Session.Writer.ending?]
          · simp [stand, count, Tally.record, Session.Writer.isTelling, Nat.add_assoc]
      | writing frame =>
          simp only [stand, Option.bind_eq_some_iff] at step
          obtain ⟨next, writes, step⟩ := step
          have settles := settles_of_writes nodup found (Session.writes_of_writerStep writes)
          split at step
          · rename_i fails
            rw [if_pos fails] at settles
            exact Option.some.inj step ▸ settles
          · rename_i goes
            rw [if_neg goes] at settles
            exact Option.some.inj step ▸ settles
      | unstarted | waiting | closingQueue | finishing | stopped =>
          simp only [stand, Option.bind_eq_some_iff] at step
          obtain ⟨next, writes, step⟩ := step
          have own := Session.writes_of_writerStep writes
          have settles := settles_of_writes nodup found own
          have goes : next.writer ≠ .closingQueue .failed := by
            intro fails
            obtain ⟨frame, writing⟩ := own.writing_of_fails fails
            cases stand.symm.trans writing
          rw [if_neg goes] at settles
          exact Option.some.inj step ▸ settles

theorem entry_of_writerStep {h hub : Hub} {id : SessionId} (step : h.writerStep id = some hub)
    (c : Column) :
    hub.tally.entry c = h.tally.entry c := by
  simp only [writerStep, Option.bind_eq_bind, Option.bind_eq_some_iff] at step
  obtain ⟨s, -, step⟩ := step
  split at step
  · split at step
    all_goals
      rename_i left
      cases step
      have same : h.tally = (h.remove id).2.tally := by
        unfold remove
        split <;> rfl
      rw [same, left]
      rfl
  · cases step
    cases c <;> rfl
  · obtain ⟨next, -, step⟩ := Option.bind_eq_some_iff.mp step
    split at step <;> cases step <;> cases c <;> rfl
  · obtain ⟨next, -, step⟩ := Option.bind_eq_some_iff.mp step
    cases step
    rfl

theorem settles_of_writers {h hub : Hub} (tally : hub.tally = h.tally)
    (registry : hub.registry = h.registry)
    (same : ∀ is : Session.Writer → Bool, is .unstarted = false → is .waiting = false →
      hub.writers is = h.writers is) : h.Settles hub := by
  have failed := same (·.hasFailed) rfl rfl
  have telling := same (·.isTelling) rfl rfl
  exact ⟨by rw [tally], by rw [tally, failed], by rw [tally, registry, telling]⟩

theorem settles_of_keeps {h : Hub} {id : SessionId} {change : Session → Session}
    (keeps : ∀ s, (change s).writer = s.writer) : h.Settles (h.update id change) :=
  settles_of_writers rfl rfl fun is _ _ => writers_update_of_same fun s _ _ => congrArg is (keeps s)

theorem settles_assign (h : Hub) (sink : Session.Sink) : h.Settles (h.assign sink) := by
  refine settles_of_writers rfl rfl fun is unstarted _ => ?_
  simp [writers, assign, Session.blank, unstarted]

theorem settles_activate {h : Hub} {id : SessionId}
    (stand : ∀ s ∈ h.sessions, s.id = id → s.writer = .unstarted) : h.Settles (h.activate id) := by
  refine settles_of_writers rfl rfl fun is unstarted waiting =>
    writers_update_of_same fun s there own => ?_
  rw [stand s there own, unstarted]
  exact waiting

theorem settles_dismiss {h : Hub} {id : SessionId}
    (stand : ∀ s ∈ h.sessions, s.id = id → s.writer = .unstarted) : h.Settles (h.dismiss id) := by
  refine settles_of_writers rfl rfl fun is unstarted _ => ?_
  simp only [writers, dismiss, List.countP_filter]
  apply List.countP_congr
  intro s there
  by_cases own : s.id = id
  · simp [own, stand s there own, unstarted]
  · simp [own]

theorem settles_countAnswer (h : Hub) (reply : Reply) : h.Settles (h.countAnswer reply) := by
  unfold countAnswer
  split
  · rename_i granted _
    cases granted <;> exact ⟨rfl, rfl, rfl⟩
  · exact ⟨rfl, rfl, rfl⟩

theorem settles_of_serves {h hub : Hub} {sender : SessionId} {message : Text}
    {service next : Service} (serves : h.Serves sender message service next hub) :
    h.Settles hub := by
  cases serves with
  | decide | look | lookAgain | comeBack => exact ⟨rfl, rfl, rfl⟩
  | compose => exact h.settles_countAnswer _
  | answer | grant | reach => exact settles_of_keeps fun s => s.writer_offer _
  | letGo => exact settles_of_keeps fun _ => rfl

namespace Foyer

variable {f f' : Foyer} {e : Event} {n : Nat} {d next : Errand} {hub : Hub}

/-- What an event adds is counted at once, or owed. -/
theorem ledger_of_step (step : f.step? e = some f') (c : Column) :
    f'.hub.tally.entry c + f'.owed c = f.hub.tally.entry c + f.owed c + f.due e c := by
  have begun {d : Errand} {hub : Hub} (same : hub.tally = f.hub.tally)
      (due : f.due e c = d.owes c) :
      hub.tally.entry c + owed ⟨hub, f.errands ++ [d]⟩ c = f.hub.tally.entry c + f.owed c +
        f.due e c := by
    simp [owed, same, due, Nat.add_assoc]
  cases moves_of_step? step with
  | assign | remove | miss | drain | broadcast => exact begun rfl (by cases c <;> rfl)
  | refuse sender message =>
      -- that the sender is not registered is not said by the move, but by the step
      have absent : f.hub.isRegistered sender = false := by
        apply Bool.eq_false_iff.mpr
        intro registered
        have same := step?_inbound step
        simp [isRegistered_iff.mp registered] at same
      refine begun rfl ?_
      cases c with
      | dispatches => simp [due, finds, absent, Errand.owes, Service.owes]
      | granted | refused | broadcasts | recipients => rfl
  | lookUp message registered =>
      refine begun rfl ?_
      cases c with
      | dispatches => simp [due, finds, registered, Errand.owes, Service.owes]
      | granted | refused | broadcasts | recipients => rfl
  | look turn | greet turn | activate turn | enter turn | dismiss turn | tell turn | tellAll turn =>
      refine ledger_of_turn turn ?_
      rw [due_of_quiet turn rfl (.inl rfl)]
      cases c <;> rfl
  | @reach n frame id ahead reached turn =>
      refine ledger_of_turn turn ?_
      rw [due_of_round turn rfl rfl rfl]
      cases c <;> cases taken : (f.hub.offer id frame).1 <;>
        simp [Errand.owes, offer, update, Nat.add_assoc]
  | comeBack turn =>
      refine ledger_of_turn turn ?_
      rw [due_of_quiet turn rfl (.inr rfl)]
      cases c <;> simp [Errand.owes, count, Tally.record, Tally.entry]
  | serve turn serves => exact ledger_of_turn turn (ledger_of_serves turn serves c)
  | announce turn | cry turn =>
      refine ledger_of_turn turn ?_
      rw [due_of_setOut]
      cases c <;> rfl
  | write free wrote =>
      rw [entry_of_writerStep wrote]
      cases c <;> rfl
  | transport id sink => cases c <;> rfl

theorem ledger_of_run {programme : Programme} {limit : Option Nat} {events : List Event}
    (run : (idle programme limit).run? events = some f) (c : Column) :
    f.hub.tally.entry c + f.owed c = (idle programme limit).dues events c := by
  refine runs.induction (motive := fun events now =>
    now.hub.tally.entry c + now.owed c = (idle programme limit).dues events c) ?_ ?_ run
  · cases c <;> rfl
  · intro events u e v before even step
    rw [ledger_of_step step, even, dues_append before]

/-! ## Sessions and failures -/

/-- Every session that left the registry is counted out or owed, and every failure is counted. -/
structure Settled (f : Foyer) : Prop where
  sessions : f.hub.tally.connected = f.hub.registry.length + f.hub.tally.disconnected +
    f.hub.writers (·.isTelling) + (f.errands.map (·.uncounted)).sum
  failures : f.hub.tally.writeFailures = f.hub.writers (·.hasFailed)

namespace Settled

theorem of_settles {errands : List Errand} (h : f.Settled) (settles : f.hub.Settles hub)
    (same : (errands.map (·.uncounted)).sum = (f.errands.map (·.uncounted)).sum) :
    Settled ⟨hub, errands⟩ where
  sessions := by
    have connected := settles.connected
    have even := settles.sessions
    have before := h.sessions
    simp only [same]
    omega
  failures := by
    have even := settles.failures
    have before := h.failures
    show hub.tally.writeFailures = hub.writers _
    omega

theorem append (h : f.Settled) (settles : f.hub.Settles hub) (settled : d.uncounted = 0) :
    Settled ⟨hub, f.errands ++ [d]⟩ :=
  h.of_settles settles (by simp [settled])

theorem set (h : f.Settled) (turn : f.errands[n]? = some d) (settles : f.hub.Settles hub)
    (same : next.uncounted = d.uncounted) : Settled ⟨hub, f.errands.set n next⟩ := by
  have changed := sum_set turn next (·.uncounted)
  exact h.of_settles settles (by omega)

/-- A step of a call that moves the counters of sessions, and no writer. -/
theorem of_counts {errands : List Errand} (h : f.Settled)
    (telling : hub.writers (·.isTelling) = f.hub.writers (·.isTelling))
    (failed : hub.writers (·.hasFailed) = f.hub.writers (·.hasFailed))
    (failures : hub.tally.writeFailures = f.hub.tally.writeFailures)
    (even : hub.tally.connected +
        (f.hub.registry.length + f.hub.tally.disconnected + (f.errands.map (·.uncounted)).sum) =
      f.hub.tally.connected +
        (hub.registry.length + hub.tally.disconnected + (errands.map (·.uncounted)).sum)) :
    Settled ⟨hub, errands⟩ where
  sessions := by
    have before := h.sessions
    simp only [telling]
    omega
  failures := (failures.trans h.failures).trans failed.symm

theorem remove {id : SessionId} (h : f.Settled) (registered : f.hub.isRegistered id) :
    Settled ⟨{ f.hub with registry := f.hub.registry.erase id },
      f.errands ++ [.disconnecting id (f.hub.registry.erase id).length]⟩ := by
  have there := isRegistered_iff.mp registered
  have some_session := List.length_pos_of_mem there
  refine h.of_counts rfl rfl rfl ?_
  simp only [List.map_append, List.sum_append, List.map_cons, List.map_nil, List.sum_singleton,
    Errand.uncounted, List.length_erase_of_mem there]
  omega

/-- Everyone who was registered is to be counted out. -/
theorem drain (h : f.Settled) (sound : f.Sound) :
    Settled ⟨{ f.hub with registry := [] },
      f.errands ++ [.closingAll f.hub.drain.1 f.hub.drain.1.length]⟩ := by
  have everyone : f.hub.drain.1.length = f.hub.registry.length := (everyone_perm sound).length_eq
  refine h.of_counts rfl rfl rfl ?_
  simp only [List.map_append, List.sum_append, List.map_cons, List.map_nil, List.sum_singleton,
    Errand.uncounted, everyone, List.length_nil]
  omega

theorem enter {id : SessionId} (h : f.Settled) (sound : f.Sound)
    (turn : f.errands[n]? = some (.entering id)) :
    Settled ⟨f.hub.enter id, f.errands.set n (.connected id true)⟩ := by
  have changed := sum_set turn (.connected id true) (·.uncounted)
  have same : (Errand.connected id true).uncounted = (Errand.entering id).uncounted := rfl
  have fresh := sound.not_registered_of_entering (List.mem_of_getElem? turn)
  have writers (is : Session.Writer → Bool) :
      (f.hub.update id .release).writers is = f.hub.writers is :=
    writers_update_of_same fun _ _ _ => rfl
  refine h.of_counts (writers _) (writers _) rfl ?_
  simp only [Hub.enter, Hub.count, update, Tally.record, List.insert_of_not_mem fresh,
    List.length_cons]
  omega

/-- A call that counts one session out owes one less. -/
theorem tell {remaining : Nat} (h : f.Settled) (turn : f.errands[n]? = some d)
    (owed : d.uncounted = next.uncounted + 1) :
    Settled ⟨f.hub.count (.disconnected remaining), f.errands.set n next⟩ := by
  have changed := sum_set turn next (·.uncounted)
  refine h.of_counts rfl rfl rfl ?_
  simp only [Hub.count, Tally.record]
  omega

theorem moves (h : f.Settled) (sound : f.Sound) (moves : f.Moves e f') : f'.Settled := by
  have unstarted {n : Nat} {id : SessionId} {bounded : Bool}
      (turn : f.errands[n]? = some (.connecting id bounded)) :
      ∀ s ∈ f.hub.sessions, s.id = id → s.writer = .unstarted := fun s there own =>
    (sound.lives id).unstarted (mem_own.mpr ⟨there, own⟩) (crew_pos turn (if_pos rfl))
  cases moves with
  | assign sink bounded => exact h.append (f.hub.settles_assign sink) rfl
  | refuse | broadcast | miss => exact h.append ⟨rfl, rfl, rfl⟩ rfl
  | lookUp => exact h.append (settles_of_keeps fun _ => rfl) rfl
  | remove free registered => exact h.remove registered
  | drain free => exact h.drain sound
  | look turn | comeBack turn => exact h.set turn ⟨rfl, rfl, rfl⟩ rfl
  | greet turn | reach turn => exact h.set turn (settles_of_keeps fun s => s.writer_offer _) rfl
  | dismiss turn => exact h.set turn (settles_dismiss (unstarted turn)) rfl
  | activate turn => exact h.set turn (settles_activate (unstarted turn)) rfl
  | enter turn => exact h.enter sound turn
  | tell turn | tellAll turn => exact h.tell turn rfl
  | serve turn serves => exact h.set turn (settles_of_serves serves) rfl
  | announce turn | cry turn => exact h.set turn ⟨rfl, rfl, rfl⟩ rfl
  | write free step => exact h.of_settles (settles_of_writerStep sound.nodup step) rfl
  | transport => exact h.of_settles (settles_of_keeps fun _ => rfl) rfl

theorem run {programme : Programme} {limit : Option Nat} {events : List Event}
    (run : (idle programme limit).run? events = some f) : f.Settled := by
  refine runs.induction (motive := fun _ now => now.Settled) ⟨rfl, rfl⟩ ?_ run
  intro _ u e v before settled step
  exact settled.moves (Sound.of_run before) (moves_of_step? step)

end Settled

/-! ## At rest -/

/-- Whether every call has returned and no writer is on its way out. -/
def isAtRest (f : Foyer) : Bool :=
  f.errands.all (·.isOver) && f.hub.sessions.all fun s => !s.writer.isParting

theorem owes_of_isOver (ended : d.isOver) (c : Column) : d.owes c = 0 := by
  cases d with
  | inbound sender message service =>
      cases service with
      | unknownSender | returned => cases c <;> rfl
      | lookedUp | answering | answered | announcing | onRound | served => cases ended
  | connected | cried | disconnected | closingAll => cases c <;> rfl
  | greeting | connecting | entering | broadcasting | crying | disconnecting => cases ended

theorem uncounted_of_isOver (ended : d.isOver) : d.uncounted = 0 := by
  cases d with
  | closingAll ids uncounted =>
      cases uncounted with
      | zero => rfl
      | succ => cases ended
  | disconnecting => cases ended
  | greeting | connecting | entering | connected | inbound | broadcasting | crying | cried
  | disconnected => rfl

theorem sum_of_isAtRest (rest : f.isAtRest) {weigh : Errand → Nat}
    (nothing : ∀ d, d.isOver → weigh d = 0) :
    (f.errands.map weigh).sum = 0 := by
  have ended := List.all_eq_true.mp (Bool.and_eq_true_iff.mp rest).1
  apply List.sum_eq_zero_iff_forall_eq_nat.mpr
  intro k member
  obtain ⟨d, there, rfl⟩ := List.mem_map.mp member
  exact nothing d (ended d there)

theorem isTelling_of_isAtRest (rest : f.isAtRest) : f.hub.writers (·.isTelling) = 0 := by
  have still := List.all_eq_true.mp (Bool.and_eq_true_iff.mp rest).2
  apply List.countP_eq_zero.mpr
  intro s there telling
  have stays := still s there
  cases stand : s.writer with
  | telling => simp [stand, Session.Writer.isParting] at stays
  | unstarted | waiting | writing | closingQueue | leaving | finishing | stopped =>
      simp [stand, Session.Writer.isTelling] at telling

theorem hasFailed_of_isAtRest (rest : f.isAtRest) :
    f.hub.writers (·.hasFailed) = f.hub.sessions.countP (·.writer = .stopped .failed) := by
  have still := List.all_eq_true.mp (Bool.and_eq_true_iff.mp rest).2
  apply List.countP_congr
  intro s there
  have stays := still s there
  cases stand : s.writer with
  | closingQueue | leaving | telling | finishing => simp [stand, Session.Writer.isParting] at stays
  | unstarted | waiting | writing => simp [Session.Writer.hasFailed, Session.Writer.ending?]
  | stopped ending => simp [Session.Writer.hasFailed, Session.Writer.ending?]

/-- The counters say what has happened. -/
structure Conserved (start : Foyer) (events : List Event) (f : Foyer) : Prop where
  /-- Whoever came and did not leave is registered. -/
  sessions : f.hub.tally.connected = f.hub.registry.length + f.hub.tally.disconnected
  granted : f.hub.tally.granted = start.times reserves events
  refused : f.hub.tally.refused = start.times declines events
  dispatches : f.hub.tally.dispatches = start.times finds events
  broadcasts :
    f.hub.tally.broadcasts = f.hub.tally.granted + start.times (fun _ => Event.isBroadcast) events
  recipients : f.hub.tally.recipients = start.times spreads events
  writeFailures : f.hub.tally.writeFailures = f.hub.sessions.countP (·.writer = .stopped .failed)

/-- However calls and writers overlap, the counters are right as soon as nothing is in progress. -/
theorem conserved {programme : Programme} {limit : Option Nat} {events : List Event}
    (run : (idle programme limit).run? events = some f) (rest : f.isAtRest) :
    Conserved (idle programme limit) events f := by
  have settled := Settled.run run
  have counted (c : Column) : f.hub.tally.entry c = (idle programme limit).dues events c := by
    have nothing : f.owed c = 0 := sum_of_isAtRest rest fun d ended => owes_of_isOver ended c
    rw [← ledger_of_run run, nothing, Nat.add_zero]
  refine ⟨?_, counted .granted, counted .refused, counted .dispatches, ?_, counted .recipients, ?_⟩
  · have nothing := sum_of_isAtRest rest fun d ended => uncounted_of_isOver ended
    rw [settled.sessions, isTelling_of_isAtRest rest, nothing]
    rfl
  · have granted : f.hub.tally.granted = (idle programme limit).times reserves events :=
      counted .granted
    rw [granted]
    exact counted .broadcasts
  · rw [settled.failures, hasFailed_of_isAtRest rest]

/-- Two customers come in. The second one books a seat, and wants it again. The transport of
    the first one fails before the booking is announced. There is a broadcast, and the second
    one is disconnected. -/
def fullDay : List Event :=
  [.begin (.connect ⟨some 0, false, false⟩ false), .proceed 0, .proceed 0, .proceed 0, .proceed 0,
    .begin (.connect ⟨none, false, false⟩ false), .proceed 1, .proceed 1, .proceed 1, .proceed 1,
    .begin (.inbound 2 "PVR,Inception,1"), .write 1, .write 1, .proceed 2, .write 1, .proceed 2,
    .proceed 2, .proceed 2, .proceed 2, .setOut 2 [1, 2], .proceed 2, .proceed 2, .proceed 2,
    .write 1, .proceed 2, .begin (.inbound 2 "PVR,Inception,1"), .begin (.broadcast "Closing soon"),
    .setOut 4 [2], .proceed 3, .proceed 4, .proceed 3, .proceed 4, .write 1, .proceed 3, .proceed 3,
    .proceed 3, .write 1, .begin (.inbound 1 "refresh"), .begin (.disconnect 2), .proceed 6]

def afterFullDay : Foyer := ((idle .single none).run? fullDay).get (by decide +kernel)

/-- The announcement finds the first queue closed, and the broadcast no longer finds
    the first session. -/
theorem fullDay_conserved :
    (idle .single none).run? fullDay = some afterFullDay ∧ afterFullDay.isAtRest ∧
    afterFullDay.hub.tally = ⟨2, 2, some 0, 1, 1, 1, 2, [], 2, 2⟩ ∧
    Conserved (idle .single none) fullDay afterFullDay := by
  have run : (idle .single none).run? fullDay = some afterFullDay := (Option.some_get _).symm
  have rest : afterFullDay.isAtRest := by decide +kernel
  exact ⟨run, rest, by decide +kernel, conserved run rest⟩

end Foyer

end Hub

end BoxOffice
