import BoxOffice.Proofs.TurnedAway
import BoxOffice.Proofs.Visitor
import BoxOffice.Web.Interleaving

/-! # What handlers do to the hub

A handler passes on what it reads, text by text, and stops for good at the first arrival that ends
its socket, the first text that the hub does not answer, or when it notices that its session is
closed. Where a handler stands says what the hub has had from its session (`Fares`). Whoever is
registered has a handler that is not finished, and once a handler is finished its session is out of
the registry (`handlers_faithful`).
-/

namespace BoxOffice.Web

open Hub (Foyer Errand Purpose)

def Arrival.text? : Arrival → Option Text
  | .text message => some message
  | _ => none

def texts (arrivals : List Arrival) : List Text := arrivals.filterMap (·.text?)

theorem texts_append (before after : List Arrival) :
    texts (before ++ after) = texts before ++ texts after :=
  List.filterMap_append

theorem texts_of_silent {a : Arrival} (silent : a.text? = none) : texts [a] = [] := by
  rw [texts, List.filterMap_cons, silent]
  rfl

theorem text?_of_ends {a : Arrival} (last : a.keepsReading = false) : a.text? = none := by
  cases a <;> first | rfl | cases last

def Handler.hasLeft : Handler → Bool
  | .going _ | .leaving .. | .finished => true
  | .entering | .reading _ | .posting .. | .passing .. => false

/-- The text that a handler has read and not yet passed on. -/
def Handler.pending : Handler → List Text
  | .posting _ message => [message]
  | .entering | .reading _ | .passing .. | .going _ | .leaving .. | .finished => []

theorem Handler.pending_of_hasLeft {handler : Handler} (left : handler.hasLeft) :
    handler.pending = [] := by
  cases handler <;> first | rfl | cases left

/-! ## What handlers can do -/

namespace Socket

/-- All a handler can do next, and the call that it begins, if it begins one. -/
inductive Turns (f : Foyer) (s : Socket) : Option Hub.Command → Socket → Prop where
  | welcome {id : SessionId} (stand : s.handler = .entering)
      (admitted : f.errands[s.entry]? = some (.connected id true)) :
      Turns f s none { s with handler := .reading id }
  | turnAway {id : SessionId} (stand : s.handler = .entering)
      (refused : f.errands[s.entry]? = some (.connected id false)) :
      Turns f s none { s with handler := .finished }
  | readText {id : SessionId} {message : Text} {rest : List Arrival}
      (stand : s.handler = .reading id) (next : s.arrivals = .text message :: rest) :
      Turns f s none ⟨s.entry, .posting id message, rest, s.read ++ [.text message]⟩
  | passOver {id : SessionId} {a : Arrival} {rest : List Arrival} (stand : s.handler = .reading id)
      (next : s.arrivals = a :: rest) (silent : a.text? = none) (keeps : a.keepsReading) :
      Turns f s none ⟨s.entry, .reading id, rest, s.read ++ [a]⟩
  | hangUp {id : SessionId} {a : Arrival} {rest : List Arrival} (stand : s.handler = .reading id)
      (next : s.arrivals = a :: rest) (last : a.keepsReading = false) :
      Turns f s none ⟨s.entry, .going id, rest, s.read ++ [a]⟩
  | post {id : SessionId} {message : Text} (stand : s.handler = .posting id message) :
      Turns f s (some (.inbound id message)) { s with handler := .passing id f.errands.length }
  | goOn {id sender : SessionId} {call : Nat} {message : Text} {service : Hub.Service}
      {reply : Reply} (stand : s.handler = .passing id call)
      (turn : f.errands[call]? = some (.inbound sender message service))
      (answered : service.result? id = some (.ok reply)) :
      Turns f s none { s with handler := .reading id }
  | giveUp {id sender : SessionId} {call : Nat} {message : Text} {service : Hub.Service}
      {error : Hub.Error} (stand : s.handler = .passing id call)
      (turn : f.errands[call]? = some (.inbound sender message service))
      (failed : service.result? id = some (.error error)) :
      Turns f s none { s with handler := .going id }
  | notice {id : SessionId} (stand : s.handler = .reading id)
      (closed : (f.hub.session? id).any (·.stage = .closed)) :
      Turns f s none { s with handler := .going id }
  | depart {id : SessionId} (stand : s.handler = .going id) :
      Turns f s (some (.disconnect id)) { s with handler := .leaving id f.errands.length }
  | finish {id id' : SessionId} {call : Nat} {removed : Bool} (stand : s.handler = .leaving id call)
      (turn : f.errands[call]? = some (.disconnected id' removed)) :
      Turns f s none { s with handler := .finished }

variable {f : Foyer} {s s' : Socket} {command : Option Hub.Command}

theorem turns_of_reading {id : SessionId} (stand : s.handler = .reading id)
    (turn : s.turn? f = some (command, s')) : s.Turns f command s' := by
  simp only [turn?, stand] at turn
  cases next : s.arrivals with
  | nil => simp only [next] at turn; cases turn
  | cons a rest =>
      simp only [next] at turn
      cases a with
      | text message =>
          cases turn
          exact .readText stand next
      | binary | ping | pong =>
          cases turn
          rw [Arrival.keepsReading, if_pos rfl]
          exact .passOver stand next rfl rfl
      | close | failure | ended =>
          cases turn
          rw [Arrival.keepsReading, if_neg Bool.false_ne_true]
          exact .hangUp stand next rfl

theorem turns_of_passing {id : SessionId} {call : Nat} (stand : s.handler = .passing id call)
    (turn : s.turn? f = some (command, s')) : s.Turns f command s' := by
  simp only [turn?, stand] at turn
  split at turn
  · rename_i there
    split at turn
    · rename_i answered
      cases turn
      exact .goOn stand there answered
    · rename_i failed
      cases turn
      exact .giveUp stand there failed
    · cases turn
  · cases turn

theorem turns_of_turn? (turn : s.turn? f = some (command, s')) : s.Turns f command s' := by
  cases stand : s.handler with
  | entering =>
      simp only [turn?, stand] at turn
      split at turn
      · rename_i admitted
        cases turn
        exact .welcome stand admitted
      · rename_i refused
        cases turn
        exact .turnAway stand refused
      · cases turn
  | reading => exact turns_of_reading stand turn
  | posting =>
      simp only [turn?, stand] at turn
      cases turn
      exact .post stand
  | passing => exact turns_of_passing stand turn
  | going =>
      simp only [turn?, stand] at turn
      cases turn
      exact .depart stand
  | leaving =>
      simp only [turn?, stand] at turn
      split at turn
      · rename_i there
        cases turn
        exact .finish stand there
      · cases turn
  | finished =>
      simp only [turn?, stand] at turn
      cases turn

theorem turns_of_notice? (noticed : s.notice? f = some s') : s.Turns f none s' := by
  unfold notice? at noticed
  split at noticed
  · rename_i stand
    split at noticed
    · rename_i closed
      cases noticed
      exact .notice stand closed
    · cases noticed
  · cases noticed

end Socket

namespace Traffic

def Event.arrival? (n : Nat) : Event → Option Arrival
  | .arrive m a => if m = n then some a else none
  | _ => none

/-- What has arrived on socket `n`, oldest first. -/
def arrived (n : Nat) (events : List Event) : List Arrival := events.filterMap (·.arrival? n)

/-- All an event can do to sockets and hub. -/
inductive Moves (t : Traffic) : Event → Traffic → Prop where
  | openSocket {sink : Session.Sink} {foyer : Foyer}
      (step : t.foyer.step? (.begin (.connect sink true)) = some foyer) :
      Moves t (.openSocket sink) ⟨foyer, t.sockets ++ [⟨t.foyer.errands.length, .entering, [], []⟩]⟩
  | arrive {n : Nat} {s : Socket} (a : Arrival) (here : t.sockets[n]? = some s) :
      Moves t (.arrive n a) ⟨t.foyer, t.sockets.set n { s with arrivals := s.arrivals ++ [a] }⟩
  | turn {e : Event} {n : Nat} {s s' : Socket} (own : e = .handle n ∨ e = .notice n)
      (here : t.sockets[n]? = some s) (turns : s.Turns t.foyer none s') :
      Moves t e ⟨t.foyer, t.sockets.set n s'⟩
  | begin {n : Nat} {s s' : Socket} {command : Hub.Command} {foyer : Foyer}
      (here : t.sockets[n]? = some s) (turns : s.Turns t.foyer (some command) s')
      (step : t.foyer.step? (.begin command) = some foyer) :
      Moves t (.handle n) ⟨foyer, t.sockets.set n s'⟩
  | hub {e : Event} {d : Foyer.Event} {foyer : Foyer} (silent : ∀ n, e.arrival? n = none)
      (foreign : ∀ purpose, t.foyer.begun? d = some purpose →
        purpose.visitor? = none ∧ ∀ id, purpose.message? id = none)
      (step : t.foyer.step? d = some foyer) : Moves t e ⟨foyer, t.sockets⟩

variable {t t' : Traffic} {e : Event}

theorem moves_of_ofHub? {d : Foyer.Event} (silent : ∀ n, e.arrival? n = none)
    (foreign : ∀ purpose, t.foyer.begun? d = some purpose →
      purpose.visitor? = none ∧ ∀ id, purpose.message? id = none)
    (step : t.ofHub? d = some t') : t.Moves e t' := by
  obtain ⟨foyer, happens, rfl⟩ := Option.map_eq_some_iff.mp step
  exact .hub silent foreign happens

theorem moves_of_step? (step : t.step? e = some t') : t.Moves e t' := by
  cases e with
  | openSocket sink =>
      simp only [step?, Option.bind_eq_bind, Option.bind_eq_some_iff] at step
      obtain ⟨foyer, step, same⟩ := step
      cases same
      exact .openSocket step
  | arrive n a =>
      simp only [step?, Option.bind_eq_bind, Option.bind_eq_some_iff] at step
      obtain ⟨s, here, same⟩ := step
      cases same
      exact .arrive a here
  | handle n =>
      simp only [step?, Option.bind_eq_bind, Option.bind_eq_some_iff] at step
      obtain ⟨s, here, ⟨command, s'⟩, turn, step⟩ := step
      cases command with
      | none =>
          cases step
          exact .turn (.inl rfl) here (Socket.turns_of_turn? turn)
      | some command =>
          obtain ⟨foyer, begins, same⟩ := Option.bind_eq_some_iff.mp step
          cases same
          exact .begin here (Socket.turns_of_turn? turn) begins
  | notice n =>
      simp only [step?, Option.bind_eq_bind, Option.bind_eq_some_iff] at step
      obtain ⟨s, here, s', noticed, same⟩ := step
      cases same
      exact .turn (.inr rfl) here (Socket.turns_of_notice? noticed)
  | call command =>
      cases command with
      | connect | inbound => cases step
      | broadcast | disconnect | closeAll =>
          refine moves_of_ofHub? (fun _ => rfl) (fun purpose begun => ?_) step
          cases begun
          exact ⟨rfl, fun _ => rfl⟩
  | proceed | setOut | write | transport =>
      refine moves_of_ofHub? (fun _ => rfl) (fun purpose begun => ?_) step
      cases begun

theorem runs : Runs step? run? where
  nil := by intro t; rfl
  cons := by intro t e rest; rfl

end Traffic

/-! ## Where a handler stands, and what the hub has had from it -/

/-- The session `id` came, and every text of what was read was passed on and answered. -/
structure Smooth (f : Foyer) (id : SessionId) (read : List Arrival) : Prop where
  came : ∃ n : Nat, f.errands[n]? = some (.connected id true)
  keeps : ∀ a ∈ read, a.keepsReading
  passes : f.passed id = texts read
  answered : ∀ (n : Nat) message service, f.errands[n]? = some (.inbound id message service) →
    ∃ reply, service.result? id = some (.ok reply)

/-- The call in place `call` is for one more text, and it was begun after all the others
    of the session. -/
structure Busy (f : Foyer) (id : SessionId) (call : Nat) (message : Text) (service : Hub.Service)
    (read : List Arrival) : Prop where
  came : ∃ n : Nat, f.errands[n]? = some (.connected id true)
  keeps : ∀ a ∈ read, a.keepsReading
  passes : f.passed id = texts read ++ [message]
  turn : f.errands[call]? = some (.inbound id message service)
  answered :
    ∀ (n : Nat) message service, f.errands[n]? = some (.inbound id message service) → n ≠ call →
    n < call ∧ ∃ reply, service.result? id = some (.ok reply)

/-- Why a handler has left its loop. -/
inductive Ends (f : Foyer) (id : SessionId) : List Arrival → Prop where
  | hungUp {read : List Arrival} {a : Arrival} (smooth : Smooth f id read)
      (last : a.keepsReading = false) :
      Ends f id (read ++ [a])
  | failed {read : List Arrival} {call : Nat} {message : Text} {service : Hub.Service}
      {error : Hub.Error} (busy : Busy f id call message service read)
      (result : service.result? id = some (.error error)) :
      Ends f id (read ++ [.text message])
  | closed {read : List Arrival} {s : Session} (smooth : Smooth f id read)
      (there : s ∈ f.hub.sessions) (own : s.id = id) (closed : s.stage = .closed) : Ends f id read

/-- What a handler in each place has read, and what has become of it. -/
inductive Fares (f : Foyer) (id : SessionId) : Handler → List Arrival → Prop where
  | entering (nothing : f.passed id = []) : Fares f id .entering []
  | reading {read : List Arrival} (smooth : Smooth f id read) : Fares f id (.reading id) read
  | posting {read : List Arrival} {message : Text} (smooth : Smooth f id read) :
      Fares f id (.posting id message) (read ++ [.text message])
  | passing {read : List Arrival} {call : Nat} {message : Text} {service : Hub.Service}
      (busy : Busy f id call message service read) :
      Fares f id (.passing id call) (read ++ [.text message])
  | going {read : List Arrival} (ends : Ends f id read) : Fares f id (.going id) read
  | leaving {read : List Arrival} {call : Nat} (ends : Ends f id read) (gone : (f.life id).IsOver) :
      Fares f id (.leaving id call) read
  | finished {read : List Arrival} (ends : Ends f id read) (gone : (f.life id).IsOver) :
      Fares f id .finished read
  | turnedAway {n : Nat} (nothing : f.passed id = [])
      (refused : f.errands[n]? = some (.connected id false)) :
      Fares f id .finished []

section

variable {f f' : Foyer} {id : SessionId} {read : List Arrival} {e : Foyer.Event}

theorem isOver_of_result? {message : Text} {service : Hub.Service} {result : Except Hub.Error Reply}
    (returned : service.result? id = some result) : (Errand.inbound id message service).isOver := by
  cases service <;> first | rfl | cases returned

/-- An event that begins no call for a message of the session. -/
structure Aloof (f : Foyer) (id : SessionId) (e : Foyer.Event) (f' : Foyer) : Prop where
  sound : f.Sound
  step : f.step? e = some f'
  aloof : ∀ purpose, f.begun? e = some purpose → purpose.message? id = none

namespace Aloof

variable (h : Aloof f id e f')

include h

theorem run : f.run? [e] = some f' := Foyer.runs.single h.step

theorem passed : f'.passed id = f.passed id := by
  rw [Foyer.passed_of_moves (Foyer.moves_of_step? h.step)]
  cases begun : f.begun? e with
  | none => exact List.append_nil _
  | some purpose => rw [Option.bind_some, h.aloof purpose begun]; exact List.append_nil _

theorem stays {n : Nat} {d : Errand} (turn : f.errands[n]? = some d) (ended : d.isOver) :
    f'.errands[n]? = some d := Foyer.returned_stays h.run turn ended

theorem before {n : Nat} {message : Text} {service : Hub.Service}
    (turn : f'.errands[n]? = some (.inbound id message service)) :
    ∃ service', f.errands[n]? = some (.inbound id message service') := by
  rcases Foyer.purpose_before (Foyer.moves_of_step? h.step) turn with ⟨d, there, same⟩ | ⟨-, begun⟩
  · obtain ⟨service', rfl⟩ := Errand.inbound_of_purpose same
    exact ⟨service', there⟩
  · have other := h.aloof _ begun
    rw [Errand.purpose, Purpose.message?, if_pos rfl] at other
    cases other

theorem answered {n : Nat} {message : Text} {service : Hub.Service}
    (turn : f'.errands[n]? = some (.inbound id message service))
    (before : ∀ service', f.errands[n]? = some (.inbound id message service') →
      ∃ reply, service'.result? id = some (.ok reply)) :
    ∃ reply, service.result? id = some (.ok reply) := by
  obtain ⟨service', there⟩ := h.before turn
  obtain ⟨reply, result⟩ := before service' there
  have same := h.stays there (isOver_of_result? result)
  rw [turn] at same
  cases same
  exact ⟨reply, result⟩

end Aloof

theorem Smooth.kept (smooth : Smooth f id read) (h : Aloof f id e f') : Smooth f' id read where
  came := smooth.came.imp fun _ came => h.stays came rfl
  keeps := smooth.keeps
  passes := h.passed.trans smooth.passes
  answered :=
    fun n message _ turn => h.answered turn fun service' there =>
      smooth.answered n message service' there

theorem Busy.kept {call : Nat} {message : Text} {service : Hub.Service}
    (busy : Busy f id call message service read) (h : Aloof f id e f') :
    ∃ service', Busy f' id call message service' read ∧
      ∀ result, service.result? id = some result → service' = service := by
  obtain ⟨d, there, same⟩ := Foyer.purpose_stays h.run busy.turn
  obtain ⟨service', rfl⟩ := Errand.inbound_of_purpose same
  refine ⟨service', ⟨?_, busy.keeps, h.passed.trans busy.passes, there, ?_⟩,
    fun result returned => ?_⟩
  · exact busy.came.imp fun _ came => h.stays came rfl
  · intro n message service turn other
    obtain ⟨before, earlier⟩ := h.before turn
    refine ⟨(busy.answered n message before earlier other).1, h.answered turn fun _ there => ?_⟩
    exact (busy.answered n message _ there other).2
  · have stays := h.stays busy.turn (isOver_of_result? returned)
    rw [there] at stays
    cases stays
    rfl

theorem Ends.kept (ends : Ends f id read) (h : Aloof f id e f') : Ends f' id read := by
  cases ends with
  | hungUp smooth last => exact .hungUp (smooth.kept h) last
  | failed busy result =>
      obtain ⟨service', busy', same⟩ := busy.kept h
      exact .failed busy' (same _ result ▸ result)
  | closed smooth there own closed =>
      obtain ⟨s', there', number, stays, -⟩ := h.sound.stays_closed h.run there closed
      exact .closed (smooth.kept h) there' (number.trans own) stays

theorem Fares.kept {handler : Handler} (fares : Fares f id handler read) (h : Aloof f id e f') :
    Fares f' id handler read := by
  have still (gone : (f.life id).IsOver) : (f'.life id).IsOver :=
    gone.step (h.sound.life_step h.step id)
  cases fares with
  | entering nothing => exact .entering (h.passed.trans nothing)
  | reading smooth => exact .reading (smooth.kept h)
  | posting smooth => exact .posting (smooth.kept h)
  | passing busy =>
      obtain ⟨service', busy', -⟩ := busy.kept h
      exact .passing busy'
  | going ends => exact .going (ends.kept h)
  | leaving ends gone => exact .leaving (ends.kept h) (still gone)
  | finished ends gone => exact .finished (ends.kept h) (still gone)
  | turnedAway nothing refused => exact .turnedAway (h.passed.trans nothing) (h.stays refused rfl)

/-! ## The steps of a handler -/

/-- To pass on a text is to begin a call for it after all the others. -/
theorem Smooth.post {message : Text} (smooth : Smooth f id read)
    (step : f.step? (.begin (.inbound id message)) = some f') :
    ∃ service, Busy f' id f.errands.length message service read := by
  have moves := Foyer.moves_of_step? step
  have run : f.run? [.begin (.inbound id message)] = some f' := Foyer.runs.single step
  obtain ⟨service, turn⟩ :
      ∃ service, f'.errands[f.errands.length]? = some (.inbound id message service) := by
    rw [Foyer.step?_inbound step]
    split <;> exact ⟨_, List.getElem?_concat_length⟩
  refine ⟨service, ⟨?_, smooth.keeps, ?_, turn, ?_⟩⟩
  · exact smooth.came.imp fun _ came => Foyer.returned_stays run came rfl
  · have more : f'.passed id = f.passed id ++ ((Purpose.inbound id message).message? id).toList :=
      Foyer.passed_of_moves moves id
    rw [more, smooth.passes, Purpose.message?, if_pos rfl]
    rfl
  · intro n message' service' there other
    rcases Foyer.purpose_before moves there with ⟨d, earlier, same⟩ | ⟨place, -⟩
    · obtain ⟨before, rfl⟩ := Errand.inbound_of_purpose same
      obtain ⟨reply, result⟩ := smooth.answered n message' before earlier
      have stays := Foyer.returned_stays run earlier (isOver_of_result? result)
      rw [there] at stays
      cases stays
      exact ⟨(List.getElem?_eq_some_iff.mp earlier).1, reply, result⟩
    · exact absurd place other

theorem keepsReading_concat {a : Arrival} (before : ∀ b ∈ read, b.keepsReading)
    (keeps : a.keepsReading) :
    ∀ b ∈ read ++ [a], b.keepsReading := by
  intro b there
  rcases List.mem_append.mp there with old | new
  · exact before b old
  · rw [List.mem_singleton.mp new]
    exact keeps

theorem Busy.goOn {call : Nat} {message : Text} {service : Hub.Service} {reply : Reply}
    (busy : Busy f id call message service read) (result : service.result? id = some (.ok reply)) :
    Smooth f id (read ++ [.text message]) where
  came := busy.came
  keeps := keepsReading_concat busy.keeps rfl
  passes := by
    rw [busy.passes, texts_append]
    rfl
  answered := by
    intro n message' service' there
    by_cases own : n = call
    · subst own
      have same := busy.turn.symm.trans there
      cases same
      exact ⟨reply, result⟩
    · exact (busy.answered n message' service' there own).2

theorem Smooth.passOver {a : Arrival} (smooth : Smooth f id read) (silent : a.text? = none)
    (keeps : a.keepsReading) :
    Smooth f id (read ++ [a]) where
  came := smooth.came
  keeps := keepsReading_concat smooth.keeps keeps
  passes := by rw [smooth.passes, texts_append, texts_of_silent silent, List.append_nil]
  answered := smooth.answered

theorem not_inbound_of_passed {n : Nat} {message : Text} {service : Hub.Service}
    (nothing : f.passed id = []) (there : f.errands[n]? = some (.inbound id message service)) :
    False := by
  have passed : message ∈ f.passed id :=
    List.mem_filterMap.mpr ⟨_, List.mem_map_of_mem (List.mem_of_getElem? there), if_pos rfl⟩
  rw [nothing] at passed
  cases passed

theorem Smooth.admitted {n : Nat} (came : f.errands[n]? = some (.connected id true))
    (nothing : f.passed id = []) :
    Smooth f id [] where
  came := ⟨n, came⟩
  keeps := nofun
  passes := nothing
  answered := fun _ _ _ there => (not_inbound_of_passed nothing there).elim

theorem Ends.came (ends : Ends f id read) :
    ∃ n : Nat, f.errands[n]? = some (.connected id true) := by
  cases ends with
  | hungUp smooth | closed smooth => exact smooth.came
  | failed busy => exact busy.came

theorem Ends.passes (ends : Ends f id read) : f.passed id = texts read := by
  cases ends with
  | hungUp smooth last =>
      rw [smooth.passes, texts_append, texts_of_silent (text?_of_ends last), List.append_nil]
  | failed busy =>
      rw [busy.passes, texts_append]
      rfl
  | closed smooth => exact smooth.passes

/-- What a handler does without beginning a call. -/
theorem Fares.turn {s s' : Socket} (fares : Fares f id s.handler s.read) (turns : s.Turns f none s')
    (own : f.purposes[s.entry]? = some (.connect id)) : Fares f id s'.handler s'.read := by
  obtain ⟨place, handler, arrivals, read⟩ := s
  cases turns with
  | @welcome i stand admitted =>
      cases stand
      cases fares with
      | entering nothing =>
          rw [Foyer.getElem?_purposes, admitted] at own
          cases own
          exact .reading (.admitted admitted nothing)
  | @turnAway i stand refused =>
      cases stand
      cases fares with
      | entering nothing =>
          rw [Foyer.getElem?_purposes, refused] at own
          cases own
          exact .turnedAway nothing refused
  | readText stand next =>
      cases stand
      cases fares with
      | reading smooth => exact .posting smooth
  | passOver stand next silent keeps =>
      cases stand
      cases fares with
      | reading smooth => exact .reading (smooth.passOver silent keeps)
  | hangUp stand next last =>
      cases stand
      cases fares with
      | reading smooth => exact .going (.hungUp smooth last)
  | goOn stand turn answered =>
      cases stand
      cases fares with
      | passing busy =>
          cases busy.turn.symm.trans turn
          exact .reading (busy.goOn answered)
  | giveUp stand turn failed =>
      cases stand
      cases fares with
      | passing busy =>
          cases busy.turn.symm.trans turn
          exact .going (.failed busy failed)
  | notice stand closed =>
      cases stand
      cases fares with
      | reading smooth =>
          obtain ⟨session, found, closed⟩ := (Option.any_eq_true ..).mp closed
          obtain ⟨there, own⟩ := Hub.mem_of_session? found
          exact .going (.closed smooth there own (of_decide_eq_true closed))
  | finish stand turn =>
      cases stand
      cases fares with
      | leaving ends gone => exact .finished ends gone

/-- What a handler does in beginning a call. -/
theorem Fares.begin {programme : Programme} {limit : Option Nat} {events : List Foyer.Event}
    {s s' : Socket} {command : Hub.Command}
    (run : (Foyer.idle programme limit).run? events = some f) (fares : Fares f id s.handler s.read)
    (turns : s.Turns f (some command) s') (step : f.step? (.begin command) = some f') :
    Fares f' id s'.handler s'.read := by
  obtain ⟨place, handler, arrivals, read⟩ := s
  cases turns with
  | post stand =>
      cases stand
      cases fares with
      | posting smooth =>
          obtain ⟨service, busy⟩ := smooth.post step
          exact .passing busy
  | depart stand =>
      cases stand
      cases fares with
      | going ends =>
          have aloof : Aloof f id (.begin (.disconnect id)) f' := by
            refine ⟨.of_run run, step, fun purpose begun => ?_⟩
            cases begun
            rfl
          obtain ⟨n, came⟩ := (ends.kept aloof).came
          have stands := Foyer.registered_or_over (Foyer.runs.snoc.mpr ⟨f, run, step⟩) came
          have removed := Foyer.not_registered_of_disconnect (.of_run run) step
          exact .leaving (ends.kept aloof) (stands.resolve_left removed)

end

end BoxOffice.Web
