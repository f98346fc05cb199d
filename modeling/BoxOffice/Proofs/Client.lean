import BoxOffice.Client.Interleaving
import BoxOffice.Proofs.Run

/-! # What calls and listeners of a client can do

One step of a call is one of `Call.Turns`, one event of a client one of `Traffic.Moves`. Whatever is
to hold of every run is proved once for each of them.
-/

namespace BoxOffice.Client

def Connecting.made? : Connecting → Option ConnectionId
  | .raising n | .starting n | .adopting n | .connected n => some n
  | .waiting | .checking | .dialling | .failed _ => none

def Call.made? : Call → Option ConnectionId
  | .connect _ _ progress => progress.made?
  | .send .. | .disconnect _ => none

def Call.isDisconnect : Call → Bool
  | .disconnect _ => true
  | .connect .. | .send .. => false

/-! ## What calls and listeners can do -/

/-- All a call can do next, and what becomes of the client. -/
inductive Call.Turns (c : Client) (free : Bool) : Call → Call → Client → Prop where
  /-- It goes on and leaves the client as it is. -/
  | rest {call next : Call} (made : call.made? = none) (still : next.made? = none)
      (kind : next.isDisconnect = call.isDisconnect)
      (locks : next.holdsLock → call.holdsLock ∨ free)
      (calm : ∀ frame, next ≠ .send frame .lowering) (idle : ∀ n, next ≠ .disconnect (.awaiting n))
      (silent : (∀ frame, call ≠ .send frame .lowering) ∧
        ∀ writer, call ≠ .disconnect (.lowering writer))
      (goes : call ≠ .disconnect .returned) :
      Turns c free call next c
  | attach {address : Config.Client} : Turns c free (.connect address .accepted .dialling)
      (.connect address .accepted (.raising c.connections.length)) c.attach.2
  | raise {address : Config.Client} {dial : Dial} {n : ConnectionId} : Turns c free
      (.connect address dial (.raising n)) (.connect address dial (.starting n)) (c.setFlag true)
  | start {address : Config.Client} {dial : Dial} {n : ConnectionId} : Turns c free
      (.connect address dial (.starting n)) (.connect address dial (.adopting n))
      (c.startListener n)
  | adopt {address : Config.Client} {dial : Dial} {n : ConnectionId} : Turns c free
      (.connect address dial (.adopting n)) (.connect address dial (.connected n)) (c.adopt n)
  | transmit {frame : Text} {n : ConnectionId} :
      Turns c free (.send frame .transmitting) (.send frame (.sent n))
      (c.update n fun x => { x with sent := x.sent ++ [frame] })
  | fail {frame : Text} {n : ConnectionId} (slot : c.writer = some n)
      (dead : (c.connections[n]?).any (·.isLive) = false) :
      Turns c free (.send frame .transmitting) (.send frame .lowering) c
  | lower {frame : Text} :
      Turns c free (.send frame .lowering) (.send frame (.failed sendFailed)) (c.setFlag false)
  | takeWriter :
      Turns c free (.disconnect .waiting) (.disconnect (.lowering c.writer))
      { c with writer := none }
  | mark {writer : Option ConnectionId} : Turns c free (.disconnect (.lowering writer))
      (.disconnect (writer.elim .taking .closing)) (c.setFlag false)
  | close {n : ConnectionId} :
      Turns c free (.disconnect (.closing n)) (.disconnect .taking) (c.close n)
  | takeListener :
      Turns c free (.disconnect .taking) (.disconnect (c.listener.elim .returned .awaiting))
      { c with listener := none }

namespace Call

variable {c c' : Client} {free : Bool}

theorem Turns.rest_connect {address : Config.Client} {dial : Dial} {progress next : Connecting}
    (made : progress.made? = none) (still : next.made? = none)
    (locks : next.holdsLock → progress.holdsLock ∨ free) :
    Turns c free (.connect address dial progress) (.connect address dial next) c := by
  refine .rest made still rfl locks ?_ ?_ ⟨?_, ?_⟩ ?_
  all_goals intros; intro same; cases same

theorem Turns.rest_send {frame : Text} {progress next : Sending} (before : progress ≠ .lowering)
    (after : next ≠ .lowering) (locks : next.holdsLock → progress.holdsLock ∨ free) :
    Turns c free (.send frame progress) (.send frame next) c := by
  refine .rest rfl rfl rfl locks (fun _ same => ?_) ?_ ⟨fun _ same => ?_, ?_⟩ ?_
  · cases same
    exact after rfl
  · intro _ same
    cases same
  · cases same
    exact before rfl
  · intro _ same
    cases same
  · intro same
    cases same

theorem turns_of_connecting {address : Config.Client} {dial : Dial} {progress next : Connecting}
    (step : progress.step? c free dial = some (next, c')) :
    Turns c free (.connect address dial progress) (.connect address dial next) c' := by
  cases progress with
  | waiting =>
      simp only [Connecting.step?] at step
      split at step
      · rename_i unlocked
        cases step
        exact .rest_connect rfl rfl fun _ => .inr unlocked
      · cases step
  | checking =>
      cases step
      by_cases known : c.isConnected
      · rw [if_pos known]
        exact .rest_connect rfl rfl fun _ => .inl rfl
      · rw [if_neg known]
        exact .rest_connect rfl rfl fun _ => .inl rfl
  | dialling =>
      cases dial with
      | failed cause =>
          cases step
          exact .rest_connect rfl rfl fun _ => .inl rfl
      | accepted =>
          cases step
          exact .attach
  | raising n =>
      cases step
      exact .raise
  | starting n =>
      cases step
      exact .start
  | adopting n =>
      cases step
      exact .adopt
  | connected | failed => cases step

theorem turns_of_sending {frame : Text} {progress next : Sending}
    (step : progress.step? c free frame = some (next, c')) :
    Turns c free (.send frame progress) (.send frame next) c' := by
  cases progress with
  | waiting =>
      simp only [Sending.step?] at step
      split at step
      · rename_i unlocked
        cases step
        exact .rest_send (by decide) (by decide) fun _ => .inr unlocked
      · cases step
  | transmitting =>
      simp only [Sending.step?] at step
      cases slot : c.writer with
      | none =>
          rw [slot] at step
          cases step
          exact .rest_send (by decide) (by decide) fun _ => .inl rfl
      | some n =>
          simp only [slot, transmit] at step
          cases live : (c.connections[n]?).any (·.isLive) with
          | true =>
              rw [live] at step
              cases step
              exact .transmit
          | false =>
              rw [live] at step
              cases step
              exact .fail slot live
  | lowering =>
      cases step
      exact .lower
  | sent | failed => cases step

theorem turns_of_disconnecting {progress next : Disconnecting}
    (step : progress.step? c free = some (next, c')) :
    Turns c free (.disconnect progress) (.disconnect next) c' := by
  cases progress with
  | waiting =>
      simp only [Disconnecting.step?] at step
      split at step
      · cases step
        exact .takeWriter
      · cases step
  | lowering writer =>
      cases step
      exact .mark
  | closing n =>
      cases step
      exact .close
  | taking =>
      cases step
      exact .takeListener
  | awaiting n =>
      simp only [Disconnecting.step?] at step
      split at step
      · cases step
        exact .rest rfl rfl rfl nofun nofun nofun ⟨nofun, nofun⟩ nofun
      · cases step
  | returned => cases step

theorem turns_of_step? {call call' : Call} (step : call.step? c free = some (call', c')) :
    call.Turns c free call' c' := by
  cases call with
  | connect address dial progress =>
      obtain ⟨⟨next, client⟩, happens, same⟩ := Option.map_eq_some_iff.mp step
      cases same
      exact turns_of_connecting happens
  | send frame progress =>
      obtain ⟨⟨next, client⟩, happens, same⟩ := Option.map_eq_some_iff.mp step
      cases same
      exact turns_of_sending happens
  | disconnect progress =>
      obtain ⟨⟨next, client⟩, happens, same⟩ := Option.map_eq_some_iff.mp step
      cases same
      exact turns_of_disconnecting happens

end Call

theorem update_update (c : Client) (n : ConnectionId) (first second : Connection → Connection) :
    (c.update n first).update n second = c.update n fun x => second (first x) := by
  simp only [update, List.modify_modify_eq, Function.comp_def]

namespace Traffic

/-- All an event can do. -/
inductive Moves (t : Traffic) : Event → Traffic → Prop where
  | begin (command : Command) :
      Moves t (.begin command) { t with calls := t.calls ++ [.begin t.client command] }
  | turn {k : Nat} {call call' : Call} {client : Client} (turn : t.calls[k]? = some call)
      (turns : call.Turns t.client t.lockIsFree call' client) :
      Moves t (.proceed k) ⟨client, t.calls.set k call'⟩
  | giveUp {k : Nat} {n : ConnectionId} (turn : t.calls[k]? = some (.disconnect (.awaiting n))) :
      Moves t (.giveUp k) ⟨t.client.askAbort n, t.calls.set k (.disconnect .returned)⟩
  | arrive (n : ConnectionId) (a : Arrival) :
      Moves t (.arrive n a) { t with client := t.client.arrive n a }
  | read {n : ConnectionId} {x : Connection} {a : Arrival} {rest : List Arrival}
      (received : Received)
      (there : t.client.connections[n]? = some x) (reading : x.listener = .reading)
      (next : x.arrivals = a :: rest) :
      Moves t (.listen n)
        ⟨{ t.client.update n (fun x => { x with arrivals := rest }) with received }, t.calls⟩
  | finish {n : ConnectionId} {x : Connection} {a : Arrival} {rest : List Arrival}
      (there : t.client.connections[n]? = some x) (reading : x.listener = .reading)
      (next : x.arrivals = a :: rest) (last : a = .close ∨ a = .failure) :
      Moves t (.listen n)
        ⟨t.client.update n fun x => { x with arrivals := rest, listener := .leaving }, t.calls⟩
  | leave {n : ConnectionId} {x : Connection} (there : t.client.connections[n]? = some x)
      (leaving : x.listener = .leaving) :
      Moves t (.listen n) ⟨(t.client.setFlag false).update n fun x =>
        { x with listener := .stopped }, t.calls⟩
  | abort {n : ConnectionId} {x : Connection} (there : t.client.connections[n]? = some x)
      (asked : x.abortAsked) (reading : x.listener = .reading) :
      Moves t (.abort n) ⟨t.client.update n fun x => { x with listener := .aborted }, t.calls⟩

variable {t t' : Traffic} {e : Event}

theorem moves_of_listen {n : ConnectionId} (step : t.step? (.listen n) = some t') :
    t.Moves (.listen n) t' := by
  obtain ⟨client, happens, rfl⟩ := Option.map_eq_some_iff.mp step
  simp only [listenerStep, Option.bind_eq_bind, Option.bind_eq_some_iff] at happens
  obtain ⟨x, there, happens⟩ := happens
  cases stand : x.listener with
  | reading =>
      simp only [stand] at happens
      cases next : x.arrivals with
      | nil =>
          rw [next] at happens
          cases happens
      | cons a rest =>
          simp only [next] at happens
          cases a with
          | text frame =>
              cases happens
              exact .read _ there stand next
          | other =>
              cases happens
              exact .read t.client.received there stand next
          | close =>
              cases happens
              rw [update_update]
              exact .finish there stand next (.inl rfl)
          | failure =>
              cases happens
              rw [update_update]
              exact .finish there stand next (.inr rfl)
  | leaving =>
      simp only [stand] at happens
      cases happens
      exact .leave there stand
  | unstarted | stopped | aborted =>
      simp only [stand] at happens
      cases happens

theorem moves_of_step? (step : t.step? e = some t') : t.Moves e t' := by
  cases e with
  | begin command =>
      cases step
      exact .begin command
  | proceed k =>
      simp only [step?, Option.bind_eq_bind, Option.bind_eq_some_iff] at step
      obtain ⟨call, turn, ⟨call', client⟩, happens, same⟩ := step
      cases same
      exact .turn turn (Call.turns_of_step? happens)
  | giveUp k =>
      simp only [step?, Option.bind_eq_bind, Option.bind_eq_some_iff] at step
      obtain ⟨call, turn, ⟨call', client⟩, happens, same⟩ := step
      cases same
      cases call with
      | connect | send => cases happens
      | disconnect progress =>
          obtain ⟨⟨next, client⟩, gives, same⟩ := Option.map_eq_some_iff.mp happens
          cases same
          cases progress with
          | awaiting n =>
              cases gives
              exact .giveUp turn
          | waiting | lowering | closing | taking | returned => cases gives
  | arrive n a =>
      cases step
      exact .arrive n a
  | listen n => exact moves_of_listen step
  | abort n =>
      obtain ⟨client, happens, rfl⟩ := Option.map_eq_some_iff.mp step
      simp only [abortListener, Option.bind_eq_bind, Option.bind_eq_some_iff] at happens
      obtain ⟨x, there, happens⟩ := happens
      split at happens
      · rename_i asked
        obtain ⟨told, stand⟩ := (Bool.and_eq_true _ _).mp asked
        cases happens
        exact .abort there told (of_decide_eq_true stand)
      · cases happens

theorem runs : Runs step? run? where
  nil := by intro t; rfl
  cons := by intro t e rest; rfl

end Traffic

end BoxOffice.Client
