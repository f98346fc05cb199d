import BoxOffice.Proofs.Life
import BoxOffice.Proofs.Run
import Mathlib.Data.List.Perm.Basic

/-! # What an event can do in the foyer

`Moves` lists everything an event can do, and `Serves` the steps of an inbound call. Each of them is
a step in the life of every session.
-/

namespace BoxOffice.Hub

/-! ## The steps of a call -/

/-- All an inbound call can do in one step. -/
inductive Serves (h : Hub) (sender : SessionId) (message : Text) :
    Service → Service → Hub → Prop where
  | decide :
      Serves h sender message .lookedUp
        (.answering (h.programme.decide message).1 (.begin (h.programme.decide message).2))
        { h with programme := (h.programme.decide message).2 }
  | look {result : Option (Except Refusal Request)} {survey further : Survey}
      (next : survey.next? h.programme = some further) :
      Serves h sender message (.answering result survey) (.answering result further) h
  | compose {result : Option (Except Refusal Request)} {seen : Programme} :
      Serves h sender message (.answering result ⟨seen, []⟩)
        (.answered (.compose message result seen))
        (h.countAnswer (.compose message result seen))
  | answer {reply : Reply} (silent : reply.announce = false) :
      Serves h sender message (.answered reply)
        (.served ⟨reply, (h.offer sender reply.text).1, none⟩) (h.offer sender reply.text).2
  | grant {reply : Reply} (granted : reply.announce = true) :
      Serves h sender message (.answered reply)
        (.announcing reply (h.offer sender reply.text).1 (.begin h.programme))
        (h.offer sender reply.text).2
  | lookAgain {reply : Reply} {delivered : Bool} {survey further : Survey}
      (next : survey.next? h.programme = some further) :
      Serves h sender message (.announcing reply delivered survey)
        (.announcing reply delivered further) h
  | reach {reply : Reply} {delivered : Bool} {frame : Text} {id : SessionId}
      {ahead reached : List SessionId} :
      Serves h sender message (.onRound reply delivered ⟨frame, id :: ahead, reached⟩)
        (.onRound reply delivered
          ⟨frame, ahead, if (h.offer id frame).1 then reached ++ [id] else reached⟩)
        (h.offer id frame).2
  | comeBack {reply : Reply} {delivered : Bool} {frame : Text} {reached : List SessionId} :
      Serves h sender message (.onRound reply delivered ⟨frame, [], reached⟩)
        (.served ⟨reply, delivered, some (frame, reached)⟩) (h.count (.announced reached.length))
  | letGo {delivery : Delivery} :
      Serves h sender message (.served delivery) (.returned delivery) (h.letGo sender)

theorem Survey.eq_of_next?_none {now : Programme} {survey : Survey} (h : survey.next? now = none) :
    survey = ⟨survey.seen, []⟩ := by
  obtain ⟨seen, unseen⟩ := survey
  cases unseen with
  | nil => rfl
  | cons position unseen => cases h

namespace Foyer

theorem serves_of_serve? {h hub : Hub} {sender : SessionId} {message : Text}
    {service next : Service} (step : serve? h sender message service = some (next, hub)) :
    h.Serves sender message service next hub := by
  cases service with
  | unknownSender | returned => cases step
  | lookedUp =>
      cases step
      exact .decide
  | answering result survey =>
      simp only [serve?] at step
      split at step
      case h_1 further more =>
        cases step
        exact .look more
      case h_2 done =>
        cases step
        rw [Survey.eq_of_next?_none done]
        exact .compose
  | answered reply =>
      simp only [serve?] at step
      split at step
      · rename_i granted
        cases step
        exact .grant granted
      · rename_i silent
        cases step
        exact .answer (Bool.eq_false_iff.mpr silent)
  | announcing reply delivered survey =>
      simp only [serve?, Option.map_eq_some_iff] at step
      obtain ⟨further, more, same⟩ := step
      cases same
      exact .lookAgain more
  | onRound reply delivered round =>
      obtain ⟨frame, ahead, reached⟩ := round
      cases ahead with
      | nil =>
          cases step
          exact .comeBack
      | cons id ahead =>
          cases step
          exact .reach
  | served delivery =>
      cases step
      exact .letGo

/-- All an event can do. -/
inductive Moves (f : Foyer) : Event → Foyer → Prop where
  | assign (sink : Session.Sink) (bounded : Bool) :
      Moves f (.begin (.connect sink bounded))
        ⟨f.hub.assign sink, f.errands ++ [.greeting f.hub.nextId bounded (.begin f.hub.programme)]⟩
  | refuse (sender : SessionId) (message : Text) :
      Moves f (.begin (.inbound sender message))
        ⟨f.hub, f.errands ++ [.inbound sender message .unknownSender]⟩
  | lookUp {sender : SessionId} (message : Text) (registered : f.hub.isRegistered sender) :
      Moves f (.begin (.inbound sender message))
        ⟨f.hub.update sender .hold, f.errands ++ [.inbound sender message .lookedUp]⟩
  | broadcast (frame : Text) :
      Moves f (.begin (.broadcast frame)) ⟨f.hub, f.errands ++ [.broadcasting frame]⟩
  | remove {id : SessionId} (free : f.isWritable) (registered : f.hub.isRegistered id) :
      Moves f (.begin (.disconnect id))
        ⟨{ f.hub with registry := f.hub.registry.erase id },
          f.errands ++ [.disconnecting id (f.hub.registry.erase id).length]⟩
  | miss (id : SessionId) :
      Moves f (.begin (.disconnect id)) ⟨f.hub, f.errands ++ [.disconnected id false]⟩
  | drain (free : f.isWritable) :
      Moves f (.begin .closeAll)
        ⟨{ f.hub with registry := [] },
          f.errands ++ [.closingAll f.hub.drain.1 f.hub.drain.1.length]⟩
  | look {n : Nat} {id : SessionId} {bounded : Bool} {survey further : Survey}
      (turn : f.errands[n]? = some (.greeting id bounded survey))
      (next : survey.next? f.hub.programme = some further) :
      Moves f (.proceed n) ⟨f.hub, f.errands.set n (.greeting id bounded further)⟩
  | greet {n : Nat} {id : SessionId} {bounded : Bool} {seen : Programme}
      (turn : f.errands[n]? = some (.greeting id bounded ⟨seen, []⟩)) :
      Moves f (.proceed n)
        ⟨(f.hub.offer id (Snapshot.render .initial seen)).2,
          f.errands.set n (.connecting id bounded)⟩
  | dismiss {n : Nat} {id : SessionId} {bounded : Bool}
      (turn : f.errands[n]? = some (.connecting id bounded)) (free : f.isWritable)
      (full : (bounded && f.hub.isFull) = true) :
      Moves f (.proceed n) ⟨f.hub.dismiss id, f.errands.set n (.connected id false)⟩
  | activate {n : Nat} {id : SessionId} {bounded : Bool}
      (turn : f.errands[n]? = some (.connecting id bounded)) (free : f.isWritable)
      (room : (bounded && f.hub.isFull) = false) :
      Moves f (.proceed n) ⟨f.hub.activate id, f.errands.set n (.entering id)⟩
  | enter {n : Nat} {id : SessionId} (turn : f.errands[n]? = some (.entering id)) :
      Moves f (.proceed n) ⟨f.hub.enter id, f.errands.set n (.connected id true)⟩
  | serve {n : Nat} {sender : SessionId} {message : Text} {service next : Service} {hub : Hub}
      (turn : f.errands[n]? = some (.inbound sender message service))
      (serves : f.hub.Serves sender message service next hub) :
      Moves f (.proceed n) ⟨hub, f.errands.set n (.inbound sender message next)⟩
  | reach {n : Nat} {frame : Text} {id : SessionId} {ahead reached : List SessionId}
      (turn : f.errands[n]? = some (.crying ⟨frame, id :: ahead, reached⟩)) :
      Moves f (.proceed n)
        ⟨(f.hub.offer id frame).2, f.errands.set n
          (.crying ⟨frame, ahead, if (f.hub.offer id frame).1 then reached ++ [id] else reached⟩)⟩
  | comeBack {n : Nat} {frame : Text} {reached : List SessionId}
      (turn : f.errands[n]? = some (.crying ⟨frame, [], reached⟩)) :
      Moves f (.proceed n)
        ⟨f.hub.count (.announced reached.length), f.errands.set n (.cried frame reached)⟩
  | tell {n : Nat} {id : SessionId} {remaining : Nat}
      (turn : f.errands[n]? = some (.disconnecting id remaining)) :
      Moves f (.proceed n)
        ⟨f.hub.count (.disconnected remaining), f.errands.set n (.disconnected id true)⟩
  | tellAll {n uncounted : Nat} {ids : List SessionId}
      (turn : f.errands[n]? = some (.closingAll ids (uncounted + 1))) :
      Moves f (.proceed n)
        ⟨f.hub.count (.disconnected 0), f.errands.set n (.closingAll ids uncounted)⟩
  | announce {n : Nat} {order : List SessionId} {sender : SessionId} {message : Text}
      {reply : Reply} {delivered : Bool} {seen : Programme}
      (turn : f.errands[n]? =
        some (.inbound sender message (.announcing reply delivered ⟨seen, []⟩)))
      (readable : f.isReadable) (everyone : order.Perm f.hub.registry) :
      Moves f (.setOut n order)
        ⟨f.hub, f.errands.set n (.inbound sender message
          (.onRound reply delivered ⟨Snapshot.render .update seen, order, []⟩))⟩
  | cry {n : Nat} {order : List SessionId} {frame : Text}
      (turn : f.errands[n]? = some (.broadcasting frame))
      (readable : f.isReadable) (everyone : order.Perm f.hub.registry) :
      Moves f (.setOut n order) ⟨f.hub, f.errands.set n (.crying ⟨frame, order, []⟩)⟩
  | write {id : SessionId} {hub : Hub} (free : f.hub.isLeaving id → f.isWritable)
      (step : f.hub.writerStep id = some hub) : Moves f (.write id) ⟨hub, f.errands⟩
  | transport (id : SessionId) (sink : Session.Sink) :
      Moves f (.transport id sink) ⟨f.hub.update id (·.withSink fun _ => sink), f.errands⟩

theorem moves_of_begin {f : Foyer} {command : Command} {errand : Errand} {hub : Hub}
    (begins : f.begin? command = some (errand, hub)) :
    f.Moves (.begin command) ⟨hub, f.errands ++ [errand]⟩ := by
  cases command with
  | connect sink bounded =>
      cases begins
      exact .assign sink bounded
  | inbound sender message =>
      simp only [begin?, lookUp] at begins
      split at begins
      · by_cases registered : f.hub.isRegistered sender
        · rw [if_pos registered] at begins
          cases begins
          exact .lookUp message registered
        · rw [if_neg registered] at begins
          cases begins
          exact .refuse sender message
      · cases begins
  | broadcast frame =>
      cases begins
      exact .broadcast frame
  | disconnect id =>
      simp only [begin?, Hub.remove] at begins
      split at begins
      · rename_i free
        by_cases registered : f.hub.isRegistered id
        · rw [if_pos registered] at begins
          cases begins
          exact .remove free registered
        · rw [if_neg registered] at begins
          cases begins
          exact .miss id
      · cases begins
  | closeAll =>
      simp only [begin?] at begins
      split at begins
      · rename_i free
        cases begins
        exact .drain free
      · cases begins

theorem moves_of_proceed {f : Foyer} {n : Nat} {errand next : Errand} {hub : Hub}
    (turn : f.errands[n]? = some errand) (proceeds : f.proceed? errand = some (next, hub)) :
    f.Moves (.proceed n) ⟨hub, f.errands.set n next⟩ := by
  cases errand with
  | greeting id bounded survey =>
      simp only [proceed?] at proceeds
      split at proceeds
      case h_1 further more =>
        cases proceeds
        exact .look turn more
      case h_2 done =>
        cases proceeds
        rw [Survey.eq_of_next?_none done] at turn
        exact .greet turn
  | connecting id bounded =>
      simp only [proceed?] at proceeds
      split at proceeds
      · rename_i free
        split at proceeds
        · rename_i full
          cases proceeds
          exact .dismiss turn free full
        · rename_i room
          cases proceeds
          exact .activate turn free (Bool.eq_false_iff.mpr room)
      · cases proceeds
  | entering id =>
      cases proceeds
      exact .enter turn
  | inbound sender message service =>
      simp only [proceed?, Option.map_eq_some_iff] at proceeds
      obtain ⟨⟨service', hub'⟩, serves, same⟩ := proceeds
      cases same
      exact .serve turn (serves_of_serve? serves)
  | crying round =>
      obtain ⟨frame, ahead, reached⟩ := round
      cases ahead with
      | nil =>
          cases proceeds
          exact .comeBack turn
      | cons id ahead =>
          cases proceeds
          exact .reach turn
  | disconnecting id remaining =>
      cases proceeds
      exact .tell turn
  | closingAll ids uncounted =>
      cases uncounted with
      | zero => cases proceeds
      | succ uncounted =>
          cases proceeds
          exact .tellAll turn
  | connected | broadcasting | cried | disconnected => cases proceeds

theorem moves_of_setOut {f : Foyer} {n : Nat} {order : List SessionId} {errand next : Errand}
    (turn : f.errands[n]? = some errand) (readable : f.isReadable)
    (everyone : order.Perm f.hub.registry) (sets : setOut? order errand = some next) :
    f.Moves (.setOut n order) ⟨f.hub, f.errands.set n next⟩ := by
  unfold setOut? at sets
  split at sets
  · cases sets
    exact .announce turn readable everyone
  · cases sets
    exact .cry turn readable everyone
  · cases sets

theorem moves_of_step? {f f' : Foyer} {e : Event} (step : f.step? e = some f') : f.Moves e f' := by
  cases e with
  | begin command =>
      simp only [step?, Option.bind_eq_bind, Option.bind_eq_some_iff] at step
      obtain ⟨⟨errand, hub⟩, begins, same⟩ := step
      cases same
      exact moves_of_begin begins
  | proceed n =>
      simp only [step?, Option.bind_eq_bind, Option.bind_eq_some_iff] at step
      obtain ⟨errand, turn, ⟨next, hub⟩, proceeds, same⟩ := step
      cases same
      exact moves_of_proceed turn proceeds
  | setOut n order =>
      simp only [step?] at step
      split at step
      · rename_i allowed
        rw [Bool.and_eq_true, List.isPerm_iff] at allowed
        simp only [Option.bind_eq_bind, Option.bind_eq_some_iff] at step
        obtain ⟨errand, turn, next, sets, same⟩ := step
        cases same
        exact moves_of_setOut turn allowed.1 allowed.2 sets
      · cases step
  | write id =>
      simp only [step?] at step
      split at step
      · rename_i allowed
        simp only [Option.bind_eq_bind, Option.bind_eq_some_iff] at step
        obtain ⟨hub, written, same⟩ := step
        cases same
        refine .write ?_ written
        intro leaving
        simpa only [leaving, Bool.not_true, Bool.or_false] using allowed
      · cases step
  | transport id sink =>
      cases step
      exact .transport id sink

theorem step?_inbound {u v : Foyer} {sender : SessionId} {message : Text}
    (step : u.step? (.begin (.inbound sender message)) = some v) :
    v = if sender ∈ u.hub.registry then
        ⟨u.hub.update sender .hold, u.errands ++ [.inbound sender message .lookedUp]⟩
      else ⟨u.hub, u.errands ++ [.inbound sender message .unknownSender]⟩ := by
  simp only [step?, begin?, lookUp, isRegistered_iff, Option.bind_eq_bind] at step
  split at step
  · split at step <;> rename_i looked <;> split at looked <;> cases looked <;> cases step
    · rename_i absent
      rw [if_neg absent]
    · rename_i registered
      rw [if_pos registered]
  · cases step

theorem runs : Runs step? run? where
  nil := by intro f; rfl
  cons := by intro f e rest; rfl

end Foyer

/-! ## The steps of a writer -/

theorem canStillCome_eq (h : Hub) (s : Session) :
    h.canStillCome s = (h.registry.count s.id != 0 || s.holds != 0) := by
  have registered : h.isRegistered s.id = (h.registry.count s.id != 0) := by
    rw [Bool.eq_iff_iff, isRegistered_iff, bne_iff_ne, ← List.count_pos_iff, Nat.pos_iff_ne_zero]
  rw [canStillCome, registered]

/-- All a writer can do. -/
inductive Writes (h : Hub) (id : SessionId) : Hub → Prop where
  | own {s next : Session} {hub : Hub} (there : h.session? id = some s)
      (writes : s.Writes (h.canStillCome s) next)
      (same : hub = { h.update id (fun _ => next) with tally := hub.tally }) : Writes h id hub
  | leave {s : Session} {ending : Session.Ending} (there : h.session? id = some s)
      (stand : s.writer = .leaving ending) (registered : h.isRegistered id) :
      Writes h id ({ h with registry := h.registry.erase id }.update id fun s =>
        { s with writer := .telling ending (h.registry.erase id).length })
  | pass {s : Session} {ending : Session.Ending} (there : h.session? id = some s)
      (stand : s.writer = .leaving ending) (unregistered : ¬ h.isRegistered id) :
      Writes h id (h.update id fun s => { s with writer := .finishing ending })
  | tell {s : Session} {ending : Session.Ending} {remaining : Nat} (there : h.session? id = some s)
      (stand : s.writer = .telling ending remaining) :
      Writes h id ((h.count (.disconnected remaining)).update id fun s =>
        { s with writer := .finishing ending })

theorem writes_of_writerStep {h hub : Hub} {id : SessionId} (step : h.writerStep id = some hub) :
    h.Writes id hub := by
  simp only [writerStep, Option.bind_eq_bind, Option.bind_eq_some_iff] at step
  obtain ⟨s, there, step⟩ := step
  split at step
  case h_1 ending stand =>
    by_cases registered : h.isRegistered id
    · simp only [remove, if_pos registered] at step
      cases step
      exact .leave there stand registered
    · simp only [remove, if_neg registered] at step
      cases step
      exact .pass there stand registered
  case h_2 ending remaining stand =>
    cases step
    exact .tell there stand
  case h_3 frame stand =>
    simp only [Option.bind_eq_some_iff] at step
    obtain ⟨next, writes, step⟩ := step
    split at step <;> cases step <;> exact .own there (Session.writes_of_writerStep writes) rfl
  case h_4 =>
    simp only [Option.bind_eq_some_iff] at step
    obtain ⟨next, writes, step⟩ := step
    cases step
    exact .own there (Session.writes_of_writerStep writes) rfl

theorem exists_countAnswer (h : Hub) (reply : Reply) :
    ∃ tally, h.countAnswer reply = { h with tally } := by
  unfold countAnswer
  split <;> exact ⟨_, rfl⟩

/-! ## Rounds -/

def Errand.ahead : Errand → List SessionId
  | .inbound _ _ (.onRound _ _ round) | .crying round => round.ahead
  | _ => []

namespace Foyer

/-- The lock of the registry is held by one call that registers a session or by rounds, and everyone
    whom a round is still to reach is registered. -/
structure Guarded (f : Foyer) : Prop where
  covered : ∀ e ∈ f.errands, ∀ id ∈ e.ahead, id ∈ f.hub.registry
  single : f.errands.countP (·.isEntering) ≤ 1
  apart : 0 < f.errands.countP (·.isEntering) → f.errands.countP (·.isOnRound) = 0

theorem countP_entering_of_isReadable {f : Foyer} (readable : f.isReadable) :
    f.errands.countP (·.isEntering) = 0 := by
  rw [List.countP_eq_zero]
  intro e member entering
  have idle := List.all_eq_true.mp readable e member
  rw [entering] at idle
  cases idle

theorem isReadable_of_isWritable {f : Foyer} (free : f.isWritable) : f.isReadable := by
  apply List.all_eq_true.mpr
  intro e member
  have idle := List.all_eq_true.mp free e member
  rw [Bool.and_eq_true] at idle
  exact idle.1

theorem countP_onRound_of_isWritable {f : Foyer} (free : f.isWritable) :
    f.errands.countP (·.isOnRound) = 0 := by
  rw [List.countP_eq_zero]
  intro e member onRound
  have idle := List.all_eq_true.mp free e member
  rw [onRound, Bool.not_true, Bool.and_false] at idle
  cases idle

theorem ahead_of_not_isOnRound {e : Errand} (off : e.isOnRound = false) : e.ahead = [] := by
  cases e with
  | inbound sender message service =>
      cases service with
      | onRound => cases off
      | unknownSender | lookedUp | answering | answered | announcing | served | returned => rfl
  | crying => cases off
  | greeting | connecting | entering | connected | broadcasting | cried | disconnecting
  | disconnected | closingAll => rfl

theorem turn_set {errands : List Errand} {n : Nat} {d : Errand} (turn : errands[n]? = some d)
    (next : Errand) : (errands.set n next)[n]? = some next :=
  List.getElem?_set_self (List.getElem?_eq_some_iff.mp turn).1

theorem perm_eraseIdx {errands : List Errand} {n : Nat} {d : Errand} (turn : errands[n]? = some d) :
    (d :: errands.eraseIdx n).Perm errands := by
  obtain ⟨inside, same⟩ := List.getElem?_eq_some_iff.mp turn
  rw [← same]
  exact List.getElem_cons_eraseIdx_perm inside

theorem countP_set_le {errands : List Errand} {n : Nat} {e next : Errand}
    (turn : errands[n]? = some e) {p : Errand → Bool} (less : p next → p e) :
    (errands.set n next).countP p ≤ errands.countP p := by
  obtain ⟨inside, same⟩ := List.getElem?_eq_some_iff.mp turn
  have counted : p e → 0 < errands.countP p := fun holds =>
    List.countP_pos_iff.mpr ⟨e, List.mem_of_getElem? turn, holds⟩
  rw [List.countP_set inside, same]
  by_cases after : p next
  · have := counted (less after)
    rw [if_pos (less after), if_pos after]
    omega
  · rw [if_neg after]
    omega

namespace Guarded

variable {f : Foyer} {hub : Hub} {n : Nat} {e next : Errand}

theorem append (h : f.Guarded) (entering : e.isEntering = false) (onRound : e.isOnRound = false)
    (registry : f.isWritable ∨ ∀ id ∈ f.hub.registry, id ∈ hub.registry) :
    Guarded ⟨hub, f.errands ++ [e]⟩ where
  covered := by
    intro d member id ahead
    rw [List.mem_append, List.mem_singleton] at member
    rcases member with old | rfl
    · rcases registry with free | grows
      · have off := List.countP_eq_zero.mp (countP_onRound_of_isWritable free) d old
        rw [ahead_of_not_isOnRound (Bool.eq_false_iff.mpr off)] at ahead
        cases ahead
      · exact grows id (h.covered d old id ahead)
    · rw [ahead_of_not_isOnRound onRound] at ahead
      cases ahead
  single := by simpa [List.countP_append, entering] using h.single
  apart := by simpa [List.countP_append, entering, onRound] using h.apart

theorem set (h : f.Guarded) (turn : f.errands[n]? = some e)
    (entering : next.isEntering → e.isEntering) (onRound : next.isOnRound → e.isOnRound)
    (ahead : ∀ id ∈ next.ahead, id ∈ e.ahead)
    (registry : ∀ id ∈ f.hub.registry, id ∈ hub.registry) :
    Guarded ⟨hub, f.errands.set n next⟩ where
  covered := by
    intro d member id coming
    rcases List.mem_or_eq_of_mem_set member with old | rfl
    · exact registry id (h.covered d old id coming)
    · exact registry id (h.covered e (List.mem_of_getElem? turn) id (ahead id coming))
  single := Nat.le_trans (countP_set_le turn entering) h.single
  apart := by
    intro busy
    have before := h.apart (Nat.lt_of_lt_of_le busy (countP_set_le turn entering))
    have after := countP_set_le turn onRound
    exact Nat.le_zero.mp (before ▸ after)

theorem activate (h : f.Guarded) (turn : f.errands[n]? = some e) (free : f.isWritable)
    (entering : next.isEntering) (onRound : next.isOnRound = false)
    (registry : ∀ id ∈ f.hub.registry, id ∈ hub.registry) :
    Guarded ⟨hub, f.errands.set n next⟩ where
  covered := by
    intro d member id coming
    rcases List.mem_or_eq_of_mem_set member with old | rfl
    · exact registry id (h.covered d old id coming)
    · rw [ahead_of_not_isOnRound onRound] at coming
      cases coming
  single := by
    obtain ⟨inside, same⟩ := List.getElem?_eq_some_iff.mp turn
    have nobody := countP_entering_of_isReadable (isReadable_of_isWritable free)
    rw [List.countP_set inside, nobody, if_pos entering]
    omega
  apart := by
    intro _
    have before := countP_onRound_of_isWritable free
    have after : (f.errands.set n next).countP (·.isOnRound) ≤ f.errands.countP (·.isOnRound) :=
      countP_set_le turn (by simp [onRound])
    exact Nat.le_zero.mp (before ▸ after)

theorem setOut (h : f.Guarded) (turn : f.errands[n]? = some e) (readable : f.isReadable)
    (entering : next.isEntering = false) (ahead : ∀ id ∈ next.ahead, id ∈ f.hub.registry) :
    Guarded ⟨f.hub, f.errands.set n next⟩ where
  covered := by
    intro d member id coming
    rcases List.mem_or_eq_of_mem_set member with old | rfl
    · exact h.covered d old id coming
    · exact ahead id coming
  single := Nat.le_trans (countP_set_le turn (by simp [entering])) h.single
  apart := by
    intro busy
    have nobody := countP_entering_of_isReadable readable
    have after : (f.errands.set n next).countP (·.isEntering) ≤ f.errands.countP (·.isEntering) :=
      countP_set_le turn (by simp [entering])
    simp only at busy
    omega

/-- A change of the registry alone, by whoever has its lock alone. -/
theorem withHub (h : f.Guarded)
    (registry : f.isWritable ∨ ∀ id ∈ f.hub.registry, id ∈ hub.registry) :
    Guarded ⟨hub, f.errands⟩ where
  covered := by
    intro d member id coming
    rcases registry with free | grows
    · have off := List.countP_eq_zero.mp (countP_onRound_of_isWritable free) d member
      rw [ahead_of_not_isOnRound (Bool.eq_false_iff.mpr off)] at coming
      cases coming
    · exact grows id (h.covered d member id coming)
  single := h.single
  apart := h.apart

theorem moves {f' : Foyer} {e : Event} (h : f.Guarded) (moves : f.Moves e f') : f'.Guarded := by
  cases moves with
  | assign | refuse | lookUp | broadcast | miss =>
      exact h.append rfl rfl (.inr fun _ there => there)
  | remove free => exact h.append rfl rfl (.inl free)
  | drain free => exact h.append rfl rfl (.inl free)
  | look turn | greet turn | dismiss turn | comeBack turn | tell turn | tellAll turn =>
      exact h.set turn nofun nofun nofun fun _ there => there
  | activate turn free room => exact h.activate turn free rfl rfl fun _ there => there
  | enter turn => exact h.set turn nofun nofun nofun fun _ there => List.mem_insert_of_mem there
  | serve turn serves =>
      cases serves with
      | decide | look | answer | grant | lookAgain | letGo | comeBack =>
          exact h.set turn nofun nofun nofun fun _ there => there
      | @compose result seen =>
          obtain ⟨tally, same⟩ := f.hub.exists_countAnswer (.compose _ result seen)
          rw [same]
          exact h.set turn nofun nofun nofun fun _ there => there
      | reach =>
          exact h.set turn nofun (fun _ => rfl) (fun _ later => List.mem_cons_of_mem _ later)
            fun _ there => there
  | reach turn =>
      exact h.set turn nofun (fun _ => rfl) (fun _ later => List.mem_cons_of_mem _ later)
        fun _ there => there
  | announce turn readable everyone | cry turn readable everyone =>
      exact h.setOut turn readable rfl fun _ there => everyone.mem_iff.mp there
  | write free step =>
      apply h.withHub
      cases writes_of_writerStep step with
      | own there writes same =>
          right
          rw [same]
          exact fun _ there => there
      | leave there stand registered =>
          left
          apply free
          simp [isLeaving, there, stand]
      | pass | tell => exact .inr fun _ there => there
  | transport => exact h.withHub (.inr fun _ there => there)

end Guarded

end Foyer

/-! ## The life of a session in the foyer -/

def Service.isHolding : Service → Bool
  | .unknownSender | .returned _ => false
  | _ => true

/-- What a call is at work for a session as. -/
def Errand.role? (id : SessionId) : Errand → Option Role
  | .greeting i _ _ => if i = id then some .greeting else none
  | .connecting i _ => if i = id then some .connecting else none
  | .entering i => if i = id then some .entering else none
  | .inbound sender _ service => if sender = id ∧ service.isHolding then some .holding else none
  | _ => none

def own (h : Hub) (id : SessionId) : List Session := h.sessions.filter (·.id = id)

theorem mem_own {h : Hub} {id : SessionId} {s : Session} :
    s ∈ h.own id ↔ s ∈ h.sessions ∧ s.id = id := by
  simp [own]

theorem session?_eq (h : Hub) (id : SessionId) : h.session? id = (h.own id).head? := by
  simp only [session?, own, List.head?_filter, beq_eq_decide]

theorem own_update {h : Hub} {i : SessionId} {change : Session → Session} (id : SessionId)
    (keeps : ∀ s, s.id = i → (change s).id = i) :
    (h.update i change).own id = if i = id then (h.own id).map change else h.own id := by
  simp only [own, update, List.filter_map]
  have same (s : Session) : (if s.id = i then change s else s).id = s.id := by
    split
    · rename_i number
      rw [keeps s number, number]
    · rfl
  simp only [Function.comp_def, same]
  split
  · rename_i number
    apply List.map_congr_left
    intro s member
    simp only [List.mem_filter, decide_eq_true_eq] at member
    rw [if_pos (member.2.trans number.symm)]
  · rename_i other
    nth_rewrite 2 [← List.map_id (h.sessions.filter fun s => s.id = id)]
    apply List.map_congr_left
    intro s member
    simp only [List.mem_filter, decide_eq_true_eq] at member
    rw [if_neg fun number => other (number.symm.trans member.2), id_eq]

theorem count_insert (registry : List SessionId) (i id : SessionId) :
    (registry.insert i).count id =
      if i = id then max (registry.count id) 1 else registry.count id := by
  by_cases there : i ∈ registry
  · rw [List.insert_of_mem there]
    split
    · rename_i same
      have := List.count_pos_iff.mpr (same ▸ there)
      omega
    · rfl
  · rw [List.insert_of_not_mem there]
    split
    · rename_i same
      subst same
      rw [List.count_cons_self, List.count_eq_zero.mpr there, Nat.zero_max]
    · rename_i other
      exact List.count_cons_of_ne other

namespace Foyer

def crew (errands : List Errand) (id : SessionId) : Crew := fun r =>
  errands.countP fun e => e.role? id = some r

def life (f : Foyer) (id : SessionId) : Life where
  sessions := f.hub.own id
  isNumbered := id < f.hub.nextId
  entries := f.hub.registry.count id
  crew := crew f.errands id

theorem crew_append (errands : List Errand) (e : Errand) (id : SessionId) :
    crew (errands ++ [e]) id = (crew errands id).shift none (e.role? id) := by
  funext r
  simp [crew, Crew.shift, List.countP_append, List.countP_singleton]

theorem crew_set {errands : List Errand} {n : Nat} {e : Errand} (turn : errands[n]? = some e)
    (next : Errand) (id : SessionId) :
    crew (errands.set n next) id = (crew errands id).shift (e.role? id) (next.role? id) := by
  obtain ⟨inside, same⟩ := List.getElem?_eq_some_iff.mp turn
  funext r
  simp only [crew, Crew.shift, List.countP_set inside, same, decide_eq_true_eq]

theorem crew_pos {errands : List Errand} {n : Nat} {e : Errand} (turn : errands[n]? = some e)
    {id : SessionId} {r : Role} (role : e.role? id = some r) : 0 < crew errands id r := by
  simp only [crew, List.countP_pos_iff, decide_eq_true_eq]
  exact ⟨e, List.mem_of_getElem? turn, role⟩

theorem Crew.shift_none (c : Crew) : c.shift none none = c := by
  funext r
  simp [Crew.shift]

theorem crew_set_of_same {errands : List Errand} {n : Nat} {e next : Errand}
    (turn : errands[n]? = some e) {id : SessionId} (same : next.role? id = e.role? id) :
    crew (errands.set n next) id = crew errands id := by
  rw [crew_set turn, same]
  funext r
  simp only [Crew.shift]
  split
  · rename_i role
    have := crew_pos turn role
    omega
  · rfl

theorem crew_append_of_none {errands : List Errand} {e : Errand} {id : SessionId}
    (role : e.role? id = none) : crew (errands ++ [e]) id = crew errands id := by
  rw [crew_append, role, Crew.shift_none]

theorem registered_iff {f : Foyer} {id : SessionId} :
    f.hub.isRegistered id ↔ 0 < (f.life id).entries := by
  rw [isRegistered_iff, life, List.count_pos_iff]

theorem own_update_self {h : Hub} {id : SessionId} {change : Session → Session}
    (keeps : ∀ s, (change s).id = s.id) : (h.update id change).own id = (h.own id).map change := by
  rw [own_update id fun s number => (keeps s).trans number, if_pos rfl]

theorem own_update_other {h : Hub} {i id : SessionId} {change : Session → Session} (other : i ≠ id)
    (keeps : ∀ s, (change s).id = s.id) : (h.update i change).own id = h.own id := by
  rw [own_update id fun s number => (keeps s).trans number, if_neg other]

/-- A step that is told by what it does to the parts of a life. -/
theorem step_of {f f' : Foyer} {id : SessionId} {writing : Prop} {l : Life}
    (step : (f.life id).Step writing l)
    (sessions : f'.hub.own id = l.sessions) (numbered : decide (id < f'.hub.nextId) = l.isNumbered)
    (entries : f'.hub.registry.count id = l.entries) (crew : crew f'.errands id = l.crew) :
    (f.life id).Step writing (f'.life id) := by
  have same : f'.life id = l := Life.ext sessions numbered entries crew
  exact same ▸ step

/-- What is done to one session by a call that does not change its role leaves all others alone. -/
theorem step_of_change {f f' : Foyer} {i id : SessionId} {writing : Prop}
    {change : Session → Session} (keeps : ∀ s, (change s).id = s.id)
    (hub : ∃ tally, f'.hub = { f.hub.update i change with tally })
    (crew : crew f'.errands id = crew f.errands id)
    (step : (f.life i).Step writing { f.life i with sessions := (f.life i).sessions.map change }) :
    (f.life id).Step writing (f'.life id) := by
  obtain ⟨tally, same⟩ := hub
  by_cases other : i = id
  · subst other
    refine step_of step ?_ ?_ ?_ crew <;> rw [same]
    · exact own_update_self keeps
    · rfl
    · rfl
  · refine step_of .rest ?_ ?_ ?_ crew <;> rw [same]
    · exact own_update_other other keeps
    · rfl
    · rfl

/-- What is done to one session by a call that changes its role. -/
theorem step_of_turn {f f' : Foyer} {n : Nat} {e next : Errand} {i id : SessionId} {entries : Nat}
    {writing : Prop} {old new : Option Role} (change : Session → Session)
    (turn : f.errands[n]? = some e) (errands : f'.errands = f.errands.set n next)
    (before : ∀ id, e.role? id = if i = id then old else none)
    (after : ∀ id, next.role? id = if i = id then new else none) (keeps : ∀ s, (change s).id = s.id)
    (sessions : f'.hub.sessions = (f.hub.update i change).sessions)
    (numbered : f'.hub.nextId = f.hub.nextId)
    (others : ∀ id, i ≠ id → f'.hub.registry.count id = f.hub.registry.count id)
    (self : f'.hub.registry.count i = entries)
    (step : (f.life i).Step writing { f.life i with
      sessions := (f.life i).sessions.map change
      entries
      crew := (f.life i).crew.shift old new }) :
    (f.life id).Step writing (f'.life id) := by
  have own : f'.hub.own id = (f.hub.update i change).own id := by rw [own, own, sessions]
  have crew : crew f'.errands id =
      (Foyer.crew f.errands id).shift (if i = id then old else none)
        (if i = id then new else none) := by
    rw [errands, crew_set turn, before, after]
  by_cases other : i = id
  · subst other
    refine step_of step ?_ ?_ ?_ ?_
    · rw [own, own_update_self keeps]; rfl
    · rw [numbered]; rfl
    · exact self
    · rw [crew, if_pos rfl, if_pos rfl]; rfl
  · rw [if_neg other, if_neg other, Crew.shift_none] at crew
    refine step_of .rest ?_ ?_ ?_ crew
    · rw [own, own_update_other other keeps]; rfl
    · rw [numbered]; rfl
    · exact others id other

/-! ## Every event is a step of every life -/

theorem life_assign (f : Foyer) (sink : Session.Sink) (bounded : Bool) (survey : Survey)
    (id : SessionId) {writing : Prop} :
    (f.life id).Step writing
      (life ⟨f.hub.assign sink, f.errands ++ [.greeting f.hub.nextId bounded survey]⟩ id) := by
  by_cases own : f.hub.nextId = id
  · have new : (f.life id).isNumbered = false := by simp [life, own]
    apply step_of (.assign id sink new)
    · simp [Hub.own, life, assign, Session.blank, own]
    · simp [assign, own]
    · rfl
    · simp [life, crew_append, Errand.role?, own]
  · apply step_of .rest
    · simp [life, Hub.own, assign, Session.blank, own]
    · have earlier {next id : Nat} (other : next ≠ id) : id < next + 1 ↔ id < next := by omega
      exact decide_eq_decide.mpr (earlier own)
    · rfl
    · exact crew_append_of_none (if_neg own)

theorem life_lookUp {f : Foyer} {sender : SessionId} (registered : f.hub.isRegistered sender)
    (message : Text) (id : SessionId) {writing : Prop} :
    (f.life id).Step writing
      (life ⟨f.hub.update sender .hold, f.errands ++ [.inbound sender message .lookedUp]⟩ id) := by
  by_cases own : sender = id
  · subst own
    apply step_of (.lookUp (registered_iff.mp registered))
    · exact own_update_self (·.id_hold)
    · rfl
    · rfl
    · simp [life, crew_append, Errand.role?, Service.isHolding]
  · apply step_of .rest
    · exact own_update_other own (·.id_hold)
    · rfl
    · rfl
    · exact crew_append_of_none (by simp [Errand.role?, own])

theorem life_remove {f : Foyer} {i : SessionId} (registered : f.hub.isRegistered i) {d : Errand}
    (id : SessionId) (idle : d.role? id = none) {writing : Prop} :
    (f.life id).Step writing
      (life ⟨{ f.hub with registry := f.hub.registry.erase i }, f.errands ++ [d]⟩ id) := by
  by_cases own : i = id
  · subst own
    have before := registered_iff.mp registered
    have fewer : f.hub.registry.count i - 1 < (f.life i).entries := Nat.sub_one_lt_of_lt before
    refine step_of (.remove fewer) rfl rfl ?_ (crew_append_of_none idle)
    exact List.count_erase_self ..
  · refine step_of .rest rfl rfl ?_ (crew_append_of_none idle)
    exact List.count_erase_of_ne (Ne.symm own) ..

theorem life_drain (f : Foyer) {d : Errand} (id : SessionId) (idle : d.role? id = none)
    {writing : Prop} :
    (f.life id).Step writing (life ⟨{ f.hub with registry := [] }, f.errands ++ [d]⟩ id) := by
  by_cases registered : f.hub.isRegistered id
  · refine step_of (.remove (registered_iff.mp registered)) rfl rfl rfl ?_
    exact crew_append_of_none idle
  · refine step_of .rest rfl rfl ?_ (crew_append_of_none idle)
    rw [registered_iff] at registered
    simp only [life] at registered ⊢
    rw [List.count_nil]
    omega

theorem life_dismiss {f : Foyer} {n : Nat} {i : SessionId} {bounded : Bool}
    (turn : f.errands[n]? = some (.connecting i bounded)) (id : SessionId) {writing : Prop} :
    (f.life id).Step writing
      (life ⟨f.hub.dismiss i, f.errands.set n (.connected i false)⟩ id) := by
  by_cases own : i = id
  · subst own
    apply step_of (.dismiss (crew_pos turn (if_pos rfl)))
    · simp [Hub.own, Hub.dismiss]
    · rfl
    · rfl
    · simp [crew_set turn, Errand.role?, life]
  · apply step_of .rest
    · simp only [Hub.own, Hub.dismiss, List.filter_filter, life]
      apply List.filter_congr
      intro s _
      by_cases number : s.id = id <;> simp [number, Ne.symm own]
    · rfl
    · rfl
    · simp [crew_set turn, Errand.role?, own, Crew.shift_none, life]

theorem life_enter {f : Foyer} {n : Nat} {i : SessionId} (turn : f.errands[n]? = some (.entering i))
    (id : SessionId) {writing : Prop} :
    (f.life id).Step writing (life ⟨f.hub.enter i, f.errands.set n (.connected i true)⟩ id) := by
  refine step_of_turn Session.release turn rfl (fun _ => rfl) (fun _ => (ite_self none).symm)
    (·.id_release) rfl rfl ?_ ?_ (.enter (crew_pos turn (if_pos rfl)))
  · intro id other
    exact (count_insert ..).trans (if_neg other)
  · exact (count_insert ..).trans (if_pos rfl)

theorem life_of_serves {f : Foyer} {n : Nat} {sender : SessionId} {message : Text}
    {service next : Service} {hub : Hub} {writing : Prop} (guarded : f.Guarded)
    (turn : f.errands[n]? = some (.inbound sender message service))
    (serves : f.hub.Serves sender message service next hub) (id : SessionId) :
    (f.life id).Step writing
      (Foyer.life ⟨hub, f.errands.set n (.inbound sender message next)⟩ id) := by
  have still (same : next.isHolding = service.isHolding) :
      crew (f.errands.set n (.inbound sender message next)) id = crew f.errands id :=
    crew_set_of_same turn (by simp only [Errand.role?, same])
  have holding (holds : service.isHolding) : 0 < (f.life sender).crew .holding :=
    crew_pos turn (by rw [Errand.role?, if_pos ⟨rfl, holds⟩])
  cases serves with
  | decide | look | lookAgain | comeBack => exact step_of .rest rfl rfl rfl (still rfl)
  | @compose result seen =>
      obtain ⟨tally, same⟩ := f.hub.exists_countAnswer (.compose message result seen)
      rw [same]
      exact step_of .rest rfl rfl rfl (still rfl)
  | @answer reply | @grant reply =>
      exact step_of_change (Session.id_offer · reply.text) ⟨f.hub.tally, rfl⟩ (still rfl)
        (.offer reply.text (.inr (holding rfl)))
  | @reach reply delivered frame i ahead reached =>
      have registered := guarded.covered _ (List.mem_of_getElem? turn) i (List.mem_cons_self ..)
      exact step_of_change (Session.id_offer · frame) ⟨f.hub.tally, rfl⟩ (still rfl)
        (.offer frame (.inl (List.count_pos_iff.mpr registered)))
  | @letGo delivery =>
      have before (i : SessionId) : (Errand.inbound sender message (.served delivery)).role? i =
          if sender = i then some .holding else none := by
        simp [Errand.role?, Service.isHolding]
      have after (i : SessionId) : (Errand.inbound sender message (.returned delivery)).role? i =
          if sender = i then none else none := by
        simp [Errand.role?, Service.isHolding]
      exact step_of_turn Session.release turn rfl before after (·.id_release) rfl rfl
        (fun _ _ => rfl) rfl
        (.letGo (holding rfl))

theorem crew_entering_of_isWritable {f : Foyer} (free : f.isWritable) (id : SessionId) :
    (f.life id).crew .entering = 0 := by
  apply List.countP_eq_zero.mpr
  intro e member
  have idle := List.all_eq_true.mp free e member
  cases e with
  | entering => cases idle
  | greeting | connecting | inbound => simp only [Errand.role?]; split <;> simp
  | connected | broadcasting | crying | cried | disconnecting | disconnected | closingAll =>
      simp [Errand.role?]

theorem crew_entering_of_leaving {f : Foyer} {i : SessionId} {s : Session} {ending : Session.Ending}
    (free : f.hub.isLeaving i → f.isWritable) (there : f.hub.session? i = some s)
    (stand : s.writer = .leaving ending) : (f.life i).crew .entering = 0 := by
  apply crew_entering_of_isWritable
  apply free
  simp [isLeaving, there, stand]

theorem first_of_session? {f : Foyer} {i : SessionId} {s : Session}
    (there : f.hub.session? i = some s) : (f.life i).sessions.head? = some s := by
  rw [← there, session?_eq]
  rfl

theorem life_leave {f : Foyer} {i : SessionId} {s : Session} {ending : Session.Ending}
    (free : f.hub.isLeaving i → f.isWritable) (there : f.hub.session? i = some s)
    (stand : s.writer = .leaving ending) (remaining : Nat) (id : SessionId) :
    (f.life id).Step (Event.write i = .write id)
      (life ⟨{ f.hub with registry := f.hub.registry.erase i }.update i fun s =>
        { s with writer := .telling ending remaining }, f.errands⟩ id) := by
  by_cases other : i = id
  · subst other
    refine step_of (.leave rfl (first_of_session? there) stand
      (crew_entering_of_leaving free there stand) (.inr ⟨remaining, rfl⟩)) ?_ rfl ?_ rfl
    · exact own_update_self fun _ => rfl
    · exact List.count_erase_self ..
  · refine step_of .rest ?_ rfl ?_ rfl
    · exact own_update_other other fun _ => rfl
    · exact List.count_erase_of_ne (Ne.symm other) ..

theorem life_pass {f : Foyer} {i : SessionId} {s : Session} {ending : Session.Ending}
    (free : f.hub.isLeaving i → f.isWritable) (there : f.hub.session? i = some s)
    (stand : s.writer = .leaving ending) (unregistered : ¬ f.hub.isRegistered i) (id : SessionId) :
    (f.life id).Step (Event.write i = .write id)
      (life ⟨f.hub.update i fun s => { s with writer := .finishing ending }, f.errands⟩ id) := by
  by_cases other : i = id
  · subst other
    refine step_of (.leave rfl (first_of_session? there) stand
      (crew_entering_of_leaving free there stand) (.inl rfl)) ?_ rfl ?_ rfl
    · exact own_update_self fun _ => rfl
    · rw [isRegistered_iff, ← List.count_pos_iff] at unregistered
      show f.hub.registry.count i = f.hub.registry.count i - 1
      omega
  · exact step_of .rest (own_update_other other fun _ => rfl) rfl rfl rfl

theorem life_of_writes {f : Foyer} {i : SessionId} {hub : Hub}
    (free : f.hub.isLeaving i → f.isWritable) (writes : f.hub.Writes i hub) (id : SessionId) :
    (f.life id).Step (Event.write i = .write id) (Foyer.life ⟨hub, f.errands⟩ id) := by
  cases writes with
  | @own s next hub there writes same =>
      have number := (mem_of_session? there).2
      have keeps (t : Session) (_ : t.id = i) : next.id = i := writes.id.trans number
      rw [same]
      by_cases other : i = id
      · subst other
        rw [canStillCome_eq, number] at writes
        refine step_of (.write rfl (first_of_session? there) writes) ?_ rfl rfl rfl
        exact (own_update i keeps).trans (if_pos rfl)
      · exact step_of .rest ((own_update id keeps).trans (if_neg other)) rfl rfl rfl
  | leave there stand => exact life_leave free there stand _ id
  | pass there stand unregistered => exact life_pass free there stand unregistered id
  | tell there stand =>
      by_cases other : i = id
      · subst other
        exact step_of (.tell rfl (first_of_session? there) stand) (own_update_self fun _ => rfl)
          rfl rfl rfl
      · exact step_of .rest (own_update_other other fun _ => rfl) rfl rfl rfl

theorem life_of_moves {f f' : Foyer} {e : Event} (guarded : f.Guarded) (moves : f.Moves e f')
    (id : SessionId) : (f.life id).Step (e = .write id) (f'.life id) := by
  cases moves with
  | assign sink bounded => exact life_assign f sink bounded _ id
  | refuse sender message | broadcast | miss =>
      exact step_of .rest rfl rfl rfl
        (crew_append_of_none (by simp [Errand.role?, Service.isHolding]))
  | lookUp message registered => exact life_lookUp registered message id
  | remove _ registered => exact life_remove registered id rfl
  | drain => exact life_drain f id rfl
  | look turn | comeBack turn | tell turn | tellAll turn =>
      exact step_of .rest rfl rfl rfl (crew_set_of_same turn rfl)
  | @greet n i bounded seen turn =>
      exact step_of_turn (·.offer (Snapshot.render .initial seen)) turn rfl (fun _ => rfl)
        (fun _ => rfl) (Session.id_offer · _) rfl rfl (fun _ _ => rfl) rfl
        (.greet _ (crew_pos turn (if_pos rfl)))
  | dismiss turn => exact life_dismiss turn id
  | @activate n i bounded turn =>
      exact step_of_turn (fun s => s.activate.hold) turn rfl (fun _ => rfl) (fun _ => rfl)
        (fun _ => rfl) rfl rfl (fun _ _ => rfl) rfl (.activate (crew_pos turn (if_pos rfl)))
  | enter turn => exact life_enter turn id
  | serve turn serves => exact life_of_serves guarded turn serves id
  | @reach n frame i ahead reached turn =>
      have registered := guarded.covered _ (List.mem_of_getElem? turn) i (List.mem_cons_self ..)
      exact step_of_change (Session.id_offer · frame) ⟨f.hub.tally, rfl⟩ (crew_set_of_same turn rfl)
        (.offer frame (.inl (List.count_pos_iff.mpr registered)))
  | announce turn | cry turn =>
      exact step_of .rest rfl rfl rfl
        (crew_set_of_same turn (by simp [Errand.role?, Service.isHolding]))
  | write free step => exact life_of_writes free (writes_of_writerStep step) id
  | transport i sink =>
      exact step_of_change (·.id_withSink _) ⟨f.hub.tally, rfl⟩ rfl (.transport sink)

end Foyer

end BoxOffice.Hub
