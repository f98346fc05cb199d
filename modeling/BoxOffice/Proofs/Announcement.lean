import BoxOffice.Proofs.Purpose
import BoxOffice.Proofs.Trail

/-! # Every granted booking is announced once

A booking that is granted sends one frame to everyone who is registered, after the answer to its
sender; nobody is offered it twice, and nobody else is offered it. A call whose booking is not
granted offers its answer and nothing more.
-/

namespace BoxOffice.Hub

def Errand.caller? : Errand → Option (SessionId × Text)
  | .inbound sender message _ => some (sender, message)
  | _ => none

def Purpose.caller? : Purpose → Option (SessionId × Text)
  | .inbound sender message => some (sender, message)
  | _ => none

theorem Errand.caller?_eq (d : Errand) : d.caller? = d.purpose.caller? := by cases d <;> rfl

namespace Foyer

variable {f f' : Foyer} {events : List Event} {e : Event} {n : Nat} {sender : SessionId}
  {message : Text}

/-! ## A call can always come to its end -/

def Ends (f : Foyer) (n : Nat) (sender : SessionId) (message : Text) : Prop :=
  ∃ more f' delivery, f.run? more = some f' ∧
    f'.errands[n]? = some (.inbound sender message (.returned delivery))

theorem Ends.of_step (step : f.step? e = some f') (h : f'.Ends n sender message) :
    f.Ends n sender message := by
  obtain ⟨more, last, delivery, run, turn⟩ := h
  exact ⟨e :: more, last, delivery, by rw [runs.cons, step, Option.bind_some, run], turn⟩

theorem step?_of_serve {service next : Service} {hub : Hub}
    (turn : f.errands[n]? = some (.inbound sender message service))
    (serves : serve? f.hub sender message service = some (next, hub)) :
    f.step? (.proceed n) = some ⟨hub, f.errands.set n (.inbound sender message next)⟩ := by
  simp [step?, turn, proceed?, serves]

theorem ends_of_served {delivery : Delivery}
    (turn : f.errands[n]? = some (.inbound sender message (.served delivery))) :
    f.Ends n sender message :=
  .of_step (step?_of_serve turn rfl) ⟨[], _, delivery, rfl, turn_set turn _⟩

theorem ends_of_onRound {reply : Reply} {delivered : Bool} {frame : Text}
    {ahead reached : List SessionId}
    (turn : f.errands[n]? =
      some (.inbound sender message (.onRound reply delivered ⟨frame, ahead, reached⟩))) :
    f.Ends n sender message := by
  induction ahead generalizing f reached with
  | nil => exact .of_step (step?_of_serve turn rfl) (ends_of_served (turn_set turn _))
  | cons id ahead ih => exact .of_step (step?_of_serve turn rfl) (ih (turn_set turn _))

theorem isReadable_of_countP (nobody : f.errands.countP (·.isEntering) = 0) : f.isReadable := by
  apply List.all_eq_true.mpr
  intro e member
  rw [Bool.not_eq_true', ← Bool.not_eq_true]
  exact List.countP_eq_zero.mp nobody e member

theorem ends_of_readable {reply : Reply} {delivered : Bool} {seen : Programme}
    (readable : f.isReadable)
    (turn : f.errands[n]? =
      some (.inbound sender message (.announcing reply delivered ⟨seen, []⟩))) :
    f.Ends n sender message := by
  have step : f.step? (.setOut n f.hub.registry) = some { f with
      errands := f.errands.set n (.inbound sender message
        (.onRound reply delivered ⟨Snapshot.render .update seen, f.hub.registry, []⟩)) } := by
    simp [step?, readable, turn, setOut?, List.isPerm_iff]
  exact .of_step step (ends_of_onRound (turn_set turn _))

/-- A frame that is to set out waits for one call at most, which can make its step. -/
theorem ends_of_written {reply : Reply} {delivered : Bool} {seen : Programme} (guarded : f.Guarded)
    (turn : f.errands[n]? =
      some (.inbound sender message (.announcing reply delivered ⟨seen, []⟩))) :
    f.Ends n sender message := by
  by_cases busy : f.errands.countP (·.isEntering) = 0
  · exact ends_of_readable (isReadable_of_countP busy) turn
  · -- the call that has the lock is the only one, and its next step lets go of it
    obtain ⟨d, member, entering⟩ := List.countP_pos_iff.mp (Nat.pos_of_ne_zero busy)
    obtain ⟨m, other⟩ := List.mem_iff_getElem?.mp member
    cases d with
    | entering id =>
        have step : f.step? (.proceed m) =
            some ⟨f.hub.enter id, f.errands.set m (.connected id true)⟩ := by
          simp [step?, other, proceed?]
        have apart : m ≠ n := by
          rintro rfl
          rw [turn] at other
          cases other
        have free : (f.errands.set m (.connected id true)).countP (·.isEntering) = 0 := by
          obtain ⟨inside, same⟩ := List.getElem?_eq_some_iff.mp other
          rw [List.countP_set inside, same]
          exact Nat.sub_eq_zero_of_le guarded.single
        have still := (List.getElem?_set_ne (a := .connected id true) apart).trans turn
        exact .of_step step (ends_of_readable (isReadable_of_countP free) still)
    | greeting | connecting | connected | inbound | broadcasting | crying | cried | disconnecting
    | disconnected | closingAll => cases entering

theorem ends_of_announcing {reply : Reply} {delivered : Bool} {survey : Survey}
    (guarded : f.Guarded)
    (turn : f.errands[n]? = some (.inbound sender message (.announcing reply delivered survey))) :
    f.Ends n sender message := by
  obtain ⟨seen, unseen⟩ := survey
  induction unseen generalizing f seen with
  | nil => exact ends_of_written guarded turn
  | cons position unseen ih =>
      have step := step?_of_serve turn rfl
      exact .of_step step (ih (guarded.moves (moves_of_step? step)) _ (turn_set turn _))

theorem ends_of_answered {reply : Reply} (guarded : f.Guarded)
    (turn : f.errands[n]? = some (.inbound sender message (.answered reply))) :
    f.Ends n sender message := by
  by_cases granted : reply.announce
  · have step := step?_of_serve turn (if_pos granted)
    exact .of_step step (ends_of_announcing (guarded.moves (moves_of_step? step)) (turn_set turn _))
  · have step := step?_of_serve turn (if_neg granted)
    exact .of_step step (ends_of_served (turn_set turn _))

theorem ends_of_answering {result : Option (Except Refusal Request)} {survey : Survey}
    (guarded : f.Guarded)
    (turn : f.errands[n]? = some (.inbound sender message (.answering result survey))) :
    f.Ends n sender message := by
  obtain ⟨seen, unseen⟩ := survey
  induction unseen generalizing f seen with
  | nil =>
      have step := step?_of_serve turn rfl
      exact .of_step step (ends_of_answered (guarded.moves (moves_of_step? step)) (turn_set turn _))
  | cons position unseen ih =>
      have step := step?_of_serve turn rfl
      exact .of_step step (ih (guarded.moves (moves_of_step? step)) _ (turn_set turn _))

theorem ends {service : Service} (guarded : f.Guarded)
    (turn : f.errands[n]? = some (.inbound sender message service))
    (holding : service.isHolding) : f.Ends n sender message := by
  cases service with
  | unknownSender | returned => cases holding
  | lookedUp =>
      have step := step?_of_serve turn rfl
      exact .of_step step
        (ends_of_answering (guarded.moves (moves_of_step? step)) (turn_set turn _))
  | answering => exact ends_of_answering guarded turn
  | answered => exact ends_of_answered guarded turn
  | announcing => exact ends_of_announcing guarded turn
  | onRound reply delivered round => exact ends_of_onRound turn
  | served => exact ends_of_served turn

theorem caller_stays {d : Errand} (run : f.run? events = some f') (turn : f.errands[n]? = some d) :
    ∃ d', f'.errands[n]? = some d' ∧ d'.caller? = d.caller? := by
  obtain ⟨d', still, same⟩ := purpose_stays run turn
  exact ⟨d', still, by rw [Errand.caller?_eq, Errand.caller?_eq, same]⟩

theorem inbound_stays {service : Service} (run : f.run? events = some f')
    (turn : f.errands[n]? = some (.inbound sender message service)) :
    ∃ service', f'.errands[n]? = some (.inbound sender message service') := by
  obtain ⟨d, still, same⟩ := purpose_stays run turn
  obtain ⟨service', rfl⟩ := Errand.inbound_of_purpose same
  exact ⟨service', still⟩

/-! ## Rounds -/

/-- The announcement of the call in place `n` comes to a session next, and finds it registered
    with an open queue. -/
def Finds (f : Foyer) (n : Nat) (id : SessionId) : Prop :=
  (∃ sender message reply delivered frame ahead reached, f.errands[n]? =
    some (.inbound sender message (.onRound reply delivered ⟨frame, id :: ahead, reached⟩))) ∧
  id ∈ f.hub.registry ∧ ∃ s ∈ f.hub.sessions, s.id = id ∧ s.isOpen

theorem mem_offers {start : Foyer} (run : start.run? events = some f) {o : Offer} :
    o ∈ start.offers events ↔ ∃ k u, Moment run? start events k u (.proceed o.call) ∧
      u.offer? (.proceed o.call) = some o := by
  refine runs.induction (motive := fun events _ => o ∈ start.offers events ↔
    ∃ k u, Moment run? start events k u (.proceed o.call) ∧
    u.offer? (.proceed o.call) = some o) ?_ ?_ run
  · constructor
    · nofun
    · rintro ⟨k, u, ⟨event, -⟩, -⟩
      cases event
  · intro events u e v before known step
    rw [offers_append before, List.mem_append, known, Option.mem_toList]
    constructor
    · rintro (⟨k, w, moment, offered⟩ | offered)
      · exact ⟨k, w, moment.append [e], offered⟩
      · obtain rfl := (offer?_eq_some offered).1
        exact ⟨events.length, u, .last before _, offered⟩
    · rintro ⟨k, w, moment, offered⟩
      rcases moment.of_snoc with earlier | ⟨-, rfl, now⟩
      · exact .inl ⟨k, w, earlier, offered⟩
      · rw [before, Option.some.injEq] at now
        exact .inr (now ▸ offered)

theorem mem_orders {start : Foyer} (run : start.run? events = some f) {order : List SessionId} :
    order ∈ (trail start events n).orders ↔
      ∃ k u, Moment run? start events k u (.setOut n order) := by
  constructor
  · intro member
    obtain ⟨d, inside, sets⟩ := List.mem_filterMap.mp member
    obtain ⟨k, event⟩ := List.mem_iff_getElem?.mp inside
    obtain ⟨u, moment⟩ := Moment.of_event runs run event
    cases d with
    | setOut m other =>
        simp only [Event.order?, Option.ite_none_right_eq_some, Option.some.injEq] at sets
        obtain ⟨rfl, rfl⟩ := sets
        exact ⟨k, u, moment⟩
    | begin | proceed | write | transport => cases sets
  · rintro ⟨k, u, event, -⟩
    exact List.mem_filterMap.mpr ⟨_, List.mem_of_getElem? event, if_pos rfl⟩

theorem perm_of_step {order : List SessionId} (step : f.step? (.setOut n order) = some f') :
    order.Perm f.hub.registry := by
  cases moves_of_step? step with
  | announce _ _ everyone | cry _ _ everyone => exact everyone

section

variable {programme : Programme} {limit : Option Nat} {order : List SessionId}

theorem perm_of_moment (run : (idle programme limit).run? events = some f) {k : Nat} {u : Foyer}
    (moment : Moment run? (idle programme limit) events k u (.setOut n order)) :
    order.Perm u.hub.registry ∧ order.Nodup := by
  obtain ⟨v, step, -⟩ := moment.after runs run
  have everyone := perm_of_step step
  exact ⟨everyone, everyone.nodup_iff.mpr (Sound.of_run moment.before).nodup_registry⟩

/-! ## What a call has done -/

/-- A call has offered nothing, or one frame to its sender. -/
structure Trail.Quiet (t : Trail) (sender : SessionId) : Prop where
  orders : t.orders = []
  few : t.offers.length ≤ 1
  sender : ∀ o ∈ t.offers, o.session = sender

theorem Trail.Answers.quiet {t : Trail} {answer : Offer} (h : t.Answers sender answer) :
    t.Quiet sender where
  orders := h.orders
  few := by rw [h.offers]; exact Nat.le_refl 1
  sender := by
    intro o member
    rw [h.offers, List.mem_singleton] at member
    exact member ▸ h.sender

theorem Stands.quiet_or_announces {h : Hub} {t : Trail} {service : Service}
    (stands : Stands h sender message t service) :
    t.Quiet sender ∨
    ∃ answer sent ahead seen, t.Announces sender message answer sent ahead seen := by
  have nothing (offers : t.offers = []) (orders : t.orders = []) : t.Quiet sender :=
    ⟨orders, by simp [offers], by simp [offers]⟩
  cases stands with
  | unknownSender none | lookedUp none => exact .inl (nothing (none ▸ rfl) (none ▸ rfl))
  | answering offers orders | answered offers orders => exact .inl (nothing offers orders)
  | announcing _ answers => exact .inl answers.quiet
  | onRound announces => exact .inr ⟨_, _, _, _, announces⟩
  | served done | returned done =>
      rcases done with ⟨-, answer, answers⟩ | ⟨answer, sent, seen, announces⟩
      · exact .inl answers.quiet
      · exact .inr ⟨answer, sent, [], seen, announces⟩

theorem Trail.Announces.isUpdate_answer {t : Trail} {answer : Offer} {sent : List Offer}
    {ahead : List SessionId} {seen : Programme}
    (h : t.Announces sender message answer sent ahead seen) :
    Snapshot.isUpdate answer.frame = false := by
  obtain ⟨request, past, same⟩ := h.grants
  rw [same]
  exact Reply.isUpdate_compose [] (some (.ok request)) past

theorem countP_updates_le (run : (idle programme limit).run? events = some f) {service : Service}
    (turn : f.errands[n]? = some (.inbound sender message service)) (id : SessionId) :
    (trail (idle programme limit) events n).offers.countP (·.updates id) ≤ 1 := by
  rcases (stands_of_run run turn).quiet_or_announces
    with quiet | ⟨answer, sent, ahead, seen, announces⟩
  · exact Nat.le_trans List.countP_le_length quiet.few
  · obtain ⟨k, u, moment⟩ := (mem_orders run).mp (announces.orders ▸ List.mem_singleton_self _)
    have once := (List.nodup_append.mp (perm_of_moment run moment).2).1
    have other : answer.updates id = false := by simp [Offer.updates, announces.isUpdate_answer]
    rw [announces.offers, List.countP_cons_of_neg (by simp [other])]
    calc sent.countP (·.updates id)
        ≤ sent.countP (·.session == id) := by
          apply List.countP_mono_left
          intro o _ updates
          simp only [Offer.updates, Bool.and_eq_true, decide_eq_true_eq] at updates
          exact beq_iff_eq.mpr updates.1.1
      _ = (sent.map (·.session)).count id := by rw [List.count, List.countP_map]; rfl
      _ ≤ 1 := List.nodup_iff_count_le_one.mp once id

theorem finds_of_updates {u : Foyer} {o : Offer} {id : SessionId}
    (run : (idle programme limit).run? events = some u)
    (offered : u.offer? (.proceed o.call) = some o) (updates : o.updates id)
    (quiet : ∀ round, u.errands[o.call]? ≠ some (.crying round)) :
    u.Finds o.call id := by
  obtain ⟨-, -, taken, errand, turn, offering⟩ := offer?_eq_some offered
  simp only [Offer.updates, Bool.and_eq_true, decide_eq_true_eq] at updates
  obtain ⟨⟨rfl, isTaken⟩, update⟩ := updates
  rw [taken, Option.any_eq_true] at isTaken
  obtain ⟨s, found, isOpen⟩ := isTaken
  obtain ⟨there, number⟩ := mem_of_session? found
  -- a greeting and an answer are no updates, and no call is crying
  unfold Errand.offering? at offering
  split at offering
  · rw [Option.some.injEq, Prod.mk.injEq] at offering
    rw [← offering.2, Snapshot.isUpdate_render_initial] at update
    cases update
  · rw [Option.some.injEq, Prod.mk.injEq] at offering
    cases stands_of_run run turn with
    | answered =>
        rw [← offering.2, Reply.isUpdate_compose] at update
        cases update
  · rw [Option.some.injEq, Prod.mk.injEq] at offering
    rw [offering.1] at turn
    have registered :=
      (Sound.of_run run).guarded.covered _ (List.mem_of_getElem? turn) _ (List.mem_cons_self ..)
    exact ⟨⟨_, _, _, _, _, _, _, turn⟩, registered, s, there, number, isOpen⟩
  · exact absurd turn (quiet _)
  · cases offering

theorem updates_of_finds {u : Foyer} {id : SessionId}
    (run : (idle programme limit).run? events = some u) (finds : u.Finds n id) :
    ∃ o : Offer, o.call = n ∧ o.updates id ∧ u.offer? (.proceed n) = some o := by
  obtain ⟨⟨_, _, reply, delivered, frame, ahead, reached, turn⟩, -, s, there, rfl, isOpen⟩ := finds
  have found := session?_of_mem (Sound.of_run run) there
  refine ⟨_, ?_, ?_, offer?_of_offering turn rfl⟩
  · rfl
  · cases stands_of_run run turn with
    | onRound => simp [Offer.updates, found, isOpen, Snapshot.isUpdate_render_update]

/-! ## How many updates a session accepts -/

theorem not_crying (run : (idle programme limit).run? events = some f)
    (silent : ∀ frame, .begin (.broadcast frame) ∉ events) :
    ∀ d ∈ f.errands, (∀ frame, d ≠ .broadcasting frame) ∧ ∀ round, d ≠ .crying round := by
  refine runs.induction (motive := fun events now => (∀ frame, .begin (.broadcast frame) ∉ events) →
    ∀ d ∈ now.errands, (∀ frame, d ≠ .broadcasting frame) ∧
    ∀ round, d ≠ .crying round) ?_ ?_ run silent
  · intro _ d member
    cases member
  intro events u e v _ known step silent d member
  have old := known fun frame here => silent frame (List.mem_append_left _ here)
  cases moves_of_step? step with
  | broadcast frame =>
      exact absurd (List.mem_append_right _ (List.mem_singleton_self _)) (silent frame)
  | assign | refuse | lookUp | remove | miss | drain =>
      rcases List.mem_append.mp member with before | now
      · exact old d before
      · rw [List.mem_singleton.mp now]
        exact ⟨nofun, nofun⟩
  | reach before => exact absurd rfl ((old _ (List.mem_of_getElem? before)).2 _)
  | cry before => exact absurd rfl ((old _ (List.mem_of_getElem? before)).1 _)
  | look | greet | dismiss | activate | enter | serve | comeBack | tell | tellAll | announce =>
      rcases List.mem_or_eq_of_mem_set member with before | rfl
      · exact old d before
      · exact ⟨nofun, nofun⟩
  | write | transport => exact old d member

/-- The booking of the call in place `n` was granted, and its announcement found the session
    registered with an open queue. -/
def Found (start : Foyer) (events : List Event) (n : Nat) (id : SessionId) : Prop :=
  (trail start events n).granted ∧
    ∃ k u, Moment run? start events k u (.proceed n) ∧ u.Finds n id

theorem granted_of_take {start : Foyer} {k : Nat}
    (granted : (trail start (events.take k) n).granted) :
    (trail start events n).granted := by
  obtain ⟨j, v, earlier, grants⟩ := granted
  refine ⟨j, v, ?_, grants⟩
  rw [← List.take_append_drop k events]
  exact earlier.append _

theorem found_of_finds {k : Nat} {u : Foyer} {id : SessionId}
    (moment : Moment run? (idle programme limit) events k u (.proceed n)) (finds : u.Finds n id) :
    Found (idle programme limit) events n id := by
  refine ⟨?_, k, u, moment, finds⟩
  obtain ⟨⟨sender, message, reply, delivered, frame, ahead, reached, turn⟩, -⟩ := finds
  cases stands_of_run moment.before turn with
  | onRound announces => exact granted_of_take announces.granted

theorem found_iff (run : (idle programme limit).run? events = some f) (id : SessionId)
    (quiet : ∀ k u, Moment run? (idle programme limit) events k u (.proceed n) →
      ∀ round, u.errands[n]? ≠ some (.crying round)) :
    Found (idle programme limit) events n id ↔
      ∃ o ∈ (idle programme limit).offers events, o.call = n ∧ o.updates id := by
  constructor
  · rintro ⟨-, k, u, moment, finds⟩
    obtain ⟨o, rfl, updates, offered⟩ := updates_of_finds moment.before finds
    exact ⟨o, (mem_offers run).mpr ⟨k, u, moment, offered⟩, rfl, updates⟩
  · rintro ⟨o, member, rfl, updates⟩
    obtain ⟨k, u, moment, offered⟩ := (mem_offers run).mp member
    exact found_of_finds moment (finds_of_updates moment.before offered updates (quiet k u moment))

theorem countP_isUpdate (offers : List Offer) (id : SessionId) :
    (took offers id).countP Snapshot.isUpdate = offers.countP (·.updates id) := by
  simp only [took, List.countP_map, List.countP_filter]
  apply List.countP_congr
  intro o _
  simp [Offer.updates, and_comm]

/-- A session accepts one update from each call whose announcement found it registered with an open
    queue, and no other. -/
theorem exists_calls (run : (idle programme limit).run? events = some f)
    (silent : ∀ frame, .begin (.broadcast frame) ∉ events) {s : Session}
    (there : s ∈ f.hub.sessions) :
    ∃ calls : List Nat, calls.Nodup ∧
      (∀ n, n ∈ calls ↔ Found (idle programme limit) events n s.id) ∧
      s.accepted.countP Snapshot.isUpdate = calls.length := by
  have quiet (n k : Nat) (u : Foyer)
      (moment : Moment run? (idle programme limit) events k u (.proceed n))
      (round : Round) : u.errands[n]? ≠ some (.crying round) := by
    intro turn
    have earlier : ∀ frame, .begin (.broadcast frame) ∉ events.take k :=
      fun frame here => silent frame (List.mem_of_mem_take here)
    exact (not_crying moment.before earlier _ (List.mem_of_getElem? turn)).2 round rfl
  let updates := ((idle programme limit).offers events).filter (·.updates s.id)
  have member (n : Nat) :
      n ∈ updates.map (·.call) ↔ Found (idle programme limit) events n s.id := by
    rw [found_iff run s.id (quiet n)]
    simp only [updates, List.mem_map, List.mem_filter]
    constructor
    · rintro ⟨o, ⟨offered, update⟩, own⟩
      exact ⟨o, offered, own, update⟩
    · rintro ⟨o, offered, own, update⟩
      exact ⟨o, ⟨offered, update⟩, own⟩
  -- a session may be offered a frame by the same call twice, but takes one update from it at most
  refine ⟨updates.map (·.call), List.nodup_iff_count_le_one.mpr ?_, member, ?_⟩
  · intro n
    by_cases found : Found (idle programme limit) events n s.id
    · -- the call is an inbound call still, so what is known of its trail applies
      obtain ⟨-, k, u, moment, ⟨_, _, _, _, _, _, _, turn⟩, -⟩ := found
      obtain ⟨service, still⟩ := inbound_stays (moment.onward runs run) turn
      calc (updates.map (·.call)).count n
          = (trail (idle programme limit) events n).offers.countP (·.updates s.id) := by
            simp only [List.count, List.countP_map, updates, trail, List.countP_filter]
            apply List.countP_congr
            intro o _
            simp [and_comm]
        _ ≤ 1 := countP_updates_le run still s.id
    · rw [List.count_eq_zero.mpr fun here => found ((member n).mp here)]
      exact Nat.zero_le 1
  · rw [accepted_eq_took run there, countP_isUpdate, List.length_map, List.countP_eq_length_filter]

/-! ## Announcements -/

/-- Until a round comes back everyone on it stays registered, and nobody else comes to be. -/
theorem perm_of_onRound (run : (idle programme limit).run? events = some f) {j k : Nat}
    {u v : Foyer} {reply : Reply} {delivered : Bool} {round : Round}
    (setsOut : Moment run? (idle programme limit) events k u (.setOut n order))
    (moment : Moment run? (idle programme limit) events j v e)
    (turn : v.errands[n]? = some (.inbound sender message (.onRound reply delivered round))) :
    order.Perm v.hub.registry := by
  obtain ⟨service, still⟩ := inbound_stays (moment.onward runs run) turn
  cases stands_of_run moment.before turn with
  | onRound announces everyone =>
      have own := (mem_orders run).mpr ⟨k, u, setsOut⟩
      rcases (stands_of_run run still).quiet_or_announces with quiet | ⟨_, _, _, _, later⟩
      · rw [quiet.orders] at own
        cases own
      · have same : ∀ other ∈ (trail (idle programme limit) (events.take j) n).orders,
            other = order := by
          intro other member
          obtain ⟨d, inside, sets⟩ := List.mem_filterMap.mp member
          have whole : other ∈ (trail (idle programme limit) events n).orders :=
            List.mem_filterMap.mpr ⟨d, List.mem_of_mem_take inside, sets⟩
          rw [later.orders, List.mem_singleton] at whole own
          rw [whole, own]
        have member := announces.orders ▸ List.mem_singleton_self _
        exact same _ member ▸ everyone _ member

/-- What holds of answers and announcements after a run. -/
structure AnnouncedOnce (start : Foyer) (events : List Event) (f : Foyer) : Prop where
  /-- A call whose booking was not granted offers one frame at most, to its sender, and
      announces nothing. -/
  refused : ∀ n sender message service, f.errands[n]? = some (.inbound sender message service) →
    ¬ (trail start events n).granted → (trail start events n).Quiet sender
  /-- A call whose booking was granted announces it once at most, after it has offered the
      answer to its sender. -/
  granted : ∀ n sender message service, f.errands[n]? = some (.inbound sender message service) →
    (trail start events n).granted → (trail start events n).Quiet sender ∨
      ∃ answer sent ahead seen,
        (trail start events n).Announces sender message answer sent ahead seen
  /-- When it returns it has announced it, and nobody is left to be reached. -/
  returned : ∀ n sender message delivery,
    f.errands[n]? = some (.inbound sender message (.returned delivery)) →
      (trail start events n).granted →
        ∃ answer sent seen, (trail start events n).Announces sender message answer sent [] seen
  /-- It can return, wherever it stands. -/
  ends : ∀ n sender message service, f.errands[n]? = some (.inbound sender message service) →
    service.isHolding → f.Ends n sender message
  /-- An announcement goes to everyone who is registered when it sets out, to each of them once; and
      who is registered stays the same as long as it is on its round. -/
  everyone : ∀ n k u order, Moment run? start events k u (.setOut n order) →
    order.Nodup ∧ order.Perm u.hub.registry ∧
    ∀ j v e sender message reply delivered round, Moment run? start events j v e →
      v.errands[n]? = some (.inbound sender message (.onRound reply delivered round)) →
        order.Perm v.hub.registry
  /-- A session takes the update of a booking once if the announcement found it registered with an
      open queue, and else not at all. -/
  reached : ∀ n sender message service, f.errands[n]? = some (.inbound sender message service) →
    ∀ id, (trail start events n).offers.countP (·.updates id) ≤ 1 ∧
      (0 < (trail start events n).offers.countP (·.updates id) ↔ Found start events n id)
  /-- A queue accepts the offers that it takes, in their order, and nothing else. -/
  accepted : ∀ s ∈ f.hub.sessions, s.accepted = took (start.offers events) s.id
  /-- If nobody calls a broadcast, a session accepts as many updates as there are granted bookings
      whose announcement found it registered with an open queue. -/
  counted : (∀ frame, .begin (.broadcast frame) ∉ events) → ∀ s ∈ f.hub.sessions,
    ∃ calls : List Nat, calls.Nodup ∧ (∀ n, n ∈ calls ↔ Found start events n s.id) ∧
      s.accepted.countP Snapshot.isUpdate = calls.length

/-- Every granted booking is announced to everyone once, and nothing else is. -/
theorem announced_once (run : (idle programme limit).run? events = some f) :
    AnnouncedOnce (idle programme limit) events f where
  refused := by
    intro n sender message service turn refused
    rcases (stands_of_run run turn).quiet_or_announces with quiet | ⟨_, _, _, _, announces⟩
    · exact quiet
    · exact absurd announces.granted refused
  granted := by
    intro n sender message service turn _
    exact (stands_of_run run turn).quiet_or_announces
  returned := by
    intro n sender message delivery turn granted
    cases stands_of_run run turn with
    | returned done => exact done.resolve_left fun refused => refused.1 granted
  ends := by
    intro n sender message service turn holding
    exact ends (Sound.of_run run).guarded turn holding
  everyone := by
    intro n k u order setsOut
    obtain ⟨everyone, once⟩ := perm_of_moment run setsOut
    exact ⟨once, everyone, fun _ _ _ _ _ _ _ _ moment turn =>
      perm_of_onRound run setsOut moment turn⟩
  reached := by
    intro n sender message service turn id
    refine ⟨countP_updates_le run turn id, ?_⟩
    have quiet (k : Nat) (u : Foyer)
        (moment : Moment run? (idle programme limit) events k u (.proceed n))
        (round : Round) : u.errands[n]? ≠ some (.crying round) := by
      intro crying
      obtain ⟨d, still, same⟩ := caller_stays (moment.onward runs run) crying
      rw [turn, Option.some.injEq] at still
      subst still
      cases same
    rw [found_iff run id quiet, List.countP_pos_iff]
    simp only [trail, List.mem_filter, decide_eq_true_eq, and_assoc]
  accepted := by
    intro s there
    exact accepted_eq_took run there
  counted := by
    intro silent s there
    exact exists_calls run silent there

end

/-- Two customers ask for the same seat at once. One of them gets it, and both are told. -/
def rivalry : List Event :=
  [.begin (.connect ⟨none, false, false⟩ false), .proceed 0, .proceed 0, .proceed 0, .proceed 0,
    .begin (.connect ⟨none, false, false⟩ false), .proceed 1, .proceed 1, .proceed 1, .proceed 1,
    .begin (.inbound 1 "PVR,Inception,1"), .begin (.inbound 2 "PVR,Inception,1"),
    .proceed 3, .proceed 2, .proceed 3, .proceed 3, .proceed 3, .proceed 3,
    .proceed 2, .setOut 3 [2, 1], .proceed 3, .proceed 2, .proceed 2, .proceed 3, .proceed 3,
    .proceed 2, .proceed 3]

def afterRivalry : Foyer := ((idle .single none).run? rivalry).get (by decide +kernel)

/-- Each of the two accepts one update. -/
theorem rivalry_announced_once : (idle .single none).run? rivalry = some afterRivalry ∧
    afterRivalry.hub.sessions.map (·.accepted.countP Snapshot.isUpdate) = [1, 1] ∧
    AnnouncedOnce (idle .single none) rivalry afterRivalry := by
  have run : (idle .single none).run? rivalry = some afterRivalry := (Option.some_get _).symm
  exact ⟨run, by decide +kernel, announced_once run⟩

end Foyer

end BoxOffice.Hub
