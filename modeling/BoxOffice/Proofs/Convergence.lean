import BoxOffice.Proofs.AllOrNothing
import BoxOffice.Proofs.Snapshot
import BoxOffice.Proofs.Traffic
import BoxOffice.Scenario

/-! # What the sessions of a hub are shown

Every frame of a session shows the programme as it was when its text was computed, and texts are
offered some steps after they were computed. So the last frame of a session is current as long as no
booking was granted since, and a booking that is granted while another call holds a text back can
leave a session with an old programme for good (`overtaken_not_current`).
-/

namespace BoxOffice

/-- Whether the last frame a session was offered shows the programme. -/
def Session.IsCurrent (s : Session) (p : Programme) : Prop :=
  ∃ frame, s.accepted.getLast? = some frame ∧ Snapshot.Shows frame p

namespace Hub.Traffic

/-! ## Grants -/

/-- The event answers a message, and the answer is to be announced: seats were sold. -/
def Grants (t : Traffic) (e : Event) : Prop :=
  ∃ n sender message, e = .proceed n ∧ t.calls[n]? = some (.inbound sender message .lookedUp) ∧
    (t.hub.dispatch message).1.announce = true

theorem Moves.growsTo {t t' : Traffic} {e : Event} (h : t.Moves e t') :
    t.hub.programme.GrowsTo t'.hub.programme := by
  cases h with
  | calm calm => rw [calm.hub.programme]; exact .refl _
  | connect | broadcast | offer | render | fanOut => exact .refl _
  | enroll => rw [enroll_programme]; exact .refl _
  | dispatch =>
      rw [dispatch_programme]
      exact (Programme.routes ..).growsTo

theorem grants_iff {t t' : Traffic} {e : Event} (step : t.step? e = some t') :
    t.Grants e ↔ t'.hub.programme ≠ t.hub.programme := by
  constructor
  · intro ⟨n, sender, message, same, turn, announced⟩
    subst same
    rw [step?_of_inbound turn] at step
    cases step
    show (t.hub.dispatch message).2.programme ≠ _
    rw [dispatch_programme]
    rw [dispatch_reply] at announced
    exact (Programme.routes ..).announce_iff.mp announced
  · intro changed
    cases moves_of_step? step with
    | calm calm => exact absurd calm.hub.programme changed
    | connect | broadcast | offer | render | fanOut => exact absurd rfl changed
    | enroll => exact absurd (enroll_programme ..) changed
    | @dispatch n sender message turn =>
        refine ⟨n, sender, message, rfl, turn, ?_⟩
        rw [dispatch_reply]
        have changed : (t.hub.dispatch message).2.programme ≠ t.hub.programme := changed
        rw [dispatch_programme] at changed
        exact (Programme.routes ..).announce_iff.mpr changed

theorem growsTo_run {t t' : Traffic} {events : List Event} (run : t.run? events = some t') :
    t.hub.programme.GrowsTo t'.hub.programme := by
  refine runs.induction (motive := fun _ now => t.hub.programme.GrowsTo now.hub.programme)
    (.refl _) ?_ run
  intro events u e t' _ grown step
  exact grown.trans (moves_of_step? step).growsTo

/-- The programme is the same after a run in which no booking was granted, and only then. -/
theorem programme_eq_iff {t t' : Traffic} {events : List Event} (run : t.run? events = some t') :
    t'.hub.programme = t.hub.programme ↔
      ∀ k u e, Moment run? t events k u e → ¬ u.Grants e := by
  refine runs.induction (motive := fun events t' => t'.hub.programme = t.hub.programme ↔
    ∀ k u e, Moment run? t events k u e → ¬ u.Grants e) ?_ ?_ run
  · simp only [true_iff]
    intro k u e moment
    exact absurd moment.lt_length (Nat.not_lt_zero k)
  · intro events u e t' before same step
    have grown := growsTo_run before
    have grows := (moves_of_step? step).growsTo
    constructor
    -- seats stay booked, so a programme that was left behind is never there again
    · intro back k v d moment
      have stays : u.hub.programme = t.hub.programme := grown.antisymm (back ▸ grows)
      rcases moment.of_snoc with earlier | ⟨-, rfl, here⟩
      · exact same.mp stays k v d earlier
      · rw [before, Option.some.injEq] at here
        subst here
        rw [grants_iff step, not_not, back, stays]
    · intro none
      have stays : u.hub.programme = t.hub.programme :=
        same.mpr fun k v d moment => none k v d (moment.append [e])
      have last := none events.length u e (.last before e)
      rw [grants_iff step, not_not] at last
      exact last.trans stays

/-! ## Where frames come from -/

/-- What an event computes shows the programme that it leaves. -/
theorem shows_computed {t t' : Traffic} {e : Event} {text : Text} (step : t.step? e = some t')
    (computed : t.computed? e = some text) : Snapshot.Shows text t'.hub.programme := by
  unfold computed? at computed
  split at computed
  · cases computed
    cases step
    exact ⟨[], .initial, rfl⟩
  · rename_i n
    split at computed
    · rename_i sender message turn
      cases computed
      rw [step?_of_inbound turn] at step
      cases step
      show Snapshot.Shows _ (t.hub.dispatch message).2.programme
      rw [dispatch_reply, dispatch_programme]
      exact Snapshot.shows_of_suffix (Programme.routes ..).render_suffix
    · rename_i turn
      cases computed
      rw [step?_of_inbound turn] at step
      cases step
      exact ⟨[], .update, rfl⟩
    · cases computed
  · cases computed

/-- The text was computed by some event of the run. -/
def Computed (start : Traffic) (events : List Event) (text : Text) : Prop :=
  ∃ k t e, Moment run? start events k t e ∧ t.computed? e = some text

theorem Computed.append {start : Traffic} {events : List Event} {text : Text}
    (h : Computed start events text) (after : List Event) :
    Computed start (events ++ after) text := by
  obtain ⟨k, t, e, moment, computed⟩ := h
  exact ⟨k, t, e, moment.append after, computed⟩

theorem Computed.last {start t : Traffic} {events : List Event} {e : Event} {text : Text}
    (run : start.run? events = some t) (computed : t.computed? e = some text) :
    Computed start (events ++ [e]) text :=
  ⟨events.length, t, e, .last run e, computed⟩

/-- Every frame was computed by some event, and so was every text that is held back. -/
structure Traced (start : Traffic) (events : List Event) (t : Traffic) : Prop where
  held : ∀ c ∈ t.calls, ∀ text, c.held? = some text → Computed start events text
  frames : ∀ s ∈ t.hub.sessions, s.accepted ≠ [] ∧
    ∀ frame ∈ s.accepted, Computed start events frame

theorem Traced.append {start t : Traffic} {events : List Event} (h : Traced start events t)
    (e : Event) : Traced start (events ++ [e]) t where
  held := by
    intro c member text held
    exact (h.held c member text held).append [e]
  frames := by
    intro s member
    obtain ⟨filled, computed⟩ := h.frames s member
    exact ⟨filled, fun frame there => (computed frame there).append [e]⟩

theorem frames_offer {start : Traffic} {events : List Event} {s : Session} {frame : Text}
    (frames : s.accepted ≠ [] ∧ ∀ frame ∈ s.accepted, Computed start events frame)
    (computed : Computed start events frame) :
    (s.offer frame).accepted ≠ [] ∧
      ∀ other ∈ (s.offer frame).accepted, Computed start events other := by
  rw [Session.accepted_offer]
  split
  · refine ⟨by simp, ?_⟩
    intro other member
    rw [List.mem_append, List.mem_singleton] at member
    rcases member with old | rfl
    · exact frames.2 other old
    · exact computed
  · exact frames

theorem Traced.step {start t t' : Traffic} {events : List Event} {e : Event}
    (run : start.run? events = some t) (h : Traced start events t)
    (own : ∀ frame, e ≠ .begin (.broadcast frame)) (move : t.Moves e t') :
    Traced start (events ++ [e]) t' := by
  have before := h.append e
  constructor
  case held =>
    intro c member text held
    rcases move.held member held with old | computed
    · exact before.held c old text held
    · exact .last run computed
  case frames =>
    intro s' member
    cases move.comes member with
    | kept there _ frames _ =>
        rw [frames]
        exact before.frames _ there
    | offered there offers same =>
        rcases offers with ⟨c, calling, held⟩ | broadcast
        · rw [same]
          exact frames_offer (before.frames _ there) (before.held c calling _ held)
        · exact absurd broadcast (own _)
    | greeted computed _ same =>
        rw [same]
        refine ⟨List.cons_ne_nil _ _, ?_⟩
        intro frame there
        rw [Session.connecting, List.mem_singleton] at there
        rw [there]
        exact .last run computed

theorem traced_of_run {programme : Programme} {limit : Option Nat} {events : List Event}
    {t : Traffic} (run : (idle programme limit).run? events = some t)
    (own : ∀ frame, .begin (.broadcast frame) ∉ events) :
    Traced (idle programme limit) events t := by
  refine runs.induction (motive := fun events t => (∀ frame, .begin (.broadcast frame) ∉ events) →
    Traced (idle programme limit) events t) ?_ ?_ run own
  · intro _
    constructor
    case held => intro c member; cases member
    case frames => intro s member; cases member
  · intro events t e t' before traced step own
    have earlier : ∀ frame, .begin (.broadcast frame) ∉ events := by
      intro frame member
      exact own frame (List.mem_append_left [e] member)
    have last : ∀ frame, e ≠ .begin (.broadcast frame) := by
      intro frame same
      exact own frame (same ▸ List.mem_append_right events (List.mem_cons_self ..))
    exact (traced earlier).step before last (moves_of_step? step)

/-- A text shows the programme that a run ends with if and only if no booking was granted after the
    event that computed it. -/
theorem shows_iff {start t u : Traffic} {events : List Event} {k : Nat} {e : Event} {text : Text}
    (run : start.run? events = some t) (moment : Moment run? start events k u e)
    (computed : u.computed? e = some text) :
    Snapshot.Shows text t.hub.programme ↔
      ∀ j v d, k < j → Moment run? start events j v d → ¬ v.Grants d := by
  obtain ⟨next, step, rest⟩ := moment.after runs run
  have shown := shows_computed step computed
  have grown := growsTo_run rest
  have taken : start.run? (events.take (k + 1)) = some next := by
    rw [List.take_add_one, moment.event, Option.toList_some]
    exact runs.snoc.mpr ⟨u, moment.before, step⟩
  have length : (events.take (k + 1)).length = k + 1 := by
    rw [List.length_take]
    have := moment.lt_length
    omega
  have later (i : Nat) (v : Traffic) (d : Event) :
      Moment run? start events (k + 1 + i) v d ↔ Moment run? next (events.drop (k + 1)) i v d := by
    have cut : Moment run? start (events.take (k + 1) ++ events.drop (k + 1))
        ((events.take (k + 1)).length + i) v d ↔ Moment run? next (events.drop (k + 1)) i v d :=
      Moment.append_iff runs taken
    rwa [List.take_append_drop, length] at cut
  have same : Snapshot.Shows text t.hub.programme ↔ t.hub.programme = next.hub.programme := by
    constructor
    · intro shows
      exact shown.eq_of_growsTo shows grown
    · intro same
      exact same ▸ shown
  rw [same, programme_eq_iff rest]
  constructor
  · intro none j v d after there
    obtain ⟨i, rfl⟩ := Nat.exists_eq_add_of_lt after
    rw [show k + i + 1 = k + 1 + i by omega] at there
    exact none i v d ((later i v d).mp there)
  · intro none i v d there
    exact none (k + 1 + i) v d (by omega) ((later i v d).mpr there)

/-! ## Grants that overtake nobody -/

/-- No call but the one whose turn it is holds a text back, be it an answer, an announcement or the
    greeting of a session that is not yet registered. -/
def Alone (t : Traffic) (e : Event) : Prop :=
  ∀ m c, t.calls[m]? = some c → e ≠ .proceed m → c.held? = none ∧ c.greeted? = none

/-- All that is held back is current, and so is every session, unless an announcement is to come. -/
structure Fresh (t : Traffic) : Prop where
  numbered : ∀ s ∈ t.hub.sessions, s.id < t.hub.nextId
  held : ∀ c ∈ t.calls, ∀ text, c.held? = some text → Snapshot.Shows text t.hub.programme
  greeted : ∀ c ∈ t.calls, ∀ s ∈ t.hub.sessions, c.greeted? = some s.id →
    s.IsCurrent t.hub.programme
  current : ∀ s ∈ t.hub.sessions, s.id ∈ t.hub.registry → s.isOpen →
    s.IsCurrent t.hub.programme ∨ ∃ c ∈ t.calls, c.announces

theorem isCurrent_offer {s : Session} {frame : Text} {p : Programme} (isOpen : s.isOpen)
    (shows : Snapshot.Shows frame p) : (s.offer frame).IsCurrent p := by
  refine ⟨frame, ?_, shows⟩
  rw [Session.accepted_offer, if_pos isOpen, List.getLast?_concat]

theorem isCurrent_offer_of {s : Session} {frame : Text} {p : Programme}
    (shows : Snapshot.Shows frame p) (current : s.IsCurrent p) : (s.offer frame).IsCurrent p := by
  by_cases isOpen : s.isOpen
  · exact isCurrent_offer isOpen shows
  · unfold Session.IsCurrent
    rw [Session.accepted_offer, if_neg isOpen]
    exact current

theorem isCurrent_of_same {s s' : Session} {p : Programme} (same : s'.accepted = s.accepted)
    (current : s.IsCurrent p) : s'.IsCurrent p := by
  unfold Session.IsCurrent
  rw [same]
  exact current

theorem Grants.announces {t t' : Traffic} {e : Event} (granted : t.Grants e)
    (step : t.step? e = some t') : ∃ c ∈ t'.calls, c.announces := by
  obtain ⟨n, sender, message, same, turn, announced⟩ := granted
  subst same
  rw [step?_of_inbound turn] at step
  cases step
  exact ⟨_, List.mem_set (List.getElem?_eq_some_iff.mp turn).1 _, announced⟩

/-- Nothing at all is held back when a booking is granted that overtakes nobody: the call that is
    granted it has no text yet. -/
theorem Alone.none_held {t : Traffic} {e : Event} (alone : t.Alone e) (granted : t.Grants e)
    {c : Call} (member : c ∈ t.calls) : c.held? = none ∧ c.greeted? = none := by
  obtain ⟨n, sender, message, same, turn, -⟩ := granted
  obtain ⟨m, there⟩ := List.mem_iff_getElem?.mp member
  by_cases own : m = n
  · rw [own, turn, Option.some.injEq] at there
    rw [← there]
    exact ⟨rfl, rfl⟩
  · apply alone m c there
    intro proceeds
    rw [same, Event.proceed.injEq] at proceeds
    exact own proceeds.symm

namespace Fresh

variable {t t' : Traffic} {e : Event}

theorem numbered_step (h : t.Fresh) (move : t.Moves e t') {s' : Session}
    (member : s' ∈ t'.hub.sessions) : s'.id < t'.hub.nextId := by
  cases move.comes member with
  | kept there number _ _ =>
      rw [number]
      exact Nat.lt_of_lt_of_le (h.numbered _ there) move.nextId_le
  | offered there _ same =>
      rw [same, Session.id_offer]
      exact Nat.lt_of_lt_of_le (h.numbered _ there) move.nextId_le
  | greeted _ next same =>
      rw [same, next]
      exact Nat.lt_succ_self _

/-- When a booking is granted and nothing is held back, its announcement is to reach everyone. -/
theorem of_grants (h : t.Fresh) (granted : t.Grants e) (alone : t.Alone e)
    (step : t.step? e = some t') : t'.Fresh := by
  have move := moves_of_step? step
  constructor
  case numbered => intro s member; exact h.numbered_step move member
  case held =>
    intro c member text held
    rcases move.held member held with old | computed
    · rw [(alone.none_held granted old).1] at held
      cases held
    · exact shows_computed step computed
  case greeted =>
    intro c member s there greeted
    rcases move.greeted member greeted with old | ⟨-, sink, bounded, connects⟩
    · rw [(alone.none_held granted old).2] at greeted
      cases greeted
    · obtain ⟨n, sender, message, proceeds, -⟩ := granted
      rw [connects] at proceeds
      cases proceeds
  case current =>
    intro s there registered isOpen
    exact .inr (granted.announces step)

theorem shows_of_offers (h : t.Fresh) (own : ∀ frame, e ≠ .begin (.broadcast frame)) {text : Text}
    (offers : t.Offers e text) : Snapshot.Shows text t.hub.programme := by
  rcases offers with ⟨c, calling, held⟩ | broadcast
  · exact h.held c calling text held
  · exact absurd broadcast (own text)

theorem greeting_shows (h : Hub) : Snapshot.Shows h.greeting h.programme := ⟨[], .initial, rfl⟩

theorem greeted_of_same (h : t.Fresh) (own : ∀ frame, e ≠ .begin (.broadcast frame))
    (step : t.step? e = some t') {c : Call} (member : c ∈ t'.calls) {s' : Session}
    (there : s' ∈ t'.hub.sessions) (greeted : c.greeted? = some s'.id) :
    s'.IsCurrent t.hub.programme := by
  have move := moves_of_step? step
  -- a session of an earlier number is not the one that is greeted now
  have old_call {s : Session} (before : s ∈ t.hub.sessions) (number : s'.id = s.id) :
      c ∈ t.calls := by
    rcases move.greeted member greeted with old | ⟨new, -⟩
    · exact old
    · have small := h.numbered s before
      rw [← number, new] at small
      exact absurd small (Nat.lt_irrefl _)
  cases move.comes there with
  | kept before number frames _ =>
      exact isCurrent_of_same frames
        (h.greeted c (old_call before number) _ before (number ▸ greeted))
  | offered before offers offer =>
      have number := (congrArg Session.id offer).trans (Session.id_offer ..)
      rw [offer]
      exact isCurrent_offer_of (h.shows_of_offers own offers)
        (h.greeted c (old_call before number) _ before (number ▸ greeted))
  | greeted _ _ new =>
      rw [new]
      exact ⟨_, rfl, greeting_shows t.hub⟩

theorem current_of_same (h : t.Fresh) (own : ∀ frame, e ≠ .begin (.broadcast frame))
    (step : t.step? e = some t') {s' : Session} (there : s' ∈ t'.hub.sessions)
    (registered : s'.id ∈ t'.hub.registry) (isOpen : s'.isOpen) :
    s'.IsCurrent t.hub.programme ∨ ∃ c ∈ t'.calls, c.announces := by
  have move := moves_of_step? step
  cases move.comes there with
  | kept before number frames wasOpen =>
      rcases move.registered registered with old | ⟨c, calling, greeted⟩
      · rcases h.current _ before (number ▸ old) (wasOpen isOpen) with current | announcing
        · exact .inl (isCurrent_of_same frames current)
        · -- the announcement is still to come, or it is this event that brings it to everyone
          rcases move.announcing announcing with still | everyone
          · exact .inr still
          · obtain ⟨s, -, text, offers, offer⟩ := everyone s' there registered
            rw [offer, Session.isOpen_offer] at isOpen
            rw [offer]
            exact .inl (isCurrent_offer isOpen (h.shows_of_offers own offers))
      · exact .inl (isCurrent_of_same frames (h.greeted c calling _ before (number ▸ greeted)))
  | offered before offers offer =>
      rw [offer, Session.isOpen_offer] at isOpen
      rw [offer]
      exact .inl (isCurrent_offer isOpen (h.shows_of_offers own offers))
  | greeted _ _ new =>
      rw [new]
      exact .inl ⟨_, rfl, greeting_shows t.hub⟩

/-- As long as the programme stays, everything that is offered is current. -/
theorem of_same (h : t.Fresh) (same : t'.hub.programme = t.hub.programme)
    (own : ∀ frame, e ≠ .begin (.broadcast frame)) (step : t.step? e = some t') : t'.Fresh := by
  have move := moves_of_step? step
  constructor
  case numbered => intro s member; exact h.numbered_step move member
  case held =>
    intro c member text held
    rcases move.held member held with old | computed
    · rw [same]
      exact h.held c old text held
    · exact shows_computed step computed
  case greeted =>
    intro c member s' there greeted
    exact same ▸ h.greeted_of_same own step member there greeted
  case current =>
    intro s' there registered isOpen
    exact same ▸ h.current_of_same own step there registered isOpen

theorem step (h : t.Fresh) (own : ∀ frame, e ≠ .begin (.broadcast frame))
    (alone : t.Grants e → t.Alone e) (step : t.step? e = some t') : t'.Fresh := by
  by_cases granted : t.Grants e
  · exact h.of_grants granted (alone granted) step
  · have same := granted
    rw [grants_iff step, not_not] at same
    exact h.of_same same own step

end Fresh

theorem fresh_of_run {programme : Programme} {limit : Option Nat} {events : List Event}
    {t : Traffic} (run : (idle programme limit).run? events = some t)
    (own : ∀ frame, .begin (.broadcast frame) ∉ events)
    (alone : ∀ k u e, Moment run? (idle programme limit) events k u e → u.Grants e → u.Alone e) :
    t.Fresh := by
  refine runs.induction (motive := fun events t => (∀ frame, .begin (.broadcast frame) ∉ events) →
    (∀ k u e, Moment run? (idle programme limit) events k u e → u.Grants e → u.Alone e) →
    t.Fresh) ?_ ?_ run own alone
  · intro _ _
    constructor
    case numbered => intro s member; cases member
    case held => intro c member; cases member
    case greeted => intro c member; cases member
    case current => intro s member; cases member
  · intro events t e t' before fresh step own alone
    have earlier : t.Fresh := by
      apply fresh
      · intro frame member
        exact own frame (List.mem_append_left [e] member)
      · intro k u d moment
        exact alone k u d (moment.append [e])
    have last : ∀ frame, e ≠ .begin (.broadcast frame) := by
      intro frame same
      exact own frame (same ▸ List.mem_append_right events (List.mem_cons_self ..))
    exact earlier.step last (alone events.length t e (.last before e)) step

theorem not_announces_of_isQuiet {t : Traffic} (quiet : t.isQuiet) {c : Call}
    (member : c ∈ t.calls) :
    c.announces = false := by
  have returned := List.all_eq_true.mp quiet c member
  cases c with
  | inbound sender message progress => cases progress <;> first | rfl | cases returned
  | connecting | connected | broadcast | disconnecting | disconnected | closingAll => rfl

/-- The last frame of a session is current if and only if no booking was granted after the event
    that computed its text. If no booking is granted while another call holds a text back, every
    registered session is current whenever no call is in progress. -/
theorem last_frame_current_iff {programme : Programme} {limit : Option Nat} {events : List Event}
    {t : Traffic} (run : (idle programme limit).run? events = some t)
    (own : ∀ frame, .begin (.broadcast frame) ∉ events) :
    (∀ s ∈ t.hub.sessions, ∃ frame k u e, s.accepted.getLast? = some frame ∧
      Moment run? (idle programme limit) events k u e ∧ u.computed? e = some frame ∧
      (Snapshot.Shows frame t.hub.programme ↔
        ∀ j v d, k < j → Moment run? (idle programme limit) events j v d → ¬ v.Grants d)) ∧
    ((∀ k u e, Moment run? (idle programme limit) events k u e → u.Grants e → u.Alone e) →
      t.isQuiet → ∀ s ∈ t.hub.sessions, t.hub.isRegistered s.id → s.isOpen →
        s.IsCurrent t.hub.programme) := by
  constructor
  · intro s member
    obtain ⟨filled, computed⟩ := (traced_of_run run own).frames s member
    have last := List.getLast?_eq_some_getLast filled
    obtain ⟨k, u, e, moment, origin⟩ := computed _ (List.getLast_mem filled)
    exact ⟨_, k, u, e, last, moment, origin, shows_iff run moment origin⟩
  · intro alone quiet s member registered isOpen
    have fresh := fresh_of_run run own alone
    rcases fresh.current s member (isRegistered_iff.mp registered) isOpen with
      current | ⟨c, calling, announces⟩
    · exact current
    · rw [not_announces_of_isQuiet quiet calling] at announces
      cases announces

/-! ## Grants that overtake -/

/-- A session is registered and books seat 1. Its announcement is rendered; before it is offered,
    seat 2 is booked and announced. -/
def overtakenAnnouncement : List Event :=
  [.begin (.connect ⟨none, false, false⟩ false), .proceed 0,
    .begin (.inbound 1 "PVR,Inception,1"), .proceed 1, .proceed 1, .proceed 1,
    .begin (.inbound 1 "PVR,Inception,2"), .proceed 2, .proceed 2, .proceed 2, .proceed 2,
    .proceed 2, .proceed 1, .proceed 1]

def afterAnnouncement : Traffic :=
  ((idle .single none).run? overtakenAnnouncement).get (by decide +kernel)

theorem last_frame_overtaken :
    (idle .single none).run? overtakenAnnouncement = some afterAnnouncement ∧
    ∀ s ∈ afterAnnouncement.hub.sessions, ∃ frame k u e, s.accepted.getLast? = some frame ∧
      Moment run? (idle .single none) overtakenAnnouncement k u e ∧ u.computed? e = some frame ∧
      (Snapshot.Shows frame afterAnnouncement.hub.programme ↔
        ∀ j v d, k < j → Moment run? (idle .single none) overtakenAnnouncement j v d →
          ¬ v.Grants d) := by
  have run : (idle .single none).run? overtakenAnnouncement = some afterAnnouncement :=
    (Option.some_get _).symm
  have own (frame : Text) : .begin (.broadcast frame) ∉ overtakenAnnouncement := by
    simp [overtakenAnnouncement]
  exact ⟨run, (last_frame_current_iff run own).1⟩

/-- One session is registered. A second one is greeted; before it is registered, the first one books
    seat 1, and the booking is announced. -/
def overtakenGreeting : List Event :=
  [.begin (.connect ⟨none, false, false⟩ false), .proceed 0,
    .begin (.connect ⟨none, false, false⟩ false),
    .begin (.inbound 1 "PVR,Inception,1"), .proceed 2, .proceed 2, .proceed 2, .proceed 2,
    .proceed 2, .proceed 1]

def afterGreeting : Traffic :=
  ((idle .single none).run? overtakenGreeting).get (by decide +kernel)

def announced : Session := afterAnnouncement.hub.sessions.get ⟨0, by decide +kernel⟩

def latecomer : Session := afterGreeting.hub.sessions.get ⟨1, by decide +kernel⟩

/-- The session is registered, its queue is open, no call is in progress, and yet its last frame
    shows another programme than the one there is. -/
def IsStale (t : Traffic) (s : Session) : Prop :=
  t.isQuiet ∧ s ∈ t.hub.sessions ∧ t.hub.isRegistered s.id ∧ s.isOpen ∧
    ¬ s.IsCurrent t.hub.programme

theorem not_isCurrent_of_growsTo {s : Session} {frame : Text} {p q : Programme}
    (last : s.accepted.getLast? = some frame) (shows : Snapshot.Shows frame p) (grows : p.GrowsTo q)
    (apart : q ≠ p) : ¬ s.IsCurrent q := by
  intro ⟨other, isLast, showsNow⟩
  rw [last, Option.some.injEq] at isLast
  subst isLast
  exact apart (shows.eq_of_growsTo showsNow grows)

/-- Sessions do not always come to be shown the programme as it is: an announcement and a greeting
    can both be overtaken. -/
theorem overtaken_not_current :
    (idle .single none).run? overtakenAnnouncement = some afterAnnouncement ∧
    afterAnnouncement.IsStale announced ∧
    (idle .single none).run? overtakenGreeting = some afterGreeting ∧
    afterGreeting.IsStale latecomer := by
  let one := (Programme.single.route "PVR,Inception,1").2
  let both := (one.route "PVR,Inception,2").2
  have last : announced.accepted.getLast? = some (Snapshot.render .update one) := by decide +kernel
  have greeted : latecomer.accepted.getLast? = some (Snapshot.render .initial .single) := by
    decide +kernel
  have bothNow : afterAnnouncement.hub.programme = both := by decide +kernel
  have oneNow : afterGreeting.hub.programme = one := by decide +kernel
  refine ⟨(Option.some_get _).symm, ⟨by decide +kernel, List.get_mem .., by decide +kernel,
    by decide +kernel, ?_⟩, (Option.some_get _).symm, by decide +kernel, List.get_mem ..,
    by decide +kernel, by decide +kernel, ?_⟩
  · rw [bothNow]
    exact not_isCurrent_of_growsTo last ⟨[], .update, rfl⟩ (one.routes _).growsTo
      (by decide +kernel)
  · rw [oneNow]
    exact not_isCurrent_of_growsTo greeted ⟨[], .initial, rfl⟩ (Programme.single.routes _).growsTo
      (by decide +kernel)

end Hub.Traffic

end BoxOffice
