import BoxOffice.Proofs.Offers
import BoxOffice.Proofs.Rush

/-! # Frames reach the transport in order

What is written to a transport is a beginning of what the queue accepted. The first frame is the
greeting of the connect, a write that fails is the last, and a session that nobody can reach any
more is written out and closed.
-/

namespace BoxOffice

/-- The writer of a session is to write a frame, and its transport fails. -/
structure Session.Fails (s : Session) (frame : Text) : Prop where
  stand : s.writer = .writing frame
  verdict : s.sink.verdict s.written.length = .failed

theorem Session.Sound.written_prefix {s : Session} (h : s.Sound) : s.written <+: s.accepted := by
  have flows := h.flows
  unfold Session.Flows at flows
  split at flows
  · rw [flows, List.append_assoc]
    exact List.prefix_append ..
  · rw [flows.1]
  · obtain ⟨lost, same⟩ := flows
    rw [same]
    exact List.prefix_append ..

theorem Session.Sound.accepted_of_fails {s : Session} {frame : Text} (h : s.Sound)
    (fails : s.Fails frame) :
    s.accepted = s.written ++ frame :: s.queue := by
  have flows := h.flows
  simp only [Session.Flows, fails.stand, Session.Writer.ending?, Session.Writer.hand] at flows
  rw [flows, List.append_assoc, List.singleton_append]

/-- A bound on the steps that a writer takes to its end, if nothing more is queued. -/
def Session.stepsLeft (s : Session) : Nat :=
  match s.writer with
  | .unstarted | .writing _ => 2 * s.queue.length + 6
  | .waiting => 2 * s.queue.length + 5
  | .closingQueue _ => 4
  | .leaving _ => 3
  | .telling .. => 2
  | .finishing _ => 1
  | .stopped _ => 0

theorem Session.stepsLeft_le (s : Session) : s.stepsLeft ≤ 2 * s.queue.length + 6 := by
  unfold stepsLeft
  split <;> omega

theorem Session.Writes.stepsLeft_lt {s next : Session} {canStillCome : Bool}
    (h : s.Writes canStillCome next) : next.stepsLeft < s.stepsLeft := by
  cases h with
  | take stand more => simp only [stepsLeft, stand, more, List.length_cons]; omega
  | drain stand | write stand | fail stand | close stand | stop stand =>
      simp only [stepsLeft, stand]; omega

namespace Hub

/-! ## Writes that fail -/

/-- A writer ends early only where a write fails. -/
theorem Life.Step.fails {l l' : Life} {writing : Prop} (step : l.Step writing l')
    {s' : Session} (there' : s' ∈ l'.sessions) (failed : s'.writer.ending? = some .failed) :
    (∃ s ∈ l.sessions, s.writer.ending? = some .failed) ∨
      writing ∧ ∃ s ∈ l.sessions, ∃ frame, s.Fails frame := by
  cases step with
  | rest | remove => exact .inl ⟨s', there', failed⟩
  | assign id sink new =>
      rcases List.mem_append.mp there' with old | blank
      · exact .inl ⟨s', old, failed⟩
      · rw [List.mem_singleton] at blank
        rw [blank] at failed
        cases failed
  | dismiss => cases there'
  | activate =>
      obtain ⟨s, there, rfl⟩ := List.mem_map.mp there'
      cases failed
  | greet | offer =>
      obtain ⟨s, there, rfl⟩ := List.mem_map.mp there'
      rw [s.writer_offer] at failed
      exact .inl ⟨s, there, failed⟩
  | enter | lookUp | letGo | transport =>
      obtain ⟨s, there, rfl⟩ := List.mem_map.mp there'
      exact .inl ⟨s, there, failed⟩
  | @write s next now first writes =>
      have there := List.mem_of_head? first
      obtain ⟨_, _, rfl⟩ := List.mem_map.mp there'
      cases writes with
      | take | drain | write => cases failed
      | fail stand verdict => exact .inr ⟨now, s, there, _, stand, verdict⟩
      | close stand | stop stand => exact .inl ⟨s, there, by rw [stand]; exact failed⟩
  | @leave s ending writer now first stand free left =>
      obtain ⟨_, _, rfl⟩ := List.mem_map.mp there'
      refine .inl ⟨s, List.mem_of_head? first, ?_⟩
      rw [stand]
      rcases left with rfl | ⟨remaining, rfl⟩ <;> exact failed
  | @tell s ending remaining now first stand =>
      obtain ⟨_, _, rfl⟩ := List.mem_map.mp there'
      exact .inl ⟨s, List.mem_of_head? first, by rw [stand]; exact failed⟩

/-- Nothing is queued any more for a session that nobody can reach. -/
theorem Life.Step.stepsLeft_le {l l' : Life} {writing : Prop} (step : l.Step writing l')
    (h : l.Sound) (gone : l.IsOver) (nobody : l.crew .holding = 0) {s s' : Session}
    (there : s ∈ l.sessions) (there' : s' ∈ l'.sessions) :
    s'.stepsLeft ≤ s.stepsLeft ∧ l'.crew .holding = 0 := by
  obtain ⟨numbered, entries, greeting, connecting, entering⟩ := gone
  have sessions := (h.session there).1
  cases step with
  | rest | remove =>
      rw [sessions, List.mem_singleton] at there'
      exact ⟨Nat.le_of_eq (congrArg _ there'), nobody⟩
  | assign _ _ new => rw [new] at numbered; cases numbered
  | greet _ turn | dismiss turn | activate turn | enter turn | lookUp turn | letGo turn => omega
  | offer _ reachable => omega
  | write now first writes =>
      obtain rfl := only sessions first
      exact ⟨only_of_map sessions there' ▸ Nat.le_of_lt writes.stepsLeft_lt, nobody⟩
  | leave now first stand free left =>
      obtain rfl := only sessions first
      refine ⟨?_, nobody⟩
      rcases left with rfl | ⟨remaining, rfl⟩ <;>
        simp [only_of_map sessions there', Session.stepsLeft, stand]
  | tell now first stand =>
      obtain rfl := only sessions first
      exact ⟨by simp [only_of_map sessions there', Session.stepsLeft, stand], nobody⟩
  | transport =>
      exact ⟨Nat.le_of_eq (only_of_map sessions there' ▸ rfl), nobody⟩

namespace Foyer

variable {f f' start : Foyer} {events : List Event} {s s' : Session}

theorem failed_of_step {e : Event} (sound : f.Sound) (step : f.step? e = some f')
    (there' : s' ∈ f'.hub.sessions) (failed : s'.writer.ending? = some .failed) :
    (∃ s ∈ f.hub.sessions, s.id = s'.id ∧ s.writer.ending? = some .failed) ∨
      e = .write s'.id ∧ ∃ s ∈ f.hub.sessions, s.id = s'.id ∧ ∃ frame, s.Fails frame := by
  have life := sound.life_step step s'.id
  rcases life.fails (mem_own.mpr ⟨there', rfl⟩) failed with
    ⟨s, member, before⟩ | ⟨now, s, member, frame, fails⟩
  · exact .inl ⟨s, (mem_own.mp member).1, (mem_own.mp member).2, before⟩
  · exact .inr ⟨now, s, (mem_own.mp member).1, (mem_own.mp member).2, frame, fails⟩

theorem exists_fails {programme : Programme} {limit : Option Nat}
    (run : (idle programme limit).run? events = some f) (there : s ∈ f.hub.sessions)
    (failed : s.writer.ending? = some .failed) :
    ∃ k u, Moment run? (idle programme limit) events k u (.write s.id) ∧
      ∃ t ∈ u.hub.sessions, t.id = s.id ∧ ∃ frame, t.Fails frame := by
  refine runs.induction (motive := fun events now => ∀ s ∈ now.hub.sessions,
    s.writer.ending? = some .failed →
      ∃ k u, Moment run? (idle programme limit) events k u (.write s.id) ∧
        ∃ t ∈ u.hub.sessions, t.id = s.id ∧ ∃ frame, t.Fails frame) ?_ ?_ run s there failed
  · intro s member
    exact absurd member not_mem_idle
  intro events u e v before known step s' member failed
  rcases failed_of_step (.of_run before) step member failed
    with ⟨s, there, same, earlier⟩ | ⟨rfl, now⟩
  · obtain ⟨k, w, moment, lost⟩ := known s there earlier
    rw [same] at moment lost
    exact ⟨k, w, moment.append [e], lost⟩
  · exact ⟨events.length, u, .last before _, now⟩

theorem writes_self (sound : f.Sound) (there : s ∈ f.hub.sessions)
    (step : f.step? (.write s.id) = some f') (there' : s' ∈ f'.hub.sessions) (same : s'.id = s.id) :
    s.Writes (f.hub.canStillCome s) s' ∨
    (∃ ending, s.writer = .leaving ending ∧
      (s'.writer = .finishing ending ∨ ∃ remaining, s'.writer = .telling ending remaining)) ∨
    ∃ ending remaining, s.writer = .telling ending remaining ∧ s'.writer = .finishing ending := by
  have only {t : Session} (first : f.hub.session? s.id = some t) : s = t := by
    rw [session?_of_mem sound there, Option.some.injEq] at first
    exact first
  have changed {h : Hub} {change : Session → Session} (sessions : h.sessions = f.hub.sessions)
      (member : s' ∈ (h.update s.id change).sessions) : s' = change s := by
    obtain ⟨old, before, rfl⟩ := mem_update member
    rw [sessions] at before
    by_cases own : old.id = s.id
    · rw [if_pos own, sound.eq_of_id there before own]
    · rw [if_neg own] at same
      exact absurd same own
  cases moves_of_step? step with
  | write free written =>
      cases writes_of_writerStep written with
      | own first writes hub =>
          obtain rfl := only first
          rw [hub] at there'
          rw [changed rfl there']
          exact .inl writes
      | leave first stand registered =>
          obtain rfl := only first
          rw [changed rfl there']
          exact .inr (.inl ⟨_, stand, .inr ⟨_, rfl⟩⟩)
      | pass first stand unregistered =>
          obtain rfl := only first
          rw [changed rfl there']
          exact .inr (.inl ⟨_, stand, .inl rfl⟩)
      | tell first stand =>
          obtain rfl := only first
          rw [changed rfl there']
          exact .inr (.inr ⟨_, _, stand, rfl⟩)

theorem stepsLeft_lt (sound : f.Sound) (there : s ∈ f.hub.sessions)
    (step : f.step? (.write s.id) = some f') (there' : s' ∈ f'.hub.sessions) (same : s'.id = s.id) :
    s'.stepsLeft < s.stepsLeft := by
  rcases writes_self sound there step there' same with
    writes | ⟨ending, stand, left | ⟨remaining, left⟩⟩ | ⟨ending, remaining, stand, told⟩
  · exact writes.stepsLeft_lt
  · simp [Session.stepsLeft, stand, left]
  · simp [Session.stepsLeft, stand, left]
  · simp [Session.stepsLeft, stand, told]

theorem written_of_fails {frame : Text} (sound : f.Sound) (there : s ∈ f.hub.sessions)
    (fails : s.Fails frame) (run : f.run? (.write s.id :: events) = some f')
    (there' : s' ∈ f'.hub.sessions) (same : s'.id = s.id) :
    s'.written = s.written ∧ ∃ dropped, s'.accepted = s'.written ++ frame :: dropped := by
  rw [runs.cons, Option.bind_eq_some_iff] at run
  obtain ⟨u, step, run⟩ := run
  have admitted : s.stage ≠ .connecting := by
    rw [(sound.session there).2.1.stage, fails.stand]
    nofun
  have once : f.run? [.write s.id] = some u := runs.single step
  obtain ⟨t, member, ages⟩ := sound.stays once there admitted
  have failed : t.accepted = s.accepted ∧ t.written = s.written ∧
      t.writer.ending? = some .failed := by
    rcases writes_self sound there step member ages.number with
      writes | ⟨_, stand, _⟩ | ⟨_, _, stand, _⟩
    · cases writes with
      | fail => exact ⟨rfl, rfl, rfl⟩
      | take stand | drain stand | close stand | stop stand =>
          rw [fails.stand] at stand; cases stand
      | write stand verdict => rw [fails.verdict] at verdict; cases verdict
    · rw [fails.stand] at stand; cases stand
    · rw [fails.stand] at stand; cases stand
  obtain ⟨accepted, written, ended⟩ := failed
  have later := (sound.step step).ages run member there' (same.trans ages.number.symm)
  have kept := (later.ended _ ended).2
  obtain ⟨more, grown⟩ := later.accepted
  rw [accepted, (sound.session there).2.1.accepted_of_fails fails] at grown
  refine ⟨kept.trans written, s.queue ++ more, ?_⟩
  rw [← grown, kept, written, List.append_assoc, List.cons_append]

/-! ## Sessions that nobody can reach any more -/

theorem isOver_of_unregistered {id : SessionId} (sound : f.Sound) (run : f.run? events = some f')
    (before : id ∈ f.hub.registry) (after : id ∉ f'.hub.registry) : (f'.life id).IsOver := by
  have known : id ∈ f'.hub.registry ∨ (f'.life id).IsOver := by
    refine runs.induction (motive := fun _ now => id ∈ now.hub.registry ∨ (now.life id).IsOver)
      (.inl before) ?_ run
    intro _ u e v earlier known step
    have sound := sound.run earlier
    rcases known with still | gone
    · by_cases stays : id ∈ v.hub.registry
      · exact .inl stays
      · exact .inr (sound.isOver_of_removed step still stays)
    · exact .inr (gone.step (sound.life_step step id))
  exact known.resolve_left after

theorem holding_eq_zero {id : SessionId} (nobody : ∀ (n : Nat) (message : Text) (service : Service),
    f.errands[n]? = some (.inbound id message service) → service.isHolding = false) :
    (f.life id).crew .holding = 0 := by
  apply List.countP_eq_zero.mpr
  intro e member
  obtain ⟨n, turn⟩ := List.mem_iff_getElem?.mp member
  cases e with
  | inbound sender message service =>
      simp only [Errand.role?]
      split
      · rename_i own
        rw [own.1] at turn
        rw [nobody n message service turn] at own
        cases own.2
      · simp
  | greeting | connecting | entering => simp only [Errand.role?]; split <;> simp
  | connected | broadcasting | crying | cried | disconnecting | disconnected | closingAll =>
      simp [Errand.role?]

/-- A writer goes on to its end, at its own turns, once nobody can reach its session any more. -/
theorem stepsLeft_of_run (sound : f.Sound) (there : s ∈ f.hub.sessions)
    (gone : (f.life s.id).IsOver) (nobody : (f.life s.id).crew .holding = 0)
    (admitted : s.stage ≠ .connecting) (run : f.run? events = some f') :
    ∃ s' ∈ f'.hub.sessions, s.Ages s' ∧
    s'.stepsLeft + events.count (.write s.id) ≤ s.stepsLeft := by
  have known : (f'.life s.id).crew .holding = 0 ∧
      ∃ s' ∈ f'.hub.sessions, s.Ages s' ∧
        s'.stepsLeft + events.count (.write s.id) ≤ s.stepsLeft := by
    refine runs.induction (motive := fun events now => (now.life s.id).crew .holding = 0 ∧
      ∃ s' ∈ now.hub.sessions, s.Ages s' ∧ s'.stepsLeft + events.count (.write s.id) ≤ s.stepsLeft)
      ⟨nobody, s, there, .refl s, Nat.le_refl _⟩ ?_ run
    intro events u e v before ⟨nobody, t, there, aged, less⟩ step
    have gone := sound.isOver before gone
    have sound := sound.run before
    have life := sound.life_step step s.id
    have waited : t.stage ≠ .connecting := aged.admitted admitted
    have once : u.run? [e] = some v := runs.single step
    obtain ⟨t', there', ages⟩ := sound.stays once there waited
    have fewer :=
      life.stepsLeft_le (sound.lives s.id) gone nobody (mem_own.mpr ⟨there, aged.number⟩)
      (mem_own.mpr ⟨there', ages.number.trans aged.number⟩)
    refine ⟨fewer.2, t', there', aged.trans ages, ?_⟩
    -- a turn of its writer lowers the bound, and nothing that anyone else does raises it
    rw [List.count_append, List.count_singleton]
    by_cases own : e = .write s.id
    · have turn : u.step? (.write t.id) = some v := by rw [aged.number, ← own, step]
      have strictly := stepsLeft_lt sound there turn there' ages.number
      rw [if_pos (by simpa using own)]
      omega
    · rw [if_neg (by simpa using own)]
      omega
  exact known.2

/-- The writer of a session that nobody can reach can take its turn, unless it has stopped or its
    transport holds the write up. -/
theorem exists_write (sound : f.Sound) (there : s ∈ f.hub.sessions) (free : f.isWritable)
    (active : s.stage = .active) (unregistered : s.id ∉ f.hub.registry) (nobody : s.holds = 0)
    (flowing : s.sink.verdict s.written.length ≠ .heldUp) :
    ∃ f', f.step? (.write s.id) = some f' := by
  have found := session?_of_mem sound there
  have gone : f.hub.canStillCome s = false := by
    rw [canStillCome, nobody, isRegistered]
    simpa using unregistered
  have stage := (sound.session there).2.1.stage
  rw [active] at stage
  have moves : ∃ hub, f.hub.writerStep s.id = some hub := by
    simp only [writerStep, found, Option.bind_eq_bind, Option.bind_some]
    cases stand : s.writer with
    | unstarted | stopped => rw [stand] at stage; cases stage
    | waiting =>
        cases more : s.queue <;> simp [Session.writerStep, stand, more, gone]
    | writing frame =>
        cases verdict : s.sink.verdict s.written.length with
        | heldUp => exact absurd verdict flowing
        | written | failed => simp [Session.writerStep, stand, verdict]
    | closingQueue | finishing => simp [Session.writerStep, stand]
    | leaving ending =>
        cases removed : f.hub.remove s.id with | mk remaining hub => cases remaining <;> simp
    | telling => simp
  obtain ⟨hub, written⟩ := moves
  exact ⟨{ f with hub }, by simp [step?, free, written]⟩

/-! ## The greeting -/

theorem growsTo_decide (p : Programme) (message : Text) : p.GrowsTo (p.decide message).2 := by
  rw [congrArg Prod.snd (Reply.compose_decide p message)]
  exact (p.routes message).growsTo

theorem growsTo_of_moves {e : Event} (moves : f.Moves e f') :
    f.hub.programme.GrowsTo f'.hub.programme := by
  cases moves with
  | serve turn serves =>
      cases serves with
      | decide => exact growsTo_decide ..
      | @compose result seen =>
          obtain ⟨tally, same⟩ := f.hub.exists_countAnswer (.compose _ result seen)
          rw [same]
          exact .refl _
      | _ => exact .refl _
  | write free step => rw [(Calm.writerStep step).programme]; exact .refl _
  | _ => exact .refl _

/-- A greeting that is being written was begun by a connect just now, was gone on with,
    or is as it was. -/
theorem greeting_of_moves {e : Event} {n : Nat} {id : SessionId} {bounded : Bool} {survey : Survey}
    (moves : f.Moves e f') (turn : f'.errands[n]? = some (.greeting id bounded survey)) :
    f.errands[n]? = some (.greeting id bounded survey) ∨
    (n = f.errands.length ∧ id = f.hub.nextId ∧ survey = .begin f.hub.programme ∧
      ∃ sink, e = .begin (.connect sink bounded)) ∨
    e = .proceed n ∧ ∃ before, f.errands[n]? = some (.greeting id bounded before) ∧
      before.next? f.hub.programme = some survey := by
  cases moves with
  | assign sink bounded =>
      rcases of_getElem?_append turn with old | ⟨rfl, same⟩
      · exact .inl old
      · cases same
        exact .inr (.inl ⟨rfl, rfl, rfl, sink, rfl⟩)
  | refuse | lookUp | broadcast | remove | miss | drain =>
      rcases of_getElem?_append turn with old | ⟨-, same⟩
      · exact .inl old
      · cases same
  | look before next =>
      rcases of_getElem?_set turn with ⟨old, -⟩ | ⟨rfl, same⟩
      · exact .inl old
      · cases same
        exact .inr (.inr ⟨rfl, _, before, next⟩)
  | greet | dismiss | activate | enter | serve | reach | comeBack | tell | tellAll | announce
  | cry =>
      rcases of_getElem?_set turn with ⟨old, -⟩ | ⟨-, same⟩
      · exact .inl old
      · cases same
  | write | transport => exact .inl turn

/-- The call in place `n` began at event `j` with a connect that gave the number `id`, and has seen
    so much of the programme since, every show as it was at some moment. -/
structure Welcomes (start : Foyer) (events : List Event) (n j : Nat) (id : SessionId)
    (seen : Programme) :
    Prop where
  begun : ∃ u sink bounded, Moment run? start events j u (.begin (.connect sink bounded)) ∧
    u.hub.nextId = id ∧ u.errands.length = n
  looked : ∀ (i : Nat) (s : Show), seen[i]? = some s →
    ∃ m u e, j ≤ m ∧ Moment run? start events m u e ∧ u.hub.programme[i]? = some s

theorem Welcomes.append {n j : Nat} {id : SessionId} {seen : Programme}
    (h : Welcomes start events n j id seen) (after : List Event) :
    Welcomes start (events ++ after) n j id seen where
  begun := by
    obtain ⟨u, sink, bounded, moment, number, place⟩ := h.begun
    exact ⟨u, sink, bounded, moment.append after, number, place⟩
  looked := by
    intro i s there
    obtain ⟨m, u, e, late, moment, here⟩ := h.looked i s there
    exact ⟨m, u, e, late, moment.append after, here⟩

theorem Welcomes.begin {sink : Session.Sink} {bounded : Bool} (run : start.run? events = some f) :
    Welcomes start (events ++ [.begin (.connect sink bounded)]) f.errands.length events.length
      f.hub.nextId f.hub.programme where
  begun := ⟨f, sink, bounded, .last run _, rfl, rfl⟩
  looked := by
    intro i s there
    exact ⟨events.length, f, _, Nat.le_refl _, .last run _, there⟩

theorem Welcomes.look {n j i : Nat} {id : SessionId} {seen : Programme} {e : Event}
    (h : Welcomes start events n j id seen) (run : start.run? events = some f)
    (same : f.hub.programme.bill = seen.bill) :
    Welcomes start (events ++ [e]) n j id (seen.lookAt f.hub.programme i) where
  begun := (h.append [e]).begun
  looked := by
    intro l s there
    rcases Programme.getElem?_lookAt_or same i l with now | before
    · obtain ⟨u, sink, bounded, moment, -⟩ := h.begun
      exact ⟨events.length, f, e, Nat.le_of_lt moment.lt_length, .last run e, now ▸ there⟩
    · exact (h.append [e]).looked l s (before ▸ there)

theorem Survey.next?_eq_some {now : Programme} {survey further : Survey}
    (h : survey.next? now = some further) :
    ∃ i, survey.unseen = i :: further.unseen ∧ further.seen = survey.seen.lookAt now i := by
  obtain ⟨seen, unseen⟩ := survey
  cases unseen with
  | nil => cases h
  | cons i unseen =>
      cases h
      exact ⟨i, rfl, rfl⟩

/-- The frame is what the connect of the session computed: the programme as the connect has seen it,
    queued at event `k`, every show as it was at some moment since the connect began. -/
structure Greets (start : Foyer) (events : List Event) (id : SessionId) (frame : Text) (n j k : Nat)
    (seen : Programme) : Prop where
  frame : frame = Snapshot.render .initial seen
  begun : ∃ u sink bounded, Moment run? start events j u (.begin (.connect sink bounded)) ∧
    u.hub.nextId = id ∧ u.errands.length = n
  queued : ∃ u bounded, Moment run? start events k u (.proceed n) ∧
    u.errands[n]? = some (.greeting id bounded ⟨seen, []⟩) ∧ seen.bill = u.hub.programme.bill
  looked : ∀ (i : Nat) (s : Show), seen[i]? = some s →
    ∃ m u e, j ≤ m ∧ m ≤ k ∧ Moment run? start events m u e ∧ u.hub.programme[i]? = some s

theorem Greets.append {id : SessionId} {frame : Text} {n j k : Nat} {seen : Programme}
    (h : Greets start events id frame n j k seen) (after : List Event) :
    Greets start (events ++ after) id frame n j k seen where
  frame := h.frame
  begun := by
    obtain ⟨u, sink, bounded, moment, rest⟩ := h.begun
    exact ⟨u, sink, bounded, moment.append after, rest⟩
  queued := by
    obtain ⟨u, bounded, moment, rest⟩ := h.queued
    exact ⟨u, bounded, moment.append after, rest⟩
  looked := by
    intro i s there
    obtain ⟨m, u, e, late, early, moment, here⟩ := h.looked i s there
    exact ⟨m, u, e, late, early, moment.append after, here⟩

/-- What every connect is doing, and what every session was greeted with. -/
structure Welcoming (start : Foyer) (events : List Event) (f : Foyer) : Prop where
  sound : f.Sound
  writing : ∀ n id bounded survey, f.errands[n]? = some (.greeting id bounded survey) →
    survey.seen.GrowsTo f.hub.programme ∧ ∃ j, Welcomes start events n j id survey.seen
  greeted : ∀ s ∈ f.hub.sessions, ∀ frame, s.accepted.head? = some frame →
    ∃ n j k seen, Greets start events s.id frame n j k seen

/-- Nobody but its connect can offer anything to a session that has accepted nothing. -/
theorem greeting_of_offering {n : Nat} {errand : Errand} {frame : Text} (sound : f.Sound)
    (there : s ∈ f.hub.sessions) (empty : s.accepted = []) (turn : f.errands[n]? = some errand)
    (offering : errand.offering? = some (s.id, frame)) :
    ∃ bounded seen, errand = .greeting s.id bounded ⟨seen, []⟩ ∧
      frame = Snapshot.render .initial seen := by
  have unreached : (f.life s.id).entries = 0 ∧ (f.life s.id).crew .holding = 0 := by
    have sessions := (sound.session there).1
    cases sound.lives s.id with
    | absent none => rw [none] at sessions; cases sessions
    | waiting _ _ _ entries _ _ _ _ holding => exact ⟨entries, holding⟩
    | started same _ _ _ started =>
        rw [sessions, List.cons.injEq] at same
        exact absurd (same.1 ▸ empty) started.greeted
  have covered (ahead : s.id ∈ errand.ahead) : False := by
    have registered := sound.guarded.covered errand (List.mem_of_getElem? turn) s.id ahead
    exact absurd unreached.1 (Nat.ne_of_gt (List.count_pos_iff.mpr registered))
  unfold Errand.offering? at offering
  split at offering
  · cases offering
    exact ⟨_, _, rfl, rfl⟩
  · cases offering
    have holding := crew_pos turn (if_pos ⟨rfl, rfl⟩)
    exact absurd unreached.2 (Nat.ne_of_gt holding)
  · cases offering
    exact (covered (List.mem_cons_self ..)).elim
  · cases offering
    exact (covered (List.mem_cons_self ..)).elim
  · cases offering

theorem welcoming_of_run {programme : Programme} {limit : Option Nat}
    (run : (idle programme limit).run? events = some f) :
    Welcoming (idle programme limit) events f := by
  refine runs.induction (motive := Welcoming (idle programme limit))
    ⟨.idle programme limit, nofun, fun s member => absurd member not_mem_idle⟩ ?_ run
  intro events u e v before h step
  have moves := moves_of_step? step
  have grows := growsTo_of_moves moves
  refine ⟨h.sound.step step, ?_, ?_⟩
  · intro n id bounded survey turn
    rcases greeting_of_moves moves turn
      with old | ⟨rfl, rfl, rfl, sink, rfl⟩ | ⟨rfl, past, old, next⟩
    · obtain ⟨grown, j, welcomes⟩ := h.writing n id bounded survey old
      exact ⟨grown.trans grows, j, welcomes.append [e]⟩
    · exact ⟨grows, events.length, .begin before⟩
    · obtain ⟨grown, j, welcomes⟩ := h.writing n id bounded past old
      obtain ⟨i, -, same⟩ := Survey.next?_eq_some next
      rw [same]
      exact ⟨(grown.lookAt i).2.trans grows, j, welcomes.look before grown.bill⟩
  · intro s' there' frame first
    rcases accepts h.sound moves s' there' with ⟨sink, rfl⟩ | ⟨s, there, number, grown⟩
    · cases first
    · rw [number]
      rw [grown] at first
      cases empty : s.accepted with
      | cons greeting rest =>
          rw [empty, List.cons_append] at first
          obtain ⟨n, j, k, seen, greets⟩ := h.greeted s there frame (by rw [empty]; exact first)
          exact ⟨n, j, k, seen, greets.append [e]⟩
      | nil =>
          -- the first frame was offered just now, and only the connect of the session
          -- can have done so
          rw [empty, List.nil_append] at first
          obtain ⟨n, errand, rfl, turn, offering⟩ := offering_of_took (List.mem_of_head? first)
          obtain ⟨bounded, seen, rfl, same⟩ :=
            greeting_of_offering h.sound there empty turn offering
          obtain ⟨grown, j, welcomes⟩ := h.writing n _ bounded _ turn
          refine ⟨n, j, events.length, seen, same, (welcomes.append _).begun, ?_, ?_⟩
          · exact ⟨u, bounded, .last before _, turn, grown.bill.symm⟩
          · intro i show_ here
            obtain ⟨m, w, d, late, moment, was⟩ := welcomes.looked i show_ here
            exact ⟨m, w, d, late, Nat.le_of_lt moment.lt_length, moment.append _, was⟩

/-! ## Delivery -/

/-- What holds of the frames of a session after a run. -/
structure Delivered (start : Foyer) (events : List Event) (f : Foyer) (s : Session) : Prop where
  /-- What is written is a beginning of what was accepted, in the same order. -/
  order : s.written <+: s.accepted
  /-- A session that was admitted has accepted a first frame, and that is the greeting
      of its connect. -/
  greeted : s.stage ≠ .connecting → s.accepted ≠ []
  greeting : ∀ frame, s.accepted.head? = some frame →
    ∃ n j k seen, Greets start events s.id frame n j k seen
  /-- Nothing that was accepted or written is ever taken back, and once a session is closed nothing
      more is written. -/
  kept : ∀ k u e, Moment run? start events k u e → ∀ t ∈ u.hub.sessions, t.id = s.id →
    t.accepted <+: s.accepted ∧ t.written <+: s.written ∧
      (t.stage = .closed → s.written = t.written)
  /-- If no write fails, every accepted frame is written before the session is closed. -/
  whole : (∀ k u, Moment run? start events k u (.write s.id) →
    ∀ t ∈ u.hub.sessions, t.id = s.id → ∀ frame, ¬ t.Fails frame) →
      s.stage = .closed → s.written = s.accepted
  /-- If a write fails, the frames before it are written, and neither it nor any later one ever
      is. -/
  cut : ∀ k u, Moment run? start events k u (.write s.id) →
    ∀ t ∈ u.hub.sessions, t.id = s.id → ∀ frame, t.Fails frame →
      s.written = t.written ∧ ∃ dropped, s.accepted = s.written ++ frame :: dropped
  /-- A session that was removed, with no call left that holds its queue, is not closed yet only
      because its writer has turns to take: it can take them, and after so many it is closed. -/
  leaving : ∀ k u e, Moment run? start events k u e → s.id ∈ u.hub.registry →
    s.id ∉ f.hub.registry →
    (∀ (n : Nat) (message : Text) (service : Service),
      f.errands[n]? = some (.inbound s.id message service) → service.isHolding = false) →
    (s.stage ≠ .closed → f.isWritable → s.sink.verdict s.written.length ≠ .heldUp →
      ∃ f', f.step? (.write s.id) = some f') ∧
    ∀ more f', f.run? more = some f' → 2 * s.queue.length + 6 ≤ more.count (.write s.id) →
      ∃ s' ∈ f'.hub.sessions, s'.id = s.id ∧ s'.stage = .closed

theorem closed_of_stepsLeft (sound : f.Sound) (there : s ∈ f.hub.sessions)
    (none : s.stepsLeft = 0) :
    s.stage = .closed := by
  rw [(sound.session there).2.1.stage]
  cases stand : s.writer with
  | stopped => rfl
  | unstarted | waiting | writing | closingQueue | leaving | telling | finishing =>
      simp [Session.stepsLeft, stand] at none

/-- A session that was registered once and is not any more was admitted, and only calls in progress
    hold its queue. -/
theorem admitted_of_isOver (sound : f.Sound) (there : s ∈ f.hub.sessions)
    (gone : (f.life s.id).IsOver) :
    s.stage ≠ .connecting ∧ s.holds = (f.life s.id).crew .holding := by
  have sessions := (sound.session there).1
  have greeting := gone.greeting
  have connecting := gone.connecting
  cases sound.lives s.id with
  | absent none => rw [none] at sessions; cases sessions
  | waiting _ _ _ _ _ _ one => omega
  | started same _ _ _ started =>
      rw [sessions, List.cons.injEq] at same
      obtain ⟨rfl, -⟩ := same
      refine ⟨?_, ?_⟩
      · rw [started.sound.stage]
        exact Session.Writer.admitted started.stand
      · rw [started.holds, gone.entering, Nat.add_zero]

/-- An admitted session has been offered its greeting. -/
theorem greeted_of_admitted (sound : f.Sound) (there : s ∈ f.hub.sessions)
    (admitted : s.stage ≠ .connecting) : s.accepted ≠ [] := by
  intro empty
  obtain ⟨sessions, intact, -⟩ := sound.session there
  cases sound.lives s.id with
  | absent none => rw [none] at sessions; cases sessions
  | waiting same _ _ _ stand =>
      rw [sessions, List.cons.injEq] at same
      rw [intact.stage, same.1, stand] at admitted
      exact admitted rfl
  | started same _ _ _ started =>
      rw [sessions, List.cons.injEq] at same
      exact started.greeted (same.1 ▸ empty)

theorem written_of_never_failed {programme : Programme} {limit : Option Nat}
    (run : (idle programme limit).run? events = some f) (there : s ∈ f.hub.sessions)
    (never : ∀ k u, Moment run? (idle programme limit) events k u (.write s.id) →
      ∀ t ∈ u.hub.sessions, t.id = s.id → ∀ frame, ¬ t.Fails frame)
    (closed : s.stage = .closed) : s.written = s.accepted := by
  have intact := ((Sound.of_run run).session there).2.1
  have stopped := intact.stage
  rw [closed] at stopped
  obtain ⟨ending, ended⟩ := Session.Writer.exists_ending_of_closed stopped.symm
  cases ending with
  | failed =>
      obtain ⟨k, u, moment, t, member, same, frame, fails⟩ := exists_fails run there ended
      exact absurd fails (never k u moment t member same frame)
  | drained =>
      have flows := intact.flows
      simp only [Session.Flows, ended] at flows
      exact flows.1.symm

/-- Every session gets its frames in order: the greeting first, no frame lost or written twice up to
    a write that fails or to the end, and none after it is closed. -/
theorem frames_in_order {programme : Programme} {limit : Option Nat}
    (run : (idle programme limit).run? events = some f) (there : s ∈ f.hub.sessions) :
    Delivered (idle programme limit) events f s := by
  have sound := Sound.of_run run
  have intact := (sound.session there).2.1
  have onward {k : Nat} {u : Foyer} {e : Event}
      (moment : Moment run? (idle programme limit) events k u e) :
      u.Sound ∧ u.run? (e :: events.drop (k + 1)) = some f :=
    ⟨.of_run moment.before, moment.onward runs run⟩
  constructor
  case order => exact intact.written_prefix
  case greeted => exact greeted_of_admitted sound there
  case greeting => exact (welcoming_of_run run).greeted s there
  case kept =>
    intro k u e moment t member same
    obtain ⟨reached, rest⟩ := onward moment
    have ages := reached.ages rest member there same.symm
    refine ⟨ages.accepted, ages.written, ?_⟩
    intro closed
    obtain ⟨s', there', number, -, -, written⟩ := reached.stays_closed rest member closed
    rw [← sound.eq_of_id there there' (number.trans same)]
    exact written
  case whole => exact written_of_never_failed run there
  case cut =>
    intro k u moment t member same frame fails
    obtain ⟨reached, rest⟩ := onward moment
    rw [← same] at rest
    exact written_of_fails reached member fails rest there same.symm
  case leaving =>
    intro k u e moment before after nobody
    obtain ⟨reached, rest⟩ := onward moment
    have gone := isOver_of_unregistered reached rest before after
    have free := holding_eq_zero nobody
    obtain ⟨admitted, holds⟩ := admitted_of_isOver sound there gone
    constructor
    · intro unfinished writable flowing
      have active : s.stage = .active := by
        cases stage : s.stage with
        | connecting => exact absurd stage admitted
        | active => rfl
        | closed => exact absurd stage unfinished
      exact exists_write sound there writable active after (holds.trans free) flowing
    · intro more f' run enough
      obtain ⟨s', there', ages, less⟩ := stepsLeft_of_run sound there gone free admitted run
      have bound := s.stepsLeft_le
      exact ⟨s', there', ages.number, closed_of_stepsLeft (sound.run run) there' (by omega)⟩

def visitor : Session := afterVisit.hub.sessions.get ⟨0, by decide +kernel⟩

/-- The visitor is shown the programme, and is closed when that is written. -/
theorem visitor_served : (idle .single none).run? visit = some afterVisit ∧
    visitor ∈ afterVisit.hub.sessions ∧ visitor.stage = .closed ∧
    visitor.written = [Snapshot.render .initial .single] ∧
    Delivered (idle .single none) visit afterVisit visitor := by
  have run : (idle .single none).run? visit = some afterVisit := (Option.some_get _).symm
  have there : visitor ∈ afterVisit.hub.sessions := List.get_mem ..
  exact ⟨run, there, by decide +kernel, by decide +kernel, frames_in_order run there⟩

end Foyer

end Hub

end BoxOffice
