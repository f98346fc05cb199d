import BoxOffice.Proofs.Foyer
import BoxOffice.Scenario
import Mathlib.Algebra.Group.Nat.Defs
import Mathlib.Data.List.Nodup

/-! # The life cycle of the sessions of a hub

Every session is numbered once, registered at most once and removed at most once, whoever comes
first: a disconnect, a closing of all, or its own writer.
-/

namespace BoxOffice.Hub.Foyer

/-! ## What every reachable foyer keeps -/

theorem not_mem_idle {programme : Programme} {limit : Option Nat} {s : Session} :
    s ∉ (idle programme limit).hub.sessions := List.not_mem_nil

/-- The lock is respected, and every session is sound. -/
structure Sound (f : Foyer) : Prop where
  guarded : f.Guarded
  lives : ∀ id, (f.life id).Sound

namespace Sound

variable {f f' : Foyer} {id : SessionId} {s s' : Session}

theorem idle (programme : Programme) (limit : Option Nat) : (idle programme limit).Sound where
  guarded := ⟨nofun, Nat.zero_le 1, fun _ => rfl⟩
  lives := by intro id; exact .absent rfl rfl fun _ => rfl

theorem life_step {e : Event} (h : f.Sound) (step : f.step? e = some f') (id : SessionId) :
    (f.life id).Step (e = .write id) (f'.life id) :=
  life_of_moves h.guarded (moves_of_step? step) id

theorem step {e : Event} (h : f.Sound) (step : f.step? e = some f') : f'.Sound where
  guarded := h.guarded.moves (moves_of_step? step)
  lives := by intro id; exact (h.lives id).step (h.life_step step id)

theorem run {events : List Event} (h : f.Sound) (run : f.run? events = some f') : f'.Sound := by
  refine runs.induction (motive := fun _ now => now.Sound) h ?_ run
  intro _ u e v _ sound step
  exact sound.step step

theorem of_run {programme : Programme} {limit : Option Nat} {events : List Event}
    (run : (Foyer.idle programme limit).run? events = some f) : f.Sound :=
  (idle programme limit).run run

theorem session (h : f.Sound) (there : s ∈ f.hub.sessions) :
    (f.life s.id).sessions = [s] ∧ s.Sound ∧ s.id < f.hub.nextId := by
  obtain ⟨sessions, sound, numbered⟩ := (h.lives s.id).session (mem_own.mpr ⟨there, rfl⟩)
  exact ⟨sessions, sound, of_decide_eq_true numbered⟩

theorem eq_of_id (h : f.Sound) (there : s ∈ f.hub.sessions) (there' : s' ∈ f.hub.sessions)
    (same : s'.id = s.id) : s' = s := by
  have member : s' ∈ (f.life s.id).sessions := mem_own.mpr ⟨there', same⟩
  rw [(h.session there).1, List.mem_singleton] at member
  exact member

theorem nodup (h : f.Sound) : (f.hub.sessions.map (·.id)).Nodup := by
  rw [List.nodup_iff_count_le_one]
  intro id
  have count : (f.hub.sessions.map (·.id)).count id = (f.life id).sessions.length := by
    simp only [life, own, List.count, List.countP_map, ← List.countP_eq_length_filter,
      Function.comp_def, beq_eq_decide]
  rw [count]
  cases h.lives id with
  | absent sessions => rw [sessions]; exact Nat.zero_le 1
  | waiting sessions | started sessions => rw [sessions]; exact Nat.le_refl 1

theorem entries_le (h : f.Sound) (id : SessionId) : f.hub.registry.count id ≤ 1 := by
  show (f.life id).entries ≤ 1
  cases h.lives id with
  | absent _ entries | waiting _ _ _ entries => omega
  | started _ _ _ _ started => have := started.once; omega

theorem nodup_registry (h : f.Sound) : f.hub.registry.Nodup :=
  List.nodup_iff_count_le_one.mpr h.entries_le

theorem serving (h : f.Sound) (registered : id ∈ f.hub.registry) :
    ∃ s ∈ f.hub.sessions, s.id = id ∧ s.Sound ∧ s.writer.isServing := by
  have entries : 0 < (f.life id).entries := List.count_pos_iff.mpr registered
  cases h.lives id with
  | absent _ none | waiting _ _ _ none => omega
  | @started s sessions _ _ _ started =>
      have there : s ∈ (f.life id).sessions := by rw [sessions]; exact List.mem_singleton_self s
      obtain ⟨there, number⟩ := mem_own.mp there
      exact ⟨s, there, number, started.sound, started.serving (by omega)⟩

theorem not_registered_of_entering (h : f.Sound) (calling : .entering id ∈ f.errands) :
    id ∉ f.hub.registry := by
  obtain ⟨n, turn⟩ := List.mem_iff_getElem?.mp calling
  have turn : 0 < (f.life id).crew .entering := crew_pos turn (if_pos rfl)
  have none : (f.life id).entries = 0 := by
    cases h.lives id with
    | absent _ entries | waiting _ _ _ entries => exact entries
    | started _ _ _ _ started => have := started.once; omega
  exact List.count_eq_zero.mp none

/-! ## What becomes of a session over a run -/

/-- A session is what became of the one that had its number before. -/
theorem ages {events : List Event} (h : f.Sound) (run : f.run? events = some f')
    (there : s ∈ f.hub.sessions) (there' : s' ∈ f'.hub.sessions) (same : s'.id = s.id) :
    s.Ages s' := by
  have grown : (f'.life s.id).isNumbered ∧ ∀ s' ∈ (f'.life s.id).sessions, s.Ages s' := by
    refine runs.induction (motive := fun _ now => (now.life s.id).isNumbered ∧
      ∀ s' ∈ (now.life s.id).sessions, s.Ages s') ⟨decide_eq_true (h.session there).2.2, ?_⟩ ?_ run
    · intro s' member
      rw [(h.session there).1, List.mem_singleton] at member
      exact member ▸ .refl s
    · intro _ u e v before ⟨numbered, aged⟩ step
      have sound := h.run before
      have life := sound.life_step step s.id
      refine ⟨life.numbered numbered, ?_⟩
      intro s' member
      obtain ⟨between, earlier, ages⟩ := life.comes (sound.lives s.id) numbered member
      exact (aged between earlier).trans ages
  exact grown.2 s' (mem_own.mpr ⟨there', same⟩)

theorem stays {events : List Event} (h : f.Sound) (run : f.run? events = some f')
    (there : s ∈ f.hub.sessions) (admitted : s.stage ≠ .connecting) :
    ∃ s' ∈ f'.hub.sessions, s.Ages s' := by
  refine runs.induction (motive := fun _ now => ∃ s' ∈ now.hub.sessions, s.Ages s')
    ⟨s, there, .refl s⟩ ?_ run
  intro _ u e v before ⟨between, member, aged⟩ step
  have sound := h.run before
  obtain ⟨s', member', ages⟩ := (sound.life_step step between.id).stays (sound.lives between.id)
    (mem_own.mpr ⟨member, rfl⟩) (aged.admitted admitted)
  exact ⟨s', (mem_own.mp member').1, aged.trans ages⟩

theorem isOver {events : List Event} (h : f.Sound) (run : f.run? events = some f')
    (gone : (f.life id).IsOver) : (f'.life id).IsOver := by
  refine runs.induction (motive := fun _ now => (now.life id).IsOver) gone ?_ run
  intro _ u e v before gone step
  exact gone.step ((h.run before).life_step step id)

theorem isOver_of_removed {e : Event} (h : f.Sound) (step : f.step? e = some f')
    (before : id ∈ f.hub.registry) (after : id ∉ f'.hub.registry) : (f'.life id).IsOver :=
  (h.life_step step id).isOver (h.lives id) (List.count_pos_iff.mpr before)
  (List.count_eq_zero.mpr after)

end Sound

theorem not_registered_of_isOver {f : Foyer} {id : SessionId} (gone : (f.life id).IsOver) :
    id ∉ f.hub.registry := List.count_eq_zero.mp gone.entries

/-! ## Numbers -/

def Event.isConnect : Event → Bool
  | .begin (.connect ..) => true
  | _ => false

theorem nextId_of_moves {f f' : Foyer} {e : Event} (moves : f.Moves e f') :
    f'.hub.nextId = f.hub.nextId + if e.isConnect then 1 else 0 := by
  cases moves with
  | serve turn serves =>
      cases serves with
      | @compose result seen =>
          obtain ⟨tally, same⟩ := f.hub.exists_countAnswer (.compose _ result seen)
          rw [same]
          rfl
      | _ => rfl
  | write free step =>
      cases writes_of_writerStep step with
      | own there writes same => rw [same]; rfl
      | leave | pass | tell => rfl
  | _ => rfl

theorem nextId_of_run {programme : Programme} {limit : Option Nat} {events : List Event} {f : Foyer}
    (run : (idle programme limit).run? events = some f) :
    f.hub.nextId = events.countP (·.isConnect) + 1 := by
  refine runs.induction (motive := fun events now =>
    now.hub.nextId = events.countP (·.isConnect) + 1) rfl ?_ run
  intro events u e v _ counted step
  rw [nextId_of_moves (moves_of_step? step), counted, List.countP_append, List.countP_singleton]
  exact Nat.add_right_comm ..

theorem id_pos_of_run {programme : Programme} {limit : Option Nat} {events : List Event} {f : Foyer}
    (run : (idle programme limit).run? events = some f) {s : Session} (there : s ∈ f.hub.sessions) :
    1 ≤ s.id := by
  have nobody : (f.life 0).isNumbered ∧ (f.life 0).sessions = [] := by
    refine runs.induction
      (motive := fun _ now => (now.life 0).isNumbered ∧ (now.life 0).sessions = [])
      ⟨rfl, rfl⟩ ?_ run
    intro _ u e v before ⟨numbered, nobody⟩ step
    have sound := Sound.of_run before
    have life := sound.life_step step 0
    refine ⟨life.numbered numbered, ?_⟩
    rw [List.eq_nil_iff_forall_not_mem]
    intro s' member
    obtain ⟨s, earlier, -⟩ := life.comes (sound.lives 0) numbered member
    rw [nobody] at earlier
    cases earlier
  apply Nat.pos_of_ne_zero
  intro zero
  have member : s ∈ (f.life 0).sessions := mem_own.mpr ⟨there, zero⟩
  rw [nobody.2] at member
  cases member

/-! ## The life cycle -/

/-- What holds of numbers, stages and the registry at any time. -/
structure Orderly (f : Foyer) : Prop where
  numbers : (f.hub.sessions.map (·.id)).Nodup
  entries : f.hub.registry.Nodup
  /-- To register a session never replaces an entry. -/
  fresh : ∀ id, .entering id ∈ f.errands → id ∉ f.hub.registry
  /-- Who is registered is active, and its queue is closed only while its writer is on its way out
      of the registry. -/
  registered : ∀ id ∈ f.hub.registry, ∃ s ∈ f.hub.sessions, s.id = id ∧ s.stage = .active ∧
    (s.isOpen = false ↔ ∃ ending, s.writer = .leaving ending)
  closed : ∀ s ∈ f.hub.sessions, s.stage = .closed → s.id ∉ f.hub.registry ∧ s.isOpen = false

theorem Sound.orderly {f : Foyer} (h : f.Sound) : f.Orderly where
  numbers := h.nodup
  entries := h.nodup_registry
  fresh := by intro id calling; exact h.not_registered_of_entering calling
  registered := by
    intro id registered
    obtain ⟨s, there, number, sound, serving⟩ := h.serving registered
    refine ⟨s, there, number, ?_, ?_⟩
    · rw [sound.stage]
      exact Session.Writer.stage_of_isServing serving
    · rw [sound.isOpen]
      exact Session.Writer.isOpen_of_isServing serving
  closed := by
    intro s there closed
    obtain ⟨-, sound, -⟩ := h.session there
    have stopped := sound.stage
    rw [closed] at stopped
    constructor
    · intro registered
      obtain ⟨t, member, number, sound', serving⟩ := h.serving registered
      rw [h.eq_of_id there member number] at serving
      rw [Session.Writer.stage_of_isServing serving] at stopped
      cases stopped
    · rw [sound.isOpen]
      exact Session.Writer.isOpen_of_closed stopped.symm

theorem nodup_of_lt {numbers : List Nat} (nodup : numbers.Nodup)
    (small : ∀ n ∈ numbers, n < 2 ^ 64) :
    (numbers.map UInt64.ofNat).Nodup := by
  apply nodup.map_on
  intro m hm n hn same
  have values := congrArg UInt64.toNat same
  rw [UInt64.toNat_ofNat_of_lt' (small m hm), UInt64.toNat_ofNat_of_lt' (small n hn)] at values
  exact values

theorem Sound.stays_closed {f f' : Foyer} {events : List Event} (h : f.Sound)
    (run : f.run? events = some f') {s : Session} (there : s ∈ f.hub.sessions)
    (closed : s.stage = .closed) :
    ∃ s' ∈ f'.hub.sessions, s'.id = s.id ∧ s'.stage = .closed ∧ s'.accepted = s.accepted ∧
      s'.written = s.written := by
  obtain ⟨s', there', ages⟩ := h.stays run there (by rw [closed]; nofun)
  obtain ⟨-, sound, -⟩ := h.session there
  have stopped := sound.stage
  rw [closed] at stopped
  have shut := sound.isOpen.trans (Session.Writer.isOpen_of_closed stopped.symm)
  obtain ⟨ending, ended⟩ := Session.Writer.exists_ending_of_closed stopped.symm
  have late := ages.stage
  rw [closed] at late
  refine ⟨s', there', ages.number, ?_, (ages.shut shut).2, (ages.ended ending ended).2⟩
  cases same : s'.stage with
  | connecting | active => rw [same] at late; cases late <;> contradiction
  | closed => rfl

theorem removed_once {start : Foyer} {events : List Event} (sound : start.Sound) {j k : Nat}
    {u u' v v' : Foyer} {e e' : Event} {id : SessionId}
    (first : Moment run? start events k u e) (step : u.step? e = some v)
    (before : id ∈ u.hub.registry) (after : id ∉ v.hub.registry)
    (second : Moment run? start events j u' e') (step' : u'.step? e' = some v')
    (before' : id ∈ u'.hub.registry) (after' : id ∉ v'.hub.registry) : j = k := by
  have apart {i l : Nat} {w w' x : Foyer} {d d' : Event} (earlier : Moment run? start events i w d)
      (step : w.step? d = some x) (before : id ∈ w.hub.registry) (after : id ∉ x.hub.registry)
      (later : Moment run? start events l w' d') (again : id ∈ w'.hub.registry) : ¬ i < l := by
    intro order
    obtain ⟨next, meanwhile, stepped, run⟩ := earlier.since runs later order
    rw [step, Option.some.injEq] at stepped
    subst stepped
    have reached := sound.run earlier.before
    have gone := reached.isOver_of_removed step before after
    exact not_registered_of_isOver ((reached.step step).isOver run gone) again
  -- neither can be earlier, since a session that was removed is not there to be removed again
  have one := apart first step before after second before'
  have other := apart second step' before' after' first before
  omega

/-- Numbers are given once: no two sessions have the same number, not even in 64 bits as long as
    fewer than that many connects were begun, and nobody is registered over another. Who is
    registered is active, and its queue is open unless its writer has closed it and is about to
    leave. Stages come in their order, one by one. Once closed, a session stays closed, out of the
    registry, and takes no frame; once removed, it is never registered again, so it is removed once
    at most, whoever does it. -/
theorem registered_once {programme : Programme} {limit : Option Nat} {events : List Event}
    {f : Foyer} (run : (idle programme limit).run? events = some f) :
    f.Orderly ∧
    (∀ s ∈ f.hub.sessions, 1 ≤ s.id ∧ s.id ≤ events.countP (·.isConnect)) ∧
    (events.countP (·.isConnect) < 2 ^ 64 →
      ((f.hub.sessions.map (·.id)).map UInt64.ofNat).Nodup) ∧
    (∀ k u e v, Moment run? (idle programme limit) events k u e → u.step? e = some v →
      (e.isConnect → u.hub.nextId = (events.take k).countP (·.isConnect) + 1) ∧
      ∀ s ∈ u.hub.sessions, ∀ s' ∈ v.hub.sessions, s'.id = s.id →
        s.stage.age ≤ s'.stage.age ∧ s'.stage.age ≤ s.stage.age + 1) ∧
    (∀ k u e, Moment run? (idle programme limit) events k u e →
      ∀ s ∈ u.hub.sessions, s.stage = .closed →
        ∃ s' ∈ f.hub.sessions, s'.id = s.id ∧ s'.stage = .closed ∧ s'.accepted = s.accepted) ∧
    (∀ k u e v id, Moment run? (idle programme limit) events k u e → u.step? e = some v →
      id ∈ u.hub.registry → id ∉ v.hub.registry →
        id ∉ f.hub.registry ∧
        ∀ j u' e' v', Moment run? (idle programme limit) events j u' e' → u'.step? e' = some v' →
          id ∈ u'.hub.registry → id ∉ v'.hub.registry → j = k) := by
  have sound := Sound.of_run run
  have bounds (s : Session) (there : s ∈ f.hub.sessions) :
      1 ≤ s.id ∧ s.id ≤ events.countP (·.isConnect) := by
    have given := (sound.session there).2.2
    rw [nextId_of_run run] at given
    exact ⟨id_pos_of_run run there, Nat.le_of_lt_succ given⟩
  refine ⟨sound.orderly, bounds, ?_, ?_, ?_, ?_⟩
  · intro few
    apply nodup_of_lt sound.nodup
    intro n member
    obtain ⟨s, there, rfl⟩ := List.mem_map.mp member
    exact Nat.lt_of_le_of_lt (bounds s there).2 few
  · intro k u e v moment step
    have reached := Sound.of_run moment.before
    refine ⟨fun _ => nextId_of_run moment.before, ?_⟩
    intro s there s' there' same
    obtain ⟨ages, next⟩ := (reached.life_step step s.id).ages (reached.lives s.id)
      (mem_own.mpr ⟨there, rfl⟩) (mem_own.mpr ⟨there', same⟩)
    exact ⟨ages.stage, next⟩
  · intro k u e moment s there closed
    have reached := Sound.of_run moment.before
    obtain ⟨s', there', number, stays, frames, -⟩ :=
      reached.stays_closed (moment.onward runs run) there closed
    exact ⟨s', there', number, stays, frames⟩
  · intro k u e v id moment step before after
    refine ⟨?_, ?_⟩
    · obtain ⟨next, stepped, rest⟩ := moment.after runs run
      rw [step, Option.some.injEq] at stepped
      subst stepped
      have reached := Sound.of_run moment.before
      have gone := reached.isOver_of_removed step before after
      exact not_registered_of_isOver ((reached.step step).isOver rest gone)
    · intro j u' e' v' moment' step' before' after'
      exact removed_once (.idle programme limit) moment step before after moment' step'
        before' after'

/-- A customer connects and is disconnected while the writer is at work. -/
def visit : List Event :=
  [.begin (.connect ⟨none, false, false⟩ true), .proceed 0, .proceed 0, .proceed 0,
    .proceed 0, .write 1, .begin (.disconnect 1), .write 1, .write 1, .write 1, .write 1, .write 1]

def afterVisit : Foyer := ((idle .single none).run? visit).get (by decide +kernel)

/-- The visitor is closed and stays out of the registry. -/
theorem visit_in_order : (idle .single none).run? visit = some afterVisit ∧
    afterVisit.hub.sessions.map (·.stage) = [.closed] ∧ afterVisit.Orderly := by
  have run : (idle .single none).run? visit = some afterVisit := (Option.some_get _).symm
  exact ⟨run, by decide +kernel, (registered_once run).1⟩

end BoxOffice.Hub.Foyer
