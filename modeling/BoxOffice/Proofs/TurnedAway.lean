import BoxOffice.Proofs.Undisturbed

/-! # Connects that are refused

A connect that is refused has touched nothing but the session it made, which is dropped: it was
never registered and never written to, and nothing is left of it but its number
(`turnedAway_of_run`).
-/

namespace BoxOffice.Hub

/-! ## One session only -/

/-- Nothing is different but the session of one number, and perhaps the next number to be given. -/
structure Spares (id : SessionId) (h h' : Hub) : Prop where
  programme : h'.programme = h.programme
  registry : h'.registry = h.registry
  tally : h'.tally = h.tally
  sessions : h'.sessions.filter (·.id ≠ id) = h.sessions.filter (·.id ≠ id)

namespace Spares

variable {h : Hub} {id : SessionId}

theorem refl (h : Hub) (id : SessionId) : h.Spares id h := ⟨rfl, rfl, rfl, rfl⟩

theorem assign (h : Hub) (sink : Session.Sink) : h.Spares h.nextId (h.assign sink) where
  programme := rfl
  registry := rfl
  tally := rfl
  sessions := by simp [Hub.assign, Session.blank]

theorem dismiss (h : Hub) (id : SessionId) : h.Spares id (h.dismiss id) where
  programme := rfl
  registry := rfl
  tally := rfl
  sessions := by simp [Hub.dismiss, List.filter_filter]

theorem offer (h : Hub) (id : SessionId) (frame : Text) : h.Spares id (h.offer id frame).2 where
  programme := rfl
  registry := rfl
  tally := rfl
  sessions := by
    simp only [Hub.offer, update]
    induction h.sessions with
    | nil => rfl
    | cons s rest ih =>
        by_cases own : s.id = id
        · simp only [List.map_cons, own, if_true, List.filter_cons, Session.id_offer, ne_eq,
            not_true_eq_false, decide_false, Bool.false_eq_true, if_false]
          exact ih
        · simp only [List.map_cons, own, if_false, List.filter_cons, ne_eq, not_false_eq_true,
            decide_true, if_true]
          rw [ih]

end Spares

/-! ## Connects -/

def Errand.visitor? : Errand → Option SessionId
  | .greeting id _ _ | .connecting id _ | .entering id | .connected id _ => some id
  | _ => none

/-- Whether a call has had its session admitted. -/
def Errand.isAdmitted : Errand → Bool
  | .entering _ | .connected _ true => true
  | _ => false

namespace Foyer

variable {f f' : Foyer} {events : List Event} {e : Event} {n : Nat} {id : SessionId} {d d' : Errand}

/-- A connect connects the same session all the time, and who was admitted stays so. -/
theorem visitor_stays (run : f.run? events = some f') (turn : f.errands[n]? = some d) :
    ∃ d', f'.errands[n]? = some d' ∧ d'.visitor? = d.visitor? ∧ (d.isAdmitted → d'.isAdmitted) := by
  refine runs.induction (motive := fun _ now => ∃ d', now.errands[n]? = some d' ∧
    d'.visitor? = d.visitor? ∧ (d.isAdmitted → d'.isAdmitted)) ⟨d, turn, rfl,
    fun admitted => admitted⟩ ?_ run
  intro _ u e v _ ⟨d', turn, same, stays⟩ step
  have later {m : Nat} {past next : Errand} (before : u.errands[m]? = some past)
      (kept : next.visitor? = past.visitor?) (admits : past.isAdmitted → next.isAdmitted) :
      ∃ d', (u.errands.set m next)[n]? = some d' ∧ d'.visitor? = d.visitor? ∧
        (d.isAdmitted → d'.isAdmitted) := by
    by_cases own : m = n
    · subst own
      rw [turn, Option.some.injEq] at before
      subst before
      exact ⟨next, turn_set turn _, kept.trans same, fun admitted => admits (stays admitted)⟩
    · exact ⟨d', by rw [List.getElem?_set_ne own, turn], same, stays⟩
  cases moves_of_step? step with
  | assign | refuse | lookUp | broadcast | remove | miss | drain =>
      exact ⟨d', by rw [List.getElem?_append_left (List.getElem?_eq_some_iff.mp turn).1,
        turn], same, stays⟩
  | enter before => exact later before rfl fun _ => rfl
  | look before | greet before | dismiss before | activate before | serve before | reach before
  | comeBack before | tell before | tellAll before | announce before | cry before =>
      exact later before rfl fun admitted => by cases admitted
  | write | transport => exact ⟨d', turn, same, stays⟩

/-! ## What is left of a refused connect -/

/-- A session that was dropped: its number was given, and there is none of it. -/
def IsDropped (f : Foyer) (id : SessionId) : Prop :=
  (f.life id).isNumbered ∧ (f.life id).sessions = []

theorem IsDropped.step (h : f.IsDropped id) (sound : f.Sound) (step : f.step? e = some f') :
    f'.IsDropped id := by
  have life := sound.life_step step id
  refine ⟨life.numbered h.1, List.eq_nil_iff_forall_not_mem.mpr fun s' there' => ?_⟩
  obtain ⟨s, there, -⟩ := life.comes (sound.lives id) h.1 there'
  rw [h.2] at there
  cases there

theorem numbered_of_crew {r : Role} (sound : f.Sound) (calling : 0 < (f.life id).crew r) :
    (f.life id).isNumbered := by
  cases sound.lives id with
  | absent _ _ crew =>
      rw [crew] at calling
      cases calling
  | waiting _ numbered | started _ numbered => exact numbered

theorem isDropped_of_run {programme : Programme} {limit : Option Nat}
    (run : (idle programme limit).run? events = some f)
    (refused : f.errands[n]? = some (.connected id false)) :
    f.IsDropped id := by
  refine runs.induction
    (motive := fun _ now => ∀ n id, now.errands[n]? = some (.connected id false) →
    now.IsDropped id) (by intro n id turn; cases turn) ?_ run n id refused
  intro _ u e v before known step n id turn
  have sound := Sound.of_run before
  have old {d : Errand} (turn : (u.errands ++ [d])[n]? = some (.connected id false))
      (other : d ≠ .connected id false) : u.errands[n]? = some (.connected id false) := by
    rcases of_getElem?_append turn with old | ⟨-, same⟩
    · exact old
    · exact absurd same.symm other
  have kept {m : Nat} {next : Errand}
      (turn : (u.errands.set m next)[n]? = some (.connected id false))
      (other : next ≠ .connected id false) : u.errands[n]? = some (.connected id false) := by
    rcases of_getElem?_set turn with ⟨old, -⟩ | ⟨-, same⟩
    · exact old
    · exact absurd same.symm other
  have still (turn : u.errands[n]? = some (.connected id false)) : v.IsDropped id :=
    (known n id turn).step sound step
  cases moves_of_step? step with
  | @dismiss m i bounded before =>
      rcases of_getElem?_set turn with ⟨old, -⟩ | ⟨-, same⟩
      · exact still old
      · cases same
        have calling := crew_pos before (if_pos rfl)
        refine ⟨(sound.life_step step id).numbered (numbered_of_crew sound calling), ?_⟩
        simp [life, Hub.own, Hub.dismiss]
  | assign | refuse | lookUp | broadcast | remove | miss | drain =>
      exact still (old turn (by simp))
  | look | greet | activate | enter | serve | reach | comeBack | tell | tellAll | announce | cry =>
      exact still (kept turn (by simp))
  | write | transport => exact still turn

/-! ## Sessions that are not admitted -/

/-- As long as its writer is not started, nothing is written to a session. -/
theorem unwritten_of_step {l l' : Life} {writing : Prop} (step : l.Step writing l')
    (unwritten : ∀ s ∈ l.sessions, s.writer = .unstarted → s.written = []) :
    ∀ s ∈ l'.sessions, s.writer = .unstarted → s.written = [] := by
  have mapped {change : Session → Session}
      (keeps : ∀ s, (change s).writer = .unstarted → s.writer = .unstarted ∧
        (change s).written = s.written) :
      ∀ s ∈ l.sessions.map change, s.writer = .unstarted → s.written = [] := by
    intro s' there' stand
    obtain ⟨s, there, rfl⟩ := List.mem_map.mp there'
    obtain ⟨before, same⟩ := keeps s stand
    rw [same, unwritten s there before]
  cases step with
  | rest | remove => exact unwritten
  | assign id sink new =>
      intro s there stand
      rcases List.mem_append.mp there with old | new
      · exact unwritten s old stand
      · rw [List.mem_singleton.mp new]
        rfl
  | dismiss =>
      intro s there
      cases there
  | greet frame | offer frame =>
      refine mapped fun s stand => ⟨(s.writer_offer frame).symm.trans stand, ?_⟩
      unfold Session.offer
      split <;> rfl
  | activate =>
      refine mapped fun s stand => ?_
      cases stand
  | enter | lookUp | letGo | transport => exact mapped fun s stand => ⟨stand, rfl⟩
  | write now there writes =>
      refine mapped fun s stand => ?_
      cases writes <;> cases stand
  | leave now there stand free left =>
      refine mapped fun s stand => ?_
      rcases left with rfl | ⟨remaining, rfl⟩ <;> cases stand
  | tell =>
      refine mapped fun s stand => ?_
      cases stand

theorem unwritten_of_run {programme : Programme} {limit : Option Nat}
    (run : (idle programme limit).run? events = some f) {s : Session} (there : s ∈ f.hub.sessions)
    (stand : s.writer = .unstarted) : s.written = [] := by
  refine runs.induction (motive := fun _ now => ∀ t ∈ (now.life s.id).sessions,
    t.writer = .unstarted → t.written = []) (fun _ none => absurd none List.not_mem_nil) ?_ run s
    (mem_own.mpr ⟨there, rfl⟩) stand
  intro _ u e v before known step
  exact unwritten_of_step ((Sound.of_run before).life_step step s.id) known

/-! ## Refused connects -/

/-- What a connect in place `n` that was refused has done to the hub, over the whole run. -/
structure TurnedAway (start : Foyer) (events : List Event) (n : Nat) (id : SessionId) (f : Foyer) :
    Prop where
  /-- Nothing is left of the session but that its number was given. -/
  dropped : id < f.hub.nextId ∧ ∀ s ∈ f.hub.sessions, s.id ≠ id
  /-- At no time was it registered, or written to. -/
  unregistered : ∀ k u e, Moment run? start events k u e → id ∉ u.hub.registry
  unwritten : ∀ k u e, Moment run? start events k u e → ∀ s ∈ u.hub.sessions, s.id = id →
    s.written = []
  /-- None of its steps changes anything but that session and, when it begins, the next number. -/
  spares : ∀ k u e v, Moment run? start events k u e → u.step? e = some v →
    (∃ sink bounded, e = .begin (.connect sink bounded) ∧ u.errands.length = n) ∨ e.call? = some n →
      u.hub.Spares id v.hub ∧ v.hub.nextId = u.hub.nextId + if e.isConnect then 1 else 0

section

variable {programme : Programme} {limit : Option Nat}

theorem visitor_of_refused (run : f.run? events = some f')
    (refused : f'.errands[n]? = some (.connected id false)) (turn : f.errands[n]? = some d) :
    d.visitor? = some id ∧ d.isAdmitted = false := by
  obtain ⟨d', turn', same, stays⟩ := visitor_stays run turn
  rw [refused, Option.some.injEq] at turn'
  subst turn'
  exact ⟨same.symm, Bool.eq_false_iff.mpr fun admitted => nomatch stays admitted⟩

theorem spares_of_step (run : f.run? (e :: events) = some f')
    (refused : f'.errands[n]? = some (.connected id false)) {v : Foyer} (step : f.step? e = some v)
    (own : (∃ sink bounded, e = .begin (.connect sink bounded) ∧ f.errands.length = n) ∨
      e.call? = some n) :
    f.hub.Spares id v.hub := by
  rw [runs.cons, step, Option.bind_some] at run
  have after {m : Nat} {next : Errand} (own : m = n) (turn : v.errands[m]? = some next) :
      next.visitor? = some id ∧ next.isAdmitted = false :=
        visitor_of_refused run refused (own ▸ turn)
  rcases own with ⟨sink, bounded, rfl, place⟩ | own
  · cases step
    have begun := after place List.getElem?_concat_length
    cases begun.1
    exact .assign f.hub sink
  · cases moves_of_step? step with
    | look before =>
        have now := after (Option.some.inj own) (turn_set before _)
        cases now.1
        exact .refl ..
    | greet before =>
        have now := after (Option.some.inj own) (turn_set before _)
        cases now.1
        exact .offer ..
    | dismiss before =>
        have now := after (Option.some.inj own) (turn_set before _)
        cases now.1
        exact .dismiss ..
    | activate before | enter before =>
        have now := after (Option.some.inj own) (turn_set before _)
        cases now.2
    | serve before | reach before | comeBack before | tell before | tellAll before | announce before
    | cry before =>
        have now := after (Option.some.inj own) (turn_set before _)
        cases now.1
    | assign | refuse | lookUp | broadcast | remove | miss | drain | write | transport => cases own

theorem turnedAway_of_run (run : (idle programme limit).run? events = some f)
    (refused : f.errands[n]? = some (.connected id false)) :
    TurnedAway (idle programme limit) events n id f := by
  obtain ⟨numbered, none⟩ := isDropped_of_run run refused
  have dropped : ∀ s ∈ f.hub.sessions, s.id ≠ id := by
    rintro s there rfl
    have member : s ∈ (f.life s.id).sessions := mem_own.mpr ⟨there, rfl⟩
    rw [none] at member
    cases member
  -- a session that was ever admitted would still be there
  have waiting {k : Nat} {u : Foyer} {e : Event}
      (moment : Moment run? (idle programme limit) events k u e)
      {s : Session} (there : s ∈ u.hub.sessions) (own : s.id = id) : s.stage = .connecting := by
    by_contra admitted
    obtain ⟨s', there', ages⟩ :=
      (Sound.of_run moment.before).stays (moment.onward runs run) there admitted
    exact dropped s' there' (ages.number.trans own)
  refine ⟨⟨of_decide_eq_true numbered, dropped⟩, ?_, ?_, ?_⟩
  · intro k u e moment registered
    obtain ⟨s, there, own, sound, serving⟩ := (Sound.of_run moment.before).serving registered
    have stage := waiting moment there own
    rw [sound.stage, Session.Writer.stage_of_isServing serving] at stage
    cases stage
  · intro k u e moment s there own
    have stage := waiting moment there own
    rw [((Sound.of_run moment.before).session there).2.1.stage] at stage
    refine unwritten_of_run moment.before there ?_
    by_contra started
    exact Session.Writer.admitted started stage
  · intro k u e v moment step own
    exact ⟨spares_of_step (moment.onward runs run) refused step own,
      nextId_of_moves (moves_of_step? step)⟩

end

end Foyer

end BoxOffice.Hub
