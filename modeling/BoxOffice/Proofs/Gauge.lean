import BoxOffice.Proofs.Ledger

/-! # The gauge

Whoever changes the registry reports how many sessions there are then. A connect reports it while it
has the registry to itself. Whoever removes sessions reports it later, when others may have changed
the registry and reported that. So the gauge shows at any time how many sessions there were after
the change that was reported last (`Gauged.run`), and that need not be the last change. It is the
last change if nothing was still to be reported when the registry last changed (`InTune`).
-/

namespace BoxOffice

/-- What is reported of a change of the registry: the sessions that came or left, and how many there
    were right after it. -/
structure Hub.Headcount where
  ids : List SessionId
  arrival : Bool
  size : Nat
  deriving Repr, DecidableEq

/-- What the writer of a session has still to report. -/
def Session.headcount? (s : Session) : Option Hub.Headcount :=
  match s.writer with
  | .telling _ remaining => some ⟨[s.id], false, remaining⟩
  | _ => none

namespace Hub

def Errand.headcount? : Errand → Option Headcount
  | .disconnecting id remaining => some ⟨[id], false, remaining⟩
  | .closingAll ids (_ + 1) => some ⟨ids, false, 0⟩
  | _ => none

/-- What writers have still to report. -/
def departures (h : Hub) : List Headcount := h.sessions.filterMap (·.headcount?)

/-- What is still to be reported. -/
def Foyer.outstanding (f : Foyer) : List Headcount :=
  f.errands.filterMap (·.headcount?) ++ f.hub.departures

def Foyer.reported? (f : Foyer) : Foyer.Event → Option Headcount
  | .proceed n => (f.errands[n]?).bind fun
      | .entering id => some ⟨[id], true, (f.hub.registry.insert id).length⟩
      | d => d.headcount?
  | .write id => (f.hub.session? id).bind (·.headcount?)
  | _ => none

/-- What is reported is the change from `u` to `v`. -/
structure Headcount.Covers (r : Headcount) (u v : Foyer) : Prop where
  some_session : r.ids ≠ []
  before : ∀ id ∈ r.ids, u.hub.isRegistered id = !r.arrival
  after : ∀ id ∈ r.ids, v.hub.isRegistered id = r.arrival
  size : r.size = v.hub.registry.length

/-! ## What is still to be reported -/

section

variable {h hub : Hub} {id : SessionId} {rs : List Headcount}

theorem departures_update {change : Session → Session}
    (own : ∀ s ∈ h.sessions, s.id = id → ∀ r ∈ (change s).headcount?, r ∈ rs)
    (others : h.departures ⊆ rs) : (h.update id change).departures ⊆ rs := by
  intro r owed
  obtain ⟨s', there', report⟩ := List.mem_filterMap.mp owed
  obtain ⟨s, there, same⟩ := List.mem_map.mp there'
  by_cases number : s.id = id
  · rw [if_pos number] at same
    exact own s there number r (same ▸ report)
  · rw [if_neg number] at same
    exact others (List.mem_filterMap.mpr ⟨s, there, same ▸ report⟩)

theorem departures_update_of_same {change : Session → Session}
    (same : ∀ s ∈ h.sessions, s.id = id → (change s).headcount? = s.headcount?) :
    (h.update id change).departures = h.departures := by
  simp only [departures, update, List.filterMap_map]
  apply List.filterMap_congr
  intro s there
  by_cases number : s.id = id
  · simp only [Function.comp_apply, if_pos number, same s there number]
  · simp only [Function.comp_apply, if_neg number]

theorem headcount?_offer (s : Session) (frame : Text) :
    (s.offer frame).headcount? = s.headcount? := by
  rw [Session.headcount?, Session.headcount?, s.writer_offer, s.id_offer]

theorem headcount?_of_writes {s next : Session} {canStillCome : Bool}
    (writes : s.Writes canStillCome next) :
    s.headcount? = none ∧ next.headcount? = none := by
  cases writes with
  | take stand | drain stand | write stand | fail stand | close stand | stop stand =>
      exact ⟨by rw [Session.headcount?, stand], rfl⟩

/-- A step of a hub that changes neither the registry nor the gauge, nor what writers
    have to report. -/
structure Still (h hub : Hub) : Prop where
  registry : hub.registry = h.registry
  active : hub.tally.active = h.tally.active
  departures : hub.departures = h.departures

theorem still_of_same {change : Session → Session}
    (same : ∀ s ∈ h.sessions, s.id = id → (change s).headcount? = s.headcount?) :
    h.Still (h.update id change) :=
  ⟨rfl, rfl, departures_update_of_same same⟩

theorem still_assign (h : Hub) (sink : Session.Sink) : h.Still (h.assign sink) := by
  refine ⟨rfl, rfl, ?_⟩
  simp [departures, assign, Session.headcount?, Session.blank]

theorem still_activate (stand : ∀ s ∈ h.sessions, s.id = id → s.writer = .unstarted) :
    h.Still (h.activate id) := by
  refine still_of_same fun s there own => ?_
  simp only [Session.headcount?, stand s there own, Session.activate, Session.hold]

theorem still_dismiss (stand : ∀ s ∈ h.sessions, s.id = id → s.writer = .unstarted) :
    h.Still (h.dismiss id) := by
  refine ⟨rfl, rfl, ?_⟩
  simp only [departures, dismiss, List.filterMap_filter]
  apply List.filterMap_congr
  intro s there
  by_cases own : s.id = id
  · simp [own, Session.headcount?, stand s there own]
  · simp [own]

theorem still_countAnswer (h : Hub) (reply : Reply) : h.Still (h.countAnswer reply) := by
  unfold countAnswer
  split
  · rename_i granted _
    cases granted <;> exact ⟨rfl, rfl, rfl⟩
  · exact ⟨rfl, rfl, rfl⟩

theorem still_of_serves {sender : SessionId} {message : Text} {service next : Service}
    (serves : h.Serves sender message service next hub) : h.Still hub := by
  cases serves with
  | decide | look | lookAgain | comeBack => exact ⟨rfl, rfl, rfl⟩
  | compose => exact h.still_countAnswer _
  | answer | grant | reach => exact still_of_same fun s _ _ => headcount?_offer s _
  | letGo => exact still_of_same fun _ _ _ => rfl

end

theorem Headcount.Covers.differs {r : Headcount} {u v : Foyer} (h : r.Covers u v) :
    v.hub.registry ≠ u.hub.registry := by
  intro same
  obtain ⟨id, own⟩ := List.exists_mem_of_ne_nil _ h.some_session
  have before := h.before id own
  rw [isRegistered, ← same, ← isRegistered, h.after id own] at before
  simp at before

namespace Foyer

variable {f f' : Foyer} {e : Event} {n : Nat} {d next : Errand} {hub : Hub} {rs : List Headcount}

theorem departures_subset (f : Foyer) : f.hub.departures ⊆ f.outstanding :=
  List.subset_append_right ..

theorem mem_outstanding_of_turn {r : Headcount} (turn : f.errands[n]? = some d)
    (report : d.headcount? = some r) :
    r ∈ f.outstanding :=
  List.mem_append_left _ (List.mem_filterMap.mpr ⟨d, List.mem_of_getElem? turn, report⟩)

theorem outstanding_withHub (calls : f.outstanding ⊆ rs) (writers : hub.departures ⊆ rs) :
    outstanding ⟨hub, f.errands⟩ ⊆ rs :=
  List.append_subset.mpr ⟨(List.append_subset.mp calls).1, writers⟩

theorem outstanding_turn {errands : List Errand} (same : ∀ d ∈ errands, d ∈ f.errands ∨ d = next)
    (own : ∀ r ∈ next.headcount?, r ∈ rs) (calls : f.outstanding ⊆ rs)
    (writers : hub.departures ⊆ rs) :
    outstanding ⟨hub, errands⟩ ⊆ rs := by
  refine List.append_subset.mpr ⟨fun r owed => ?_, writers⟩
  obtain ⟨d, there, report⟩ := List.mem_filterMap.mp owed
  rcases same d there with before | rfl
  · exact calls (List.mem_append_left _ (List.mem_filterMap.mpr ⟨d, before, report⟩))
  · exact own r report

theorem outstanding_set (own : ∀ r ∈ next.headcount?, r ∈ rs) (calls : f.outstanding ⊆ rs)
    (writers : hub.departures ⊆ rs) : outstanding ⟨hub, f.errands.set n next⟩ ⊆ rs :=
  outstanding_turn (fun _ there => List.mem_or_eq_of_mem_set there) own calls writers

/-! ## One step -/

/-- What an event does to the gauge, and what it reports. -/
inductive Gauges (f : Foyer) : Option Headcount → Foyer → Prop where
  | still {f' : Foyer} (registry : f'.hub.registry = f.hub.registry)
      (active : f'.hub.tally.active = f.hub.tally.active) (owed : f'.outstanding = f.outstanding) :
      Gauges f none f'
  | arrive {r : Headcount} {f' : Foyer} (covers : r.Covers f f')
      (active : f'.hub.tally.active = some r.size)
      (owed : f'.outstanding ⊆ f.outstanding) : Gauges f (some r) f'
  | depart {r : Headcount} {f' : Foyer} (departure : r.arrival = false) (covers : r.Covers f f')
      (active : f'.hub.tally.active = f.hub.tally.active) (due : r ∈ f'.outstanding)
      (owed : f'.outstanding ⊆ r :: f.outstanding) : Gauges f none f'
  | report {r : Headcount} {f' : Foyer} (due : r ∈ f.outstanding)
      (registry : f'.hub.registry = f.hub.registry)
      (active : f'.hub.tally.active = some r.size) (owed : f'.outstanding ⊆ f.outstanding) :
      Gauges f (some r) f'

theorem gauges_begin (still : f.hub.Still hub) (silent : next.headcount? = none) :
    f.Gauges none ⟨hub, f.errands ++ [next]⟩ := by
  refine .still still.registry still.active ?_
  simp only [outstanding, List.filterMap_append, List.filterMap_cons, silent, List.filterMap_nil,
    List.append_nil, still.departures]

theorem reported?_of_turn (turn : f.errands[n]? = some d) (plain : d.isEntering = false) :
    f.reported? (.proceed n) = d.headcount? := by
  cases d with
  | entering => cases plain
  | _ => simp only [reported?, turn, Option.bind_some]

theorem gauges_turn (turn : f.errands[n]? = some d) (before : d.headcount? = none)
    (still : f.hub.Still hub) (silent : next.headcount? = none) :
    f.Gauges none ⟨hub, f.errands.set n next⟩ := by
  refine .still still.registry still.active ?_
  obtain ⟨after, cut, changed⟩ := exists_cut turn
  simp only [outstanding, changed next, still.departures]
  conv => rhs; rw [cut]
  simp only [List.filterMap_append, List.filterMap_cons, silent, before]

theorem gauges_proceed (turn : f.errands[n]? = some d) (plain : d.isEntering = false)
    (before : d.headcount? = none) (still : f.hub.Still hub) (silent : next.headcount? = none) :
    f.Gauges (f.reported? (.proceed n)) ⟨hub, f.errands.set n next⟩ := by
  rw [reported?_of_turn turn plain, before]
  exact gauges_turn turn before still silent

theorem gauges_removal {r : Headcount} {registry : List SessionId} (departure : r.arrival = false)
    (covers : r.Covers f ⟨{ f.hub with registry }, f.errands ++ [next]⟩)
    (report : next.headcount? = some r) :
    f.Gauges none ⟨{ f.hub with registry }, f.errands ++ [next]⟩ := by
  have own {rs : List Headcount} (there : r ∈ rs) : ∀ r' ∈ next.headcount?, r' ∈ rs := by
    intro r' own
    exact Option.some.inj (report.symm.trans own) ▸ there
  have due : r ∈ outstanding ⟨{ f.hub with registry }, f.errands ++ [next]⟩ :=
    List.mem_append_left _ (List.mem_filterMap.mpr
      ⟨next, List.mem_append_right _ (List.mem_singleton_self _), report⟩)
  refine .depart departure covers rfl due
    (outstanding_turn ?_ (own List.mem_cons_self) (List.subset_cons_self _ _)
    (List.Subset.trans f.departures_subset (List.subset_cons_self _ _)))
  exact fun d there => (List.mem_append.mp there).imp_right List.mem_singleton.mp

/-- Whoever is removed alone is out of the registry, and how many remain is what is to be
    reported. -/
theorem covers_erase {id : SessionId} (sound : f.Sound) (registered : f.hub.isRegistered id)
    (registry : f'.hub.registry = f.hub.registry.erase id) :
    Headcount.Covers ⟨[id], false, (f.hub.registry.erase id).length⟩ f f' where
  some_session := List.cons_ne_nil _ _
  before := by
    intro i own
    rw [List.mem_singleton.mp own]
    exact registered
  after := by
    intro i own
    rw [List.mem_singleton.mp own, ← Bool.not_eq_true, isRegistered_iff, registry]
    exact List.Nodup.not_mem_erase sound.nodup_registry
  size := by rw [registry]

theorem gauges_drain (sound : f.Sound) : f.Gauges none
    ⟨{ f.hub with registry := [] },
      f.errands ++ [.closingAll f.hub.drain.1 f.hub.drain.1.length]⟩ := by
  have everyone : f.hub.drain.1.Perm f.hub.registry := everyone_perm sound
  cases drained : f.hub.drain.1 with
  | nil =>
      have nobody : f.hub.registry = [] := List.nil_perm.mp (drained ▸ everyone)
      exact gauges_begin ⟨nobody.symm, rfl, rfl⟩ rfl
  | cons id ids =>
      refine gauges_removal (r := ⟨id :: ids, false, 0⟩) rfl ⟨List.cons_ne_nil _ _, ?_,
        fun _ _ => rfl, rfl⟩ rfl
      intro i own
      exact isRegistered_iff.mpr (everyone.mem_iff.mp (drained ▸ own))

theorem gauges_enter {id : SessionId} (sound : f.Sound)
    (turn : f.errands[n]? = some (.entering id)) :
    f.Gauges (f.reported? (.proceed n)) ⟨f.hub.enter id, f.errands.set n (.connected id true)⟩ := by
  have fresh := sound.not_registered_of_entering (List.mem_of_getElem? turn)
  have reported :
      f.reported? (.proceed n) = some ⟨[id], true, (f.hub.registry.insert id).length⟩ := by
    simp only [reported?, turn, Option.bind_some]
  rw [reported]
  refine .arrive ⟨List.cons_ne_nil _ _, ?_, ?_, rfl⟩ rfl
    (outstanding_set nofun (List.Subset.refl _) ?_)
  · intro i own
    rw [List.mem_singleton.mp own, Bool.not_true, ← Bool.not_eq_true, isRegistered_iff]
    exact fresh
  · intro i own
    rw [List.mem_singleton.mp own, isRegistered_iff]
    exact List.mem_insert_self
  · exact departures_update (fun s there _ r report => f.departures_subset
      (List.mem_filterMap.mpr ⟨s, there, report⟩)) f.departures_subset

theorem active_of_writerStep {h hub : Hub} {id : SessionId} (step : h.writerStep id = some hub)
    (silent : (h.session? id).bind (·.headcount?) = none) : hub.tally.active = h.tally.active := by
  simp only [writerStep, Option.bind_eq_bind, Option.bind_eq_some_iff] at step
  obtain ⟨s, there, step⟩ := step
  rw [there, Option.bind_some] at silent
  split at step
  · split at step
    all_goals
      rename_i left
      cases step
      have same : h.tally = (h.remove id).2.tally := by
        unfold remove
        split <;> rfl
      rw [same, left]
      rfl
  · rename_i stand
    rw [Session.headcount?, stand] at silent
    cases silent
  · obtain ⟨next, -, step⟩ := Option.bind_eq_some_iff.mp step
    split at step <;> cases step <;> rfl
  · obtain ⟨next, -, step⟩ := Option.bind_eq_some_iff.mp step
    cases step
    rfl

theorem reported?_of_silent {id : SessionId} {s : Session} (there : f.hub.session? id = some s)
    (silent : s.headcount? = none) : f.reported? (.write id) = none := by
  simp only [reported?, there, Option.bind_some, silent]

theorem gauges_leave {id : SessionId} {s : Session} (sound : f.Sound)
    (there : f.hub.session? id = some s) (registered : f.hub.isRegistered id)
    (ending : Session.Ending) :
    f.Gauges none ⟨{ f.hub with registry := f.hub.registry.erase id }.update id fun s =>
      { s with writer := .telling ending (f.hub.registry.erase id).length }, f.errands⟩ := by
  obtain ⟨member, number⟩ := mem_of_session? there
  refine .depart rfl (covers_erase sound registered rfl) rfl (List.mem_append_right _ ?_)
    (outstanding_withHub (List.subset_cons_self _ _) ?_)
  · refine List.mem_filterMap.mpr
      ⟨{ s with writer := _ }, List.mem_map.mpr ⟨s, member, if_pos number⟩, ?_⟩
    rw [Session.headcount?, number]
  · refine departures_update ?_ (List.Subset.trans f.departures_subset (List.subset_cons_self _ _))
    intro t member number r report
    rw [Session.headcount?, Option.mem_some, number] at report
    exact report ▸ List.mem_cons_self

theorem gauges_write {id : SessionId} (sound : f.Sound) (step : f.hub.writerStep id = some hub) :
    f.Gauges (f.reported? (.write id)) ⟨hub, f.errands⟩ := by
  have only {s t : Session} (there : f.hub.session? id = some s) (member : t ∈ f.hub.sessions)
      (number : t.id = id) : t = s := by
    obtain ⟨own, rfl⟩ := mem_of_session? there
    exact sound.eq_of_id own member number
  cases writes_of_writerStep step with
  | @own s next _ there writes same =>
      obtain ⟨silent, silent'⟩ := headcount?_of_writes writes
      have reported := reported?_of_silent there silent
      have kept : (f.hub.update id fun _ => next).departures = f.hub.departures :=
        departures_update_of_same fun t member number => by
          rw [only there member number, silent, silent']
      rw [reported]
      refine .still (by rw [same]; rfl) (active_of_writerStep step reported) ?_
      rw [same]
      exact congrArg (f.errands.filterMap (·.headcount?) ++ ·) kept
  | @leave s ending there stand registered =>
      have silent : s.headcount? = none := by rw [Session.headcount?, stand]
      rw [reported?_of_silent there silent]
      exact gauges_leave sound there registered ending
  | @pass s ending there stand unregistered =>
      have silent : s.headcount? = none := by rw [Session.headcount?, stand]
      rw [reported?_of_silent there silent]
      have kept : (f.hub.update id fun s => { s with writer := .finishing ending }).departures =
          f.hub.departures := by
        refine departures_update_of_same fun t member number => ?_
        rw [only there member number, silent]
        rfl
      exact .still rfl rfl (congrArg (f.errands.filterMap (·.headcount?) ++ ·) kept)
  | @tell s ending remaining there stand =>
      have report : s.headcount? = some ⟨[s.id], false, remaining⟩ := by
        rw [Session.headcount?, stand]
      have reported : f.reported? (.write id) = some ⟨[s.id], false, remaining⟩ := by
        simp only [reported?, there, Option.bind_some, report]
      rw [reported]
      refine .report (List.mem_append_right _ ?_) rfl rfl
        (outstanding_withHub (List.Subset.refl _) ?_)
      · exact List.mem_filterMap.mpr ⟨s, (mem_of_session? there).1, report⟩
      · exact departures_update (fun _ _ _ => nofun) f.departures_subset

theorem gauges (sound : f.Sound) (moves : f.Moves e f') : f.Gauges (f.reported? e) f' := by
  have unstarted {n : Nat} {id : SessionId} {bounded : Bool}
      (turn : f.errands[n]? = some (.connecting id bounded)) :
      ∀ s ∈ f.hub.sessions, s.id = id → s.writer = .unstarted := fun s there own =>
    (sound.lives id).unstarted (mem_own.mpr ⟨there, own⟩) (crew_pos turn (if_pos rfl))
  cases moves with
  | assign sink bounded => exact gauges_begin (f.hub.still_assign sink) rfl
  | refuse | broadcast | miss => exact gauges_begin ⟨rfl, rfl, rfl⟩ rfl
  | lookUp => exact gauges_begin (still_of_same fun _ _ _ => rfl) rfl
  | remove free registered => exact gauges_removal rfl (covers_erase sound registered rfl) rfl
  | drain free => exact gauges_drain sound
  | look turn | comeBack turn => exact gauges_proceed turn rfl rfl ⟨rfl, rfl, rfl⟩ rfl
  | greet turn | reach turn =>
      exact gauges_proceed turn rfl rfl (still_of_same fun s _ _ => headcount?_offer s _) rfl
  | dismiss turn => exact gauges_proceed turn rfl rfl (still_dismiss (unstarted turn)) rfl
  | activate turn => exact gauges_proceed turn rfl rfl (still_activate (unstarted turn)) rfl
  | enter turn => exact gauges_enter sound turn
  | serve turn serves => exact gauges_proceed turn rfl rfl (still_of_serves serves) rfl
  | tell turn =>
      rw [reported?_of_turn turn rfl]
      exact .report (mem_outstanding_of_turn turn rfl) rfl rfl
        (outstanding_set nofun (List.Subset.refl _) f.departures_subset)
  | @tellAll n uncounted ids turn =>
      rw [reported?_of_turn turn rfl]
      have due := mem_outstanding_of_turn turn rfl
      refine .report due rfl rfl (outstanding_set ?_ (List.Subset.refl _) f.departures_subset)
      intro r report
      cases uncounted with
      | zero => cases report
      | succ => exact Option.some.inj report ▸ due
  | announce turn | cry turn => exact gauges_turn turn rfl ⟨rfl, rfl, rfl⟩ rfl
  | write free step => exact gauges_write sound step
  | transport id sink =>
      have still : f.hub.Still (f.hub.update id (·.withSink fun _ => sink)) :=
        still_of_same fun _ _ _ => rfl
      exact .still rfl rfl (congrArg (f.errands.filterMap (·.headcount?) ++ ·) still.departures)

/-! ## Runs -/

/-- Event `j` of a run changes the registry, from `u` to `v`. -/
structure Turnover (start : Foyer) (events : List Event) (j : Nat) (u v : Foyer) : Prop where
  step : ∃ e, Moment run? start events j u e ∧ u.step? e = some v
  differs : v.hub.registry ≠ u.hub.registry

/-- Event `k` of a run makes a report, and no later event makes one. -/
structure LastReport (start : Foyer) (events : List Event) (k : Nat) (r : Headcount) : Prop where
  made : ∃ u e, Moment run? start events k u e ∧ u.reported? e = some r
  last : ∀ l u e, k < l → Moment run? start events l u e → u.reported? e = none

variable {start u v : Foyer} {events : List Event} {j k : Nat} {r : Headcount}

theorem Turnover.lt_length (h : Turnover start events j u v) : j < events.length := by
  obtain ⟨e, moment, -⟩ := h.step
  exact moment.lt_length

theorem Turnover.append (h : Turnover start events j u v) (e : Event) :
    Turnover start (events ++ [e]) j u v := by
  obtain ⟨d, moment, step⟩ := h.step
  exact ⟨⟨d, moment.append [e], step⟩, h.differs⟩

theorem LastReport.append (h : LastReport start events k r) (run : start.run? events = some f)
    (silent : f.reported? e = none) : LastReport start (events ++ [e]) k r := by
  obtain ⟨u, d, moment, report⟩ := h.made
  refine ⟨⟨u, d, moment.append [e], report⟩, fun l u' d' later moment' => ?_⟩
  rcases moment'.of_snoc with before | ⟨-, rfl, before⟩
  · exact h.last l u' d' later before
  · rw [run, Option.some.injEq] at before
    exact before ▸ silent

theorem LastReport.now (run : start.run? events = some f) (report : f.reported? e = some r) :
    LastReport start (events ++ [e]) events.length r := by
  refine ⟨⟨f, e, .last run e, report⟩, fun l u d later moment => ?_⟩
  have inside := moment.lt_length
  rw [List.length_append, List.length_singleton] at inside
  omega

/-- The gauge shows how many sessions there were after the change that was reported last, and what
    is still to be reported is of an earlier change. -/
structure Gauged (start : Foyer) (events : List Event) (f : Foyer) : Prop where
  owed : ∀ r ∈ f.outstanding, r.arrival = false ∧ ∃ j u v, Turnover start events j u v ∧
    r.Covers u v
  unset : f.hub.tally.active = none →
    f.hub.registry = [] ∧ f.outstanding = [] ∧ ∀ j u v, ¬ Turnover start events j u v
  set : ∀ n, f.hub.tally.active = some n → ∃ j k u v r, Turnover start events j u v ∧ r.Covers u v ∧
    LastReport start events k r ∧ j ≤ k ∧ (r.arrival → j = k) ∧ n = r.size

theorem Turnover.now (run : start.run? events = some f) (step : f.step? e = some f')
    (differs : f'.hub.registry ≠ f.hub.registry) :
    Turnover start (events ++ [e]) events.length f f' :=
  ⟨⟨e, .last run e, step⟩, differs⟩

theorem Turnover.of_snoc (h : Turnover start (events ++ [e]) j u v)
    (run : start.run? events = some f) (step : f.step? e = some f') :
    Turnover start events j u v ∨ j = events.length ∧ f'.hub.registry ≠ f.hub.registry := by
  obtain ⟨d, moment, stepped⟩ := h.step
  rcases moment.of_snoc with before | ⟨last, rfl, here⟩
  · exact .inl ⟨⟨d, before, stepped⟩, h.differs⟩
  · rw [run, Option.some.injEq] at here
    subst here
    rw [step, Option.some.injEq] at stepped
    subst stepped
    exact .inr ⟨last, h.differs⟩

namespace Gauged

theorem owed_append (h : Gauged start events f) (e : Event) :
    ∀ r ∈ f.outstanding, r.arrival = false ∧
      ∃ j u v, Turnover start (events ++ [e]) j u v ∧ r.Covers u v := by
  intro r due
  obtain ⟨departure, j, u, v, turnover, covers⟩ := h.owed r due
  exact ⟨departure, j, u, v, turnover.append e, covers⟩

/-- An event that makes no report leaves the last one as it is. -/
theorem set_append (h : Gauged start events f) (run : start.run? events = some f)
    (silent : f.reported? e = none) (n : Nat) (active : f.hub.tally.active = some n) :
    ∃ j k u v r, Turnover start (events ++ [e]) j u v ∧ r.Covers u v ∧
      LastReport start (events ++ [e]) k r ∧ j ≤ k ∧ (r.arrival → j = k) ∧ n = r.size := by
  obtain ⟨j, k, u, v, r, turnover, covers, last, order, arrival, size⟩ := h.set n active
  exact ⟨j, k, u, v, r, turnover.append e, covers, last.append run silent, order, arrival, size⟩

theorem step (h : Gauged start events f) (run : start.run? events = some f)
    (step : f.step? e = some f') (gauges : f.Gauges (f.reported? e) f') :
    Gauged start (events ++ [e]) f' := by
  have owed := h.owed_append e
  generalize made : f.reported? e = report at gauges
  cases gauges with
  | still registry active same =>
      refine ⟨fun r due => owed r (same ▸ due), fun unset => ?_,
        fun n set => h.set_append run made n (active ▸ set)⟩
      obtain ⟨nobody, nothing, never⟩ := h.unset (active ▸ unset)
      refine ⟨registry.trans nobody, same.trans nothing, fun j u v turnover => ?_⟩
      rcases turnover.of_snoc run step with before | ⟨-, differs⟩
      · exact never j u v before
      · exact differs registry
  | @arrive r _ covers active kept =>
      have last := LastReport.now run made
      refine ⟨fun r' due => owed r' (kept due), fun unset => ?_, fun n set => ?_⟩
      · rw [active] at unset
        cases unset
      · have turnover := Turnover.now run step covers.differs
        exact ⟨_, _, f, f', r, turnover, covers, last, Nat.le_refl _, fun _ => rfl,
          Option.some.inj (set.symm.trans active)⟩
  | @depart r _ departure covers active due kept =>
      refine ⟨fun r' there => ?_, fun unset => ?_,
        fun n set => h.set_append run made n (active ▸ set)⟩
      · rcases List.mem_cons.mp (kept there) with rfl | before
        · exact ⟨departure, _, f, f', .now run step covers.differs, covers⟩
        · exact owed r' before
      · -- nobody can leave before somebody came
        obtain ⟨nobody, -, -⟩ := h.unset (active ▸ unset)
        obtain ⟨id, own⟩ := List.exists_mem_of_ne_nil _ covers.some_session
        have registered := covers.before id own
        rw [isRegistered, nobody, departure] at registered
        cases registered
  | @report r _ due registry active kept =>
      refine ⟨fun r' there => owed r' (kept there), fun unset => ?_, fun n set => ?_⟩
      · rw [active] at unset
        cases unset
      · obtain ⟨departure, j, u, v, turnover, covers⟩ := h.owed r due
        refine ⟨j, _, u, v, r, turnover.append e, covers, .now run made,
          Nat.le_of_lt turnover.lt_length, ?_, Option.some.inj (set.symm.trans active)⟩
        intro arrived
        rw [departure] at arrived
        cases arrived

theorem run {programme : Programme} {limit : Option Nat}
    (run : (idle programme limit).run? events = some f) :
    Gauged (idle programme limit) events f := by
  refine runs.induction
    (motive := fun events now => Gauged (idle programme limit) events now) ?_ ?_ run
  · refine ⟨nofun, fun _ => ⟨rfl, rfl, fun j u v turnover => ?_⟩, nofun⟩
    exact absurd turnover.lt_length (Nat.not_lt_zero j)
  · intro events u e v before gauged step
    exact gauged.step before step (gauges (Sound.of_run before) (moves_of_step? step))

end Gauged

/-! ## When the gauge is right -/

/-- What is to be reported is what the registry is now, and once nothing is, the gauge shows it. -/
structure InTune (f : Foyer) : Prop where
  owed : ∀ r ∈ f.outstanding, r.size = f.hub.registry.length
  shown : f.outstanding = [] → f.hub.tally.active = some f.hub.registry.length

namespace InTune

/-- A change that finds nothing to be reported is in tune. -/
theorem of_change {report : Option Headcount} (gauges : f.Gauges report f')
    (prompt : f.outstanding = []) (differs : f'.hub.registry ≠ f.hub.registry) : f'.InTune := by
  cases gauges with
  | still registry | report _ registry => exact absurd registry differs
  | arrive covers active kept =>
      refine ⟨fun r' due => ?_, fun _ => by rw [active, covers.size]⟩
      have before := kept due
      rw [prompt] at before
      cases before
  | depart _ covers _ due kept =>
      refine ⟨fun r' there => ?_, fun nothing => ?_⟩
      · have own := kept there
        rw [prompt, List.mem_singleton] at own
        rw [own, covers.size]
      · rw [nothing] at due
        cases due

theorem step {report : Option Headcount} (h : f.InTune) (gauges : f.Gauges report f')
    (same : f'.hub.registry = f.hub.registry) : f'.InTune := by
  cases gauges with
  | still _ active kept =>
      refine ⟨fun r due => ?_, fun nothing => ?_⟩
      · rw [same]
        exact h.owed r (kept ▸ due)
      · rw [same, active]
        exact h.shown (kept.symm.trans nothing)
  | arrive covers | depart _ covers => exact absurd same covers.differs
  | report due _ active kept =>
      refine ⟨fun r' there => ?_, fun _ => ?_⟩
      · rw [same]
        exact h.owed r' (kept there)
      · rw [same, active, h.owed _ due]

theorem run (h : f.InTune) (sound : f.Sound) (run : f.run? events = some f')
    (quiet : ∀ j u v, ¬ Turnover f events j u v) : f'.InTune := by
  refine runs.induction
    (motive := fun before now => (∀ j u v, ¬ Turnover f before j u v) → now.InTune)
    (fun _ => h) ?_ run quiet
  intro before u e v run tuned step quiet
  have inTune := tuned fun j u v turnover => quiet j u v (turnover.append e)
  refine inTune.step (gauges (sound.run run) (moves_of_step? step)) ?_
  by_contra differs
  exact quiet _ u v (.now run step differs)

end InTune

theorem headcount?_of_uncounted (counted : d.uncounted = 0) : d.headcount? = none := by
  unfold Errand.headcount?
  split
  · cases counted
  · cases counted
  · rfl

theorem outstanding_of_isAtRest (rest : f.isAtRest) : f.outstanding = [] := by
  have calls := List.all_eq_true.mp (Bool.and_eq_true_iff.mp rest).1
  have writers := List.countP_eq_zero.mp (isTelling_of_isAtRest rest)
  refine List.append_eq_nil_iff.mpr ⟨List.filterMap_eq_nil_iff.mpr ?_,
    List.filterMap_eq_nil_iff.mpr ?_⟩
  · exact fun d there => headcount?_of_uncounted (uncounted_of_isOver (calls d there))
  · intro s there
    have silent := writers s there
    unfold Session.headcount?
    split
    · rename_i stand
      rw [stand] at silent
      exact absurd rfl silent
    · rfl

theorem registry_of_quiet (run : f.run? events = some f')
    (quiet : ∀ j u v, ¬ Turnover f events j u v) :
    f'.hub.registry = f.hub.registry := by
  refine runs.induction (motive := fun before now => (∀ j u v, ¬ Turnover f before j u v) →
    now.hub.registry = f.hub.registry) (fun _ => rfl) ?_ run quiet
  intro before u e v run kept step quiet
  refine Eq.trans ?_ (kept fun j u v turnover => quiet j u v (turnover.append e))
  by_contra differs
  exact quiet _ u v (.now run step differs)

theorem Turnover.quiet (h : Turnover start events j u v) (run : start.run? events = some f)
    (last : ∀ i u' v', j < i → ¬ Turnover start events i u' v') :
    v.run? (events.drop (j + 1)) = some f ∧
    ∀ i u' v', ¬ Turnover v (events.drop (j + 1)) i u' v' := by
  obtain ⟨e, moment, step⟩ := h.step
  obtain ⟨next, stepped, rest⟩ := moment.after runs run
  rw [step, Option.some.injEq] at stepped
  subst stepped
  refine ⟨rest, fun i u' v' turnover => ?_⟩
  obtain ⟨d, later, step'⟩ := turnover.step
  have reached : start.run? (events.take (j + 1)) = some v := by
    rw [List.take_add_one, moment.event]
    exact runs.snoc.mpr ⟨u, moment.before, step⟩
  have moment' := (Moment.append_iff runs reached).mpr later
  rw [List.take_append_drop, List.length_take_of_le moment.lt_length] at moment'
  exact last _ u' v' (by omega) ⟨⟨d, moment', step'⟩, turnover.differs⟩

/-- The gauge shows how many sessions there were after the change of the registry that was
    reported last, in every state but those in which nobody was ever registered. So it is right at
    rest if that was the last change, and that is certain if nothing was to be reported when the
    registry last changed. -/
theorem gauge_shows_last_report {programme : Programme} {limit : Option Nat}
    (run : (idle programme limit).run? events = some f) :
    (f.hub.tally.active = none ↔ ∀ j u v, ¬ Turnover (idle programme limit) events j u v) ∧
    (f.hub.tally.active ≠ none → ∃ j k u v r, Turnover (idle programme limit) events j u v ∧
      r.Covers u v ∧
      LastReport (idle programme limit) events k r ∧ j ≤ k ∧ (r.arrival → j = k) ∧
      f.hub.tally.active = some v.hub.registry.length ∧
      ((∀ i u' v', j < i → ¬ Turnover (idle programme limit) events i u' v') →
        f.hub.tally.active = some f.hub.registry.length)) ∧
    (f.isAtRest → ∀ j u v, Turnover (idle programme limit) events j u v →
      (∀ i u' v', j < i → ¬ Turnover (idle programme limit) events i u' v') → u.outstanding = [] →
        f.hub.tally.active = some f.hub.registry.length) := by
  have gauged := Gauged.run run
  have found {n : Nat} (shown : f.hub.tally.active = some n) :
      ∃ j k u v r, Turnover (idle programme limit) events j u v ∧ r.Covers u v ∧
        LastReport (idle programme limit) events k r ∧ j ≤ k ∧ (r.arrival → j = k) ∧
        f.hub.tally.active = some v.hub.registry.length := by
    obtain ⟨j, k, u, v, r, turnover, covers, last, order, arrival, size⟩ := gauged.set n shown
    exact ⟨j, k, u, v, r, turnover, covers, last, order, arrival, by rw [shown, size, covers.size]⟩
  refine ⟨⟨fun unset => (gauged.unset unset).2.2, fun never => ?_⟩, fun set => ?_, ?_⟩
  · by_contra set
    obtain ⟨n, shown⟩ := Option.ne_none_iff_exists'.mp set
    obtain ⟨j, -, u, v, -, turnover, -⟩ := found shown
    exact never j u v turnover
  · obtain ⟨n, shown⟩ := Option.ne_none_iff_exists'.mp set
    obtain ⟨j, k, u, v, r, turnover, covers, last, order, arrival, size⟩ := found shown
    refine ⟨j, k, u, v, r, turnover, covers, last, order, arrival, size, fun latest => ?_⟩
    obtain ⟨rest, quiet⟩ := turnover.quiet run latest
    rw [size, registry_of_quiet rest quiet]
  · intro rest j u v turnover latest prompt
    obtain ⟨e, moment, step⟩ := turnover.step
    have sound := Sound.of_run moment.before
    have tuned := InTune.of_change (gauges sound (moves_of_step? step)) prompt turnover.differs
    obtain ⟨onward, quiet⟩ := turnover.quiet run latest
    exact (tuned.run (sound.step step) onward quiet).shown (outstanding_of_isAtRest rest)

def comesIn (call : Nat) : List Event :=
  [.begin (.connect ⟨none, false, false⟩ false), .proceed call, .proceed call, .proceed call,
    .proceed call]

def isWrittenOff (id : SessionId) : List Event := List.replicate 6 (.write id)

/-- Someone is disconnected, and someone else comes in before that is reported. -/
def overtakenDisconnect : List Event :=
  comesIn 0 ++ .begin (.disconnect 1) :: comesIn 2 ++ .proceed 1 :: isWrittenOff 1

def overtakenClosing : List Event :=
  comesIn 0 ++ .begin .closeAll :: comesIn 2 ++ .proceed 1 :: isWrittenOff 1

/-- The same with a writer that takes its session out of the registry after a failed write. -/
def overtakenWriter : List Event :=
  comesIn 0 ++ [.transport 1 ⟨none, false, true⟩, .write 1, .write 1, .write 1, .write 1] ++
    comesIn 1 ++
    [.write 1, .write 1]

def afterOvertakenDisconnect : Foyer :=
  ((idle .single none).run? overtakenDisconnect).get (by decide +kernel)

/-- What is shown is how many sessions there were when the first one was gone. -/
theorem overtakenDisconnect_shows_departure :
    (idle .single none).run? overtakenDisconnect = some afterOvertakenDisconnect ∧
    afterOvertakenDisconnect.hub.tally.active = some 0 ∧
    ∃ j k u v r, Turnover (idle .single none) overtakenDisconnect j u v ∧ r.Covers u v ∧
      LastReport (idle .single none) overtakenDisconnect k r ∧
      some 0 = some v.hub.registry.length := by
  have run : (idle .single none).run? overtakenDisconnect = some afterOvertakenDisconnect :=
    (Option.some_get _).symm
  have shown : afterOvertakenDisconnect.hub.tally.active = some 0 := by decide +kernel
  obtain ⟨-, last, -⟩ := gauge_shows_last_report run
  obtain ⟨j, k, u, v, r, turnover, covers, latest, -, -, size, -⟩ := last (by rw [shown]; nofun)
  exact ⟨run, shown, j, k, u, v, r, turnover, covers, latest, shown ▸ size⟩

/-- Whoever leaves and reports it late makes the gauge forget who came in between. -/
theorem late_departure :
    (∀ events ∈ [overtakenDisconnect, overtakenClosing, overtakenWriter],
      ((idle .single none).run? events).any fun f =>
        f.isAtRest ∧ f.hub.registry = [2] ∧ f.hub.tally.active = some 0) ∧
    ¬ ∀ events f, (idle .single none).run? events = some f → f.isAtRest →
    f.hub.tally.active ≠ none →
      f.hub.tally.active = some f.hub.registry.length := by
  refine ⟨by decide +kernel, fun all => ?_⟩
  have right :=
    all overtakenDisconnect afterOvertakenDisconnect (Option.some_get _).symm (by decide +kernel)
    (by decide +kernel)
  revert right
  decide +kernel

end Foyer

end Hub

end BoxOffice
