import BoxOffice.Proofs.Ledger
import BoxOffice.Proofs.Purpose

/-! # Who came, and what they passed on

Every session came by a connect of its own, and whoever is registered came by one that has returned
(`connected_of_registered`). Once it is out of the registry, its life in the hub is over
(`registered_or_over`).
-/

namespace BoxOffice.Hub

def Purpose.visitor? : Purpose → Option SessionId
  | .connect id => some id
  | _ => none

def Purpose.message? (id : SessionId) : Purpose → Option Text
  | .inbound sender message => if sender = id then some message else none
  | _ => none

namespace Foyer

/-- Every session that came, in the order of their connects. -/
def visitors (f : Foyer) : List SessionId := f.purposes.filterMap (·.visitor?)

/-- The messages of a session for which calls were begun, in that order. -/
def passed (f : Foyer) (id : SessionId) : List Text := f.purposes.filterMap (·.message? id)

variable {f f' : Foyer} {events : List Event} {e : Event} {n : Nat} {id : SessionId} {d : Errand}

theorem visitors_of_moves (moves : f.Moves e f') :
    f'.visitors = f.visitors ++ ((f.begun? e).bind (·.visitor?)).toList := by
  rw [visitors, purposes_of_moves moves, List.filterMap_append]
  cases f.begun? e with
  | none => rfl
  | some purpose => cases visitor : purpose.visitor? <;> simp [visitors, visitor]

theorem passed_of_moves (moves : f.Moves e f') (id : SessionId) :
    f'.passed id = f.passed id ++ ((f.begun? e).bind (·.message? id)).toList := by
  rw [passed, purposes_of_moves moves, List.filterMap_append]
  cases f.begun? e with
  | none => rfl
  | some purpose => cases message : purpose.message? id <;> simp [passed, message]

theorem mem_visitors {d : Errand} (turn : f.errands[n]? = some d)
    (visitor : d.purpose.visitor? = some id) :
    id ∈ f.visitors :=
  List.mem_filterMap.mpr ⟨d.purpose, List.mem_map_of_mem (List.mem_of_getElem? turn), visitor⟩

/-- Numbers are given in their order, so no session came twice. -/
theorem visitors_of_run {programme : Programme} {limit : Option Nat}
    (run : (idle programme limit).run? events = some f) :
    f.visitors.Nodup ∧ ∀ id ∈ f.visitors, id < f.hub.nextId := by
  refine runs.induction
    (motive := fun _ now => now.visitors.Nodup ∧ ∀ id ∈ now.visitors, id < now.hub.nextId)
    ?_ ?_ run
  · exact ⟨List.nodup_nil, nofun⟩
  intro _ u e v _ ⟨once, given⟩ step
  have moves := moves_of_step? step
  have more := visitors_of_moves moves
  have next := nextId_of_moves moves
  by_cases comes : ∃ sink bounded, e = .begin (.connect sink bounded)
  · obtain ⟨sink, bounded, rfl⟩ := comes
    have grown : v.visitors = u.visitors ++ [u.hub.nextId] := more
    have counted : v.hub.nextId = u.hub.nextId + 1 := next
    rw [grown, counted]
    constructor
    · refine List.nodup_append.mpr ⟨once, List.nodup_singleton _, fun id old new fresh => ?_⟩
      rw [List.mem_singleton.mp fresh]
      exact Nat.ne_of_lt (given id old)
    · intro id there
      rcases List.mem_append.mp there with old | new
      · exact Nat.lt_succ_of_lt (given id old)
      · rw [List.mem_singleton.mp new]
        exact Nat.lt_succ_self _
  · have same : v.visitors = u.visitors := by
      rw [more]
      cases e with
      | begin command =>
          cases command with
          | connect sink bounded => exact absurd ⟨sink, bounded, rfl⟩ comes
          | inbound | broadcast | disconnect | closeAll => exact List.append_nil _
      | proceed | setOut | write | transport => exact List.append_nil _
    rw [same]
    refine ⟨once, fun id there => Nat.lt_of_lt_of_le (given id there) ?_⟩
    rw [next]
    exact Nat.le_add_right _ _

theorem connect_unique {programme : Programme} {limit : Option Nat} {m n : Nat}
    (run : (idle programme limit).run? events = some f)
    (first : f.purposes[m]? = some (.connect id)) (second : f.purposes[n]? = some (.connect id)) :
    m = n := by
  have apart {i j : Nat} (before : f.purposes[i]? = some (.connect id))
      (after : f.purposes[j]? = some (.connect id)) : ¬ i < j := by
    intro order
    have pairwise := List.pairwise_filterMap.mp (visitors_of_run run).1
    obtain ⟨inside, here⟩ := List.getElem?_eq_some_iff.mp before
    obtain ⟨inside', there⟩ := List.getElem?_eq_some_iff.mp after
    have distinct := List.pairwise_iff_getElem.mp pairwise i j inside inside' order
    rw [here, there] at distinct
    exact distinct id rfl id rfl rfl
  exact Nat.le_antisymm (Nat.le_of_not_lt (apart second first))
    (Nat.le_of_not_lt (apart first second))

theorem returned_stays (run : f.run? events = some f') (turn : f.errands[n]? = some d)
    (ended : d.isOver) :
    f'.errands[n]? = some d := by
  refine runs.induction (motive := fun _ now => now.errands[n]? = some d) turn ?_ run
  intro _ u e v _ turn step
  have other {m : Nat} {past next : Errand} (before : u.errands[m]? = some past)
      (goes : past.isOver = false) :
      (u.errands.set m next)[n]? = some d := by
    have apart : m ≠ n := by
      rintro rfl
      rw [turn, Option.some.injEq] at before
      rw [← before, ended] at goes
      cases goes
    rw [List.getElem?_set_ne apart, turn]
  cases moves_of_step? step with
  | assign | refuse | lookUp | broadcast | remove | miss | drain =>
      rw [List.getElem?_append_left (List.getElem?_eq_some_iff.mp turn).1, turn]
  | serve before serves => cases serves <;> exact other before rfl
  | look before | greet before | dismiss before | activate before | enter before | reach before
  | comeBack before | tell before | tellAll before | announce before | cry before =>
      exact other before rfl
  | write | transport => exact turn

theorem not_registered_of_disconnect (sound : f.Sound)
    (step : f.step? (.begin (.disconnect id)) = some f') :
    id ∉ f'.hub.registry := by
  simp only [step?, begin?, Hub.remove, Option.bind_eq_bind, Option.bind_eq_some_iff] at step
  obtain ⟨⟨errand, hub⟩, begins, same⟩ := step
  cases same
  split at begins
  · by_cases registered : f.hub.isRegistered id
    · rw [if_pos registered] at begins
      cases begins
      exact List.Nodup.not_mem_erase sound.nodup_registry
    · rw [if_neg registered] at begins
      cases begins
      exact isRegistered_iff.not.mp registered
  · cases begins

/-! ## Sessions that came -/

theorem registered_before (moves : f.Moves e f') (registered : id ∈ f'.hub.registry) :
    id ∈ f.hub.registry ∨ ∃ n, e = .proceed n ∧ f'.errands[n]? = some (.connected id true) := by
  cases moves with
  | remove => exact .inl (List.mem_of_mem_erase registered)
  | drain => cases registered
  | @enter n i turn =>
      rcases List.mem_insert_iff.mp registered with rfl | before
      · exact .inr ⟨n, rfl, turn_set turn _⟩
      · exact .inl before
  | serve turn serves =>
      cases serves with
      | @compose result seen =>
          obtain ⟨tally, same⟩ := f.hub.exists_countAnswer (.compose _ result seen)
          rw [same] at registered
          exact .inl registered
      | _ => exact .inl registered
  | write free step =>
      cases writes_of_writerStep step with
      | own there writes same =>
          rw [same] at registered
          exact .inl registered
      | leave => exact .inl (List.mem_of_mem_erase registered)
      | pass | tell => exact .inl registered
  | _ => exact .inl registered

variable {programme : Programme} {limit : Option Nat}

theorem connected_of_registered (run : (idle programme limit).run? events = some f)
    (registered : id ∈ f.hub.registry) : ∃ n : Nat, f.errands[n]? = some (.connected id true) := by
  refine runs.induction (motive := fun _ now => id ∈ now.hub.registry →
    ∃ n : Nat, now.errands[n]? = some (.connected id true)) ?_ ?_ run registered
  · nofun
  intro _ u e v _ known step registered
  have once : u.run? [e] = some v := runs.single step
  rcases registered_before (moves_of_step? step) registered with before | ⟨n, -, now⟩
  · obtain ⟨n, turn⟩ := known before
    exact ⟨n, returned_stays once turn rfl⟩
  · exact ⟨n, now⟩

theorem registered_or_over (run : (idle programme limit).run? events = some f)
    (came : f.errands[n]? = some (.connected id true)) :
    id ∈ f.hub.registry ∨ (f.life id).IsOver := by
  refine runs.induction (motive := fun _ now => now.errands[n]? = some (.connected id true) →
    id ∈ now.hub.registry ∨ (now.life id).IsOver) ?_ ?_ run came
  · nofun
  intro _ u e v before known step came
  have sound := Sound.of_run before
  have later (known : id ∈ u.hub.registry ∨ (u.life id).IsOver) : id ∈ v.hub.registry ∨
      (v.life id).IsOver := by
    rcases known with registered | gone
    · by_cases stays : id ∈ v.hub.registry
      · exact .inl stays
      · exact .inr (sound.isOver_of_removed step registered stays)
    · exact .inr (gone.step (sound.life_step step id))
  have old {d : Errand} (came : (u.errands ++ [d])[n]? = some (.connected id true))
      (other : d ≠ .connected id true) : u.errands[n]? = some (.connected id true) := by
    rcases of_getElem?_append came with old | ⟨-, same⟩
    · exact old
    · exact absurd same.symm other
  have kept {m : Nat} {next : Errand}
      (came : (u.errands.set m next)[n]? = some (.connected id true))
      (other : next ≠ .connected id true) : u.errands[n]? = some (.connected id true) := by
    rcases of_getElem?_set came with ⟨old, -⟩ | ⟨-, same⟩
    · exact old
    · exact absurd same.symm other
  cases moves_of_step? step with
  | enter turn =>
      rcases of_getElem?_set came with ⟨old, -⟩ | ⟨-, same⟩
      · exact later (known old)
      · cases same
        exact .inl (List.mem_insert_self ..)
  | assign | refuse | lookUp | broadcast | remove | miss | drain =>
      exact later (known (old came (by simp)))
  | look | greet | dismiss | activate | serve | reach | comeBack | tell | tellAll | announce
  | cry =>
      exact later (known (kept came (by simp)))
  | write | transport => exact later (known came)

end Foyer

end BoxOffice.Hub
