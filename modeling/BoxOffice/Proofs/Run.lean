import Mathlib.Data.List.Induction

/-! # Runs

A run takes one step after another and ends where a step cannot be taken. What every step keeps,
every run keeps; and a run that is cut at some moment is two runs.
-/

namespace BoxOffice

/-! ## Lists in which one place changes -/

theorem of_getElem?_append {α : Type} {l : List α} {a b : α} {n : Nat}
    (h : (l ++ [a])[n]? = some b) :
    l[n]? = some b ∨ n = l.length ∧ b = a := by
  rw [List.getElem?_append] at h
  split at h
  · exact .inl h
  · obtain ⟨inside, same⟩ := List.getElem?_eq_some_iff.mp h
    rw [List.length_singleton] at inside
    refine .inr ⟨by omega, ?_⟩
    rw [← same, List.getElem_singleton]

theorem of_getElem?_set {α : Type} {l : List α} {a b : α} {m n : Nat}
    (h : (l.set m a)[n]? = some b) :
    l[n]? = some b ∧ m ≠ n ∨ m = n ∧ b = a := by
  rw [List.getElem?_set] at h
  split at h
  · rename_i same
    split at h
    · cases h
      exact .inr ⟨same, rfl⟩
    · cases h
  · rename_i apart
    exact .inl ⟨h, apart⟩

/-- A list, cut where one place changes. -/
theorem exists_cut {α : Type} {l : List α} {a : α} {n : Nat} (h : l[n]? = some a) :
    ∃ after, l = l.take n ++ a :: after ∧ ∀ b, l.set n b = l.take n ++ b :: after := by
  obtain ⟨inside, here⟩ := List.getElem?_eq_some_iff.mp h
  refine ⟨l.drop (n + 1), ?_,
    fun b => List.set_eq_take_append_cons_drop .. |>.trans (if_pos inside)⟩
  rw [← here, List.getElem_cons_drop, List.take_append_drop]

/-! ## Runs and their moments -/

/-- `run?` takes the steps of `step?` in their order. -/
structure Runs {σ ε : Type} (step? : σ → ε → Option σ) (run? : σ → List ε → Option σ) : Prop where
  nil : ∀ s, run? s [] = some s
  cons : ∀ s e rest, run? s (e :: rest) = (step? s e).bind (run? · rest)

/-- Event `k` of a run is `e`, and `s` is what it comes upon. -/
structure Moment {σ ε : Type} (run? : σ → List ε → Option σ) (start : σ) (events : List ε) (k : Nat)
    (s : σ) (e : ε) : Prop where
  event : events[k]? = some e
  before : run? start (events.take k) = some s

variable {σ ε : Type} {step? : σ → ε → Option σ} {run? : σ → List ε → Option σ}

namespace Runs

theorem append (h : Runs step? run?) (s : σ) (before after : List ε) :
    run? s (before ++ after) = (run? s before).bind (run? · after) := by
  induction before generalizing s with
  | nil => rw [List.nil_append, h.nil, Option.bind_some]
  | cons e rest ih =>
      rw [List.cons_append, h.cons, h.cons]
      cases step? s e with
      | none => rfl
      | some next => exact ih next

theorem single (h : Runs step? run?) {s t : σ} {e : ε} (step : step? s e = some t) :
    run? s [e] = some t := by
  rw [h.cons, step, Option.bind_some, h.nil]

theorem snoc (h : Runs step? run?) {s t : σ} {events : List ε} {e : ε} :
    run? s (events ++ [e]) = some t ↔
      ∃ between, run? s events = some between ∧ step? between e = some t := by
  simp only [h.append, h.cons, h.nil, Option.bind_eq_some_iff, Option.some.injEq, exists_eq_right]

/-- What holds at the start and is kept by every event holds after every run. -/
theorem induction (h : Runs step? run?) {start : σ} {motive : List ε → σ → Prop}
    (first : motive [] start)
    (next : ∀ events s e t, run? start events = some s → motive events s → step? s e = some t →
      motive (events ++ [e]) t) {events : List ε} {t : σ}
    (run : run? start events = some t) : motive events t := by
  induction events using List.reverseRec generalizing t with
  | nil =>
      rw [h.nil, Option.some.injEq] at run
      exact run ▸ first
  | append_singleton events e ih =>
      obtain ⟨between, before, step⟩ := h.snoc.mp run
      exact next events between e t before (ih before) step

end Runs

namespace Moment

variable {start s t : σ} {events : List ε} {e d : ε} {j k : Nat}

theorem lt_length (h : Moment run? start events k s e) : k < events.length :=
  (List.getElem?_eq_some_iff.mp h.event).1

theorem of_event (runs : Runs step? run?) (run : run? start events = some t)
    (event : events[k]? = some e) :
    ∃ s, Moment run? start events k s e := by
  rw [← List.take_append_drop k events, runs.append, Option.bind_eq_some_iff] at run
  obtain ⟨s, before, -⟩ := run
  exact ⟨s, event, before⟩

theorem append (h : Moment run? start events k s e) (after : List ε) :
    Moment run? start (events ++ after) k s e where
  event := by rw [List.getElem?_append_left h.lt_length, h.event]
  before := by rw [List.take_append_of_le_length (Nat.le_of_lt h.lt_length), h.before]

theorem last (run : run? start events = some s) (e : ε) :
    Moment run? start (events ++ [e]) events.length s e where
  event := List.getElem?_concat_length
  before := by rw [List.take_left, run]

/-- Every moment of a longer run but its last is a moment of the shorter run. -/
theorem of_snoc (h : Moment run? start (events ++ [d]) k s e) :
    Moment run? start events k s e ∨ k = events.length ∧ e = d ∧ run? start events = some s := by
  have short := h.lt_length
  rw [List.length_append, List.length_singleton] at short
  by_cases inside : k < events.length
  · refine .inl ⟨?_, ?_⟩
    · rw [← h.event, List.getElem?_append_left inside]
    · rw [← h.before, List.take_append_of_le_length (Nat.le_of_lt inside)]
  · have here : k = events.length := by omega
    subst here
    have same := h.event
    rw [List.getElem?_concat_length, Option.some.injEq] at same
    refine .inr ⟨rfl, same.symm, ?_⟩
    rw [← h.before, List.take_left]

/-- Between two moments lies a run. -/
theorem between (runs : Runs step? run?) (earlier : Moment run? start events j s d)
    (later : Moment run? start events k t e) (order : j ≤ k) :
    ∃ meanwhile, run? s meanwhile = some t := by
  have cut : events.take k = events.take j ++ (events.drop j).take (k - j) := by
    rw [← List.take_add, Nat.add_sub_cancel' order]
  have run := later.before
  rw [cut, runs.append, earlier.before, Option.bind_some] at run
  exact ⟨_, run⟩

theorem after (runs : Runs step? run?) (run : run? start events = some t)
    (h : Moment run? start events k s e) :
    ∃ next, step? s e = some next ∧ run? next (events.drop (k + 1)) = some t := by
  have cut : events = events.take k ++ e :: events.drop (k + 1) := by
    obtain ⟨inside, here⟩ := List.getElem?_eq_some_iff.mp h.event
    rw [← here, List.getElem_cons_drop, List.take_append_drop]
  rw [cut, runs.append, h.before, Option.bind_some, runs.cons, Option.bind_eq_some_iff] at run
  exact run

theorem onward (runs : Runs step? run?) (run : run? start events = some t)
    (h : Moment run? start events k s e) : run? s (e :: events.drop (k + 1)) = some t := by
  obtain ⟨next, step, rest⟩ := h.after runs run
  rw [runs.cons, step, Option.bind_some, rest]

theorem take (h : Moment run? start events j s e) (order : j < k) :
    Moment run? start (events.take k) j s e where
  event := by rw [List.getElem?_take_of_lt order, h.event]
  before := by rw [List.take_take, Nat.min_eq_left (Nat.le_of_lt order), h.before]

/-- What an earlier moment leads to has led to a later one. -/
theorem since (runs : Runs step? run?) (earlier : Moment run? start events j s d)
    (later : Moment run? start events k t e) (order : j < k) :
    ∃ next meanwhile, step? s d = some next ∧ run? next meanwhile = some t := by
  obtain ⟨next, step, run⟩ := after runs later.before (earlier.take order)
  exact ⟨next, _, step, run⟩

/-- The moments of a run after some events are those of the run that goes on from there. -/
theorem append_iff (runs : Runs step? run?) {before after : List ε}
    (run : run? start before = some t) :
    Moment run? start (before ++ after) (before.length + k) s e ↔ Moment run? t after k s e := by
  have event : (before ++ after)[before.length + k]? = after[k]? := by
    rw [List.getElem?_append_right (by omega), Nat.add_sub_cancel_left]
  have state : run? start ((before ++ after).take (before.length + k)) = run? t (after.take k) := by
    rw [List.take_length_add_append, runs.append, run, Option.bind_some]
  constructor
  · intro h
    exact ⟨event ▸ h.event, state ▸ h.before⟩
  · intro h
    exact ⟨event.trans h.event, state.trans h.before⟩

end Moment

end BoxOffice
