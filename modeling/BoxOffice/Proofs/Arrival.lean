import BoxOffice.Proofs.Handler

/-! # What arrives on sockets

A handler reads what has arrived on its socket in that order and leaves out nothing
(`heard_of_run`). Binary frames, pings and pongs make no difference: without them the same hub and
the same handlers come about (`exists_quiet_run`).
-/

namespace BoxOffice.Web

open Hub (Foyer)

/-! ## Reading in order -/

theorem Socket.Turns.heard {f : Foyer} {s s' : Socket} {command : Option Hub.Command}
    (turns : s.Turns f command s') : s'.read ++ s'.arrivals = s.read ++ s.arrivals := by
  cases turns with
  | readText stand next | passOver stand next | hangUp stand next =>
      rw [next, List.append_assoc]; rfl
  | welcome | turnAway | post | goOn | giveUp | notice | depart | finish => rfl

namespace Traffic

def heard (t : Traffic) (n : Nat) : List Arrival :=
  match t.sockets[n]? with
  | some s => s.read ++ s.arrivals
  | none => []

variable {programme : Programme} {limit : Option Nat} {t t' : Traffic} {e : Event}
  {events : List Event} {m n : Nat} {s s' : Socket}

theorem heard_of_socket (here : t.sockets[n]? = some s) : t.heard n = s.read ++ s.arrivals := by
  rw [heard, here]

theorem heard_set {foyer : Foyer} (here : t.sockets[m]? = some s) :
    heard ⟨foyer, t.sockets.set m s'⟩ n = if m = n then s'.read ++ s'.arrivals else t.heard n := by
  by_cases own : m = n
  · subst own
    rw [if_pos rfl, heard, List.getElem?_set_self (List.getElem?_eq_some_iff.mp here).1]
  · rw [if_neg own, heard, List.getElem?_set_ne own, heard]

theorem heard_of_turns {foyer : Foyer} {command : Option Hub.Command}
    (here : t.sockets[m]? = some s) (turns : s.Turns t.foyer command s') :
    heard ⟨foyer, t.sockets.set m s'⟩ n = t.heard n := by
  rw [heard_set here]
  split
  · rename_i own
    rw [turns.heard, ← heard_of_socket here, own]
  · rfl

theorem heard_of_moves (moves : t.Moves e t') (n : Nat) :
    t'.heard n = t.heard n ++ (e.arrival? n).toList := by
  cases moves with
  | openSocket =>
      show _ = t.heard n ++ []
      rw [List.append_nil, heard, heard]
      rcases Nat.lt_or_ge n t.sockets.length with inside | outside
      · rw [List.getElem?_append_left inside]
      · rw [List.getElem?_append_right outside, List.getElem?_eq_none outside]
        cases n - t.sockets.length <;> rfl
  | @arrive m s a here =>
      rw [heard_set here, Event.arrival?]
      split
      · rename_i own
        rw [← own, heard_of_socket here, List.append_assoc]
        rfl
      · exact (List.append_nil _).symm
  | turn own here turns =>
      rw [heard_of_turns here turns]
      rcases own with rfl | rfl <;> exact (List.append_nil _).symm
  | begin here turns =>
      rw [heard_of_turns here turns]
      exact (List.append_nil _).symm
  | hub silent =>
      rw [silent]
      exact (List.append_nil _).symm

theorem heard_of_run (run : (idle programme limit).run? events = some t) (n : Nat) :
    t.heard n = arrived n events := by
  refine runs.induction (motive := fun past now => now.heard n = arrived n past) rfl ?_ run
  intro past u e v _ known step
  rw [heard_of_moves (moves_of_step? step), known, arrived, arrived, List.filterMap_append]
  cases brought : e.arrival? n <;> simp [brought]

end Traffic

/-! ## Arrivals that make no difference -/

def Arrival.isSilent : Arrival → Bool
  | .binary | .ping | .pong => true
  | .text _ | .close | .failure | .ended => false

def audible (arrivals : List Arrival) : List Arrival := arrivals.filter (!·.isSilent)

theorem audible_append (before after : List Arrival) :
    audible (before ++ after) = audible before ++ audible after := List.filter_append ..

theorem audible_concat (arrivals : List Arrival) (a : Arrival) :
    audible (arrivals ++ [a]) =
      if a.isSilent then audible arrivals else audible arrivals ++ [a] := by
  rw [audible_append]
  cases silent : a.isSilent <;> simp [audible, silent]

/-- A socket without the frames that its handler passes over. -/
def Socket.quiet (s : Socket) : Socket :=
  { s with arrivals := audible s.arrivals, read := audible s.read }

namespace Socket

variable {f : Foyer} {s s' : Socket} {command : Option Hub.Command}

theorem turn?_quiet_of_not_reading (elsewhere : ∀ id, s.handler ≠ .reading id) :
    s.quiet.turn? f = (s.turn? f).map fun (command, s') => (command, s'.quiet) := by
  cases stand : s.handler with
  | reading id => exact absurd stand (elsewhere id)
  | entering | leaving =>
      simp only [turn?, quiet, stand]
      split <;> rfl
  | passing =>
      simp only [turn?, quiet, stand]
      split
      · split <;> rfl
      · rfl
  | posting | going | finished =>
      simp only [turn?, quiet, stand]
      rfl

/-- A handler reads a frame that it passes over, or it does as without such frames. -/
theorem turn?_quiet (turn : s.turn? f = some (command, s')) :
    command = none ∧ s'.quiet = s.quiet ∨ s.quiet.turn? f = some (command, s'.quiet) := by
  by_cases elsewhere : ∀ id, s.handler ≠ .reading id
  · right
    rw [turn?_quiet_of_not_reading elsewhere, turn]
    rfl
  simp only [not_forall, ne_eq, not_not] at elsewhere
  obtain ⟨id, stand⟩ := elsewhere
  simp only [turn?, stand] at turn
  cases next : s.arrivals with
  | nil =>
      rw [next] at turn
      cases turn
  | cons a rest =>
      simp only [next] at turn
      cases a with
      | binary | ping | pong =>
          left
          cases turn
          refine ⟨rfl, ?_⟩
          simp [quiet, next, audible, Arrival.isSilent, Arrival.keepsReading, stand]
      | text | close | failure | ended =>
          right
          cases turn
          simp [turn?, quiet, next, audible, Arrival.isSilent, Arrival.keepsReading, stand]

theorem notice?_quiet (noticed : s.notice? f = some s') : s.quiet.notice? f = some s'.quiet := by
  unfold notice? at noticed
  split at noticed
  · rename_i stand
    split at noticed
    · rename_i closed
      cases noticed
      simp only [notice?, quiet, stand, closed, if_true]
    · cases noticed
  · cases noticed

end Socket

namespace Traffic

def quiet (t : Traffic) : Traffic := { t with sockets := t.sockets.map (·.quiet) }

def Event.isSilent : Event → Bool
  | .arrive _ a => a.isSilent
  | _ => false

variable {programme : Programme} {limit : Option Nat} {t t' : Traffic} {e : Event}
  {events : List Event} {n : Nat} {s s' : Socket}

theorem quiet_foyer (t : Traffic) : t.quiet.foyer = t.foyer := rfl

theorem quiet_socket (here : t.sockets[n]? = some s) : t.quiet.sockets[n]? = some s.quiet := by
  rw [quiet, List.getElem?_map, here, Option.map_some]

theorem quiet_set (foyer : Foyer) :
    quiet ⟨foyer, t.sockets.set n s⟩ = ⟨foyer, t.quiet.sockets.set n s.quiet⟩ := by
  rw [quiet, quiet, List.map_set]

theorem quiet_set_same (here : t.sockets[n]? = some s) (same : s'.quiet = s.quiet) :
    quiet { t with sockets := t.sockets.set n s' } = t.quiet := by
  obtain ⟨inside, stays⟩ := List.getElem?_eq_some_iff.mp (quiet_socket here)
  rw [quiet_set, same, ← stays, List.set_getElem_self]
  rfl

/-- A step brings nothing to notice, or it is one without the frames that handlers pass over. -/
def Passes (t : Traffic) (e : Event) (t' : Traffic) : Prop :=
  t'.quiet = t.quiet ∨ e.isSilent = false ∧ t.quiet.step? e = some t'.quiet

theorem passes_arrive {a : Arrival} (step : t.step? (.arrive n a) = some t') :
    t.Passes (.arrive n a) t' := by
  simp only [step?, Option.bind_eq_bind, Option.bind_eq_some_iff] at step
  obtain ⟨s, here, same⟩ := step
  cases same
  cases silent : a.isSilent with
  | true =>
      left
      exact quiet_set_same here (by simp only [Socket.quiet, audible_concat, silent, if_true])
  | false =>
      right
      refine ⟨silent, ?_⟩
      have heard : Socket.quiet { s with arrivals := s.arrivals ++ [a] } =
          { s.quiet with arrivals := s.quiet.arrivals ++ [a] } := by
        simp only [Socket.quiet, audible_concat, silent, Bool.false_eq_true, if_false]
      simp only [step?, quiet_socket here, quiet_set, heard, Option.bind_eq_bind, Option.bind_some]
      rfl

theorem passes_handle (step : t.step? (.handle n) = some t') : t.Passes (.handle n) t' := by
  simp only [step?, Option.bind_eq_bind, Option.bind_eq_some_iff] at step
  obtain ⟨s, here, ⟨command, s'⟩, turn, step⟩ := step
  rcases Socket.turn?_quiet turn with ⟨rfl, same⟩ | turn
  · left
    cases step
    exact quiet_set_same here same
  · right
    refine ⟨rfl, ?_⟩
    cases command with
    | none =>
        cases step
        simp only [step?, quiet_foyer, quiet_socket here, quiet_set, Option.bind_eq_bind,
          Option.bind_some, turn]
    | some command =>
        obtain ⟨foyer, begins, same⟩ := Option.bind_eq_some_iff.mp step
        cases same
        simp only [step?, quiet_foyer, quiet_socket here, quiet_set, Option.bind_eq_bind,
          Option.bind_some, turn]
        exact Option.bind_eq_some_iff.mpr ⟨foyer, begins, rfl⟩

theorem passes_of_step? (step : t.step? e = some t') : t.Passes e t' := by
  have ofHub {d : Foyer.Event} (step : t.ofHub? d = some t') :
      t.quiet.ofHub? d = some t'.quiet := by
    obtain ⟨foyer, happens, rfl⟩ := Option.map_eq_some_iff.mp step
    exact Option.map_eq_some_iff.mpr ⟨foyer, happens, rfl⟩
  cases e with
  | openSocket sink =>
      simp only [step?, Option.bind_eq_bind, Option.bind_eq_some_iff] at step
      obtain ⟨foyer, happens, same⟩ := step
      cases same
      right
      refine ⟨rfl, ?_⟩
      simp only [step?, quiet, happens, List.map_append]
      rfl
  | arrive n a => exact passes_arrive step
  | handle n => exact passes_handle step
  | notice n =>
      simp only [step?, Option.bind_eq_bind, Option.bind_eq_some_iff] at step
      obtain ⟨s, here, s', noticed, same⟩ := step
      cases same
      right
      refine ⟨rfl, ?_⟩
      simp only [step?, quiet_foyer, quiet_socket here, quiet_set, Option.bind_eq_bind,
        Option.bind_some, Socket.notice?_quiet noticed]
  | call command =>
      cases command with
      | connect | inbound => cases step
      | broadcast | disconnect | closeAll => exact .inr ⟨rfl, ofHub step⟩
  | proceed | setOut | write | transport => exact .inr ⟨rfl, ofHub step⟩

/-- A run without the frames that handlers pass over leads to the same hub and the same handlers. -/
theorem exists_quiet_run (run : (idle programme limit).run? events = some t) :
    ∃ fewer, fewer.Sublist events ∧ (∀ e ∈ fewer, e.isSilent = false) ∧
      (idle programme limit).run? fewer = some t.quiet := by
  refine runs.induction
    (motive := fun past now => ∃ fewer, fewer.Sublist past ∧ (∀ e ∈ fewer, e.isSilent = false) ∧
    (idle programme limit).run? fewer = some now.quiet) ⟨[], .slnil, nofun, rfl⟩ ?_ run
  intro past u e v _ ⟨fewer, sub, loud, run⟩ step
  rcases passes_of_step? step with same | ⟨audible, next⟩
  · exact ⟨fewer, sub.trans (List.sublist_append_left ..), loud, same ▸ run⟩
  · refine ⟨fewer ++ [e], sub.append (.refl _), fun d there => ?_, runs.snoc.mpr ⟨_, run, next⟩⟩
    rcases List.mem_append.mp there with old | new
    · exact loud d old
    · exact List.mem_singleton.mp new ▸ audible

theorem heard_quiet (t : Traffic) (n : Nat) : t.quiet.heard n = audible (t.heard n) := by
  cases here : t.sockets[n]? with
  | none => rw [heard, heard, quiet, List.getElem?_map, here]; rfl
  | some s => rw [heard_of_socket (quiet_socket here), heard_of_socket here, audible_append]; rfl

end Traffic

end BoxOffice.Web
