import BoxOffice.Proofs.Sight
import BoxOffice.Proofs.Undisturbed

/-! # A session in trouble is in trouble alone

What becomes of one session, whether its transport takes frames, holds them up or fails, and whether
and when it is removed, makes no difference to anyone else (`isolated`).
-/

namespace BoxOffice.Hub

/-- The inbound calls of everyone but `a`: who calls, with which message, and what it
    returned, once it has. -/
def Errand.report? (a : SessionId) :
    Errand → Option (SessionId × Text × Option (Except Error Reply))
  | .inbound sender message service =>
      if sender = a then none else some (sender, message, service.result? sender)
  | _ => none

/-- What a session shows: its stage, and the frames that its queue took and its transport. -/
def show? (h : Hub) (id : SessionId) : Option (Session.Stage × List Text × List Text) :=
  (h.session? id).map fun s => (s.stage, s.accepted, s.written)

namespace Foyer

/-- Two foyers that are the same to everyone but `a`. -/
structure Alike (a : SessionId) (f g : Foyer) : Prop where
  programme : f.hub.programme = g.hub.programme
  /-- Their inbound calls have returned the same so far. -/
  reports : f.errands.filterMap (·.report? a) = g.errands.filterMap (·.report? a)
  /-- They are in the same stage, and have accepted and been written the same frames. -/
  sessions : ∀ id, id ≠ a → f.hub.show? id = g.hub.show? id
  registered : ∀ id, id ≠ a → f.hub.isRegistered id = g.hub.isRegistered id

variable {a : SessionId} {d d₀ : Errand} {f g : Foyer} {events events' : List Event}

theorem report?_of_seen (seen : d.without? a = some d₀) : d₀.report? a = d.report? a := by
  cases d with
  | inbound sender message service =>
      cases service with
      | unknownSender =>
          simp only [Errand.without?, Option.ite_none_left_eq_some, Option.some.injEq] at seen
          obtain ⟨-, rfl⟩ := seen
          rfl
      | returned delivery =>
          cases seen
          by_cases own : sender = a
          · simp only [Errand.report?, own, if_true]
          · simp [Errand.report?, Service.without, Service.result?, Delivery.without, own]
      | lookedUp | answering | answered | announcing | onRound | served =>
          cases seen
          rfl
  | disconnecting | disconnected =>
      simp only [Errand.without?, Option.ite_none_left_eq_some, Option.some.injEq] at seen
      obtain ⟨-, rfl⟩ := seen
      rfl
  | greeting | connecting | entering | connected | broadcasting | crying | cried | closingAll =>
      cases seen
      rfl

theorem report?_of_unseen (unseen : d.without? a = none) : d.report? a = none := by
  cases d with
  | inbound sender message service =>
      cases service with
      | unknownSender =>
          simp only [Errand.without?, ite_eq_left_iff, reduceCtorEq, imp_false, not_not] at unseen
          exact if_pos unseen
      | lookedUp | answering | answered | announcing | onRound | served | returned => cases unseen
  | greeting | connecting | entering | connected | broadcasting | crying | cried | disconnecting
  | disconnected | closingAll => rfl

theorem show?_without {h : Hub} {id : SessionId} (other : id ≠ a) :
    (h.without a).show? id = h.show? id := by
  rw [show?, session?_without other, Option.map_map]
  rfl

theorem alike_of_without (same : f.without a = g.without a) : f.Alike a g where
  programme := congrArg (·.hub.programme) same
  reports := by
    rw [← filterMap_without report?_of_unseen report?_of_seen f, same,
      filterMap_without report?_of_unseen report?_of_seen g]
  sessions := by
    intro id other
    have hubs : f.hub.without a = g.hub.without a := congrArg (·.hub) same
    rw [← show?_without other, hubs, show?_without other]
  registered := by
    intro id other
    have hubs : f.hub.without a = g.hub.without a := congrArg (·.hub) same
    rw [← isRegistered_without other, hubs, isRegistered_without other]

theorem exists_take_sights (run : f.run? events = some g) {m : Nat}
    (seen : m ≤ (f.sights a events).length) :
    ∃ l ≤ events.length, f.sights a (events.take l) = (f.sights a events).take m := by
  induction events generalizing f m with
  | nil => exact ⟨0, Nat.le_refl 0, by simp [sights]⟩
  | cons e rest ih =>
      rw [runs.cons, Option.bind_eq_some_iff] at run
      obtain ⟨next, step, run⟩ := run
      have split (events : List Event) :
          f.sights a (e :: events) = (f.sight? a e).toList ++ next.sights a events := by
        simp only [sights, step, Option.map_some, Option.getD_some]
      rw [split] at seen ⊢
      cases sight : f.sight? a e with
      | none =>
          rw [sight] at seen
          obtain ⟨l, inside, same⟩ := ih run seen
          exact ⟨l + 1, Nat.succ_le_succ inside,
            by rw [List.take_succ_cons, split, sight, same]; rfl⟩
      | some x =>
          cases m with
          | zero => exact ⟨0, Nat.zero_le _, rfl⟩
          | succ m =>
              rw [sight] at seen
              obtain ⟨l, inside, same⟩ := ih run (Nat.le_of_succ_le_succ seen)
              exact ⟨l + 1, Nat.succ_le_succ inside,
                by rw [List.take_succ_cons, split, sight, same]; rfl⟩

/-- Whatever was seen so far in one of two runs that look the same was seen at some
    event of the other. -/
theorem exists_same_sights {start start' : Foyer} (run : start.run? events = some f)
    (run' : start'.run? events' = some g) (same : start.sights a events = start'.sights a events')
    (k : Nat) :
    ∃ l ≤ events'.length, start.sights a (events.take k) = start'.sights a (events'.take l) := by
  have whole := List.take_append_drop k events
  have cut := run
  rw [← whole, runs.append, Option.bind_eq_some_iff] at cut
  obtain ⟨u, before, -⟩ := cut
  have seen := sights_append before a (events.drop k)
  rw [whole] at seen
  have early : (start.sights a (events.take k)).length ≤ (start'.sights a events').length := by
    rw [← same, seen, List.length_append]
    exact Nat.le_add_right ..
  obtain ⟨l, inside, found⟩ := exists_take_sights run' early
  refine ⟨l, inside, ?_⟩
  rw [found, ← same, seen, List.take_left]

/-- A failure of one session's transport ends that session and concerns nobody else. Two runs of a
    hub without a limit in which everyone but `a` makes the same steps, while the transport of `a`
    takes frames, holds them up or fails, and `a` is removed at any time or never, are the same to
    everyone else after every step: what is booked, what inbound calls return, what every session
    accepts and is written, and its stage. -/
theorem isolated {programme : Programme} (run : (idle programme none).run? events = some f)
    (run' : (idle programme none).run? events' = some g)
    (same : (idle programme none).sights a events = (idle programme none).sights a events') :
    f.Alike a g ∧
    (∀ k, ∃ l ≤ events'.length,
      (idle programme none).sights a (events.take k) =
        (idle programme none).sights a (events'.take l)) ∧
    ∀ k l u v, (idle programme none).run? (events.take k) = some u →
      (idle programme none).run? (events'.take l) = some v →
      (idle programme none).sights a (events.take k) =
        (idle programme none).sights a (events'.take l) →
      u.Alike a v := by
  refine ⟨?_, exists_same_sights run run' same, ?_⟩
  · exact alike_of_without (without_eq_of_sights run run' rfl same)
  · intro k l u v before before' seen
    exact alike_of_without (without_eq_of_sights before before' rfl seen)

/-- Two customers come in, and the second one books. The transport of the first takes every
    frame. -/
def calm : List Event :=
  [.begin (.connect ⟨none, false, false⟩ false), .proceed 0, .proceed 0, .proceed 0, .proceed 0,
    .begin (.connect ⟨none, false, false⟩ false), .proceed 1, .proceed 1, .proceed 1, .proceed 1,
    .begin (.inbound 2 "PVR,Inception,1"), .write 1, .write 1, .proceed 2, .proceed 2, .proceed 2,
    .proceed 2, .proceed 2, .setOut 2 [1, 2], .proceed 2, .proceed 2, .proceed 2, .proceed 2]

/-- The same, but the transport of the first one fails at once, and the session is gone before the
    booking is announced. -/
def troubled : List Event :=
  [.begin (.connect ⟨some 0, false, false⟩ false), .proceed 0, .proceed 0, .proceed 0, .proceed 0,
    .begin (.connect ⟨none, false, false⟩ false), .proceed 1, .proceed 1, .proceed 1, .proceed 1,
    .begin (.inbound 2 "PVR,Inception,1"), .write 1, .write 1, .proceed 2, .write 1,
    .begin (.disconnect 1), .proceed 2, .proceed 2, .proceed 2, .proceed 2, .setOut 2 [2],
    .proceed 2, .proceed 2, .proceed 2, .proceed 3]

def afterCalm : Foyer := ((idle .single none).run? calm).get (by decide +kernel)

def afterTroubled : Foyer := ((idle .single none).run? troubled).get (by decide +kernel)

/-- The first one has missed the announcement, and the second one does not notice. -/
theorem troubled_isolated :
    afterCalm.hub.sessions.map (·.accepted.length) = [2, 3] ∧
    afterTroubled.hub.sessions.map (·.accepted.length) = [1, 3] ∧
    afterCalm.Alike 1 afterTroubled := by
  have run : (idle .single none).run? calm = some afterCalm := (Option.some_get _).symm
  have run' : (idle .single none).run? troubled = some afterTroubled := (Option.some_get _).symm
  have same : (idle .single none).sights 1 calm = (idle .single none).sights 1 troubled := by
    decide +kernel
  exact ⟨by decide +kernel, by decide +kernel, (isolated run run' same).1⟩

end Foyer

end BoxOffice.Hub
