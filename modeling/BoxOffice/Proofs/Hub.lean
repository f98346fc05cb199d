import BoxOffice.Hub.Basic

/-! # What the steps of a hub do

Each step of a hub has one lemma here that says what becomes of the sessions and the registry.
Most steps are calm: they change neither the programme nor what a queue has taken, and they
register nobody.
-/

namespace BoxOffice

/-- A writer takes no frame into the queue and never opens it. -/
theorem Session.writerStep_keeps {s next : Session} {canStillCome : Bool}
    (step : s.writerStep canStillCome = some next) :
    next.id = s.id ∧ next.accepted = s.accepted ∧ (next.isOpen → s.isOpen) := by
  unfold Session.writerStep at step
  split at step
  · split at step
    · cases step
      exact ⟨rfl, rfl, fun isOpen => isOpen⟩
    · split at step
      · cases step
      · cases step
        exact ⟨rfl, rfl, fun isOpen => isOpen⟩
  · split at step
    · cases step
      exact ⟨rfl, rfl, fun isOpen => isOpen⟩
    · cases step
    · cases step
      exact ⟨rfl, rfl, fun isOpen => isOpen⟩
  · cases step
    refine ⟨rfl, rfl, fun isOpen => ?_⟩
    cases isOpen
  · cases step
    exact ⟨rfl, rfl, fun isOpen => isOpen⟩
  all_goals cases step

theorem Session.accepted_offer (s : Session) (frame : Text) :
    (s.offer frame).accepted = if s.isOpen then s.accepted ++ [frame] else s.accepted := by
  unfold Session.offer
  split <;> rfl

theorem Session.id_offer (s : Session) (frame : Text) : (s.offer frame).id = s.id := by
  unfold Session.offer
  split <;> rfl

theorem Session.isOpen_offer (s : Session) (frame : Text) : (s.offer frame).isOpen = s.isOpen := by
  unfold Session.offer
  split <;> rfl

namespace Hub

theorem mem_update {h : Hub} {id : SessionId} {change : Session → Session} {s : Session}
    (member : s ∈ (h.update id change).sessions) :
    ∃ old ∈ h.sessions, s = if old.id = id then change old else old := by
  simp only [update, List.mem_map] at member
  obtain ⟨old, there, same⟩ := member
  exact ⟨old, there, same.symm⟩

theorem mem_of_session? {h : Hub} {id : SessionId} {s : Session} (found : h.session? id = some s) :
    s ∈ h.sessions ∧ s.id = id := by
  refine ⟨List.mem_of_find?_eq_some found, ?_⟩
  simpa using List.find?_some found

theorem isRegistered_iff {h : Hub} {id : SessionId} : h.isRegistered id ↔ id ∈ h.registry := by
  rw [isRegistered, List.contains_iff_mem]

@[simp] theorem dispatch_reply (h : Hub) (message : Text) :
    (h.dispatch message).1 = (h.programme.route message).1 := rfl

@[simp] theorem dispatch_programme (h : Hub) (message : Text) :
    (h.dispatch message).2.programme = (h.programme.route message).2 := by
  unfold dispatch
  dsimp only
  split <;> rfl

@[simp] theorem dispatch_sessions (h : Hub) (message : Text) :
    (h.dispatch message).2.sessions = h.sessions := by
  unfold dispatch
  dsimp only
  split <;> rfl

@[simp] theorem dispatch_registry (h : Hub) (message : Text) :
    (h.dispatch message).2.registry = h.registry := by
  unfold dispatch
  dsimp only
  split <;> rfl

@[simp] theorem dispatch_nextId (h : Hub) (message : Text) :
    (h.dispatch message).2.nextId = h.nextId := by
  unfold dispatch
  dsimp only
  split <;> rfl

theorem mem_offer {h : Hub} {id : SessionId} {frame : Text} {s' : Session}
    (member : s' ∈ (h.offer id frame).2.sessions) :
    ∃ s ∈ h.sessions, s' = s ∨ s' = s.offer frame := by
  obtain ⟨s, there, same⟩ := mem_update member
  split at same
  · exact ⟨s, there, .inr same⟩
  · exact ⟨s, there, .inl same⟩

theorem mem_fanOut {h : Hub} {frame : Text} {s' : Session}
    (member : s' ∈ (h.fanOut frame).2.sessions) :
    ∃ s ∈ h.sessions, s' = if s.id ∈ h.registry then s.offer frame else s := by
  simp only [fanOut, count, List.mem_map, isRegistered_iff] at member
  obtain ⟨s, there, same⟩ := member
  exact ⟨s, there, same.symm⟩

theorem mem_allocate {h : Hub} {sink : Session.Sink} {s : Session}
    (member : s ∈ (h.allocate sink).2.sessions) :
    s ∈ h.sessions ∨ s = .connecting h.nextId sink h.greeting := by
  simpa only [allocate, List.mem_append, List.mem_singleton] using member

theorem mem_enroll {h : Hub} {id : SessionId} {bounded : Bool} {s' : Session}
    (member : s' ∈ (h.enroll id bounded).2.sessions) :
    ∃ s ∈ h.sessions, s'.id = s.id ∧ s'.accepted = s.accepted ∧ s'.isOpen = s.isOpen := by
  unfold enroll at member
  split at member
  · exact ⟨s', (List.mem_filter.mp member).1, rfl, rfl, rfl⟩
  · obtain ⟨s, there, rfl⟩ := mem_update member
    refine ⟨s, there, ?_⟩
    split <;> exact ⟨rfl, rfl, rfl⟩

@[simp] theorem enroll_programme (h : Hub) (id : SessionId) (bounded : Bool) :
    (h.enroll id bounded).2.programme = h.programme := by
  unfold enroll
  split <;> rfl

@[simp] theorem enroll_nextId (h : Hub) (id : SessionId) (bounded : Bool) :
    (h.enroll id bounded).2.nextId = h.nextId := by
  unfold enroll
  split <;> rfl

theorem registry_enroll {h : Hub} {id other : SessionId} {bounded : Bool}
    (member : other ∈ (h.enroll id bounded).2.registry) : other = id ∨ other ∈ h.registry := by
  unfold enroll at member
  split at member
  · exact .inr member
  · exact List.mem_insert_iff.mp member

/-! ## Calm changes -/

/-- The programme is the same, nobody was registered, and every session is one from before, with the
    frames its queue took and perhaps closed since. -/
structure Calm (h h' : Hub) : Prop where
  programme : h'.programme = h.programme
  nextId : h'.nextId = h.nextId
  registry : ∀ id ∈ h'.registry, id ∈ h.registry
  sessions : ∀ s' ∈ h'.sessions, ∃ s ∈ h.sessions,
    s'.id = s.id ∧ s'.accepted = s.accepted ∧ (s'.isOpen → s.isOpen)

namespace Calm

theorem refl (h : Hub) : Calm h h where
  programme := rfl
  nextId := rfl
  registry := by intro id member; exact member
  sessions := by intro s member; exact ⟨s, member, rfl, rfl, fun isOpen => isOpen⟩

theorem trans {h h' h'' : Hub} (first : Calm h h') (second : Calm h' h'') : Calm h h'' where
  programme := second.programme.trans first.programme
  nextId := second.nextId.trans first.nextId
  registry := by intro id member; exact first.registry id (second.registry id member)
  sessions := by
    intro s'' member
    obtain ⟨s', there, sameId, sameFrames, wasOpen⟩ := second.sessions s'' member
    obtain ⟨s, before, sameId', sameFrames', wasOpen'⟩ := first.sessions s' there
    exact ⟨s, before, sameId.trans sameId', sameFrames.trans sameFrames', fun isOpen =>
      wasOpen' (wasOpen isOpen)⟩

theorem count (h : Hub) (occurrence : Occurrence) : Calm h (h.count occurrence) where
  programme := rfl
  nextId := rfl
  registry := by intro id member; exact member
  sessions := by intro s member; exact ⟨s, member, rfl, rfl, fun isOpen => isOpen⟩

theorem update {h : Hub} {id : SessionId} {change : Session → Session}
    (keeps : ∀ s ∈ h.sessions, s.id = id → ∃ old ∈ h.sessions, (change s).id = old.id ∧
      (change s).accepted = old.accepted ∧ ((change s).isOpen → old.isOpen)) :
    Calm h (h.update id change) where
  programme := rfl
  nextId := rfl
  registry := by intro id member; exact member
  sessions := by
    intro s member
    obtain ⟨old, there, rfl⟩ := mem_update member
    split
    · rename_i same
      exact keeps old there same
    · exact ⟨old, there, rfl, rfl, fun isOpen => isOpen⟩

theorem update_of_same {h : Hub} {id : SessionId} {change : Session → Session}
    (same : ∀ s, (change s).id = s.id ∧ (change s).accepted = s.accepted ∧
      ((change s).isOpen → s.isOpen)) : Calm h (h.update id change) := by
  apply Calm.update
  intro s member _
  exact ⟨s, member, same s⟩

theorem lookUp {h h' : Hub} {id : SessionId} (found : h.lookUp id = some h') : Calm h h' := by
  unfold Hub.lookUp at found
  split at found
  · cases found
    exact update_of_same fun _ => ⟨rfl, rfl, fun isOpen => isOpen⟩
  · cases found

theorem letGo (h : Hub) (id : SessionId) : Calm h (h.letGo id) :=
  update_of_same fun _ => ⟨rfl, rfl, fun isOpen => isOpen⟩

theorem remove (h : Hub) (id : SessionId) : Calm h (h.remove id).2 := by
  unfold Hub.remove
  split
  · refine ⟨rfl, rfl, ?_, ?_⟩
    · intro id' member
      exact List.mem_of_mem_erase member
    · intro s member
      exact ⟨s, member, rfl, rfl, fun isOpen => isOpen⟩
  · exact refl h

theorem drain (h : Hub) : Calm h h.drain.2 where
  programme := rfl
  nextId := rfl
  registry := by intro id member; cases member
  sessions := by intro s member; exact ⟨s, member, rfl, rfl, fun isOpen => isOpen⟩

end Calm

theorem Calm.writerStep {h h' : Hub} {id : SessionId} (step : h.writerStep id = some h') :
    Calm h h' := by
  cases found : h.session? id with
  | none => simp [Hub.writerStep, found] at step
  | some s =>
      obtain ⟨there, sameId⟩ := mem_of_session? found
      have settle (h' : Hub) (writer : Session.Writer) :
          Calm h' (h'.update id fun s => { s with writer }) :=
        update_of_same fun _ => ⟨rfl, rfl, fun isOpen => isOpen⟩
      have own {next : Session} (step : s.writerStep (h.canStillCome s) = some next) :
          Calm h (h.update id fun _ => next) := by
        obtain ⟨number, frames, isOpen⟩ := Session.writerStep_keeps step
        exact update fun _ _ _ => ⟨s, there, number, frames, isOpen⟩
      simp only [Hub.writerStep, found, Option.bind_eq_bind, Option.bind_some] at step
      cases stand : s.writer with
      | leaving ending =>
          simp only [stand] at step
          have gone := remove h id
          generalize h.remove id = removed at step gone
          obtain ⟨remaining, h₁⟩ := removed
          cases remaining with
          | none => cases step; exact gone.trans (settle ..)
          | some remaining => cases step; exact gone.trans (settle ..)
      | telling ending remaining =>
          simp only [stand] at step
          cases step
          exact (count h _).trans (settle ..)
      | writing frame =>
          simp only [stand] at step
          cases next : s.writerStep (h.canStillCome s) with
          | none => simp [next] at step
          | some t =>
              simp only [next, Option.bind_some] at step
              split at step
              · cases step
                exact (own next).trans (count _ _)
              · cases step
                exact own next
      | unstarted | waiting | closingQueue | finishing | stopped =>
          simp only [stand] at step
          cases next : s.writerStep (h.canStillCome s) with
          | none => simp [next] at step
          | some t =>
              simp only [next, Option.bind_some] at step
              cases step
              exact own next

end Hub

end BoxOffice
