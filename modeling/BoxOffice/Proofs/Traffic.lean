import BoxOffice.Hub.Interleaving
import BoxOffice.Proofs.Hub
import BoxOffice.Proofs.Run

/-! # What an event can do to a hub

Few events of a traffic compute a text, offer one or register a session. `Moves` tells those from
all others, which are calm. What becomes of the calls, of a session and of the registry is read off
it once, for all that is proved of runs.
-/

namespace BoxOffice.Hub

/-! ## Calls that hold something back -/

namespace Call

/-- The text a call has computed and is to offer. -/
def held? : Call → Option Text
  | .inbound _ _ (.dispatched reply) => some reply.text
  | .inbound _ _ (.rendered _ _ frame) => some frame
  | _ => none

/-- The session a call has greeted and is to register. -/
def greeted? : Call → Option SessionId
  | .connecting id _ => some id
  | _ => none

/-- Whether a call was granted a booking and is to announce it. -/
def announces : Call → Bool
  | .inbound _ _ (.dispatched reply) => reply.announce
  | .inbound _ _ (.offered ..) | .inbound _ _ (.rendered ..) => true
  | _ => false

/-- A call that holds nothing back. -/
structure Silent (c : Call) : Prop where
  held : c.held? = none
  greeted : c.greeted? = none
  announces : c.announces = false

end Call

namespace Traffic

/-- A calm event leaves every call as it was but one, which holds nothing back afterwards and was
    not to announce anything before. -/
structure Calm (t t' : Traffic) : Prop where
  hub : t.hub.Calm t'.hub
  silent : ∀ c ∈ t'.calls, c ∈ t.calls ∨ c.Silent
  kept : ∀ c ∈ t.calls, c.announces → c ∈ t'.calls

theorem Calm.of_begin {t : Traffic} {c : Call} {hub : Hub} (calm : t.hub.Calm hub)
    (silent : c.Silent) : t.Calm ⟨hub, t.calls ++ [c]⟩ where
  hub := calm
  silent := by
    intro d member
    rw [List.mem_append, List.mem_singleton] at member
    rcases member with old | same
    · exact .inl old
    · exact .inr (same ▸ silent)
  kept := by
    intro d member _
    exact List.mem_append_left [c] member

theorem mem_set_of_ne {calls : List Call} {n : Nat} {c d next : Call} (turn : calls[n]? = some c)
    (member : d ∈ calls) (apart : d ≠ c) : d ∈ calls.set n next := by
  obtain ⟨m, there⟩ := List.mem_iff_getElem?.mp member
  have other : n ≠ m := by
    intro same
    rw [same, there, Option.some.injEq] at turn
    exact apart turn
  rw [List.mem_iff_getElem?]
  exact ⟨m, by rw [List.getElem?_set_ne other, there]⟩

theorem Calm.of_proceed {t : Traffic} {n : Nat} {c next : Call} {hub : Hub}
    (turn : t.calls[n]? = some c) (calm : t.hub.Calm hub) (before : c.announces = false)
    (silent : next.Silent) : t.Calm ⟨hub, t.calls.set n next⟩ where
  hub := calm
  silent := by
    intro d member
    rcases List.mem_or_eq_of_mem_set member with old | same
    · exact .inl old
    · exact .inr (same ▸ silent)
  kept := by
    intro d member announces
    apply mem_set_of_ne turn member
    intro same
    rw [same, before] at announces
    cases announces

theorem Calm.of_hub {t : Traffic} {hub : Hub} (calm : t.hub.Calm hub) : t.Calm ⟨hub, t.calls⟩ where
  hub := calm
  silent := by intro c member; exact .inl member
  kept := by intro c member _; exact member

/-- All an event can do. -/
inductive Moves (t : Traffic) : Event → Traffic → Prop where
  | calm {e : Event} {t' : Traffic} (calm : t.Calm t') : Moves t e t'
  | connect (sink : Session.Sink) (bounded : Bool) :
      Moves t (.begin (.connect sink bounded))
        ⟨(t.hub.allocate sink).2, t.calls ++ [.connecting t.hub.nextId bounded]⟩
  | broadcast (frame : Text) :
      Moves t (.begin (.broadcast frame))
        ⟨(t.hub.fanOut frame).2, t.calls ++ [.broadcast frame (t.hub.fanOut frame).1]⟩
  | enroll {n : Nat} {id : SessionId} {bounded : Bool}
      (turn : t.calls[n]? = some (.connecting id bounded)) :
      Moves t (.proceed n)
        ⟨(t.hub.enroll id bounded).2, t.calls.set n (.connected id (t.hub.enroll id bounded).1)⟩
  | dispatch {n : Nat} {sender : SessionId} {message : Text}
      (turn : t.calls[n]? = some (.inbound sender message .lookedUp)) :
      Moves t (.proceed n)
        ⟨(t.hub.dispatch message).2,
          t.calls.set n (.inbound sender message (.dispatched (t.hub.dispatch message).1))⟩
  | offer {n : Nat} {sender : SessionId} {message : Text} {reply : Reply} {next : Inbound}
      (turn : t.calls[n]? = some (.inbound sender message (.dispatched reply)))
      (silent : Call.held? (.inbound sender message next) = none)
      (announces : Call.announces (.inbound sender message next) = reply.announce) :
      Moves t (.proceed n)
        ⟨(t.hub.offer sender reply.text).2, t.calls.set n (.inbound sender message next)⟩
  | render {n : Nat} {sender : SessionId} {message : Text} {reply : Reply} {delivered : Bool}
      (turn : t.calls[n]? = some (.inbound sender message (.offered reply delivered))) :
      Moves t (.proceed n)
        ⟨t.hub,
          t.calls.set n (.inbound sender message (.rendered reply delivered t.hub.announcement))⟩
  | fanOut {n : Nat} {sender : SessionId} {message : Text} {reply : Reply} {delivered : Bool}
      {frame : Text}
      (turn : t.calls[n]? = some (.inbound sender message (.rendered reply delivered frame))) :
      Moves t (.proceed n)
        ⟨(t.hub.fanOut frame).2, t.calls.set n (.inbound sender message
          (.served ⟨reply, delivered, some (frame, (t.hub.fanOut frame).1)⟩))⟩

theorem moves_of_begin (t : Traffic) (command : Command) :
    t.Moves (.begin command)
      ⟨(Call.begin t.hub command).2, t.calls ++ [(Call.begin t.hub command).1]⟩ := by
  cases command with
  | connect sink bounded => exact .connect sink bounded
  | broadcast frame => exact .broadcast frame
  | inbound sender message =>
      apply Moves.calm
      simp only [Call.begin]
      cases found : t.hub.lookUp sender with
      | none => exact .of_begin (.refl _) ⟨rfl, rfl, rfl⟩
      | some hub => exact .of_begin (.lookUp found) ⟨rfl, rfl, rfl⟩
  | disconnect id =>
      apply Moves.calm
      have calm := Hub.Calm.remove t.hub id
      simp only [Call.begin]
      generalize t.hub.remove id = removed at calm
      obtain ⟨remaining, hub⟩ := removed
      cases remaining with
      | none => exact .of_begin calm ⟨rfl, rfl, rfl⟩
      | some remaining => exact .of_begin calm ⟨rfl, rfl, rfl⟩
  | closeAll =>
      apply Moves.calm
      exact .of_begin (.drain _) ⟨rfl, rfl, rfl⟩

theorem step?_of_inbound {t : Traffic} {n : Nat} {sender : SessionId} {message : Text}
    {progress : Inbound} (turn : t.calls[n]? = some (.inbound sender message progress)) :
    t.step? (.proceed n) = (progress.step? t.hub sender message).map fun moved =>
      ⟨moved.2, t.calls.set n (.inbound sender message moved.1)⟩ := by
  simp only [step?, turn, Call.step?, Option.bind_eq_bind, Option.bind_some]
  cases progress.step? t.hub sender message <;> rfl

theorem moves_of_inbound {t : Traffic} {n : Nat} {sender : SessionId} {message : Text}
    {progress next : Inbound} {hub : Hub}
    (turn : t.calls[n]? = some (.inbound sender message progress))
    (step : progress.step? t.hub sender message = some (next, hub)) :
    t.Moves (.proceed n) ⟨hub, t.calls.set n (.inbound sender message next)⟩ := by
  cases progress with
  | unknownSender | returned => cases step
  | lookedUp =>
      cases step
      exact .dispatch turn
  | dispatched reply =>
      simp only [Inbound.step?] at step
      split at step
      · rename_i announced
        cases step
        exact .offer turn rfl announced.symm
      · rename_i silent
        cases step
        exact .offer turn rfl (Bool.eq_false_iff.mpr silent).symm
  | offered reply delivered =>
      cases step
      exact .render turn
  | rendered reply delivered frame =>
      cases step
      exact .fanOut turn
  | served delivery =>
      cases step
      exact .calm (.of_proceed turn (.letGo ..) rfl ⟨rfl, rfl, rfl⟩)

theorem moves_of_step? {t t' : Traffic} {e : Event} (step : t.step? e = some t') :
    t.Moves e t' := by
  cases e with
  | begin command =>
      cases step
      exact moves_of_begin t command
  | proceed n =>
      cases turn : t.calls[n]? with
      | none => simp [step?, turn] at step
      | some c =>
          cases moved : c.step? t.hub with
          | none => simp [step?, turn, moved] at step
          | some result =>
              obtain ⟨next, hub⟩ := result
              simp only [step?, turn, moved, Option.bind_eq_bind, Option.bind_some] at step
              cases step
              cases c with
              | connecting id bounded =>
                  cases moved
                  exact .enroll turn
              | inbound sender message progress =>
                  simp only [Call.step?, Option.map_eq_some_iff, Prod.mk.injEq] at moved
                  obtain ⟨⟨progress', hub'⟩, stepped, same, rfl⟩ := moved
                  rw [← same]
                  exact moves_of_inbound turn stepped
              | disconnecting id remaining =>
                  cases moved
                  exact .calm (.of_proceed turn (.count ..) rfl ⟨rfl, rfl, rfl⟩)
              | closingAll ids uncounted =>
                  cases uncounted with
                  | zero => cases moved
                  | succ uncounted =>
                      cases moved
                      exact .calm (.of_proceed turn (.count ..) rfl ⟨rfl, rfl, rfl⟩)
              | connected | broadcast | disconnected => cases moved
  | write id =>
      simp only [step?, Option.map_eq_some_iff] at step
      obtain ⟨hub, written, rfl⟩ := step
      exact .calm (.of_hub (.writerStep written))
  | transport id sink =>
      cases step
      exact .calm (.of_hub (.update_of_same fun _ => ⟨rfl, rfl, fun isOpen => isOpen⟩))

/-! ## What becomes of calls and sessions -/

/-- The text an event computes: a greeting, an answer or an announcement. -/
def computed? (t : Traffic) : Event → Option Text
  | .begin (.connect ..) => some t.hub.greeting
  | .proceed n =>
      match t.calls[n]? with
      | some (.inbound _ message .lookedUp) => some (t.hub.dispatch message).1.text
      | some (.inbound _ _ (.offered ..)) => some t.hub.announcement
      | _ => none
  | _ => none

/-- A text that an event can offer: some call holds it back, or it is broadcast as it is. -/
def Offers (t : Traffic) (e : Event) (text : Text) : Prop :=
  (∃ c ∈ t.calls, c.held? = some text) ∨ e = .begin (.broadcast text)

/-- Where a session comes from: it was there before and is offered a text or none, or it is new. -/
inductive Comes (t : Traffic) (e : Event) (t' : Traffic) (s' : Session) : Prop where
  | kept {s : Session} (there : s ∈ t.hub.sessions) (number : s'.id = s.id)
      (frames : s'.accepted = s.accepted) (wasOpen : s'.isOpen → s.isOpen) : Comes t e t' s'
  | offered {s : Session} {text : Text} (there : s ∈ t.hub.sessions) (offers : t.Offers e text)
      (same : s' = s.offer text) : Comes t e t' s'
  | greeted {sink : Session.Sink} (computed : t.computed? e = some t.hub.greeting)
      (next : t'.hub.nextId = t.hub.nextId + 1)
      (same : s' = .connecting t.hub.nextId sink t.hub.greeting) : Comes t e t' s'

namespace Moves

variable {t t' : Traffic} {e : Event}

theorem nextId_le (h : t.Moves e t') : t.hub.nextId ≤ t'.hub.nextId := by
  cases h with
  | calm calm => exact Nat.le_of_eq calm.hub.nextId.symm
  | connect => exact Nat.le_succ _
  | broadcast | offer | render | fanOut => exact Nat.le_refl _
  | enroll => exact Nat.le_of_eq (enroll_nextId ..).symm
  | dispatch => exact Nat.le_of_eq (dispatch_nextId ..).symm

theorem comes (h : t.Moves e t') {s' : Session} (member : s' ∈ t'.hub.sessions) :
    t.Comes e t' s' := by
  cases h with
  | calm calm =>
      obtain ⟨s, there, number, frames, wasOpen⟩ := calm.hub.sessions s' member
      exact .kept there number frames wasOpen
  | connect sink bounded =>
      rcases mem_allocate member with old | new
      · exact .kept old rfl rfl fun isOpen => isOpen
      · exact .greeted rfl rfl new
  | broadcast frame =>
      obtain ⟨s, there, same⟩ := mem_fanOut member
      split at same
      · exact .offered there (.inr rfl) same
      · exact .kept there (same ▸ rfl) (same ▸ rfl) fun isOpen => same ▸ isOpen
  | enroll turn =>
      obtain ⟨s, there, number, frames, sameOpen⟩ := mem_enroll member
      exact .kept there number frames fun isOpen => sameOpen ▸ isOpen
  | @dispatch n sender message turn =>
      have member : s' ∈ (t.hub.dispatch message).2.sessions := member
      rw [dispatch_sessions] at member
      exact .kept member rfl rfl fun isOpen => isOpen
  | offer turn silent announces =>
      obtain ⟨s, there, same | same⟩ := mem_offer member
      · exact .kept there (same ▸ rfl) (same ▸ rfl) fun isOpen => same ▸ isOpen
      · exact .offered there (.inl ⟨_, List.mem_of_getElem? turn, rfl⟩) same
  | render turn => exact .kept member rfl rfl fun isOpen => isOpen
  | fanOut turn =>
      obtain ⟨s, there, same⟩ := mem_fanOut member
      split at same
      · exact .offered there (.inl ⟨_, List.mem_of_getElem? turn, rfl⟩) same
      · exact .kept there (same ▸ rfl) (same ▸ rfl) fun isOpen => same ▸ isOpen

/-- A text that is held back was held back before, or was just computed. -/
theorem held (h : t.Moves e t') {c : Call} {text : Text} (member : c ∈ t'.calls)
    (held : c.held? = some text) : c ∈ t.calls ∨ t.computed? e = some text := by
  cases h with
  | calm calm =>
      rcases calm.silent c member with old | silent
      · exact .inl old
      · rw [silent.held] at held
        cases held
  | connect | broadcast =>
      rw [List.mem_append, List.mem_singleton] at member
      rcases member with old | rfl
      · exact .inl old
      · cases held
  | enroll | fanOut =>
      rcases List.mem_or_eq_of_mem_set member with old | rfl
      · exact .inl old
      · cases held
  | dispatch turn =>
      rcases List.mem_or_eq_of_mem_set member with old | rfl
      · exact .inl old
      · cases held
        right
        simp only [computed?, turn]
  | offer turn silent announces =>
      rcases List.mem_or_eq_of_mem_set member with old | rfl
      · exact .inl old
      · rw [silent] at held
        cases held
  | render turn =>
      rcases List.mem_or_eq_of_mem_set member with old | rfl
      · exact .inl old
      · cases held
        right
        simp only [computed?, turn]

/-- A session that a call is to register was greeted before, or is greeted now. -/
theorem greeted (h : t.Moves e t') {c : Call} {id : SessionId} (member : c ∈ t'.calls)
    (greeted : c.greeted? = some id) :
    c ∈ t.calls ∨ id = t.hub.nextId ∧ ∃ sink bounded, e = .begin (.connect sink bounded) := by
  cases h with
  | calm calm =>
      rcases calm.silent c member with old | silent
      · exact .inl old
      · rw [silent.greeted] at greeted
        cases greeted
  | connect sink bounded =>
      rw [List.mem_append, List.mem_singleton] at member
      rcases member with old | rfl
      · exact .inl old
      · cases greeted
        exact .inr ⟨rfl, sink, bounded, rfl⟩
  | broadcast =>
      rw [List.mem_append, List.mem_singleton] at member
      rcases member with old | rfl
      · exact .inl old
      · cases greeted
  | enroll | dispatch | offer | render | fanOut =>
      rcases List.mem_or_eq_of_mem_set member with old | rfl
      · exact .inl old
      · cases greeted

theorem registered (h : t.Moves e t') {id : SessionId} (member : id ∈ t'.hub.registry) :
    id ∈ t.hub.registry ∨ ∃ c ∈ t.calls, c.greeted? = some id := by
  cases h with
  | calm calm => exact .inl (calm.hub.registry id member)
  | connect | broadcast | offer | render | fanOut => exact .inl member
  | enroll turn =>
      rcases registry_enroll member with rfl | old
      · exact .inr ⟨_, List.mem_of_getElem? turn, rfl⟩
      · exact .inl old
  | @dispatch n sender message turn =>
      have member : id ∈ (t.hub.dispatch message).2.registry := member
      rw [dispatch_registry] at member
      exact .inl member

/-- What is to be announced stays to be announced, until a text is offered to every registered
    session. -/
theorem announcing (h : t.Moves e t') (before : ∃ c ∈ t.calls, c.announces) :
    (∃ c ∈ t'.calls, c.announces) ∨ ∀ s' ∈ t'.hub.sessions, s'.id ∈ t'.hub.registry →
      ∃ s ∈ t.hub.sessions, ∃ text, t.Offers e text ∧ s' = s.offer text := by
  have set {n : Nat} {c next : Call} (turn : t.calls[n]? = some c)
      (goesOn : c.announces → next.announces) : ∃ c ∈ t.calls.set n next, c.announces := by
    obtain ⟨d, member, announces⟩ := before
    by_cases same : d = c
    · subst same
      obtain ⟨inside, -⟩ := List.getElem?_eq_some_iff.mp turn
      exact ⟨next, List.mem_set inside next, goesOn announces⟩
    · exact ⟨d, mem_set_of_ne turn member same, announces⟩
  cases h with
  | calm calm =>
      obtain ⟨c, member, announces⟩ := before
      exact .inl ⟨c, calm.kept c member announces, announces⟩
  | connect | broadcast =>
      obtain ⟨c, member, announces⟩ := before
      exact .inl ⟨c, List.mem_append_left _ member, announces⟩
  | enroll turn => exact .inl (set turn fun announces => by cases announces)
  | dispatch turn => exact .inl (set turn fun announces => by cases announces)
  | offer turn silent announces => exact .inl (set turn fun goesOn => announces.trans goesOn)
  | render turn => exact .inl (set turn fun _ => rfl)
  | fanOut turn =>
      right
      intro s' member registered
      obtain ⟨s, there, same⟩ := mem_fanOut member
      split at same
      · exact ⟨s, there, _, .inl ⟨_, List.mem_of_getElem? turn, rfl⟩, same⟩
      · rename_i unregistered
        rw [same] at registered
        exact absurd registered unregistered

end Moves

/-! ## Runs -/

theorem runs : Runs step? run? where
  nil := by intro t; rfl
  cons := by intro t e rest; rfl

end Traffic

end BoxOffice.Hub
