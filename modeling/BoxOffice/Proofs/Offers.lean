import BoxOffice.Proofs.Lifecycle

/-! # What is offered to whom

Frames come into a queue by offers only. The offers of a run, in their order, say of each
frame which call offered it, to whom, and whether it was taken; a queue has accepted what it
took, and nothing else.
-/

namespace BoxOffice.Hub

/-- A frame that a call offers to a session. -/
structure Offer where
  /-- The call, by its place among the calls. -/
  call : Nat
  session : SessionId
  frame : Text
  /-- Whether the session was registered when the frame was offered. -/
  registered : Bool
  /-- Whether its queue was open, and so took the frame. -/
  taken : Bool
  deriving Repr, DecidableEq

/-- The frame that a call is to offer in its next step, and to whom. -/
def Errand.offering? : Errand → Option (SessionId × Text)
  | .greeting id _ ⟨seen, []⟩ => some (id, Snapshot.render .initial seen)
  | .inbound sender _ (.answered reply) => some (sender, reply.text)
  | .inbound _ _ (.onRound _ _ ⟨frame, id :: _, _⟩) | .crying ⟨frame, id :: _, _⟩ =>
      some (id, frame)
  | _ => none

namespace Foyer

def offer? (f : Foyer) : Event → Option Offer
  | .proceed n => do
      let errand ← f.errands[n]?
      let (session, frame) ← errand.offering?
      some ⟨n, session, frame, f.hub.isRegistered session, (f.hub.session? session).any (·.isOpen)⟩
  | _ => none

/-- What events offer, one after another, as long as they can happen. -/
def offers (f : Foyer) : List Event → List Offer
  | [] => []
  | e :: rest => (f.offer? e).toList ++ ((f.step? e).map fun f => f.offers rest).getD []

def took (offers : List Offer) (id : SessionId) : List Text :=
  (offers.filter fun o => o.session = id ∧ o.taken).map (·.frame)

variable {f f' : Foyer} {e : Event} {n : Nat}

theorem offers_append {before : List Event} (run : f.run? before = some f') (e : Event) :
    f.offers (before ++ [e]) = f.offers before ++ (f'.offer? e).toList := by
  induction before generalizing f with
  | nil =>
      rw [runs.nil, Option.some.injEq] at run
      subst run
      cases step : f.step? e <;> simp [offers, step]
  | cons d before ih =>
      rw [runs.cons, Option.bind_eq_some_iff] at run
      obtain ⟨between, step, run⟩ := run
      simp only [List.cons_append, offers, step, Option.map_some, Option.getD_some, ih run,
        List.append_assoc]

theorem took_append (before after : List Offer) (id : SessionId) :
    took (before ++ after) id = took before id ++ took after id := by
  simp [took]

theorem offer?_of_turn {errand : Errand} (turn : f.errands[n]? = some errand)
    (silent : errand.offering? = none) : f.offer? (.proceed n) = none := by
  simp [offer?, turn, silent]

theorem offer?_of_offering {errand : Errand} {id : SessionId} {frame : Text}
    (turn : f.errands[n]? = some errand) (offering : errand.offering? = some (id, frame)) :
    f.offer? (.proceed n) =
      some ⟨n, id, frame, f.hub.isRegistered id, (f.hub.session? id).any (·.isOpen)⟩ := by
  simp [offer?, turn, offering]

theorem offer?_eq_some {o : Offer} (offered : f.offer? e = some o) :
    e = .proceed o.call ∧ o.registered = f.hub.isRegistered o.session ∧
      o.taken = (f.hub.session? o.session).any (·.isOpen) ∧
      ∃ errand, f.errands[o.call]? = some errand ∧
      errand.offering? = some (o.session, o.frame) := by
  cases e with
  | proceed n =>
      simp only [offer?, Option.bind_eq_bind, Option.bind_eq_some_iff] at offered
      obtain ⟨errand, turn, ⟨session, frame⟩, offering, same⟩ := offered
      cases same
      exact ⟨rfl, rfl, rfl, errand, turn, offering⟩
  | begin | setOut | write | transport => cases offered

theorem offering_of_took {id : SessionId} {frame : Text} (h : frame ∈ took (f.offer? e).toList id) :
    ∃ n errand, e = .proceed n ∧ f.errands[n]? = some errand ∧
    errand.offering? = some (id, frame) := by
  simp only [took, List.mem_map, List.mem_filter, Option.mem_toList, decide_eq_true_eq] at h
  obtain ⟨o, ⟨offered, own, -⟩, same⟩ := h
  obtain ⟨proceeds, -, -, errand, turn, offering⟩ := offer?_eq_some offered
  exact ⟨o.call, errand, proceeds, turn, by rw [offering, own, same]⟩

/-- What one event does to what a session has accepted. -/
def Accepts (f : Foyer) (e : Event) (f' : Foyer) : Prop :=
  ∀ s' ∈ f'.hub.sessions, (∃ sink, s' = .blank f.hub.nextId sink) ∨
    ∃ s ∈ f.hub.sessions, s'.id = s.id ∧ s'.accepted = s.accepted ++ took (f.offer? e).toList s.id

theorem accepts_of_same (sessions : f'.hub.sessions = f.hub.sessions) (silent : f.offer? e = none) :
    f.Accepts e f' := by
  intro s' member
  rw [sessions] at member
  exact .inr ⟨s', member, rfl, by simp [silent, took]⟩

theorem accepts_of_update {id : SessionId} (change : Session → Session)
    (keeps : ∀ s, (change s).id = s.id ∧ (change s).accepted = s.accepted)
    (sessions : f'.hub.sessions = (f.hub.update id change).sessions) (silent : f.offer? e = none) :
    f.Accepts e f' := by
  intro s' member
  rw [sessions] at member
  obtain ⟨s, there, rfl⟩ := mem_update member
  refine .inr ⟨s, there, ?_, ?_⟩
  · split
    · exact (keeps s).1
    · rfl
  · rw [silent]
    split
    · simp [(keeps s).2, took]
    · simp [took]

theorem session?_of_mem (sound : f.Sound) {s : Session} (there : s ∈ f.hub.sessions) :
    f.hub.session? s.id = some s := by
  rw [session?_eq]
  have only := (sound.session there).1
  simp only [life] at only
  rw [only, List.head?_cons]

theorem accepts_of_offer {errand : Errand} {id : SessionId} {frame : Text} (sound : f.Sound)
    (turn : f.errands[n]? = some errand) (offering : errand.offering? = some (id, frame))
    (sessions : f'.hub.sessions = (f.hub.offer id frame).2.sessions) :
    f.Accepts (.proceed n) f' := by
  intro s' member
  rw [sessions] at member
  obtain ⟨s, there, rfl⟩ := mem_update member
  refine .inr ⟨s, there, by split <;> simp, ?_⟩
  rw [offer?_of_offering turn offering]
  by_cases own : s.id = id
  · subst own
    simp only [if_true, s.accepted_offer, session?_of_mem sound there, took, Option.toList_some,
      Option.any_some]
    cases s.isOpen <;> simp
  · simp [took, own, Ne.symm own]

theorem accepts_of_serves {sender : SessionId} {message : Text} {service next : Service} {hub : Hub}
    (sound : f.Sound) (turn : f.errands[n]? = some (.inbound sender message service))
    (serves : f.hub.Serves sender message service next hub) :
    f.Accepts (.proceed n) ⟨hub, f.errands.set n (.inbound sender message next)⟩ := by
  cases serves with
  | decide | look | lookAgain | comeBack => exact accepts_of_same rfl (offer?_of_turn turn rfl)
  | @compose result seen =>
      obtain ⟨tally, same⟩ := f.hub.exists_countAnswer (.compose message result seen)
      rw [same]
      exact accepts_of_same rfl (offer?_of_turn turn rfl)
  | answer | grant | reach => exact accepts_of_offer sound turn rfl rfl
  | letGo =>
      exact accepts_of_update Session.release (fun _ => ⟨rfl, rfl⟩) rfl (offer?_of_turn turn rfl)

/-- An event adds to a queue what it offers, if the queue takes it, and nothing else. -/
theorem accepts (sound : f.Sound) (moves : f.Moves e f') : f.Accepts e f' := by
  cases moves with
  | assign sink bounded =>
      intro s' member
      rw [show (f.hub.assign sink).sessions = f.hub.sessions ++ [.blank f.hub.nextId sink] from rfl,
        List.mem_append, List.mem_singleton] at member
      rcases member with old | rfl
      · exact .inr ⟨s', old, rfl, by simp [offer?, took]⟩
      · exact .inl ⟨sink, rfl⟩
  | refuse | broadcast | miss | remove | drain => exact accepts_of_same rfl rfl
  | lookUp => exact accepts_of_update Session.hold (fun _ => ⟨rfl, rfl⟩) rfl rfl
  | look turn next =>
      refine accepts_of_same rfl (offer?_of_turn turn ?_)
      unfold Survey.next? at next
      split at next
      · cases next
      · rfl
  | comeBack turn | tell turn | tellAll turn => exact accepts_of_same rfl (offer?_of_turn turn rfl)
  | greet turn | reach turn => exact accepts_of_offer sound turn rfl rfl
  | dismiss turn =>
      intro s' member
      have old := (List.mem_filter.mp member).1
      exact .inr ⟨s', old, rfl, by simp [offer?_of_turn turn rfl, took]⟩
  | activate turn =>
      exact accepts_of_update (fun s => s.activate.hold) (fun _ => ⟨rfl, rfl⟩) rfl
        (offer?_of_turn turn rfl)
  | enter turn =>
      exact accepts_of_update Session.release (fun _ => ⟨rfl, rfl⟩) rfl (offer?_of_turn turn rfl)
  | serve turn serves => exact accepts_of_serves sound turn serves
  | announce | cry => exact accepts_of_same rfl rfl
  | write free step =>
      intro s' member
      obtain ⟨s, there, number, frames, -⟩ := (Calm.writerStep step).sessions s' member
      exact .inr ⟨s, there, number, by simp [frames, offer?, took]⟩
  | transport id sink =>
      exact accepts_of_update (·.withSink fun _ => sink) (fun _ => ⟨rfl, rfl⟩) rfl rfl

theorem session_lt_of_taken (sound : f.Sound) {o : Offer} (offered : f.offer? e = some o)
    (taken : o.taken) : o.session < f.hub.nextId := by
  rw [(offer?_eq_some offered).2.2.1, Option.any_eq_true] at taken
  obtain ⟨s, found, -⟩ := taken
  obtain ⟨there, number⟩ := mem_of_session? found
  exact number ▸ (sound.session there).2.2

theorem took_eq_nil {offers : List Offer} {id : SessionId}
    (none : ∀ o ∈ offers, o.taken → o.session ≠ id) : took offers id = [] := by
  simp only [took, List.map_eq_nil_iff, List.filter_eq_nil_iff, decide_eq_true_eq]
  intro o member ⟨own, taken⟩
  exact none o member taken own

/-- A queue has accepted what it was offered while it was open, in that order, and nothing else. -/
theorem accepted_eq_took {programme : Programme} {limit : Option Nat} {events : List Event}
    (run : (idle programme limit).run? events = some f) {s : Session} (there : s ∈ f.hub.sessions) :
    s.accepted = took ((idle programme limit).offers events) s.id := by
  have known : (∀ o ∈ (idle programme limit).offers events, o.taken → o.session < f.hub.nextId) ∧
      ∀ s ∈ f.hub.sessions, s.accepted = took ((idle programme limit).offers events) s.id := by
    refine runs.induction (motive := fun events now =>
      (∀ o ∈ (idle programme limit).offers events, o.taken → o.session < now.hub.nextId) ∧
      ∀ s ∈ now.hub.sessions, s.accepted = took ((idle programme limit).offers events) s.id)
      ⟨nofun, fun s member => absurd member not_mem_idle⟩ ?_ run
    intro events u e v before ⟨given, accepted⟩ step
    have sound := Sound.of_run before
    have moves := moves_of_step? step
    have later := nextId_of_moves moves
    have given' : ∀ o ∈ (u.offer? e).toList, o.taken → o.session < u.hub.nextId := by
      intro o member taken
      exact session_lt_of_taken sound (Option.mem_toList.mp member) taken
    constructor <;> rw [offers_append before]
    · intro o member taken
      have known : o.session < u.hub.nextId := by
        rcases List.mem_append.mp member with old | new
        · exact given o old taken
        · exact given' o new taken
      exact Nat.lt_of_lt_of_le known (by rw [later]; exact Nat.le_add_right ..)
    · intro s' member
      rw [took_append]
      rcases accepts sound moves s' member with ⟨sink, rfl⟩ | ⟨s, there, number, grown⟩
      · -- a number that was not given yet has taken no frame
        have nothing : took ((idle programme limit).offers events) u.hub.nextId = [] :=
          took_eq_nil fun o member taken => Nat.ne_of_lt (given o member taken)
        have nothing' : took (u.offer? e).toList u.hub.nextId = [] :=
          took_eq_nil fun o member taken => Nat.ne_of_lt (given' o member taken)
        exact (congrArg₂ List.append nothing nothing').symm
      · rw [grown, accepted s there, number]
  exact known.2 s there

end Foyer

end BoxOffice.Hub
