import BoxOffice.Proofs.Rest

/-! # Calls take effect where they are dispatched

An inbound call that has looked its sender up and is overtaken by others answers as if it had begun
after them, as long as its sender is still registered. If the sender was removed meanwhile, its
queue is kept for the answer: the message is answered and announced as it would be for anyone, the
sender gets the answer and not the announcement, and is not closed before the answer is written
(`effective_at_dispatch`).
-/

namespace BoxOffice.Hub

/-! ## What becomes of the answer -/

/-- What an inbound call has answered, and whether the queue of the sender took it. -/
def Service.delivery? : Service → Option (Reply × Bool)
  | .announcing reply delivered _ | .onRound reply delivered _ => some (reply, delivered)
  | .served delivery | .returned delivery => some (delivery.reply, delivery.delivered)
  | .unknownSender | .lookedUp | .answering .. | .answered _ => none

namespace Foyer

variable {f f' : Foyer} {n : Nat} {sender : SessionId} {message : Text} {s : Session}

theorem holds_eq_zero_of_drained (sound : f.Sound) (there : s ∈ f.hub.sessions)
    (drained : s.writer.ending? = some .drained) : s.holds = 0 := by
  have sessions := (sound.session there).1
  cases sound.lives s.id with
  | absent none => rw [none] at sessions; cases sessions
  | waiting same _ _ _ stand =>
      rw [sessions, List.cons.injEq] at same
      rw [same.1, stand] at drained
      cases drained
  | started same _ _ _ started =>
      rw [sessions, List.cons.injEq] at same
      rw [same.1] at drained ⊢
      exact started.drained drained

theorem failed_of_not_isOpen {service : Service} (sound : f.Sound)
    (turn : f.errands[n]? = some (.inbound s.id message service)) (holding : service.isHolding)
    (there : s ∈ f.hub.sessions) (closed : s.isOpen = false) : s.writer.ending? = some .failed := by
  have held : 0 < s.holds := holds_pos sound turn there (if_pos ⟨rfl, holding⟩) (.inr rfl)
  have ended : s.writer.ending? ≠ none := by
    have shut := (sound.session there).2.1.isOpen
    rw [closed] at shut
    cases stand : s.writer <;> simp [stand, Session.Writer.isOpen, Session.Writer.ending?] at shut ⊢
  cases ending : s.writer.ending? with
  | none => exact absurd ending ended
  | some ending' =>
      cases ending' with
      | failed => rfl
      | drained =>
          have := holds_eq_zero_of_drained sound there ending
          omega

/-- The queue of the sender has the answer, or a write has failed and it took nothing. -/
def Answered (f : Foyer) (sender : SessionId) (reply : Reply) (delivered : Bool) : Prop :=
  ∀ s ∈ f.hub.sessions, s.id = sender →
    if delivered then reply.text ∈ s.accepted else s.writer.ending? = some .failed

theorem Answered.step {e : Event} {reply : Reply} {delivered : Bool}
    (h : f.Answered sender reply delivered) (sound : f.Sound) (numbered : sender < f.hub.nextId)
    (step : f.step? e = some f') :
    f'.Answered sender reply delivered := by
  intro s' there' own
  obtain ⟨s, there, ages⟩ := (sound.life_step step sender).comes (sound.lives sender)
    (decide_eq_true numbered) (mem_own.mpr ⟨there', own⟩)
  obtain ⟨there, number⟩ := mem_own.mp there
  have before := h s there number
  cases delivered with
  | true => exact ages.accepted.subset before
  | false => exact (ages.ended _ before).1

theorem answered_of_offer {reply : Reply} (sound : f.Sound)
    (turn : f.errands[n]? = some (.inbound sender message (.answered reply)))
    (hub : f'.hub = (f.hub.offer sender reply.text).2) :
    f'.Answered sender reply (f.hub.offer sender reply.text).1 := by
  intro s' there' own
  rw [hub] at there'
  obtain ⟨s, there, rfl⟩ := mem_update there'
  have own : s.id = sender := by
    split at own
    · rwa [Session.id_offer] at own
    · exact own
  subst own
  rw [if_pos rfl, offer, session?_of_mem sound there, Option.any_some]
  cases isOpen : s.isOpen with
  | true => simp [Session.accepted_offer, isOpen]
  | false =>
      rw [if_neg (by simp), Session.writer_offer]
      exact failed_of_not_isOpen sound turn rfl there isOpen

theorem exists_session_of_holding {service : Service} (sound : f.Sound)
    (turn : f.errands[n]? = some (.inbound sender message service)) (holding : service.isHolding) :
    ∃ s ∈ f.hub.sessions, s.id = sender := by
  have held : 0 < (f.life sender).crew .holding := crew_pos turn (if_pos ⟨rfl, holding⟩)
  have only {s : Session} (same : f.hub.own sender = [s]) : ∃ s ∈ f.hub.sessions, s.id = sender :=
    ⟨s, mem_own.mp (same ▸ List.mem_singleton_self s)⟩
  cases sound.lives sender with
  | absent _ _ crew => rw [crew] at held; cases held
  | waiting same | started same => exact only same

theorem numbered_of_holding {service : Service} (sound : f.Sound)
    (turn : f.errands[n]? = some (.inbound sender message service)) (holding : service.isHolding) :
    sender < f.hub.nextId := by
  obtain ⟨s, there, rfl⟩ := exists_session_of_holding sound turn holding
  exact (sound.session there).2.2

/-- How far a call has come that had looked its sender up, and what became of its answer. -/
structure Goes (f : Foyer) (n : Nat) (sender : SessionId) (message : Text) (service : Service) :
    Prop where
  turn : f.errands[n]? = some (.inbound sender message service)
  known : service ≠ .unknownSender
  numbered : sender < f.hub.nextId
  answered : ∀ reply delivered, service.delivery? = some (reply, delivered) →
    f.Answered sender reply delivered

theorem Goes.step {service : Service} {e : Event} (h : f.Goes n sender message service)
    (sound : f.Sound) (step : f.step? e = some f') :
    ∃ service', f'.Goes n sender message service' := by
  have moves := moves_of_step? step
  have numbered : sender < f'.hub.nextId := by
    rw [nextId_of_moves moves]
    exact Nat.lt_of_lt_of_le h.numbered (Nat.le_add_right ..)
  have begun := (List.getElem?_eq_some_iff.mp h.turn).1
  have once : f.run? [e] = some f' := runs.single step
  obtain ⟨service', turn'⟩ := inbound_stays once h.turn
  have onward {reply : Reply} {delivered : Bool}
      (told : service.delivery? = some (reply, delivered)) :
      f'.Answered sender reply delivered :=
    (h.answered reply delivered told).step sound h.numbered step
  have rest : service' ≠ .unknownSender ∧
      ∀ reply delivered, service'.delivery? = some (reply, delivered) →
      f'.Answered sender reply delivered := by
    cases attends_of_moves moves turn' with
    | rest old =>
        cases h.turn.symm.trans old
        exact ⟨h.known, fun _ _ => onward⟩
    | refuse place | lookUp place => omega
    | serve old serves =>
        cases h.turn.symm.trans old
        generalize hub : f'.hub = after at serves
        cases serves with
        | decide | look | compose => exact ⟨nofun, nofun⟩
        | answer | grant =>
            refine ⟨nofun, fun reply delivered told => ?_⟩
            cases told
            exact answered_of_offer sound h.turn hub
        | lookAgain | reach | comeBack | letGo => exact ⟨nofun, fun _ _ => onward⟩
    | announce old =>
        cases h.turn.symm.trans old
        exact ⟨nofun, fun _ _ => onward⟩
  exact ⟨service', turn', rest.1, numbered, rest.2⟩

theorem goes_of_run {events : List Event} (sound : f.Sound)
    (turn : f.errands[n]? = some (.inbound sender message .lookedUp))
    (run : f.run? events = some f') :
    ∃ service, f'.Goes n sender message service := by
  refine runs.induction
    (motive := fun _ now => ∃ service, now.Goes n sender message service) ?_ ?_ run
  · exact ⟨.lookedUp, turn, nofun, numbered_of_holding sound turn rfl, nofun⟩
  · intro _ u e v before ⟨service, goes⟩ step
    exact goes.step (sound.run before) step

/-- A session that is closed without a failed write has been written the answer of every call
    that looked it up. -/
theorem written_of_closed {events : List Event} (sound : f.Sound)
    (turn : f.errands[n]? = some (.inbound s.id message .lookedUp)) (run : f.run? events = some f')
    (there : s ∈ f'.hub.sessions) (closed : s.stage = .closed)
    (healthy : s.writer.ending? ≠ some .failed) :
    ∃ delivery, f'.errands[n]? = some (.inbound s.id message (.returned delivery)) ∧
      delivery.delivered ∧ delivery.reply.text ∈ s.written := by
  obtain ⟨service, goes⟩ := goes_of_run sound turn run
  have sound' := sound.run run
  obtain ⟨-, intact, -⟩ := sound'.session there
  have drained : s.writer.ending? = some .drained := by
    have stopped := intact.stage
    rw [closed] at stopped
    obtain ⟨ending, ended⟩ := Session.Writer.exists_ending_of_closed stopped.symm
    cases ending with
    | drained => exact ended
    | failed => exact absurd ended healthy
  have free := holds_eq_zero_of_drained sound' there drained
  have finished : service.isHolding = false := by
    rw [Bool.eq_false_iff]
    intro holding
    have := holds_pos sound' goes.turn there (if_pos ⟨rfl, holding⟩) (.inr rfl)
    omega
  have returned : ∃ delivery, service = .returned delivery := by
    have known := goes.known
    cases service with
    | returned delivery => exact ⟨delivery, rfl⟩
    | unknownSender => exact absurd rfl known
    | lookedUp | answering | answered | announcing | onRound | served => cases finished
  obtain ⟨delivery, rfl⟩ := returned
  refine ⟨delivery, goes.turn, ?_⟩
  have answered := goes.answered delivery.reply delivery.delivered rfl s there rfl
  have flows := intact.flows
  simp only [Session.Flows, drained] at flows
  cases taken : delivery.delivered with
  | true =>
      rw [taken, if_pos rfl, flows.1] at answered
      exact ⟨rfl, answered⟩
  | false =>
      rw [taken, if_neg (by simp)] at answered
      exact absurd answered healthy

end Foyer

/-! ## Answers to nobody in particular -/

/-- Answer a message and announce what was booked. -/
def proclaim (h : Hub) (message : Text) : Reply × Hub :=
  let (reply, h) := h.dispatch message
  (reply, if reply.announce then (h.fanOut h.announcement).2 else h)

variable {h : Hub} {id : SessionId}

theorem fanOut_offer (unregistered : ¬ h.isRegistered id) (frame answer : Text) :
    ((h.offer id answer).2.fanOut frame).2 = ((h.fanOut frame).2.offer id answer).2 := by
  have told := fanOut_map h (fun s => if s.id = id then s.offer answer else s) frame
    (fun s => by split <;> simp) (fun s => by split <;> simp [Session.isOpen_offer])
    (fun s reached => by
      have other : s.id ≠ id := fun same => unregistered (same ▸ reached)
      simp [other])
  exact congrArg Prod.snd told

theorem answer_of_unregistered (unregistered : ¬ h.isRegistered id) (message : Text) :
    (h.held id).answer id message =
      (if (h.session? id).any (·.isOpen) then .ok (h.proclaim message).1 else .error (.closed id),
        ((h.proclaim message).2.offer id (h.proclaim message).1.text).2) := by
  obtain ⟨reply, dispatched, same⟩ : ∃ reply hub, h.dispatch message = (reply, hub) := ⟨_, _, rfl⟩
  have after : (h.dispatch message).2 = dispatched := congrArg Prod.snd same
  have known : dispatched.session? id = h.session? id := by
    rw [session?, ← after, dispatch_sessions, session?]
  have still : ¬ dispatched.isRegistered id := by
    rwa [isRegistered, ← after, dispatch_registry]
  rw [answer_held, proclaim, same]
  dsimp only
  refine Prod.ext ?_ ?_
  · rw [offer, known]
  · by_cases announced : reply.announce
    · rw [if_pos announced, if_pos announced]
      exact fanOut_offer still dispatched.announcement reply.text
    · rw [if_neg announced, if_neg announced]

theorem mem_proclaim {s : Session} (there : s ∈ h.sessions) (unregistered : ¬ h.isRegistered s.id)
    (message : Text) : s ∈ (h.proclaim message).2.sessions := by
  obtain ⟨reply, dispatched, same⟩ : ∃ reply hub, h.dispatch message = (reply, hub) := ⟨_, _, rfl⟩
  have after : (h.dispatch message).2 = dispatched := congrArg Prod.snd same
  have there : s ∈ dispatched.sessions := by rwa [← after, dispatch_sessions]
  have still : ¬ dispatched.isRegistered s.id := by rwa [isRegistered, ← after, dispatch_registry]
  rw [proclaim, same]
  dsimp only
  split
  · exact List.mem_map.mpr ⟨s, there, if_neg still⟩
  · exact there

/-! ## Calls that are overtaken -/

namespace Foyer

/-- What the call in place `n`, which has looked its sender up in the first foyer, comes to. The
    second foyer is where the others went without it. -/
structure Effective (f g : Foyer) (n : Nat) (sender : SessionId) (message : Text) : Prop where
  /-- If nobody has the lock, the call can take the rest of its steps alone and return. -/
  finishes : f.isWritable → ∃ delivery last, f.Finishes n sender message delivery last
  /-- If it takes the rest of its steps alone and returns, it has done what is done in one go. -/
  alone : ∀ delivery last, f.Finishes n sender message delivery last → f.hub.answer sender message =
    (if delivery.delivered then .ok delivery.reply else .error (.closed sender), last.hub)
  /-- If the sender is still registered, the call does what it does when it is made only now. -/
  registered : sender ∈ f.hub.registry → f.hub.answer sender message = g.hub.inbound sender message
  /-- If the sender was removed and no write to it has failed, the message is answered and
      announced, and then its queue takes the answer. -/
  removed : sender ∉ f.hub.registry →
    (∀ s ∈ f.hub.sessions, s.id = sender → s.writer.ending? ≠ some .failed) →
      f.hub.answer sender message =
        (.ok (g.hub.proclaim message).1,
          ((g.hub.proclaim message).2.offer sender (g.hub.proclaim message).1.text).2) ∧
      ∃ s ∈ g.hub.sessions, s.id = sender ∧
        ∃ s' ∈ (f.hub.answer sender message).2.sessions, s'.id = sender ∧
          s'.accepted = s.accepted ++ [(g.hub.proclaim message).1.text]
  /-- Whatever happens later, the sender is not closed before the answer is written,
      unless a write fails. -/
  written : ∀ later f', f.run? later = some f' → ∀ s ∈ f'.hub.sessions, s.id = sender →
    s.stage = .closed → s.writer.ending? ≠ some .failed →
      ∃ delivery, f'.errands[n]? = some (.inbound sender message (.returned delivery)) ∧
        delivery.delivered ∧ delivery.reply.text ∈ s.written

/-- Where no write has failed, the sender of the call is there without it, with an open queue. -/
theorem Shadow.exists_open {g : Foyer} (h : Shadow n sender message f g) (sound : f.Sound)
    (healthy : ∀ s ∈ f.hub.sessions, s.id = sender → s.writer.ending? ≠ some .failed) :
    ∃ s, g.hub.session? sender = some s ∧ s.isOpen := by
  obtain ⟨held, there, rfl⟩ := exists_session_of_holding sound h.turn rfl
  have isOpen : held.isOpen := by
    rw [← Bool.not_eq_false]
    exact fun closed => healthy held there rfl (failed_of_not_isOpen sound h.turn rfl there closed)
  have found := session?_of_mem sound there
  rw [h.hub, session?_held, Option.map_eq_some_iff] at found
  obtain ⟨s, found, same⟩ := found
  exact ⟨s, found, by rwa [← s.isOpen_heldAs, same]⟩

theorem Shadow.effective {g : Foyer} (h : Shadow n sender message f g) (sound : f.Sound) :
    f.Effective g n sender message where
  finishes := Foyer.finishes sound h.turn
  alone := by
    intro delivery last finishes
    exact answer_of_finishes sound h.turn finishes
  registered := by
    intro there
    have registered : g.hub.isRegistered sender := isRegistered_iff.mpr (h.registry ▸ there)
    rw [inbound, lookUp, if_pos registered, h.hub]
    rfl
  removed := by
    intro gone healthy
    have unregistered : ¬ g.hub.isRegistered sender := by
      rwa [h.registry, ← isRegistered_iff] at gone
    obtain ⟨s, found, isOpen⟩ := h.exists_open sound healthy
    obtain ⟨there, rfl⟩ := mem_of_session? found
    have answers := answer_of_unregistered unregistered message
    rw [found, Option.any_some, if_pos isOpen, ← h.hub] at answers
    refine ⟨answers, s, there, rfl, s.offer (g.hub.proclaim message).1.text, ?_, s.id_offer _, ?_⟩
    · rw [answers]
      exact List.mem_map.mpr ⟨s, mem_proclaim there unregistered message, if_pos rfl⟩
    · rw [Session.accepted_offer, if_pos isOpen]
  written := by
    rintro later f' run s there rfl closed healthy
    exact written_of_closed sound h.turn run there closed healthy

/-- Overlapping calls take effect where they are dispatched. Whatever happens after a call has
    looked its sender up happens as well where the call was never made, and from there on the call
    does what it does when it is made only now. -/
theorem effective_at_dispatch {programme : Programme} {limit : Option Nat}
    {before meanwhile : List Event} {begun : Foyer}
    (run : (idle programme limit).run? before = some f) (registered : sender ∈ f.hub.registry)
    (begins : f.step? (.begin (.inbound sender message)) = some begun)
    (others : ∀ e ∈ meanwhile, e.call? ≠ some f.errands.length)
    (went : begun.run? meanwhile = some f') :
    ∃ g, f.run? (meanwhile.map (·.closeUp f.errands.length)) = some g ∧
      f'.Effective g f.errands.length sender message := by
  have sound := Sound.of_run run
  have sound' := sound.step begins
  have shadow := Shadow.of_begin (isRegistered_iff.mpr registered) begins
  have numbered := numbered_of_holding sound' shadow.turn rfl
  rw [shadow.hub] at numbered
  obtain ⟨g, run', shadow'⟩ := shadow.run sound numbered others went
  exact ⟨g, run', shadow'.effective (sound'.run went)⟩

def arrival : List Event :=
  [.begin (.connect ⟨none, false, false⟩ true), .proceed 0, .proceed 0, .proceed 0, .proceed 0]

def arrived : Foyer := ((idle .single none).run? arrival).get (by decide +kernel)

def asking : Foyer :=
  (arrived.step? (.begin (.inbound 1 "PVR,Inception,2"))).get (by decide +kernel)

/-- The customer is sent away before the request is read. -/
def sentAway : Foyer := (asking.run? [.begin (.disconnect 1), .proceed 2]).get (by decide +kernel)

/-- The request is granted all the same, and the customer who was sent away gets the answer. -/
theorem sentAway_effective : 1 ∈ arrived.hub.registry ∧ 1 ∉ sentAway.hub.registry ∧
    ∃ g, arrived.run? [.begin (.disconnect 1), .proceed 1] = some g ∧
      sentAway.Effective g 1 1 "PVR,Inception,2" ∧
      sentAway.hub.answer 1 "PVR,Inception,2" =
        (.ok (g.hub.proclaim "PVR,Inception,2").1,
          ((g.hub.proclaim "PVR,Inception,2").2.offer 1
            (g.hub.proclaim "PVR,Inception,2").1.text).2) := by
  have run : (idle .single none).run? arrival = some arrived := (Option.some_get _).symm
  have registered : 1 ∈ arrived.hub.registry := by decide +kernel
  have begins : arrived.step? (.begin (.inbound 1 "PVR,Inception,2")) = some asking :=
    (Option.some_get _).symm
  have others :
      ∀ e ∈ [Event.begin (.disconnect 1), .proceed 2], e.call? ≠ some arrived.errands.length := by
    decide +kernel
  have went : asking.run? [.begin (.disconnect 1), .proceed 2] = some sentAway :=
    (Option.some_get _).symm
  have gone : 1 ∉ sentAway.hub.registry := by decide +kernel
  have healthy : ∀ s ∈ sentAway.hub.sessions, s.id = 1 → s.writer.ending? ≠ some .failed := by
    decide +kernel
  obtain ⟨g, run', effective⟩ := effective_at_dispatch run registered begins others went
  exact ⟨registered, gone, g, run', effective, (effective.removed gone healthy).1⟩

end Foyer

end BoxOffice.Hub
