import BoxOffice.Proofs.Undisturbed

/-! # A call that only holds a queue

A call that has looked its sender up and goes no further keeps the queue of the sender from ending,
and does nothing else. Whatever the others do meanwhile they can do as well without it, and it comes
to the same (`Shadow.run`).
-/

namespace BoxOffice

/-! ## One more hold on a queue -/

namespace Session

/-- The session with one more hold on its queue, if it has that number. -/
def heldAs (s : Session) (id : SessionId) : Session := if s.id = id then s.hold else s

variable {s next : Session} {id : SessionId}

theorem heldAs_self (own : s.id = id) : s.heldAs id = s.hold := if_pos own

theorem heldAs_other (other : s.id ≠ id) : s.heldAs id = s := if_neg other

@[simp] theorem id_heldAs (s : Session) (id : SessionId) : (s.heldAs id).id = s.id := by
  unfold heldAs
  split <;> rfl

@[simp] theorem isOpen_heldAs (s : Session) (id : SessionId) : (s.heldAs id).isOpen = s.isOpen := by
  unfold heldAs
  split <;> rfl

@[simp] theorem writer_heldAs (s : Session) (id : SessionId) : (s.heldAs id).writer = s.writer := by
  unfold heldAs
  split <;> rfl

theorem heldAs_congr {change : Session → Session} (keeps : ∀ s, (change s).id = s.id)
    (hold : s.id = id → change s.hold = (change s).hold) :
    change (s.heldAs id) = (change s).heldAs id := by
  by_cases own : s.id = id
  · rw [heldAs_self own, heldAs_self ((keeps s).trans own), hold own]
  · rw [heldAs_other own, heldAs_other (fun same => own ((keeps s).symm.trans same))]

theorem offer_hold (s : Session) (frame : Text) : s.hold.offer frame = (s.offer frame).hold := by
  by_cases isOpen : s.isOpen <;> simp [offer, hold, isOpen]

theorem release_hold (held : 0 < s.holds) : s.hold.release = s.release.hold := by
  have counted : s.holds + 1 - 1 = s.holds - 1 + 1 := by omega
  simp only [hold, release, counted]

/-- The writer of a session that is held never drains, so it does nothing that it may not do
    without the hold. -/
theorem Writes.of_hold {canStillCome : Bool} (writes : s.hold.Writes true next) :
    ∃ next', s.writerStep canStillCome = some next' ∧ next = next'.hold := by
  simp only [writerStep]
  cases writes with
  | @take frame rest stand more =>
      rw [show s.writer = .waiting from stand, show s.queue = frame :: rest from more]
      exact ⟨_, rfl, rfl⟩
  | drain _ _ gone => cases gone
  | @write frame stand verdict =>
      rw [show s.writer = .writing frame from stand]
      dsimp only
      rw [show s.sink.verdict s.written.length = .written from verdict]
      exact ⟨_, rfl, rfl⟩
  | @fail frame stand verdict =>
      rw [show s.writer = .writing frame from stand]
      dsimp only
      rw [show s.sink.verdict s.written.length = .failed from verdict]
      exact ⟨_, rfl, rfl⟩
  | @close ending stand =>
      rw [show s.writer = .closingQueue ending from stand]
      exact ⟨_, rfl, rfl⟩
  | @stop ending stand =>
      rw [show s.writer = .finishing ending from stand]
      exact ⟨_, rfl, rfl⟩

end Session

namespace Hub

/-- The hub with one more hold on the queue of a session. -/
def held (h : Hub) (id : SessionId) : Hub := h.update id .hold

variable {h : Hub} {i id : SessionId}

theorem sessions_held (h : Hub) (id : SessionId) :
    (h.held id).sessions = h.sessions.map (·.heldAs id) := rfl

theorem session?_held (h : Hub) (id i : SessionId) :
    (h.held id).session? i = (h.session? i).map (·.heldAs id) := by
  simp only [session?, sessions_held, List.find?_map, Function.comp_def, Session.id_heldAs]

/-! ## Steps beside a hold -/

/-- What is done to one session is done alike before and after the hold, if it does
    not depend on it. -/
theorem update_held {change change' : Session → Session}
    (alike : ∀ s ∈ h.sessions, s.id = i → change' (s.heldAs id) = (change s).heldAs id) :
    (h.held id).update i change' = (h.update i change).held id := by
  have sessions : (h.held id).sessions.map (fun s => if s.id = i then change' s else s) =
      (h.sessions.map fun s => if s.id = i then change s else s).map (·.heldAs id) := by
    rw [sessions_held, List.map_map, List.map_map]
    apply List.map_congr_left
    intro s there
    simp only [Function.comp_apply, Session.id_heldAs]
    split
    · rename_i own
      exact alike s there own
    · rfl
  exact congrArg (fun sessions => { h with sessions }) sessions

theorem update_held_of_hold {change : Session → Session} (keeps : ∀ s, (change s).id = s.id)
    (hold : ∀ s, change s.hold = (change s).hold) :
    (h.held id).update i change = (h.update i change).held id :=
  update_held fun s _ _ => Session.heldAs_congr keeps fun _ => hold s

theorem offer_held (h : Hub) (id i : SessionId) (frame : Text) :
    (h.held id).offer i frame = ((h.offer i frame).1, (h.offer i frame).2.held id) := by
  refine Prod.ext ?_ ?_
  · simp only [offer, session?_held, Option.any_map, Session.isOpen_heldAs]
  · exact update_held_of_hold (Session.id_offer · frame) (Session.offer_hold · frame)

theorem assign_held (other : id ≠ h.nextId) (sink : Session.Sink) :
    (h.held id).assign sink = (h.assign sink).held id := by
  have new : (Session.blank h.nextId sink).heldAs id = .blank h.nextId sink :=
    Session.heldAs_other (Ne.symm other)
  have sessions : (h.held id).sessions ++ [Session.blank h.nextId sink] =
      (h.sessions ++ [Session.blank h.nextId sink]).map (·.heldAs id) := by
    rw [List.map_append, List.map_singleton, new, sessions_held]
  exact congrArg (fun sessions => { h with sessions, nextId := h.nextId + 1 }) sessions

theorem lookUp_held (h : Hub) (id i : SessionId) :
    (h.held id).lookUp i = (h.lookUp i).map (·.held id) := by
  have hold : (h.held id).update i .hold = (h.update i .hold).held id :=
    update_held_of_hold (·.id_hold) fun _ => rfl
  simp only [lookUp, hold]
  rw [show (h.held id).isRegistered i = h.isRegistered i from rfl]
  split <;> rfl

theorem remove_held (h : Hub) (id i : SessionId) :
    (h.held id).remove i = ((h.remove i).1, (h.remove i).2.held id) := by
  simp only [remove]
  rw [show (h.held id).isRegistered i = h.isRegistered i from rfl]
  split <;> rfl

theorem drain_held (h : Hub) (id : SessionId) :
    (h.held id).drain = (h.drain.1, h.drain.2.held id) := by
  have numbers : (h.held id).sessions.map (·.id) = h.sessions.map (·.id) := by
    simp only [sessions_held, List.map_map, Function.comp_def, Session.id_heldAs]
  simp only [drain, numbers]
  rfl

theorem dismiss_held (h : Hub) (id i : SessionId) :
    (h.held id).dismiss i = (h.dismiss i).held id := by
  have sessions : (h.held id).sessions.filter (fun s => s.id ≠ i) =
      (h.sessions.filter fun s => s.id ≠ i).map (·.heldAs id) := by
    simp only [sessions_held, List.filter_map, Function.comp_def, Session.id_heldAs]
  exact congrArg (fun sessions => { h with sessions }) sessions

theorem activate_held (h : Hub) (id i : SessionId) :
    (h.held id).activate i = (h.activate i).held id :=
  update_held_of_hold (fun _ => rfl) fun _ => rfl

/-- Letting a queue go beside the hold takes back another hold. -/
theorem letGo_held (held : ∀ s ∈ h.sessions, s.id = i → 0 < s.holds) :
    (h.held id).letGo i = (h.letGo i).held id :=
  update_held fun s there own =>
    Session.heldAs_congr (·.id_release) fun _ => Session.release_hold (held s there own)

theorem enter_held (held : ∀ s ∈ h.sessions, s.id = i → 0 < s.holds) :
    (h.held id).enter i = (h.enter i).held id := by
  have released : (h.held id).letGo i = (h.letGo i).held id := letGo_held held
  unfold letGo at released
  simp only [enter, released]
  rfl

theorem countAnswer_held (h : Hub) (id : SessionId) (reply : Reply) :
    (h.held id).countAnswer reply = (h.countAnswer reply).held id := by
  unfold countAnswer
  split <;> rfl

theorem next?_held (h : Hub) (id : SessionId) (round : Round) :
    round.next? (h.held id) = (round.next? h).map fun (round, h) => (round, h.held id) := by
  obtain ⟨frame, ahead, reached⟩ := round
  cases ahead with
  | nil => rfl
  | cons i ahead =>
      simp only [Round.next?, offer_held]
      rfl

/-! ## Calls in one go -/

theorem dispatch_held (h : Hub) (id : SessionId) (message : Text) :
    (h.held id).dispatch message = ((h.dispatch message).1, (h.dispatch message).2.held id) := by
  simp only [dispatch_eq]
  rw [← countAnswer_held]
  rfl

theorem offers_congr (sessions : List Session) {change : Session → Session} (frame : Text)
    (registered : SessionId → Bool) (keeps : ∀ s, (change s).id = s.id)
    (alike : ∀ s, registered s.id → (change s).offer frame = change (s.offer frame)) :
    (sessions.map change).map (fun s => if registered s.id then s.offer frame else s) =
      (sessions.map fun s => if registered s.id then s.offer frame else s).map change := by
  rw [List.map_map, List.map_map]
  apply List.map_congr_left
  intro s there
  simp only [Function.comp_apply, keeps]
  split
  · rename_i reached
    exact alike s reached
  · rfl

/-- A frame for everyone reaches the same sessions after a change that opens and closes no queue. -/
theorem fanOut_map (h : Hub) (change : Session → Session) (frame : Text)
    (keeps : ∀ s, (change s).id = s.id) (opens : ∀ s, (change s).isOpen = s.isOpen)
    (alike : ∀ s, h.isRegistered s.id → (change s).offer frame = change (s.offer frame)) :
    fanOut { h with sessions := h.sessions.map change } frame =
      ((h.fanOut frame).1,
        { (h.fanOut frame).2 with sessions := (h.fanOut frame).2.sessions.map change }) := by
  have reached : recipients { h with sessions := h.sessions.map change } = h.recipients := by
    simp only [recipients, List.filter_map, List.map_map, Function.comp_def, keeps, opens]
    rfl
  have offers := offers_congr h.sessions frame h.isRegistered keeps alike
  refine Prod.ext reached ?_
  simp only [fanOut, reached]
  exact congrArg (fun sessions => { h with sessions }.count (.announced h.recipients.length)) offers

theorem fanOut_held (h : Hub) (id : SessionId) (frame : Text) :
    (h.held id).fanOut frame = ((h.fanOut frame).1, (h.fanOut frame).2.held id) :=
  fanOut_map h (·.heldAs id) frame (·.id_heldAs id) (·.isOpen_heldAs id) fun s _ =>
    Session.heldAs_congr (Session.id_offer · frame) fun _ => Session.offer_hold s frame

theorem letGo_held_self (h : Hub) (id : SessionId) : (h.held id).letGo id = h := by
  have sessions : (h.sessions.map (·.heldAs id)).map (fun s => if s.id = id then s.release else s) =
      h.sessions := by
    rw [List.map_map]
    conv => rhs; rw [← List.map_id h.sessions]
    apply List.map_congr_left
    intro s _
    by_cases own : s.id = id
    · rw [Function.comp_apply, if_pos ((s.id_heldAs id).trans own), Session.heldAs_self own]
      rfl
    · rw [Function.comp_apply, if_neg (fun same => own ((s.id_heldAs id).symm.trans same)),
        Session.heldAs_other own]
      rfl
  exact congrArg (fun sessions => { h with sessions }) sessions

/-- What follows in an inbound call, told without the hold on the queue of the sender. -/
theorem answer_held (h : Hub) (id : SessionId) (message : Text) :
    (h.held id).answer id message =
      let (reply, after) := h.dispatch message
      let (delivered, after) := after.offer id reply.text
      (if delivered then .ok reply else .error (.closed id),
        if reply.announce then (after.fanOut after.announcement).2 else after) := by
  obtain ⟨reply, dispatched, same⟩ : ∃ reply hub, h.dispatch message = (reply, hub) := ⟨_, _, rfl⟩
  simp only [answer, dispatch_held, same, offer_held]
  by_cases announced : reply.announce
  · rw [if_pos announced, if_pos announced, fanOut_held, letGo_held_self]
    rfl
  · rw [if_neg announced, if_neg announced, letGo_held_self]

/-! ## The writers -/

theorem canStillCome_held (h : Hub) (id : SessionId) (s : Session) :
    (h.held id).canStillCome (s.heldAs id) = (s.id == id || h.canStillCome s) := by
  by_cases own : s.id = id
  · simp [canStillCome, Session.heldAs_self own, Session.hold, own]
  · simp only [canStillCome, Session.heldAs_other own, beq_false_of_ne own, Bool.false_or]
    rfl

theorem ownStep_held {s next : Session}
    (step : (s.heldAs id).writerStep ((h.held id).canStillCome (s.heldAs id)) = some next) :
    ∃ next', s.writerStep (h.canStillCome s) = some next' ∧ next = next'.heldAs id := by
  rw [canStillCome_held] at step
  by_cases own : s.id = id
  · rw [Session.heldAs_self own, beq_iff_eq.mpr own, Bool.true_or] at step
    obtain ⟨next', goes, rfl⟩ : ∃ next', s.writerStep (h.canStillCome s) = some next' ∧
        next = next'.hold :=
      (Session.writes_of_writerStep step).of_hold
    have number := (Session.writes_of_writerStep goes).id
    exact ⟨next', goes, (Session.heldAs_self (number.trans own)).symm⟩
  · rw [Session.heldAs_other own, beq_false_of_ne own, Bool.false_or] at step
    have number := (Session.writes_of_writerStep step).id
    exact ⟨next, step, (Session.heldAs_other (number ▸ own)).symm⟩

theorem isLeaving_held (h : Hub) (id i : SessionId) : (h.held id).isLeaving i = h.isLeaving i := by
  simp only [isLeaving, session?_held, Option.any_map, Session.writer_heldAs]

theorem writerStep_held {hub : Hub} (step : (h.held id).writerStep i = some hub) :
    ∃ hub', h.writerStep i = some hub' ∧ hub = hub'.held id := by
  simp only [writerStep, Option.bind_eq_bind, Option.bind_eq_some_iff, session?_held,
    Option.map_eq_some_iff] at step
  obtain ⟨_, ⟨s, found, rfl⟩, step⟩ := step
  have replaced (next : Session) :
      (h.held id).update i (fun _ => next.heldAs id) = (h.update i fun _ => next).held id :=
    update_held fun _ _ _ => rfl
  have moved (hub : Hub) (writer : Session.Writer) :
      (hub.held id).update i (fun s => { s with writer }) =
      (hub.update i fun s => { s with writer }).held id :=
    update_held_of_hold (fun _ => rfl) fun _ => rfl
  simp only [writerStep, found, Option.bind_eq_bind, Option.bind_some]
  rw [Session.writer_heldAs] at step
  cases stand : s.writer with
  | leaving ending =>
      simp only [stand, remove_held] at step ⊢
      generalize h.remove i = removed at step ⊢
      obtain ⟨remaining, hub⟩ := removed
      cases remaining with
      | none | some =>
          cases step
          exact ⟨_, rfl, moved hub _⟩
  | telling ending remaining =>
      simp only [stand] at step ⊢
      cases step
      exact ⟨_, rfl, moved (h.count (.disconnected remaining)) _⟩
  | writing frame =>
      simp only [stand, Option.bind_eq_some_iff] at step ⊢
      obtain ⟨_, writes, step⟩ := step
      obtain ⟨next, goes, rfl⟩ := ownStep_held writes
      rw [replaced, Session.writer_heldAs] at step
      split at step <;> cases step
      · rename_i failed
        exact ⟨_, ⟨next, goes, if_pos failed⟩, rfl⟩
      · rename_i kept
        exact ⟨_, ⟨next, goes, if_neg kept⟩, rfl⟩
  | unstarted | waiting | closingQueue | finishing | stopped =>
      simp only [stand, Option.bind_eq_some_iff] at step ⊢
      obtain ⟨_, writes, step⟩ := step
      obtain ⟨next, goes, rfl⟩ := ownStep_held writes
      rw [replaced] at step
      cases step
      exact ⟨_, ⟨next, goes, rfl⟩, rfl⟩

namespace Foyer

theorem serve?_held {sender : SessionId} {service : Service} (message : Text)
    (held : service.isHolding → ∀ s ∈ h.sessions, s.id = sender → 0 < s.holds) :
    serve? (h.held id) sender message service =
      (serve? h sender message service).map fun (next, h) => (next, h.held id) := by
  cases service with
  | unknownSender | returned | lookedUp => rfl
  | answering result survey =>
      simp only [serve?, countAnswer_held]
      rw [show (h.held id).programme = h.programme from rfl]
      split <;> rfl
  | answered reply =>
      simp only [serve?, offer_held]
      split <;> rfl
  | announcing reply delivered survey =>
      simp only [serve?]
      rw [show (h.held id).programme = h.programme from rfl, Option.map_map]
      rfl
  | onRound reply delivered round =>
      simp only [serve?, next?_held]
      cases round.next? h <;> rfl
  | served delivery =>
      simp only [serve?, letGo_held (held rfl)]
      rfl

theorem holds_pos {f : Foyer} {n : Nat} {d : Errand} {s : Session} {r : Role} (sound : f.Sound)
    (turn : f.errands[n]? = some d) (there : s ∈ f.hub.sessions) (role : d.role? s.id = some r)
    (holds : r = .entering ∨ r = .holding) : 0 < s.holds := by
  have counted : 0 < (f.life s.id).crew r := crew_pos turn role
  have sessions := (sound.session there).1
  cases sound.lives s.id with
  | absent none => rw [none] at sessions; cases sessions
  | waiting _ _ _ _ _ _ _ entering holding =>
      rcases holds with rfl | rfl <;> omega
  | started same _ _ _ started =>
      rw [sessions, List.cons.injEq] at same
      rw [same.1, started.holds]
      rcases holds with rfl | rfl <;> omega

/-! ## The foyer without the call -/

/-- The second foyer is the first one without the call in place `n`, which has looked its sender
    up. -/
structure Shadow (n : Nat) (sender : SessionId) (message : Text) (f g : Foyer) : Prop where
  turn : f.errands[n]? = some (.inbound sender message .lookedUp)
  errands : g.errands = f.errands.eraseIdx n
  hub : f.hub = g.hub.held sender

/-- The event where the call in place `n` was never made: later calls have moved up. -/
def Event.closeUp (n : Nat) : Event → Event
  | .proceed m => .proceed (if m < n then m else m - 1)
  | .setOut m order => .setOut (if m < n then m else m - 1) order
  | e => e

namespace Shadow

variable {f g f' : Foyer} {n m : Nat} {sender : SessionId} {message : Text}

theorem of_begin (registered : f.hub.isRegistered sender)
    (step : f.step? (.begin (.inbound sender message)) = some f') :
    Shadow f.errands.length sender message f' f := by
  simp only [step?, begin?, lookUp, registered, if_true] at step
  split at step
  · cases step
    exact ⟨List.getElem?_concat_length, by simp [List.eraseIdx_append_of_length_le], rfl⟩
  · cases step

theorem lt_length (h : Shadow n sender message f g) : n < f.errands.length :=
  (List.getElem?_eq_some_iff.mp h.turn).1

theorem perm (h : Shadow n sender message f g) :
    (.inbound sender message .lookedUp :: g.errands).Perm f.errands := by
  rw [h.errands]
  exact perm_eraseIdx h.turn

theorem isReadable (h : Shadow n sender message f g) : f.isReadable = g.isReadable := by
  rw [Foyer.isReadable, ← h.perm.all_eq]
  rfl

theorem isWritable (h : Shadow n sender message f g) : f.isWritable = g.isWritable := by
  rw [Foyer.isWritable, ← h.perm.all_eq]
  rfl

theorem registry (h : Shadow n sender message f g) : f.hub.registry = g.hub.registry := by
  rw [h.hub]
  rfl

theorem getElem? (h : Shadow n sender message f g) (other : m ≠ n) :
    g.errands[if m < n then m else m - 1]? = f.errands[m]? := by
  rw [h.errands]
  split
  · rename_i before
    exact List.getElem?_eraseIdx_of_lt before
  · rename_i after
    rw [List.getElem?_eraseIdx_of_ge (by omega)]
    congr 1
    omega

theorem begin (h : Shadow n sender message f g) {hub : Hub} {d : Errand} :
    Shadow n sender message ⟨hub.held sender, f.errands ++ [d]⟩ ⟨hub, g.errands ++ [d]⟩ where
  turn := by rw [List.getElem?_append_left h.lt_length, h.turn]
  errands := by rw [h.errands, List.eraseIdx_append_of_lt_length h.lt_length]
  hub := rfl

theorem set (h : Shadow n sender message f g) (other : m ≠ n) {hub : Hub} {d : Errand} :
    Shadow n sender message ⟨hub.held sender, f.errands.set m d⟩
      ⟨hub, g.errands.set (if m < n then m else m - 1) d⟩ where
  turn := by rw [List.getElem?_set_ne other, h.turn]
  errands := by
    rw [h.errands]
    split
    · rename_i before
      exact (List.eraseIdx_set_gt before).symm
    · rename_i after
      exact (List.eraseIdx_set_lt (by omega)).symm
  hub := rfl

theorem begin?_eq (h : Shadow n sender message f g) (numbered : sender ≠ g.hub.nextId)
    (command : Command) :
    f.begin? command = (g.begin? command).map fun (d, hub) => (d, hub.held sender) := by
  cases command with
  | connect sink bounded =>
      simp only [begin?, h.hub, assign_held numbered]
      rfl
  | inbound id text =>
      simp only [begin?, h.hub, h.isReadable, lookUp_held]
      split
      · cases g.hub.lookUp id <;> rfl
      · rfl
  | broadcast frame =>
      rw [begin?, h.hub]
      rfl
  | disconnect id =>
      simp only [begin?, h.hub, h.isWritable, remove_held]
      split
      · generalize g.hub.remove id = removed
        obtain ⟨remaining, hub⟩ := removed
        cases remaining <;> rfl
      · rfl
  | closeAll =>
      simp only [begin?, h.hub, h.isWritable, drain_held]
      split <;> rfl

theorem proceed?_eq (h : Shadow n sender message f g) (sound : g.Sound) {d : Errand}
    (turn : g.errands[m]? = some d) :
    f.proceed? d = (g.proceed? d).map fun (d, hub) => (d, hub.held sender) := by
  cases d with
  | greeting id bounded survey =>
      simp only [proceed?, h.hub, offer_held]
      rw [show (g.hub.held sender).programme = g.hub.programme from rfl]
      split <;> rfl
  | connecting id bounded =>
      simp only [proceed?, h.hub, h.isWritable, dismiss_held, activate_held]
      rw [show (g.hub.held sender).isFull = g.hub.isFull from rfl]
      split
      · split <;> rfl
      · rfl
  | entering id =>
      have held : ∀ s ∈ g.hub.sessions, s.id = id → 0 < s.holds := fun s there own =>
        holds_pos sound turn there (if_pos own.symm) (.inl rfl)
      simp only [proceed?, h.hub, enter_held held]
      rfl
  | inbound id text service =>
      have held (holding : service.isHolding) : ∀ s ∈ g.hub.sessions, s.id = id → 0 < s.holds :=
        fun s there own => holds_pos sound turn there (if_pos ⟨own.symm, holding⟩) (.inr rfl)
      simp only [proceed?, h.hub, serve?_held text held, Option.map_map]
      rfl
  | crying round =>
      simp only [proceed?, h.hub, next?_held]
      cases round.next? g.hub <;> rfl
  | disconnecting | connected | broadcasting | cried | disconnected =>
      simp only [proceed?, h.hub]
      rfl
  | closingAll ids uncounted =>
      cases uncounted <;> simp only [proceed?, h.hub] <;> rfl

/-- Whatever happens beside the call happens as well where the call was never made. -/
theorem step (h : Shadow n sender message f g) (sound : g.Sound) (numbered : sender ≠ g.hub.nextId)
    {e : Event} (others : e.call? ≠ some n) (step : f.step? e = some f') :
    ∃ g', g.step? (e.closeUp n) = some g' ∧ Shadow n sender message f' g' := by
  cases e with
  | begin command =>
      simp only [step?, h.begin?_eq numbered, Option.bind_eq_bind, Option.bind_eq_some_iff,
        Option.map_eq_some_iff] at step
      obtain ⟨_, ⟨⟨d, hub⟩, begins, rfl⟩, same⟩ := step
      cases same
      exact ⟨⟨hub, g.errands ++ [d]⟩, by simp [Event.closeUp, step?, begins], h.begin⟩
  | proceed m =>
      have other : m ≠ n := fun same => others (congrArg some same)
      simp only [step?, Option.bind_eq_bind, Option.bind_eq_some_iff] at step
      obtain ⟨d, turn, step⟩ := step
      rw [← h.getElem? other] at turn
      rw [h.proceed?_eq sound turn] at step
      simp only [Option.map_eq_some_iff] at step
      obtain ⟨_, ⟨⟨next, hub⟩, proceeds, rfl⟩, same⟩ := step
      cases same
      exact ⟨⟨hub, g.errands.set _ next⟩,
        by simp [Event.closeUp, step?, turn, proceeds], h.set other⟩
  | setOut m order =>
      have other : m ≠ n := fun same => others (congrArg some same)
      simp only [step?, h.isReadable, h.hub] at step
      rw [show (g.hub.held sender).registry = g.hub.registry from rfl] at step
      split at step
      · rename_i ready
        simp only [Option.bind_eq_bind, Option.bind_eq_some_iff] at step
        obtain ⟨d, turn, next, sets, same⟩ := step
        rw [← h.getElem? other] at turn
        cases same
        exact ⟨⟨g.hub, g.errands.set _ next⟩,
          by simp [Event.closeUp, step?, ready, turn, sets], h.set other⟩
      · cases step
  | write id =>
      simp only [step?, h.isWritable, h.hub, isLeaving_held] at step
      split at step
      · rename_i free
        simp only [Option.bind_eq_bind, Option.bind_eq_some_iff] at step
        obtain ⟨hub, writes, same⟩ := step
        cases same
        obtain ⟨hub', writes', rfl⟩ := writerStep_held writes
        exact ⟨⟨hub', g.errands⟩,
          by simp [Event.closeUp, step?, free, writes'], ⟨h.turn, h.errands, rfl⟩⟩
      · cases step
  | transport id sink =>
      have beside : (g.hub.held sender).update id (·.withSink fun _ => sink) =
          (g.hub.update id (·.withSink fun _ => sink)).held sender :=
        update_held_of_hold (·.id_withSink _) fun _ => rfl
      simp only [step?, h.hub, beside, Option.some.injEq] at step
      exact ⟨⟨g.hub.update id (·.withSink fun _ => sink), g.errands⟩, rfl,
        step ▸ ⟨h.turn, h.errands, rfl⟩⟩

/-- Whatever was done while the call only held the queue of its sender, the others
    could do without it. -/
theorem run (h : Shadow n sender message f g) (sound : g.Sound) (numbered : sender < g.hub.nextId)
    {events : List Event} (others : ∀ e ∈ events, e.call? ≠ some n)
    (run : f.run? events = some f') :
    ∃ g', g.run? (events.map (·.closeUp n)) = some g' ∧ Shadow n sender message f' g' := by
  induction events generalizing f g with
  | nil =>
      rw [runs.nil, Option.some.injEq] at run
      exact ⟨g, rfl, run ▸ h⟩
  | cons e events ih =>
      rw [runs.cons, Option.bind_eq_some_iff] at run
      obtain ⟨between, step, run⟩ := run
      obtain ⟨g₁, step', h₁⟩ :=
        h.step sound (Nat.ne_of_lt numbered) (others e (List.mem_cons_self ..)) step
      have later : g.hub.nextId ≤ g₁.hub.nextId := by
        rw [nextId_of_moves (moves_of_step? step')]
        exact Nat.le_add_right ..
      obtain ⟨g', run', h'⟩ := ih h₁ (sound.step step') (Nat.lt_of_lt_of_le numbered later)
        (fun e member => others e (List.mem_cons_of_mem _ member)) run
      refine ⟨g', ?_, h'⟩
      rw [List.map_cons, runs.cons, step', Option.bind_some, run']

end Shadow

end Foyer

end Hub

end BoxOffice
