import BoxOffice.Hub.Calls
import BoxOffice.Proofs.Offers

/-! # Calls that are left alone

If nobody else is at work while a call takes its steps in the foyer, it leaves the hub as the call
in one go leaves it, and returns the same (`undisturbed`).
-/

namespace BoxOffice.Hub

theorem call_connect (h : Hub) (sink : Session.Sink) (bounded : Bool) :
    h.call (.connect sink bounded) =
      (if ((h.allocate sink).2.enroll h.nextId bounded).1 then .connected h.nextId
        else .refused (.connecting h.nextId sink h.greeting),
        ((h.allocate sink).2.enroll h.nextId bounded).2) := by
  simp only [call, connect]
  rw [show (h.allocate sink).1 = h.nextId from rfl]
  cases ((h.allocate sink).2.enroll h.nextId bounded).1 <;> rfl

/-! ## Offers to many sessions -/

def offerEach (h : Hub) (frame : Text) (ids : List SessionId) : Hub :=
  ids.foldl (fun h id => (h.offer id frame).2) h

theorem offerEach_eq (h : Hub) (frame : Text) {ids : List SessionId} (once : ids.Nodup) :
    h.offerEach frame ids =
      { h with sessions := h.sessions.map fun s => if s.id ∈ ids then s.offer frame else s } := by
  induction ids generalizing h with
  | nil => simp [offerEach]
  | cons id rest ih =>
      obtain ⟨fresh, once⟩ := List.nodup_cons.mp once
      show (h.offer id frame).2.offerEach frame rest = _
      rw [ih _ once]
      simp only [offer, update, List.map_map, Function.comp_def, List.mem_cons]
      congr 2
      funext s
      by_cases own : s.id = id
      · simp [own, Session.id_offer, fresh]
      · simp [own]

theorem any_isOpen_offer (h : Hub) (i id : SessionId) (frame : Text) :
    ((h.offer i frame).2.session? id).any (·.isOpen) = (h.session? id).any (·.isOpen) := by
  have keeps (s : Session) : (if s.id = i then s.offer frame else s).id = s.id ∧
      (if s.id = i then s.offer frame else s).isOpen = s.isOpen := by
    split <;> simp [Session.id_offer, Session.isOpen_offer]
  simp only [offer, update, session?, List.find?_map, Option.any_map, Function.comp_def, keeps]

namespace Foyer

/-! ## One call at work -/

def Event.call? : Event → Option Nat
  | .proceed n | .setOut n _ => some n
  | .begin _ | .write _ | .transport .. => none

/-- The call that was begun last goes on for some steps. -/
inductive Alone (es : List Errand) : Hub → Errand → Hub → Errand → Prop where
  | refl {h : Hub} {d : Errand} : Alone es h d h d
  | proceed {h h₁ h₂ : Hub} {d d₁ d₂ : Errand} (next : proceed? ⟨h, es ++ [d]⟩ d = some (d₁, h₁))
      (rest : Alone es h₁ d₁ h₂ d₂) : Alone es h d h₂ d₂
  | setOut {h h₂ : Hub} {d d₁ d₂ : Errand} (order : List SessionId)
      (everyone : order.Perm h.registry)
      (readable : isReadable ⟨h, es ++ [d]⟩) (next : setOut? order d = some d₁)
      (rest : Alone es h d₁ h₂ d₂) : Alone es h d h₂ d₂

variable {es : List Errand} {h h₁ h₂ : Hub} {d d₁ d₂ : Errand}

theorem Alone.trans (first : Alone es h d h₁ d₁) (second : Alone es h₁ d₁ h₂ d₂) :
    Alone es h d h₂ d₂ := by
  induction first with
  | refl => exact second
  | proceed next _ ih => exact .proceed next (ih second)
  | setOut order everyone readable next _ ih =>
      exact .setOut order everyone readable next (ih second)

theorem proceed?_perm {h : Hub} {es es' : List Errand} (same : es.Perm es') (d : Errand) :
    proceed? ⟨h, es⟩ d = proceed? ⟨h, es'⟩ d := by
  cases d with
  | connecting => simp only [proceed?, isWritable, same.all_eq]
  | greeting | entering | connected | inbound | broadcasting | crying | cried | disconnecting
  | disconnected => rfl
  | closingAll ids uncounted => cases uncounted <;> rfl

theorem perm_append {errands : List Errand} {n : Nat} {d : Errand} (turn : errands[n]? = some d) :
    (errands.eraseIdx n ++ [d]).Perm errands :=
  (List.perm_append_singleton d _).trans (perm_eraseIdx turn)

/-- What a call does alone it does at any place among the calls. -/
theorem Alone.run_at {es errands : List Errand} {n : Nat} {h h' : Hub} {d d' : Errand}
    (alone : Alone es h d h' d') (turn : errands[n]? = some d) (others : errands.eraseIdx n = es) :
    ∃ steps, (∀ e ∈ steps, e.call? = some n) ∧
      run? ⟨h, errands⟩ steps = some ⟨h', errands.set n d'⟩ := by
  induction alone generalizing errands with
  | refl =>
      obtain ⟨inside, same⟩ := List.getElem?_eq_some_iff.mp turn
      exact ⟨[], by simp, by rw [runs.nil, ← same, List.set_getElem_self]⟩
  | @proceed h d h₁ h₂ d₁ d₂ next _ ih =>
      obtain ⟨steps, own, run⟩ := ih (turn_set turn d₁) (by rwa [List.eraseIdx_set_eq])
      refine ⟨.proceed n :: steps, by simpa [Event.call?] using own, ?_⟩
      rw [← others, proceed?_perm (perm_append turn)] at next
      simpa [run?, step?, turn, next] using run
  | @setOut h d h₂ d₁ d₂ order everyone readable next _ ih =>
      obtain ⟨steps, own, run⟩ := ih (turn_set turn d₁) (by rwa [List.eraseIdx_set_eq])
      refine ⟨.setOut n order :: steps, by simpa [Event.call?] using own, ?_⟩
      have readable' : isReadable ⟨h, errands⟩ := by
        rwa [isReadable, ← (perm_append turn).all_eq, others]
      simpa [run?, step?, turn, next, readable', List.isPerm_iff.mpr everyone] using run

theorem Alone.run (alone : Alone es h d h₁ d₁) :
    ∃ steps, (∀ e ∈ steps, e.call? = some es.length) ∧
      run? ⟨h, es ++ [d]⟩ steps = some ⟨h₁, es ++ [d₁]⟩ := by
  have last : (es ++ [d])[es.length]? = some d := List.getElem?_concat_length
  simpa using alone.run_at last (by simp [List.eraseIdx_append_of_length_le])

theorem Alone.sound (alone : Alone es h d h₁ d₁) (sound : Sound ⟨h, es ++ [d]⟩) :
    Sound ⟨h₁, es ++ [d₁]⟩ := by
  obtain ⟨steps, -, run⟩ := alone.run
  exact sound.run run

theorem isWritable_append (free : isWritable ⟨h, es⟩) (entering : d.isEntering = false)
    (onRound : d.isOnRound = false) : isWritable ⟨h₁, es ++ [d]⟩ := by
  simp_all [isWritable]

/-! ## Rounds -/

theorem alone_of_round {wrap : Round → Errand}
    (turns : ∀ h h' round round', round.next? h = some (round', h') →
      proceed? ⟨h, es ++ [wrap round]⟩ (wrap round) = some (wrap round', h'))
    (frame : Text) (ahead reached : List SessionId) :
    Alone es h (wrap ⟨frame, ahead, reached⟩) (h.offerEach frame ahead)
      (wrap ⟨frame, [], reached ++ ahead.filter fun id => (h.session? id).any (·.isOpen)⟩) := by
  induction ahead generalizing h reached with
  | nil => simpa [offerEach] using Alone.refl
  | cons id ahead ih =>
      have same : reached ++ (id :: ahead).filter (fun id => (h.session? id).any (·.isOpen)) =
          (if (h.offer id frame).1 then reached ++ [id] else reached) ++
            ahead.filter fun i => ((h.offer id frame).2.session? i).any (·.isOpen) := by
        simp only [any_isOpen_offer]
        by_cases taken : (h.offer id frame).1
        · simp_all [offer]
        · simp_all [offer]
      rw [same]
      exact .proceed (turns _ _ _ _ rfl) (ih _)

/-- Everyone who is registered, in the order of their numbers. -/
def everyone (h : Hub) : List SessionId := (h.sessions.map (·.id)).filter h.isRegistered

theorem everyone_perm (sound : Foyer.Sound ⟨h, es⟩) : (everyone h).Perm h.registry := by
  apply (List.perm_ext_iff_of_nodup (sound.nodup.filter _) sound.nodup_registry).mpr
  intro id
  simp only [List.mem_filter, List.mem_map, isRegistered_iff]
  constructor
  · exact And.right
  · intro registered
    obtain ⟨s, there, number, -⟩ := sound.serving registered
    exact ⟨⟨s, there, number⟩, registered⟩

/-- A frame that is offered to everyone in turn is offered as in one go. -/
theorem fanOut_eq (sound : Foyer.Sound ⟨h, es⟩) (frame : Text) :
    (h.fanOut frame).2 = (h.offerEach frame (everyone h)).count
        (.announced ((everyone h).filter fun id => (h.session? id).any (·.isOpen)).length) ∧
      (h.fanOut frame).1 = (everyone h).filter fun id => (h.session? id).any (·.isOpen) := by
  have recipients :
      h.recipients = (everyone h).filter fun id => (h.session? id).any (·.isOpen) := by
    simp only [recipients, everyone, List.filter_filter, List.filter_map]
    congr 1
    apply List.filter_congr
    intro s there
    have found : h.session? s.id = some s := session?_of_mem (f := ⟨h, es⟩) sound there
    simp [found, Bool.and_comm]
  have offers : h.sessions.map (fun s => if s.id ∈ everyone h then s.offer frame else s) =
      h.sessions.map fun s => if h.isRegistered s.id then s.offer frame else s := by
    apply List.map_congr_left
    intro s there
    have reached : s.id ∈ everyone h ↔ h.isRegistered s.id := by
      simp only [everyone, List.mem_filter, List.mem_map, and_iff_right_iff_imp]
      exact fun _ => ⟨s, there, rfl⟩
    simp only [reached]
  have once : (everyone h).Nodup := sound.nodup.filter _
  refine ⟨?_, recipients⟩
  rw [offerEach_eq h frame once, offers, ← recipients]
  rfl

theorem alone_of_setOut {wrap : Round → Errand} {last : List SessionId → Errand} {frame : Text}
    (sound : Sound ⟨h, es ++ [d]⟩) (readable : isReadable ⟨h, es ++ [d]⟩)
    (sets : ∀ order, setOut? order d = some (wrap ⟨frame, order, []⟩))
    (turns : ∀ h h' round round', round.next? h = some (round', h') →
      proceed? ⟨h, es ++ [wrap round]⟩ (wrap round) = some (wrap round', h'))
    (comes : ∀ h reached,
      proceed? ⟨h, es ++ [wrap ⟨frame, [], reached⟩]⟩ (wrap ⟨frame, [], reached⟩) =
      some (last reached, h.count (.announced reached.length))) :
    Alone es h d (h.fanOut frame).2 (last (h.fanOut frame).1) := by
  obtain ⟨hub, recipients⟩ := fanOut_eq sound frame
  rw [hub, recipients]
  exact .setOut (everyone h) (everyone_perm sound) readable (sets _)
    ((alone_of_round turns frame _ []).trans (.proceed (comes _ _) .refl))

/-! ## Looking at the programme -/

/-- Who looks at a programme that does not change sees it as it is. -/
theorem alone_of_survey {wrap : Survey → Errand}
    (turns : ∀ survey further, survey.next? h.programme = some further →
      proceed? ⟨h, es ++ [wrap survey]⟩ (wrap survey) = some (wrap further, h))
    (unseen : List Nat) :
    Alone es h (wrap ⟨h.programme, unseen⟩) h (wrap ⟨h.programme, []⟩) := by
  induction unseen with
  | nil => exact .refl
  | cons i unseen ih =>
      refine .proceed (turns _ ⟨h.programme, unseen⟩ ?_) ih
      simp only [Survey.next?, Programme.lookAt_self]

/-! ## Connects -/

theorem offer_assign {sink : Session.Sink} (fresh : ∀ s ∈ h.sessions, s.id ≠ h.nextId) :
    ((h.assign sink).offer h.nextId h.greeting).2 = (h.allocate sink).2 := by
  have others : h.sessions.map (fun s => if s.id = h.nextId then s.offer h.greeting else s) =
      h.sessions := by
    conv => rhs; rw [← List.map_id h.sessions]
    exact List.map_congr_left fun s there => if_neg (fresh s there)
  have own : (if (Session.blank h.nextId sink).id = h.nextId then
      (Session.blank h.nextId sink).offer h.greeting else .blank h.nextId sink) =
        .connecting h.nextId sink h.greeting := by
    simp [Session.blank, Session.offer, Session.connecting]
  simp only [assign, offer, update, allocate, List.map_append, List.map_cons, List.map_nil,
    others, own]

theorem alone_connecting {id : SessionId} {bounded : Bool} (free : isWritable ⟨h, es⟩) :
    Alone es h (.connecting id bounded) (h.enroll id bounded).2
      (.connected id (h.enroll id bounded).1) := by
  have turn : isWritable ⟨h, es ++ [.connecting id bounded]⟩ := isWritable_append free rfl rfl
  rw [enroll_eq]
  by_cases full : bounded && h.isFull
  · have step : proceed? ⟨h, es ++ [.connecting id bounded]⟩ (.connecting id bounded) =
        some (.connected id false, h.dismiss id) := by
      simp only [proceed?, turn, full, if_true]
    rw [if_pos full]
    exact .proceed step .refl
  · have step : proceed? ⟨h, es ++ [.connecting id bounded]⟩ (.connecting id bounded) =
        some (.entering id, h.activate id) := by
      simp only [proceed?, turn, full, if_true, Bool.false_eq_true, if_false]
    rw [if_neg full]
    exact .proceed step (.proceed rfl .refl)

theorem alone_connect (sink : Session.Sink) (bounded : Bool) (free : isWritable ⟨h, es⟩)
    (fresh : ∀ s ∈ h.sessions, s.id ≠ h.nextId) :
    Alone es (h.assign sink) (.greeting h.nextId bounded (.begin h.programme))
      (h.connect sink bounded).2
      (.connected h.nextId ((h.allocate sink).2.enroll h.nextId bounded).1) := by
  have turns (survey further : Survey)
      (next : survey.next? (h.assign sink).programme = some further) :
      proceed? ⟨h.assign sink, es ++ [.greeting h.nextId bounded survey]⟩
        (.greeting h.nextId bounded survey) =
          some (.greeting h.nextId bounded further, h.assign sink) := by
    simp only [proceed?, next]
  have greets : proceed? ⟨h.assign sink, es ++ [.greeting h.nextId bounded ⟨h.programme, []⟩]⟩
      (.greeting h.nextId bounded ⟨h.programme, []⟩) =
        some (.connecting h.nextId bounded, (h.allocate sink).2) := by
    rw [← offer_assign fresh]
    rfl
  exact (alone_of_survey turns _).trans (.proceed greets (alone_connecting free))

/-! ## Inbound calls -/

variable {sender : SessionId} {message : Text}

theorem proceed?_of_serve {service next : Service}
    (serves : serve? h sender message service = some (next, h₁)) :
    proceed? ⟨h, es ++ [.inbound sender message service]⟩ (.inbound sender message service) =
      some (.inbound sender message next, h₁) := by
  simp only [proceed?, serves, Option.map_some]

theorem alone_lookedUp : Alone es h (.inbound sender message .lookedUp) (h.dispatch message).2
    (.inbound sender message (.answered (h.dispatch message).1)) := by
  have routed := Prod.ext_iff.mp (Reply.compose_decide h.programme message)
  have turns (survey further : Survey)
      (next : survey.next? { h with programme := (h.programme.decide message).2 }.programme =
        some further) :
      proceed? ⟨{ h with programme := (h.programme.decide message).2 },
          es ++ [.inbound sender message (.answering (h.programme.decide message).1 survey)]⟩
        (.inbound sender message (.answering (h.programme.decide message).1 survey)) =
      some (.inbound sender message (.answering (h.programme.decide message).1 further),
        { h with programme := (h.programme.decide message).2 }) :=
    proceed?_of_serve (by simp only [serve?, next])
  have looked := alone_of_survey turns (h.programme.decide message).2.positions
  rw [dispatch_eq, ← routed.1, ← routed.2]
  exact .proceed (proceed?_of_serve rfl) (looked.trans (.proceed (proceed?_of_serve rfl) .refl))

theorem alone_announcing {reply : Reply} {delivered : Bool} (free : isWritable ⟨h₁, es⟩)
    (sound : Sound ⟨h,
      es ++ [.inbound sender message (.announcing reply delivered (.begin h.programme))]⟩) :
    ∃ announcement, Alone es h
      (.inbound sender message (.announcing reply delivered (.begin h.programme)))
      ((h.fanOut h.announcement).2)
      (.inbound sender message (.served ⟨reply, delivered, announcement⟩)) := by
  have turns (survey further : Survey) (next : survey.next? h.programme = some further) :
      proceed? ⟨h, es ++ [.inbound sender message (.announcing reply delivered survey)]⟩
        (.inbound sender message (.announcing reply delivered survey)) =
      some (.inbound sender message (.announcing reply delivered further), h) :=
    proceed?_of_serve (by simp only [serve?, next, Option.map_some])
  have looked := alone_of_survey turns h.programme.positions
  have readable : isReadable
      ⟨h, es ++ [.inbound sender message (.announcing reply delivered ⟨h.programme, []⟩)]⟩ :=
    isReadable_of_isWritable (isWritable_append free rfl rfl)
  have spread := alone_of_setOut (looked.sound sound) readable (fun _ => rfl)
    (fun _ _ round _ next => proceed?_of_serve (by simp only [serve?, next]))
    (fun _ _ => proceed?_of_serve rfl)
  exact ⟨_, looked.trans spread⟩

theorem alone_inbound (free : isWritable ⟨h₁, es⟩)
    (sound : Sound ⟨h, es ++ [.inbound sender message .lookedUp]⟩) :
    ∃ delivery, Alone es h (.inbound sender message .lookedUp) (h.answer sender message).2
        (.inbound sender message (.returned delivery)) ∧
      (h.answer sender message).1 =
        if delivery.delivered then .ok delivery.reply else .error (.closed sender) := by
  obtain ⟨reply, dispatched, same⟩ : ∃ reply hub, h.dispatch message = (reply, hub) := ⟨_, _, rfl⟩
  have decided : Alone es h (.inbound sender message .lookedUp) dispatched
      (.inbound sender message (.answered reply)) := by
    simpa only [same] using (alone_lookedUp : Alone es h (.inbound sender message .lookedUp) _ _)
  simp only [answer, same]
  by_cases announced : reply.announce
  · have grants : proceed? ⟨dispatched, es ++ [.inbound sender message (.answered reply)]⟩
        (.inbound sender message (.answered reply)) =
          some (.inbound sender message (.announcing reply (dispatched.offer sender reply.text).1
            (.begin (dispatched.offer sender reply.text).2.programme)),
            (dispatched.offer sender reply.text).2) :=
      proceed?_of_serve (if_pos announced)
    have granted := decided.trans (.proceed grants .refl)
    obtain ⟨announcement, spread⟩ := alone_announcing free (granted.sound sound)
    refine ⟨⟨reply, _, announcement⟩, ?_, rfl⟩
    rw [if_pos announced]
    exact granted.trans (spread.trans (.proceed (proceed?_of_serve rfl) .refl))
  · have answers : proceed? ⟨dispatched, es ++ [.inbound sender message (.answered reply)]⟩
        (.inbound sender message (.answered reply)) =
          some (.inbound sender message
            (.served ⟨reply, (dispatched.offer sender reply.text).1, none⟩),
            (dispatched.offer sender reply.text).2) :=
      proceed?_of_serve (if_neg announced)
    refine ⟨⟨reply, _, none⟩, ?_, rfl⟩
    rw [if_neg announced]
    exact decided.trans (.proceed answers (.proceed (proceed?_of_serve rfl) .refl))

/-! ## Every call -/

theorem alone_closingAll (ids uncounted : List SessionId) :
    Alone es h (.closingAll ids uncounted.length)
      (uncounted.foldl (fun h _ => h.count (.disconnected 0)) h) (.closingAll ids 0) := by
  induction uncounted generalizing h with
  | nil => exact .refl
  | cons _ rest ih => exact .proceed rfl ih

end Foyer

/-- What a call has come to, and what it returns. -/
inductive Errand.Returns : Errand → Return → Prop where
  | connected {id : SessionId} : Returns (.connected id true) (.connected id)
  | refused {dropped : Session} : Returns (.connected dropped.id false) (.refused dropped)
  | unknownSender {sender : SessionId} {message : Text} :
      Returns (.inbound sender message .unknownSender) (.answered (.error (.notRegistered sender)))
  | answered {sender : SessionId} {message : Text} {delivery : Delivery} :
      Returns (.inbound sender message (.returned delivery))
        (.answered (if delivery.delivered then .ok delivery.reply else .error (.closed sender)))
  | cried {frame : Text} {recipients : List SessionId} :
      Returns (.cried frame recipients) (.recipients recipients.length)
  | disconnected {id : SessionId} {wasRegistered : Bool} :
      Returns (.disconnected id wasRegistered) (.removed wasRegistered)
  | closedAll {ids : List SessionId} : Returns (.closingAll ids 0) (.removedAll ids)

namespace Foyer

/-- A call that begins now and is left alone comes to the same end as the call in one go. -/
def GoesAlone (f : Foyer) (command : Command) : Prop :=
  ∃ d hub last, f.begin? command = some (d, hub) ∧
    Alone f.errands hub d (f.hub.call command).2 last ∧ last.Returns (f.hub.call command).1

section

variable {f : Foyer}

theorem Sound.begin (sound : f.Sound) {command : Command} {d : Errand} {hub : Hub}
    (begins : f.begin? command = some (d, hub)) : Sound ⟨hub, f.errands ++ [d]⟩ :=
  sound.step (e := .begin command) (by simp [step?, begins])

theorem goesAlone_connect (sound : f.Sound) (free : f.isWritable) (sink : Session.Sink)
    (bounded : Bool) : f.GoesAlone (.connect sink bounded) := by
  have fresh : ∀ s ∈ f.hub.sessions, s.id ≠ f.hub.nextId :=
    fun s there => Nat.ne_of_lt (sound.session there).2.2
  have alone := alone_connect sink bounded free fresh
  let dropped := Session.connecting f.hub.nextId sink f.hub.greeting
  rw [GoesAlone, call_connect]
  refine ⟨_, _, _, rfl, alone, ?_⟩
  cases ((f.hub.allocate sink).2.enroll f.hub.nextId bounded).1 with
  | true => exact .connected
  | false => exact @Errand.Returns.refused dropped

theorem goesAlone_inbound (sound : f.Sound) (free : f.isWritable) (sender : SessionId)
    (message : Text) : f.GoesAlone (.inbound sender message) := by
  have readable := isReadable_of_isWritable free
  cases looked : f.hub.lookUp sender with
  | none =>
      have begins : f.begin? (.inbound sender message) =
          some (.inbound sender message .unknownSender, f.hub) := by
        simp only [begin?, readable, looked, if_true]
      have call : f.hub.call (.inbound sender message) =
          (.answered (.error (.notRegistered sender)), f.hub) := by
        simp only [Hub.call, Hub.inbound, looked]
      rw [GoesAlone, call]
      exact ⟨_, _, _, begins, .refl, .unknownSender⟩
  | some hub =>
      have begins : f.begin? (.inbound sender message) =
          some (.inbound sender message .lookedUp, hub) := by
        simp only [begin?, readable, looked, if_true]
      have call : f.hub.call (.inbound sender message) =
          (.answered (hub.answer sender message).1, (hub.answer sender message).2) := by
        simp only [Hub.call, Hub.inbound, looked]
      obtain ⟨delivery, alone, result⟩ := alone_inbound free (sound.begin begins)
      rw [GoesAlone, call, result]
      exact ⟨_, _, _, begins, alone, .answered⟩

theorem goesAlone_broadcast (sound : f.Sound) (free : f.isWritable) (frame : Text) :
    f.GoesAlone (.broadcast frame) := by
  have readable : isReadable ⟨f.hub, f.errands ++ [.broadcasting frame]⟩ :=
    isReadable_of_isWritable (isWritable_append free rfl rfl)
  have begins : f.begin? (.broadcast frame) = some (.broadcasting frame, f.hub) := rfl
  have alone := alone_of_setOut (sound.begin begins) readable
    (fun _ => rfl) (fun _ _ round _ next => by simp only [proceed?, next]) (fun _ _ => rfl)
  exact ⟨_, _, _, begins, alone, .cried⟩

theorem goesAlone_disconnect (free : f.isWritable) (id : SessionId) :
    f.GoesAlone (.disconnect id) := by
  rcases removed : f.hub.remove id with ⟨_ | remaining, hub⟩
  · have begins : f.begin? (.disconnect id) = some (.disconnected id false, hub) := by
      simp only [begin?, free, removed, if_true]
    have call : f.hub.call (.disconnect id) = (.removed false, hub) := by
      simp only [Hub.call, Hub.disconnect, removed]
    rw [GoesAlone, call]
    exact ⟨_, _, _, begins, .refl, .disconnected⟩
  · have begins : f.begin? (.disconnect id) = some (.disconnecting id remaining, hub) := by
      simp only [begin?, free, removed, if_true]
    have call : f.hub.call (.disconnect id) =
        (.removed true, hub.count (.disconnected remaining)) := by
      simp only [Hub.call, Hub.disconnect, removed]
    rw [GoesAlone, call]
    exact ⟨_, _, _, begins, .proceed rfl .refl, .disconnected⟩

theorem goesAlone_closeAll (free : f.isWritable) : f.GoesAlone .closeAll := by
  have begins : f.begin? .closeAll =
      some (.closingAll f.hub.drain.1 f.hub.drain.1.length, f.hub.drain.2) := by
    simp only [begin?, free, if_true]
  exact ⟨_, _, _, begins, alone_closingAll _ _, .closedAll⟩

theorem goesAlone (sound : f.Sound) (free : f.isWritable) (command : Command) :
    f.GoesAlone command := by
  cases command with
  | connect sink bounded => exact goesAlone_connect sound free sink bounded
  | inbound sender message => exact goesAlone_inbound sound free sender message
  | broadcast frame => exact goesAlone_broadcast sound free frame
  | disconnect id => exact goesAlone_disconnect free id
  | closeAll => exact goesAlone_closeAll free

end

/-- A call that is left alone changes the hub as the call in one go does, and returns the same. -/
theorem undisturbed {f : Foyer} (sound : f.Sound) (free : f.isWritable) (command : Command) :
    ∃ begun steps last, f.step? (.begin command) = some begun ∧
      (∀ e ∈ steps, e.call? = some f.errands.length) ∧
      begun.run? steps = some ⟨(f.hub.call command).2, f.errands ++ [last]⟩ ∧
      last.Returns (f.hub.call command).1 := by
  obtain ⟨d, hub, last, begins, alone, returns⟩ := goesAlone sound free command
  obtain ⟨steps, own, run⟩ := alone.run
  exact ⟨_, steps, last, by simp [step?, begins], own, run, returns⟩

end Foyer

end BoxOffice.Hub
