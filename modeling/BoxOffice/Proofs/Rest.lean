import BoxOffice.Proofs.Announcement
import BoxOffice.Proofs.Held

/-! # The rest of a call

An inbound call that has looked its sender up and is left alone from there on returns, and has then
done what is done in one go, in whatever order its announcement went round (`finishes`,
`answer_of_finishes`).
-/

namespace BoxOffice.Hub

/-! ## In one go -/

def goRound (h : Hub) (round : Round) : Hub :=
  (h.offerEach round.frame round.ahead).count
    (.announced (round.reached.length + round.ahead.countP fun id =>
      (h.session? id).any (·.isOpen)))

def conclude (h : Hub) (sender : SessionId) (reply : Reply) (delivered : Bool) :
    Except Error Reply × Hub :=
  (if delivered then .ok reply else .error (.closed sender), h.letGo sender)

/-- Queue the answer, and announce what was booked. -/
def respond (h : Hub) (sender : SessionId) (reply : Reply) : Except Error Reply × Hub :=
  let (delivered, h) := h.offer sender reply.text
  (if reply.announce then (h.fanOut h.announcement).2 else h).conclude sender reply delivered

/-- The rest of an inbound call, if it sees the programme as it is. -/
def rest (h : Hub) (sender : SessionId) (message : Text) : Service → Except Error Reply × Hub
  | .unknownSender => (.error (.notRegistered sender), h)
  | .lookedUp => h.answer sender message
  | .answering result _ =>
      let reply := Reply.compose message result h.programme
      (h.countAnswer reply).respond sender reply
  | .answered reply => h.respond sender reply
  | .announcing reply delivered _ => (h.fanOut h.announcement).2.conclude sender reply delivered
  | .onRound reply delivered round => (h.goRound round).conclude sender reply delivered
  | .served delivery => h.conclude sender delivery.reply delivery.delivered
  | .returned delivery =>
      (if delivery.delivered then .ok delivery.reply else .error (.closed sender), h)

/-- A call that looks at the programme sees it as it is. -/
def Service.SeesNow (h : Hub) : Service → Prop
  | .answering _ survey | .announcing _ _ survey => survey.seen = h.programme
  | _ => True

variable {h h' : Hub} {sender : SessionId} {message : Text} {service next : Service}

theorem goRound_reach {frame : Text} {id : SessionId} {ahead reached : List SessionId} :
    (h.offer id frame).2.goRound
        ⟨frame, ahead, if (h.offer id frame).1 then reached ++ [id] else reached⟩ =
      h.goRound ⟨frame, id :: ahead, reached⟩ := by
  have counted : (if (h.offer id frame).1 then reached ++ [id] else reached).length +
        ahead.countP (fun i => ((h.offer id frame).2.session? i).any (·.isOpen)) =
      reached.length + (id :: ahead).countP fun i => (h.session? i).any (·.isOpen) := by
    simp only [any_isOpen_offer, List.countP_cons]
    rw [show (h.offer id frame).1 = (h.session? id).any (·.isOpen) from rfl]
    split
    · rw [List.length_append, List.length_singleton]
      omega
    · omega
  exact congrArg
    (fun reached => ((h.offer id frame).2.offerEach frame ahead).count (.announced reached)) counted

theorem answer_eq (h : Hub) (sender : SessionId) (message : Text) :
    h.answer sender message =
      Hub.rest { h with programme := (h.programme.decide message).2 } sender message
      (.answering (h.programme.decide message).1 (.begin (h.programme.decide message).2)) := by
  have routed := Prod.ext_iff.mp (Reply.compose_decide h.programme message)
  have answers :
      h.answer sender message = (h.dispatch message).2.respond sender (h.dispatch message).1 := rfl
  rw [answers, dispatch_eq, ← routed.1, ← routed.2]
  rfl

/-- Each step of a call leaves the rest of what is done in one go. -/
theorem rest_of_serves (sees : service.SeesNow h)
    (serves : h.Serves sender message service next h') :
    next.SeesNow h' ∧ h'.rest sender message next = h.rest sender message service := by
  have look {survey further : Survey} (seen : survey.seen = h.programme)
      (more : survey.next? h.programme = some further) : further.seen = h.programme := by
    obtain ⟨i, -, same⟩ := Foyer.Survey.next?_eq_some more
    rw [same, seen, Programme.lookAt_self]
  cases serves with
  | decide => exact ⟨rfl, (answer_eq h sender message).symm⟩
  | look more | lookAgain more => exact ⟨look sees more, rfl⟩
  | @compose result seen =>
      obtain rfl : seen = h.programme := sees
      exact ⟨trivial, rfl⟩
  | @answer reply silent =>
      refine ⟨trivial, ?_⟩
      simp only [rest, respond, silent, Bool.false_eq_true, if_false]
  | @grant reply granted =>
      refine ⟨rfl, ?_⟩
      simp only [rest, respond, granted, if_true]
  | @reach reply delivered =>
      exact ⟨trivial, congrArg (fun h : Hub => h.conclude sender reply delivered) goRound_reach⟩
  | comeBack | letGo => exact ⟨trivial, rfl⟩

namespace Foyer

variable {f f' : Foyer} {n : Nat} {e : Event}

/-- A frame reaches everyone alike in every order. -/
theorem fanOut_eq_goRound (sound : f.Sound) (frame : Text) {order : List SessionId}
    (everyone : order.Perm f.hub.registry) :
    (f.hub.fanOut frame).2 = f.hub.goRound ⟨frame, order, []⟩ := by
  have same : order.Perm (Foyer.everyone f.hub) := everyone.trans (everyone_perm sound).symm
  have once : order.Nodup := everyone.nodup_iff.mpr sound.nodup_registry
  have offers : f.hub.offerEach frame (Foyer.everyone f.hub) = f.hub.offerEach frame order := by
    rw [offerEach_eq _ _ once, offerEach_eq _ _ (same.nodup_iff.mp once)]
    simp only [same.mem_iff]
  rw [(fanOut_eq sound frame).1, offers, ← List.countP_eq_length_filter, ← same.countP_eq, goRound,
    List.length_nil, Nat.zero_add]

/-! ## Step by step -/

theorem rest_of_step (sound : f.Sound)
    (turn : f.errands[n]? = some (.inbound sender message service)) (sees : service.SeesNow f.hub)
    (own : e.call? = some n) (step : f.step? e = some f') :
    ∃ next, f'.errands[n]? = some (.inbound sender message next) ∧ next.SeesNow f'.hub ∧
      f'.hub.rest sender message next = f.hub.rest sender message service := by
  cases e with
  | begin | write | transport => cases own
  | proceed m =>
      cases own
      simp only [step?, turn, proceed?, Option.bind_eq_bind, Option.bind_some,
        Option.bind_eq_some_iff, Option.map_eq_some_iff] at step
      obtain ⟨_, ⟨⟨next, hub⟩, serves, rfl⟩, same⟩ := step
      cases same
      obtain ⟨sees', same⟩ := rest_of_serves sees (serves_of_serve? serves)
      exact ⟨next, turn_set turn _, sees', same⟩
  | setOut m order =>
      cases own
      have everyone := perm_of_step step
      simp only [step?, turn, Option.bind_eq_bind, Option.bind_some] at step
      split at step
      · simp only [Option.bind_eq_some_iff] at step
        obtain ⟨d, sets, same⟩ := step
        cases same
        unfold setOut? at sets
        split at sets
        · rename_i reply delivered seen announcing
          cases announcing
          cases sets
          refine ⟨_, turn_set turn _, trivial, ?_⟩
          obtain rfl : seen = f.hub.programme := sees
          exact congrArg (fun h : Hub => h.conclude sender reply delivered)
            (fanOut_eq_goRound sound f.hub.announcement everyone).symm
        · rename_i other
          cases other
        · cases sets
      · cases step

theorem rest_of_run {steps : List Event} (sound : f.Sound)
    (turn : f.errands[n]? = some (.inbound sender message service)) (sees : service.SeesNow f.hub)
    (own : ∀ e ∈ steps, e.call? = some n) (run : f.run? steps = some f') :
    ∃ next, f'.errands[n]? = some (.inbound sender message next) ∧
      f'.hub.rest sender message next = f.hub.rest sender message service := by
  induction steps generalizing f service with
  | nil =>
      rw [runs.nil, Option.some.injEq] at run
      subst run
      exact ⟨service, turn, rfl⟩
  | cons e steps ih =>
      rw [runs.cons, Option.bind_eq_some_iff] at run
      obtain ⟨between, step, run⟩ := run
      obtain ⟨later, turn', sees', same⟩ :=
        rest_of_step sound turn sees (own e (List.mem_cons_self ..)) step
      obtain ⟨next, last, same'⟩ := ih (sound.step step) turn' sees'
        (fun e member => own e (List.mem_cons_of_mem _ member)) run
      exact ⟨next, last, same'.trans same⟩

/-- The call in place `n` takes the rest of its steps alone and returns. -/
def Finishes (f : Foyer) (n : Nat) (sender : SessionId) (message : Text) (delivery : Delivery)
    (f' : Foyer) : Prop :=
  ∃ steps, (∀ e ∈ steps, e.call? = some n) ∧ f.run? steps = some f' ∧
    f'.errands[n]? = some (.inbound sender message (.returned delivery))

/-- A call that is left alone after it has looked its sender up has done what is done in one go. -/
theorem answer_of_finishes {delivery : Delivery} (sound : f.Sound)
    (turn : f.errands[n]? = some (.inbound sender message .lookedUp))
    (finishes : f.Finishes n sender message delivery f') :
    f.hub.answer sender message =
      (if delivery.delivered then .ok delivery.reply else .error (.closed sender), f'.hub) := by
  obtain ⟨steps, own, run, returned⟩ := finishes
  obtain ⟨next, last, same⟩ := rest_of_run sound turn trivial own run
  rw [returned, Option.some.injEq, Errand.inbound.injEq] at last
  rw [← last.2.2] at same
  exact same.symm

/-! ## It can be done -/

theorem Sound.perm {f : Foyer} {es : List Errand} (sound : f.Sound) (same : es.Perm f.errands) :
    Sound ⟨f.hub, es⟩ where
  guarded := by
    refine ⟨fun d member => sound.guarded.covered d (same.mem_iff.mp member), ?_, ?_⟩
    · exact same.countP_eq _ ▸ sound.guarded.single
    · intro busy
      exact (same.countP_eq _).trans (sound.guarded.apart (same.countP_eq _ ▸ busy))
  lives := by
    intro id
    have crew : crew es id = crew f.errands id := funext fun r => same.countP_eq _
    have life : life ⟨f.hub, es⟩ id = f.life id := Life.ext rfl rfl rfl crew
    exact life ▸ sound.lives id

theorem finishes (sound : f.Sound) (turn : f.errands[n]? = some (.inbound sender message .lookedUp))
    (free : f.isWritable) : ∃ delivery f', f.Finishes n sender message delivery f' := by
  have free' : isWritable ⟨f.hub, f.errands.eraseIdx n⟩ := by
    rw [isWritable, ← (perm_append turn).all_eq, List.all_append, Bool.and_eq_true] at free
    exact free.1
  obtain ⟨delivery, alone, -⟩ := alone_inbound free' (sound.perm (perm_append turn))
  obtain ⟨steps, own, run⟩ := alone.run_at turn rfl
  exact ⟨delivery, _, steps, own, run, turn_set turn _⟩

end Foyer

end BoxOffice.Hub
