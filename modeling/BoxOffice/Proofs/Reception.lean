import BoxOffice.Proofs.Dispatch
import BoxOffice.Proofs.Isolation

/-! # What an inbound call returns

A call whose sender is not registered when it is looked up does nothing. Any other call does what
its message asks for and announces it, and only then does it matter whether the sender's queue took
the answer: to what the call returns, and to nothing else (`handled`).
-/

namespace BoxOffice.Hub

theorem Service.isHolding_of_result? {service : Service} {sender : SessionId}
    (none : service.result? sender = none) : service.isHolding := by
  cases service <;> first | rfl | cases none

/-- The inbound calls of `a` that found it registered: the message, and once the call has returned,
    the answer and the announcement with those whom it reached besides `a`. -/
def Errand.deed? (a : SessionId) :
    Errand → Option (Text × Option (Reply × Option (Text × List SessionId)))
  | .inbound _ _ .unknownSender => none
  | .inbound sender message (.returned delivery) =>
      if sender = a then
        some (message, some (delivery.reply,
          delivery.announcement.map fun (frame, reached) => (frame, reached.filter (· ≠ a))))
      else none
  | .inbound sender message _ => if sender = a then some (message, none) else none
  | _ => none

namespace Foyer

theorem deed?_of_seen {a : SessionId} {d d₀ : Errand} (seen : d.without? a = some d₀) :
    d₀.deed? a = d.deed? a := by
  cases d with
  | inbound sender message service =>
      cases service with
      | unknownSender =>
          simp only [Errand.without?, Option.ite_none_left_eq_some, Option.some.injEq] at seen
          obtain ⟨-, rfl⟩ := seen
          rfl
      | returned delivery =>
          cases seen
          obtain ⟨reply, delivered, announcement⟩ := delivery
          cases announcement <;> simp [Errand.deed?, Service.without, Delivery.without]
      | lookedUp | answering | answered | announcing | onRound | served =>
          cases seen
          rfl
  | disconnecting | disconnected =>
      simp only [Errand.without?, Option.ite_none_left_eq_some, Option.some.injEq] at seen
      obtain ⟨-, rfl⟩ := seen
      rfl
  | greeting | connecting | entering | connected | broadcasting | crying | cried | closingAll =>
      cases seen
      rfl

theorem deed?_of_unseen {a : SessionId} {d : Errand} (unseen : d.without? a = none) :
    d.deed? a = none := by
  cases d with
  | inbound sender message service =>
      cases service with
      | unknownSender => rfl
      | lookedUp | answering | answered | announcing | onRound | served | returned => cases unseen
  | greeting | connecting | entering | connected | broadcasting | crying | cried | disconnecting
  | disconnected | closingAll => rfl

variable {start f f' : Foyer} {events : List Event} {e : Event} {n k : Nat} {sender : SessionId}
  {message : Text} {service : Service}

/-! ## The course of a call -/

/-- In event `j` the call in place `n` goes on from where it has come to. -/
structure Passes (start : Foyer) (events : List Event) (n : Nat) (sender : SessionId)
    (message : Text) (service : Service) (j : Nat) (u : Foyer) : Prop where
  moment : Moment run? start events j u (.proceed n)
  turn : u.errands[n]? = some (.inbound sender message service)

theorem Passes.append {j : Nat} {u : Foyer} (h : Passes start events n sender message service j u)
    (e : Event) :
    Passes start (events ++ [e]) n sender message service j u :=
  ⟨h.moment.append [e], h.turn⟩

/-- How a call has come as far as it is, after it found its sender in event `k`: it decided the
    message, looked at the programme for the answer, and offered the answer. -/
inductive Course (start : Foyer) (events : List Event) (n : Nat) (sender : SessionId)
    (message : Text) (k : Nat) (now : Programme) : Service → Prop where
  | lookedUp : Course start events n sender message k now .lookedUp
  | answering {j : Nat} {u : Foyer} {survey : Survey}
      (decides : Passes start events n sender message .lookedUp j u) (later : k < j)
      (grown : (u.hub.programme.decide message).2.GrowsTo survey.seen)
      (grows : survey.seen.GrowsTo now) :
      Course start events n sender message k now
        (.answering (u.hub.programme.decide message).1 survey)
  | answered {j : Nat} {u : Foyer} {seen : Programme}
      (decides : Passes start events n sender message .lookedUp j u) (later : k < j)
      (grown : (u.hub.programme.decide message).2.GrowsTo seen) (grows : seen.GrowsTo now) :
      Course start events n sender message k now
        (.answered (.compose message (u.hub.programme.decide message).1 seen))
  | told {j l : Nat} {u v : Foyer} {seen : Programme} {service : Service}
      (decides : Passes start events n sender message .lookedUp j u) (later : k < j)
      (grown : (u.hub.programme.decide message).2.GrowsTo seen)
      (offers : Passes start events n sender message
        (.answered (.compose message (u.hub.programme.decide message).1 seen)) l v)
      (between : j < l) (grows : seen.GrowsTo v.hub.programme)
      (told : service.delivery? = some (.compose message (u.hub.programme.decide message).1 seen,
        (v.hub.session? sender).any (·.isOpen))) :
      Course start events n sender message k now service

theorem Course.kept {now now' : Programme} (h : Course start events n sender message k now service)
    (grows : now.GrowsTo now') (e : Event) :
    Course start (events ++ [e]) n sender message k now' service := by
  cases h with
  | lookedUp => exact .lookedUp
  | answering decides later grown before =>
      exact .answering (decides.append e) later grown (before.trans grows)
  | answered decides later grown before =>
      exact .answered (decides.append e) later grown (before.trans grows)
  | told decides later grown offers between before told =>
      exact .told (decides.append e) later grown (offers.append e) between before told

theorem Course.serves {next : Service} {hub : Hub} (run : start.run? events = some f)
    (turn : f.errands[n]? = some (.inbound sender message service)) (begun : k < events.length)
    (h : Course start events n sender message k f.hub.programme service)
    (serves : f.hub.Serves sender message service next hub) :
    Course start (events ++ [.proceed n]) n sender message k hub.programme next := by
  have now : Passes start (events ++ [.proceed n]) n sender message service events.length f :=
    ⟨.last run _, turn⟩
  cases serves with
  | decide => exact .answering now begun (.refl _) (.refl _)
  | look next =>
      cases h with
      | answering decides later grown grows =>
          obtain ⟨i, -, same⟩ := Survey.next?_eq_some next
          obtain ⟨more, rest⟩ := grows.lookAt i
          exact .answering (decides.append _) later (same ▸ grown.trans more) (same ▸ rest)
      | told decides later grown offers between before told => cases told
  | @compose result seen =>
      obtain ⟨tally, same⟩ := f.hub.exists_countAnswer (.compose message result seen)
      rw [same]
      cases h with
      | answering decides later grown grows => exact .answered (decides.append _) later grown grows
      | told decides later grown offers between before told => cases told
  | answer | grant =>
      cases h with
      | answered decides later grown grows =>
          exact .told (decides.append _) later grown now decides.moment.lt_length grows rfl
      | told decides later grown offers between before told => cases told
  | lookAgain | reach | comeBack | letGo =>
      cases h with
      | told decides later grown offers between before told =>
          exact .told (decides.append _) later grown (offers.append _) between before told

theorem Course.step (run : start.run? events = some f)
    (turn : f.errands[n]? = some (.inbound sender message service)) (begun : k < events.length)
    (h : Course start events n sender message k f.hub.programme service)
    (step : f.step? e = some f') :
    ∃ next, f'.errands[n]? = some (.inbound sender message next) ∧
      Course start (events ++ [e]) n sender message k f'.hub.programme next := by
  have moves := moves_of_step? step
  have once : f.run? [e] = some f' := runs.single step
  obtain ⟨next, turn'⟩ := inbound_stays once turn
  refine ⟨next, turn', ?_⟩
  have place := (List.getElem?_eq_some_iff.mp turn).1
  cases attends_of_moves moves turn' with
  | rest old proceeds setsOut =>
      cases turn.symm.trans old
      exact h.kept (growsTo_of_moves moves) e
  | refuse here | lookUp here => omega
  | serve old serves =>
      cases turn.symm.trans old
      exact h.serves run turn begun serves
  | announce old everyone same =>
      cases turn.symm.trans old
      cases h with
      | told decides later grown offers between before told =>
          exact .told (decides.append _) later grown (offers.append _) between before told

theorem unknown_stays {f' : Foyer} (run : f.run? events = some f')
    (turn : f.errands[n]? = some (.inbound sender message .unknownSender)) :
    f'.errands[n]? = some (.inbound sender message .unknownSender) := by
  refine runs.induction
    (motive := fun _ now => now.errands[n]? = some (.inbound sender message .unknownSender))
    turn ?_ run
  intro _ u e v _ turn step
  have once : u.run? [e] = some v := runs.single step
  obtain ⟨next, turn'⟩ := inbound_stays once turn
  have place := (List.getElem?_eq_some_iff.mp turn).1
  cases attends_of_moves (moves_of_step? step) turn' with
  | rest old proceeds setsOut => rw [turn', ← old, turn]
  | refuse here | lookUp here => omega
  | serve old serves =>
      cases turn.symm.trans old
      cases serves
  | announce old => cases turn.symm.trans old

/-- What an inbound call has come to that found its sender in event `k`. -/
theorem course_of_run {u : Foyer} (run : start.run? events = some f)
    (begins : Moment run? start events k u (.begin (.inbound sender message)))
    (registered : sender ∈ u.hub.registry) :
    ∃ service, f.errands[u.errands.length]? = some (.inbound sender message service) ∧
      Course start events u.errands.length sender message k f.hub.programme service := by
  obtain ⟨v, step, rest⟩ := begins.after runs run
  have early : start.run? (events.take (k + 1)) = some v := by
    rw [List.take_add_one, begins.event, Option.toList_some]
    exact runs.snoc.mpr ⟨u, begins.before, step⟩
  have length : (events.take (k + 1)).length = k + 1 := List.length_take_of_le begins.lt_length
  rw [← List.take_append_drop (k + 1) events]
  refine runs.induction (motive := fun rest now => ∃ service,
    now.errands[u.errands.length]? = some (.inbound sender message service) ∧
      Course start (events.take (k + 1) ++ rest) u.errands.length sender message k
        now.hub.programme service)
    ⟨.lookedUp, ?_, .lookedUp⟩ ?_ rest
  · rw [step?_inbound step, if_pos registered]
    exact List.getElem?_concat_length
  · intro rest now e after before ⟨service, turn, course⟩ stepped
    have so : start.run? (events.take (k + 1) ++ rest) = some now := by
      rw [runs.append, early, Option.bind_some, before]
    have begun : k < (events.take (k + 1) ++ rest).length := by
      rw [List.length_append, length]
      omega
    rw [← List.append_assoc]
    exact course.step so turn begun stepped

/-- A call that found its sender returns the answer, if the queue was open when it was offered. -/
theorem Course.result {now : Programme} {result : Except Error Reply}
    (h : Course start events n sender message k now service)
    (returned : service.result? sender = some result) :
    ∃ j l u v seen, k < j ∧ j < l ∧ Passes start events n sender message .lookedUp j u ∧
      Passes start events n sender message
        (.answered (.compose message (u.hub.programme.decide message).1 seen)) l v ∧
      (u.hub.programme.decide message).2.GrowsTo seen ∧ seen.GrowsTo v.hub.programme ∧
      result =
        if (v.hub.session? sender).any (·.isOpen) then
          .ok (.compose message (u.hub.programme.decide message).1 seen)
        else .error (.closed sender) := by
  cases h with
  | lookedUp | answering | answered => cases returned
  | @told j l u v seen _ decides later grown offers between grows told =>
      refine ⟨j, l, u, v, seen, later, between, decides, offers, grown, grows, ?_⟩
      cases service with
      | returned delivery =>
          rw [Service.delivery?, Option.some.injEq, Prod.mk.injEq] at told
          rw [← told.1, ← told.2]
          exact (Option.some.inj returned).symm
      | unknownSender => cases told
      | lookedUp | answering | answered | announcing | onRound | served => cases returned

/-- What an inbound call that began in event `k` upon `u` does and returns. -/
structure Handled (programme : Programme) (limit : Option Nat) (events : List Event) (k : Nat)
    (u f : Foyer) (sender : SessionId) (message : Text) (service : Service) : Prop where
  turn : f.errands[u.errands.length]? = some (.inbound sender message service)
  /-- It can always come to return. -/
  returns : service.result? sender = none → f.Ends u.errands.length sender message
  /-- It finds no session if and only if the sender is not registered when it is looked up. -/
  unknown : service.result? sender = some (.error (.notRegistered sender)) ↔ sender ∉ u.hub.registry
  /-- Then it has left the hub as it was, and makes no further step. -/
  nothing : sender ∉ u.hub.registry →
    (∀ v, u.step? (.begin (.inbound sender message)) = some v → v.hub = u.hub) ∧
    f.step? (.proceed u.errands.length) = none ∧
      ∀ order, f.step? (.setOut u.errands.length order) = none
  /-- Otherwise it returns the answer, unless a failed write has closed the queue before the
      answer is offered. -/
  result : sender ∈ u.hub.registry → ∀ result, service.result? sender = some result →
    ∃ j l v w seen, k < j ∧ j < l ∧
      Passes (idle programme limit) events u.errands.length sender message .lookedUp j v ∧
      Passes (idle programme limit) events u.errands.length sender message
        (.answered (.compose message (v.hub.programme.decide message).1 seen)) l w ∧
      (v.hub.programme.decide message).2.GrowsTo seen ∧ seen.GrowsTo w.hub.programme ∧
      (result = .ok (.compose message (v.hub.programme.decide message).1 seen) ∨
        result = .error (.closed sender)) ∧
      (result = .error (.closed sender) ↔
        ∃ s ∈ w.hub.sessions, s.id = sender ∧ s.isOpen = false ∧ s.writer.ending? = some .failed)
  /-- What is booked, what is announced, and what the others accept does not depend on the
      sender's queue. -/
  apart : ∀ events' g, (idle programme limit).run? events' = some g →
    (idle programme limit).sights sender events = (idle programme limit).sights sender events' →
      f.hub.programme = g.hub.programme ∧
      f.errands.filterMap (·.deed? sender) = g.errands.filterMap (·.deed? sender) ∧
      ∀ id, id ≠ sender → f.hub.show? id = g.hub.show? id

theorem apart_of_sights {programme : Programme} {limit : Option Nat} {a : SessionId}
    {events' : List Event} {g : Foyer} (run : (idle programme limit).run? events = some f)
    (run' : (idle programme limit).run? events' = some g)
    (same : (idle programme limit).sights a events = (idle programme limit).sights a events') :
    f.hub.programme = g.hub.programme ∧
    f.errands.filterMap (·.deed? a) = g.errands.filterMap (·.deed? a) ∧
      ∀ id, id ≠ a → f.hub.show? id = g.hub.show? id := by
  have without := without_eq_of_sights run run' rfl same
  have alike := alike_of_without without
  refine ⟨alike.programme, ?_, alike.sessions⟩
  rw [← filterMap_without deed?_of_unseen deed?_of_seen f, without,
    filterMap_without deed?_of_unseen deed?_of_seen g]

/-- A queue that is to be offered an answer takes it, unless it was closed by a failed write. -/
theorem closed_iff_failed {reply : Reply} (sound : f.Sound)
    (turn : f.errands[n]? = some (.inbound sender message (.answered reply))) :
    (f.hub.session? sender).any (·.isOpen) = false ↔
      ∃ s ∈ f.hub.sessions, s.id = sender ∧ s.isOpen = false ∧ s.writer.ending? = some .failed := by
  obtain ⟨s, there, rfl⟩ := exists_session_of_holding sound turn rfl
  rw [session?_of_mem sound there, Option.any_some]
  constructor
  · intro closed
    exact ⟨s, there, rfl, closed, failed_of_not_isOpen sound turn rfl there closed⟩
  · rintro ⟨s', there', same, closed, -⟩
    have found := session?_of_mem sound there'
    rw [same, session?_of_mem sound there, Option.some.injEq] at found
    rw [found, closed]

/-- An inbound call does what its message asks for, whether or not its answer is delivered, and says
    so by what it returns. -/
theorem handled {programme : Programme} {limit : Option Nat} {u : Foyer}
    (run : (idle programme limit).run? events = some f)
    (begins : Moment run? (idle programme limit) events k u (.begin (.inbound sender message))) :
    ∃ service, Handled programme limit events k u f sender message service := by
  by_cases registered : sender ∈ u.hub.registry
  · obtain ⟨service, turn, course⟩ := course_of_run run begins registered
    refine ⟨service, turn, ?_, ?_, ?_, ?_, fun _ _ run' same => apart_of_sights run run' same⟩
    · intro none
      exact ends (Sound.of_run run).guarded turn (Service.isHolding_of_result? none)
    · refine iff_of_false ?_ (not_not_intro registered)
      intro returned
      obtain ⟨_, _, _, _, _, -, -, -, -, -, -, same⟩ := course.result returned
      split at same <;> cases same
    · exact fun absent => absurd registered absent
    · intro _ result returned
      obtain ⟨j, l, v, w, seen, later, between, decides, offers, grown, grows, same⟩ :=
        course.result returned
      have closed := closed_iff_failed (Sound.of_run offers.moment.before) offers.turn
      refine ⟨j, l, v, w, seen, later, between, decides, offers, grown, grows, ?_, ?_⟩
      · rw [same]
        split
        · exact .inl rfl
        · exact .inr rfl
      · rw [← closed, same]
        cases (w.hub.session? sender).any (·.isOpen) <;> simp
  · obtain ⟨v, step, rest⟩ := begins.after runs run
    have unknown := step?_inbound step
    rw [if_neg registered] at unknown
    have turn := unknown_stays rest (by rw [unknown]; exact List.getElem?_concat_length)
    refine ⟨.unknownSender, turn, nofun, ⟨fun _ => registered, fun _ => rfl⟩, ?_,
      fun there => absurd there registered, fun _ _ run' same => apart_of_sights run run' same⟩
    intro _
    refine ⟨?_, ?_, ?_⟩
    · intro v' step'
      rw [step?_inbound step', if_neg registered]
    · simp [step?, turn, proceed?, serve?]
    · intro order
      simp [step?, turn, setOut?]

/-- A customer asks for seats while another one looks on, and is told. -/
def request : List Event :=
  [.begin (.connect ⟨none, false, false⟩ false), .proceed 0, .proceed 0, .proceed 0, .proceed 0,
    .begin (.connect ⟨none, false, false⟩ false), .proceed 1, .proceed 1, .proceed 1, .proceed 1,
    .begin (.inbound 1 "PVR,Inception,1"), .proceed 2, .proceed 2, .proceed 2, .proceed 2,
    .proceed 2, .setOut 2 [2, 1], .proceed 2, .proceed 2, .proceed 2, .proceed 2]

/-- The same, but a write to the customer fails before the answer is there, and the
    customer is removed. -/
def lostRequest : List Event :=
  [.begin (.connect ⟨none, false, false⟩ false), .proceed 0, .proceed 0, .proceed 0, .proceed 0,
    .begin (.connect ⟨none, false, false⟩ false), .proceed 1, .proceed 1, .proceed 1, .proceed 1,
    .begin (.inbound 1 "PVR,Inception,1"), .transport 1 ⟨none, false, true⟩, .write 1,
    .write 1, .write 1, .write 1, .proceed 2, .proceed 2, .proceed 2, .proceed 2, .proceed 2,
    .setOut 2 [2], .proceed 2, .proceed 2, .proceed 2]

def asked : Foyer := ((idle .single none).run? (lostRequest.take 10)).get (by decide +kernel)

def afterRequest : Foyer := ((idle .single none).run? request).get (by decide +kernel)

def afterLostRequest : Foyer := ((idle .single none).run? lostRequest).get (by decide +kernel)

/-- The customer who is lost gets no answer; the seat is booked and the other one is
    told all the same. -/
theorem lostRequest_handled :
    (∃ service, Handled .single none lostRequest 10 asked afterLostRequest 1
      "PVR,Inception,1" service ∧ service.result? 1 = some (.error (.closed 1)) ∧
      afterLostRequest.hub.programme = afterRequest.hub.programme) ∧
    afterLostRequest.hub.sessions.map (·.accepted.length) = [1, 2] ∧
    afterRequest.hub.sessions.map (·.accepted.length) = [3, 2] := by
  have run : (idle .single none).run? lostRequest = some afterLostRequest :=
    (Option.some_get _).symm
  have run' : (idle .single none).run? request = some afterRequest := (Option.some_get _).symm
  have begins :
      Moment run? (idle .single none) lostRequest 10 asked
      (.begin (.inbound 1 "PVR,Inception,1")) :=
    ⟨rfl, (Option.some_get _).symm⟩
  have same : (idle .single none).sights 1 lostRequest = (idle .single none).sights 1 request := by
    decide +kernel
  obtain ⟨service, handled⟩ := handled run begins
  have returned : (afterLostRequest.errands[asked.errands.length]?).bind (·.report? 0) =
      (some (1, "PVR,Inception,1", some (.error (.closed 1))) :
        Option (SessionId × Text × Option (Except Error Reply))) := by decide +kernel
  rw [handled.turn, Option.bind_some, Errand.report?, if_neg (by decide),
    Option.some.injEq] at returned
  have result := congrArg (·.2.2) returned
  exact ⟨⟨service, handled, result, (handled.apart request afterRequest run' same).1⟩,
    by decide +kernel, by decide +kernel⟩

end Foyer

end BoxOffice.Hub
