import BoxOffice.Proofs.Aside

/-! # What the others see

An event concerns the session `a` alone, and then leaves the foyer without `a` as it is, or
everyone sees it, and then it does there what it does in the foyer (`follow_of_step`). So where
everyone but `a` is after a run follows from what they have seen of it (`follow_of_run`), whatever
happened to `a`.
-/

namespace BoxOffice.Hub

variable {h h' : Hub} {a id : SessionId}

/-! ## Events -/

/-- What everyone but one session sees happen. -/
inductive Sight where
  /-- An event that happens alike where the session is not there. -/
  | event (e : Foyer.Event)
  /-- The session was registered and has a message looked up. -/
  | message (text : Text)
  /-- The connect in this place is refused. -/
  | refusal (n : Nat)
  deriving Repr, DecidableEq

/-- Whether the next step of a call concerns `a` alone, or only the tally. -/
def Errand.isOnlyFor (a : SessionId) : Errand → Bool
  | .disconnecting id _ => id = a
  | .closingAll .. => true
  | .inbound _ _ (.onRound _ _ ⟨_, id :: _, _⟩) | .crying ⟨_, id :: _, _⟩ => id = a
  | _ => false

/-- Whether the next step of a call refuses a connect. -/
def Errand.isTurnedAway (h : Hub) : Errand → Bool
  | .connecting _ bounded => bounded && h.isFull
  | _ => false

namespace Foyer

/-- The place of a call among those that everyone sees. -/
def place (f : Foyer) (a : SessionId) (n : Nat) : Nat :=
  ((f.errands.take n).filterMap (·.without? a)).length

/-- What everyone but `a` sees of an event. None if the event is the transport of `a`, its
    writer or its removal, a frame that is offered to it, or a message of it that does not
    find it registered. -/
def sight? (f : Foyer) (a : SessionId) : Event → Option Sight
  | .begin (.connect sink bounded) =>
      some (.event (.begin (.connect (if f.hub.nextId = a then blankSink else sink) bounded)))
  | .begin (.inbound sender message) =>
      if sender = a then if f.hub.isRegistered a then some (.message message) else none
      else some (.event (.begin (.inbound sender message)))
  | .begin (.disconnect id) => if id = a then none else some (.event (.begin (.disconnect id)))
  | .begin command => some (.event (.begin command))
  | .proceed n => do
      let errand ← f.errands[n]?
      if errand.isTurnedAway f.hub then some (.refusal (f.place a n))
      else if errand.isOnlyFor a then none
      else some (.event (.proceed (f.place a n)))
  | .setOut n order => some (.event (.setOut (f.place a n) (order.filter (· ≠ a))))
  | .write id => if id = a then none else some (.event (.write id))
  | .transport id sink => if id = a then none else some (.event (.transport id sink))

/-- What everyone but `a` has seen of events, as long as they can happen. -/
def sights (f : Foyer) (a : SessionId) : List Event → List Sight
  | [] => []
  | e :: rest => (f.sight? a e).toList ++ ((f.step? e).map fun f => f.sights a rest).getD []

/-- Where everyone but `a` is after what they have seen. -/
def follow (f : Foyer) (a : SessionId) : Sight → Option Foyer
  | .event e => (f.step? e).map (·.without a)
  | .message text => some (Foyer.without ⟨f.hub, f.errands ++ [.inbound a text .lookedUp]⟩ a)
  | .refusal n =>
      match f.errands[n]? with
      | some (.connecting id _) =>
          some (Foyer.without ⟨f.hub.dismiss id, f.errands.set n (.connected id false)⟩ a)
      | _ => none

/-! ## Calls -/

variable {f f' : Foyer} {e : Event} {n : Nat} {d d₀ next next₀ : Errand} {hub hub₀ : Hub}

theorem without?_of_without? (seen : d.without? a = some d₀) : d₀.without? a = some d₀ := by
  cases d with
  | inbound sender message service =>
      cases service with
      | unknownSender =>
          simp only [Errand.without?, Option.ite_none_left_eq_some, Option.some.injEq] at seen
          obtain ⟨other, rfl⟩ := seen
          simp [Errand.without?, other]
      | lookedUp | answering | answered | announcing | onRound | served | returned =>
          cases seen
          simp [Errand.without?, Service.without]
  | disconnecting | disconnected =>
      simp only [Errand.without?, Option.ite_none_left_eq_some, Option.some.injEq] at seen
      obtain ⟨other, rfl⟩ := seen
      simp [Errand.without?, other]
  | greeting | connecting | entering | connected | broadcasting | crying | cried | closingAll =>
      cases seen
      simp [Errand.without?]

theorem filterMap_without? (errands : List Errand) :
    (errands.filterMap (·.without? a)).filterMap (·.without? a) =
      errands.filterMap (·.without? a) := by
  rw [List.filterMap_filterMap]
  apply List.filterMap_congr
  intro d _
  cases seen : d.without? a with
  | none => rfl
  | some d₀ => exact without?_of_without? seen

/-- What does not depend on what is left out is told of the calls by what is left of them. -/
theorem filterMap_without {α : Type} {view : Errand → Option α}
    (unseen : ∀ {d : Errand}, d.without? a = none → view d = none)
    (seen : ∀ {d d₀ : Errand}, d.without? a = some d₀ → view d₀ = view d) (f : Foyer) :
    (f.without a).errands.filterMap view = f.errands.filterMap view := by
  rw [Foyer.without, List.filterMap_filterMap]
  apply List.filterMap_congr
  intro d _
  cases sight : d.without? a with
  | none => exact (unseen sight).symm
  | some d₀ => exact seen sight

/-- A call that everyone sees is there as well where `a` is not, and takes its steps there. -/
theorem turn_without (turn : f.errands[n]? = some d) (seen : d.without? a = some d₀) :
    (f.without a).errands[f.place a n]? = some d₀ ∧
    ∀ next next₀ : Errand, next₀.without? a = next.without? a →
      ((f.without a).errands.set (f.place a n) next₀).filterMap (·.without? a) =
        (f.errands.set n next).filterMap (·.without? a) := by
  obtain ⟨after, cut, set⟩ := exists_cut turn
  have cut₀ : (f.without a).errands =
      (f.errands.take n).filterMap (·.without? a) ++ d₀ :: after.filterMap (·.without? a) :=
    calc (f.without a).errands
        = (f.errands.take n ++ d :: after).filterMap (·.without? a) := by rw [← cut]; rfl
      _ = _ := by rw [List.filterMap_append, List.filterMap_cons, seen]
  constructor
  · rw [cut₀, place, List.getElem?_append_right (Nat.le_refl _), Nat.sub_self]
    rfl
  · intro next next₀ same
    rw [cut₀, set, place, List.set_append_right _ _ (Nat.le_refl _), Nat.sub_self,
      List.set_cons_zero, List.filterMap_append, List.filterMap_append, List.filterMap_cons,
      List.filterMap_cons, same, filterMap_without?, filterMap_without?]

theorem follow_begin {command : Command} (begins : (f.without a).begin? command = some (d₀, hub₀))
    (call : d₀.without? a = d.without? a) (hubs : hub₀.without a = hub.without a) :
    (f.without a).follow a (.event (.begin command)) =
      some (Foyer.without ⟨hub, f.errands ++ [d]⟩ a) := by
  simp only [follow, step?, begins, Option.bind_eq_bind, Option.bind_some, Option.map_some]
  simp only [Foyer.without, List.filterMap_append, filterMap_without?, hubs,
    List.filterMap_cons, call, List.filterMap_nil]

theorem follow_proceed (turn : f.errands[n]? = some d) (seen : d.without? a = some d₀)
    (proceeds : (f.without a).proceed? d₀ = some (next₀, hub₀))
    (call : next₀.without? a = next.without? a) (hubs : hub₀.without a = hub.without a) :
    (f.without a).follow a (.event (.proceed (f.place a n))) =
      some (Foyer.without ⟨hub, f.errands.set n next⟩ a) := by
  obtain ⟨turn', set⟩ := turn_without turn seen
  simp only [follow, step?, turn', proceeds, Option.bind_eq_bind, Option.bind_some, Option.map_some]
  have errands := set next next₀ call
  simp only [Foyer.without, hubs] at errands ⊢
  rw [errands]

theorem filter_reached {id : SessionId} (other : id ≠ a) (taken : Bool) (reached : List SessionId) :
    (if taken then reached ++ [id] else reached).filter (· ≠ a) =
      if taken then reached.filter (· ≠ a) ++ [id] else reached.filter (· ≠ a) := by
  cases taken <;> simp [other]

theorem filter_reached_self (taken : Bool) (reached : List SessionId) :
    (if taken then reached ++ [a] else reached).filter (· ≠ a) = reached.filter (· ≠ a) := by
  cases taken <;> simp

theorem round_without {round : Round} {frame : Text} {id : SessionId}
    {ahead reached : List SessionId} (same : round = ⟨frame, id :: ahead, reached⟩) (other : id ≠ a)
    (h : Hub) :
    (round.without a).next? (h.without a) =
      some (⟨frame, ahead.filter (· ≠ a),
        if (h.offer id frame).1 then reached.filter (· ≠ a) ++ [id] else reached.filter (· ≠ a)⟩,
        ((h.without a).offer id frame).2) := by
  subst same
  have taken : ((h.without a).offer id frame).1 = (h.offer id frame).1 := by
    simp [offered_without, other]
  simp only [Round.without, List.filter_cons, other, ne_eq, not_false_eq_true, decide_true, if_true,
    Round.next?, taken]

section

variable {sender : SessionId} {message : Text} {reply : Reply}

theorem follow_answer (turn : f.errands[n]? = some (.inbound sender message (.answered reply)))
    (silent : reply.announce = false) :
    (f.without a).follow a (.event (.proceed (f.place a n))) =
      some (Foyer.without ⟨(f.hub.offer sender reply.text).2, f.errands.set n
        (.inbound sender message
          (.served ⟨reply, (f.hub.offer sender reply.text).1, none⟩))⟩ a) := by
  have proceeds : (f.without a).proceed? (.inbound sender message (.answered reply)) =
      some (.inbound sender message
          (.served ⟨reply, ((f.hub.without a).offer sender reply.text).1, none⟩),
        ((f.hub.without a).offer sender reply.text).2) := by
    simp only [proceed?, serve?, silent]
    rfl
  refine follow_proceed turn rfl proceeds ?_ (offer_without ..)
  simp [Errand.without?, Service.without, Delivery.without, offered_without]

theorem follow_grant (turn : f.errands[n]? = some (.inbound sender message (.answered reply)))
    (granted : reply.announce = true) :
    (f.without a).follow a (.event (.proceed (f.place a n))) =
      some (Foyer.without ⟨(f.hub.offer sender reply.text).2, f.errands.set n
        (.inbound sender message (.announcing reply (f.hub.offer sender reply.text).1
          (.begin f.hub.programme)))⟩ a) := by
  have proceeds : (f.without a).proceed? (.inbound sender message (.answered reply)) =
      some (.inbound sender message
          (.announcing reply ((f.hub.without a).offer sender reply.text).1
          (.begin f.hub.programme)),
        ((f.hub.without a).offer sender reply.text).2) := by
    simp only [proceed?, serve?, granted]
    rfl
  refine follow_proceed turn rfl proceeds ?_ (offer_without ..)
  simp [Errand.without?, Service.without, offered_without]

theorem follow_lookAgain {delivered : Bool} {survey further : Survey}
    (turn : f.errands[n]? = some (.inbound sender message (.announcing reply delivered survey)))
    (more : survey.next? f.hub.programme = some further) :
    (f.without a).follow a (.event (.proceed (f.place a n))) =
      some (Foyer.without ⟨f.hub, f.errands.set n
        (.inbound sender message (.announcing reply delivered further))⟩ a) := by
  have proceeds : (f.without a).proceed?
      (.inbound sender message (.announcing reply (sender ≠ a && delivered) survey)) =
      some (.inbound sender message (.announcing reply (sender ≠ a && delivered) further),
        f.hub.without a) := by
    simp only [proceed?, serve?]
    rw [show (f.without a).hub.programme = f.hub.programme from rfl, more]
    rfl
  refine follow_proceed turn rfl proceeds ?_ (Hub.without_without ..)
  simp [Errand.without?, Service.without]

theorem follow_reach {delivered : Bool} {frame : Text} {id : SessionId}
    {ahead reached : List SessionId}
    (turn : f.errands[n]? =
      some (.inbound sender message (.onRound reply delivered ⟨frame, id :: ahead, reached⟩)))
    (other : id ≠ a) :
    (f.without a).follow a (.event (.proceed (f.place a n))) =
      some (Foyer.without ⟨(f.hub.offer id frame).2, f.errands.set n
        (.inbound sender message (.onRound reply delivered
          ⟨frame, ahead, if (f.hub.offer id frame).1 then reached ++ [id] else reached⟩))⟩ a) := by
  have proceeds : (f.without a).proceed?
      (.inbound sender message (.onRound reply (sender ≠ a && delivered)
        (Round.without a ⟨frame, id :: ahead, reached⟩))) =
      some (.inbound sender message (.onRound reply (sender ≠ a && delivered)
          ⟨frame, ahead.filter (· ≠ a), if (f.hub.offer id frame).1
            then reached.filter (· ≠ a) ++ [id] else reached.filter (· ≠ a)⟩),
        ((f.hub.without a).offer id frame).2) := by
    simp only [proceed?, serve?]
    rw [show (f.without a).hub = f.hub.without a from rfl, round_without rfl other]
    rfl
  refine follow_proceed turn rfl proceeds ?_ (offer_without ..)
  rw [← filter_reached other]
  simp [Errand.without?, Service.without, Round.without]

theorem follow_of_serves {service next : Service}
    (turn : f.errands[n]? = some (.inbound sender message service))
    (serves : f.hub.Serves sender message service next hub)
    (everyone : (Errand.inbound sender message service).isOnlyFor a = false) :
    (f.without a).follow a (.event (.proceed (f.place a n))) =
      some (Foyer.without ⟨hub, f.errands.set n (.inbound sender message next)⟩ a) := by
  cases serves with
  | decide => exact follow_proceed turn rfl rfl rfl (programme_without ..)
  | @look result survey further more =>
      refine follow_proceed turn rfl ?_ rfl (Hub.without_without ..)
      simp only [proceed?, serve?, Service.without]
      rw [show (f.without a).hub.programme = f.hub.programme from rfl, more]
      rfl
  | compose =>
      refine follow_proceed turn rfl rfl rfl ?_
      rw [countAnswer_without, countAnswer_without, Foyer.without, Hub.without_without]
  | answer silent => exact follow_answer turn silent
  | grant granted => exact follow_grant turn granted
  | lookAgain more => exact follow_lookAgain turn more
  | reach => exact follow_reach turn (of_decide_eq_false everyone)
  | comeBack =>
      refine follow_proceed turn rfl rfl ?_ ?_
      · simp [Errand.without?, Service.without, Delivery.without, Round.without]
      · rw [without_count, without_count]
        exact Hub.without_without ..
  | letGo =>
      refine follow_proceed turn rfl rfl ?_ ?_
      · simp [Errand.without?, Service.without]
      · exact update_without (·.id_release) (·.id_release) (·.forget_release)

end

/-! ## The lock -/

theorem all_without {p : Errand → Bool} (hidden : ∀ d : Errand, d.without? a = none → p d = true)
    (same : ∀ d d₀ : Errand, d.without? a = some d₀ → p d₀ = p d) (f : Foyer) :
    (f.without a).errands.all p = f.errands.all p := by
  unfold Foyer.without
  simp only
  induction f.errands with
  | nil => rfl
  | cons d rest ih =>
      rw [List.filterMap_cons]
      cases seen : d.without? a with
      | none => rw [ih, List.all_cons, hidden d seen, Bool.true_and]
      | some d₀ => rw [List.all_cons, ih, List.all_cons, same d d₀ seen]

theorem locks_of_unseen (unseen : d.without? a = none) :
    d.isEntering = false ∧ d.isOnRound = false := by
  cases d with
  | inbound sender message service =>
      cases service with
      | unknownSender => exact ⟨rfl, rfl⟩
      | lookedUp | answering | answered | announcing | onRound | served | returned => cases unseen
  | disconnecting | disconnected => exact ⟨rfl, rfl⟩
  | greeting | connecting | entering | connected | broadcasting | crying | cried | closingAll =>
      cases unseen

theorem locks_of_seen (seen : d.without? a = some d₀) :
    d₀.isEntering = d.isEntering ∧ d₀.isOnRound = d.isOnRound := by
  cases d with
  | inbound sender message service =>
      cases service with
      | unknownSender =>
          simp only [Errand.without?, Option.ite_none_left_eq_some, Option.some.injEq] at seen
          obtain ⟨-, rfl⟩ := seen
          exact ⟨rfl, rfl⟩
      | lookedUp | answering | answered | announcing | onRound | served | returned =>
          cases seen
          exact ⟨rfl, rfl⟩
  | disconnecting | disconnected =>
      simp only [Errand.without?, Option.ite_none_left_eq_some, Option.some.injEq] at seen
      obtain ⟨-, rfl⟩ := seen
      exact ⟨rfl, rfl⟩
  | greeting | connecting | entering | connected | broadcasting | crying | cried | closingAll =>
      cases seen
      exact ⟨rfl, rfl⟩

theorem isReadable_without (f : Foyer) (a : SessionId) :
    (f.without a).isReadable = f.isReadable := by
  refine all_without (fun d unseen => ?_) (fun d d₀ seen => ?_) f
  · rw [(locks_of_unseen unseen).1]
    rfl
  · rw [(locks_of_seen seen).1]

theorem isWritable_without (f : Foyer) (a : SessionId) :
    (f.without a).isWritable = f.isWritable := by
  refine all_without (fun d unseen => ?_) (fun d d₀ seen => ?_) f
  · rw [(locks_of_unseen unseen).1, (locks_of_unseen unseen).2]
    rfl
  · rw [(locks_of_seen seen).1, (locks_of_seen seen).2]

/-! ## Events -/

/-- Where everyone but `a` is after all they have seen. -/
def followAll (f : Foyer) (a : SessionId) (seen : List Sight) : Option Foyer :=
  seen.foldlM (·.follow a ·) f

@[simp] theorem followAll_singleton (f : Foyer) (a : SessionId) (x : Sight) :
    f.followAll a [x] = f.follow a x := by
  simp [followAll]

theorem followAll_append (f : Foyer) (a : SessionId) (seen more : List Sight) :
    f.followAll a (seen ++ more) = (f.followAll a seen).bind (·.followAll a more) :=
  List.foldlM_append

/-- What a call does is not noticed if only the tally and `a` have to do with it. -/
theorem unseen_turn (turn : f.errands[n]? = some d) (call : next.without? a = d.without? a)
    (hubs : hub.without a = f.hub.without a) :
    Foyer.without ⟨hub, f.errands.set n next⟩ a = f.without a := by
  obtain ⟨after, cut, set⟩ := exists_cut turn
  have errands :
      (f.errands.set n next).filterMap (·.without? a) = f.errands.filterMap (·.without? a) :=
    calc (f.errands.set n next).filterMap (·.without? a)
        = (f.errands.take n ++ d :: after).filterMap (·.without? a) := by
          rw [set, List.filterMap_append, List.filterMap_append, List.filterMap_cons,
            List.filterMap_cons, call]
      _ = f.errands.filterMap (·.without? a) := by rw [← cut]
  simp only [Foyer.without, hubs, errands]

theorem unseen_begin (call : d.without? a = none) (hubs : hub.without a = f.hub.without a) :
    Foyer.without ⟨hub, f.errands ++ [d]⟩ a = f.without a := by
  simp [Foyer.without, hubs, call]

theorem followed_message {sender : SessionId} {message : Text}
    (begins : f.begin? (.inbound sender message) = some (d, hub)) :
    (f.without a).followAll a (f.sight? a (.begin (.inbound sender message))).toList =
      some (Foyer.without ⟨hub, f.errands ++ [d]⟩ a) := by
  simp only [begin?, lookUp] at begins
  split at begins
  case isFalse => cases begins
  rename_i readable
  have readable₀ : (f.without a).isReadable := (isReadable_without f a).trans readable
  by_cases own : sender = a
  · subst own
    by_cases registered : f.hub.isRegistered sender
    · have seen : f.sight? sender (.begin (.inbound sender message)) = some (.message message) := by
        simp [sight?, registered]
      rw [if_pos registered] at begins
      cases begins
      rw [seen]
      refine (followAll_singleton ..).trans ?_
      have hubs : (f.hub.update sender .hold).without sender = f.hub.without sender :=
        update_without_self fun s here => s.id_hold.trans here
      simp only [follow, Foyer.without, List.filterMap_append, filterMap_without?, hubs,
        Hub.without_without]
    · have unseen : f.sight? sender (.begin (.inbound sender message)) = none := by
        simp [sight?, registered]
      rw [if_neg registered] at begins
      cases begins
      rw [unseen]
      exact congrArg some (unseen_begin (by simp [Errand.without?]) rfl).symm
  · have seen : f.sight? a (.begin (.inbound sender message)) =
        some (.event (.begin (.inbound sender message))) := by simp [sight?, own]
    rw [seen]
    refine (followAll_singleton ..).trans ?_
    have registered₀ : (f.without a).hub.isRegistered sender = f.hub.isRegistered sender :=
      isRegistered_without own
    by_cases registered : f.hub.isRegistered sender
    · rw [if_pos registered] at begins
      cases begins
      refine follow_begin ?_ rfl (update_without (·.id_hold) (·.id_hold) (·.forget_hold))
      simp only [begin?, lookUp, readable₀, registered₀, registered, if_true]
      rfl
    · rw [if_neg registered] at begins
      cases begins
      refine follow_begin ?_ rfl (Hub.without_without ..)
      simp only [begin?, lookUp, readable₀, registered₀, registered, if_true, if_false,
        Bool.false_eq_true]
      rfl

theorem followed_disconnect {id : SessionId} (begins : f.begin? (.disconnect id) = some (d, hub)) :
    (f.without a).followAll a (f.sight? a (.begin (.disconnect id))).toList =
      some (Foyer.without ⟨hub, f.errands ++ [d]⟩ a) := by
  simp only [begin?, Hub.remove] at begins
  split at begins
  case isFalse => cases begins
  rename_i free
  have free₀ : (f.without a).isWritable := (isWritable_without f a).trans free
  by_cases own : id = a
  · subst own
    have unseen : f.sight? id (.begin (.disconnect id)) = none := by simp [sight?]
    rw [unseen]
    by_cases registered : f.hub.isRegistered id
    · rw [if_pos registered] at begins
      cases begins
      exact congrArg some (unseen_begin (by simp [Errand.without?]) (erase_without_self ..)).symm
    · rw [if_neg registered] at begins
      cases begins
      exact congrArg some (unseen_begin (by simp [Errand.without?]) rfl).symm
  · have seen : f.sight? a (.begin (.disconnect id)) = some (.event (.begin (.disconnect id))) := by
      simp [sight?, own]
    rw [seen]
    refine (followAll_singleton ..).trans ?_
    have registered₀ : (f.without a).hub.isRegistered id = f.hub.isRegistered id :=
      isRegistered_without own
    by_cases registered : f.hub.isRegistered id
    · rw [if_pos registered] at begins
      cases begins
      have begins₀ : (f.without a).begin? (.disconnect id) =
          some (.disconnecting id ((f.without a).hub.registry.erase id).length,
            { f.hub.without a with registry := (f.hub.without a).registry.erase id }) := by
        simp only [begin?, Hub.remove, free₀, registered₀, registered, if_true]
        rfl
      exact follow_begin begins₀ rfl (erase_without ..)
    · rw [if_neg registered] at begins
      cases begins
      refine follow_begin ?_ rfl (Hub.without_without ..)
      simp only [begin?, Hub.remove, free₀, registered₀, registered, if_true, if_false,
        Bool.false_eq_true]
      rfl

theorem followed_closeAll (begins : f.begin? .closeAll = some (d, hub)) :
    (f.without a).followAll a (f.sight? a (.begin .closeAll)).toList =
      some (Foyer.without ⟨hub, f.errands ++ [d]⟩ a) := by
  simp only [begin?] at begins
  split at begins
  case isFalse => cases begins
  rename_i free
  have free₀ : (f.without a).isWritable := (isWritable_without f a).trans free
  cases begins
  refine (followAll_singleton ..).trans ?_
  have begins₀ : (f.without a).begin? .closeAll =
      some (.closingAll (f.hub.without a).drain.1 (f.hub.without a).drain.1.length,
        (f.hub.without a).drain.2) := by
    simp only [begin?, free₀, if_true]
    rfl
  refine follow_begin begins₀ ?_ ?_
  · simp only [Errand.without?, drain_without]
  · simp [drain, Hub.without, Session.others_others]

theorem followed_begin {command : Command} (begins : f.begin? command = some (d, hub)) :
    (f.without a).followAll a (f.sight? a (.begin command)).toList =
      some (Foyer.without ⟨hub, f.errands ++ [d]⟩ a) := by
  cases command with
  | connect sink bounded =>
      cases begins
      exact (followAll_singleton ..).trans (follow_begin rfl rfl (assign_without ..))
  | inbound sender message => exact followed_message begins
  | broadcast frame =>
      cases begins
      exact (followAll_singleton ..).trans (follow_begin rfl rfl (Hub.without_without ..))
  | disconnect id => exact followed_disconnect begins
  | closeAll => exact followed_closeAll begins

theorem onRound_of_isOnlyFor {sender : SessionId} {message : Text} {service : Service}
    (own : (Errand.inbound sender message service).isOnlyFor a) :
    ∃ reply delivered frame ahead reached, service = .onRound reply delivered ⟨frame, a :: ahead,
      reached⟩ := by
  cases service with
  | onRound reply delivered round =>
      obtain ⟨frame, ahead, reached⟩ := round
      cases ahead with
      | nil => cases own
      | cons id ahead =>
          exact ⟨reply, delivered, frame, ahead, reached, by rw [of_decide_eq_true own]⟩
  | unknownSender | lookedUp | answering | answered | announcing | served | returned => cases own

theorem sight?_proceed (turn : f.errands[n]? = some d) (stays : d.isTurnedAway f.hub = false) :
    f.sight? a (.proceed n) =
      if d.isOnlyFor a then none else some (.event (.proceed (f.place a n))) := by
  simp [sight?, turn, stays]

theorem followAll_of_seen (turn : f.errands[n]? = some d) (stays : d.isTurnedAway f.hub = false)
    (everyone : d.isOnlyFor a = false) :
    (f.without a).followAll a (f.sight? a (.proceed n)).toList =
      (f.without a).follow a (.event (.proceed (f.place a n))) := by
  rw [sight?_proceed turn stays, everyone]
  exact followAll_singleton ..

theorem followAll_of_own (turn : f.errands[n]? = some d) (stays : d.isTurnedAway f.hub = false)
    (own : d.isOnlyFor a = true) :
    (f.without a).followAll a (f.sight? a (.proceed n)).toList = some (f.without a) := by
  rw [sight?_proceed turn stays, own]
  rfl

theorem followed_greeting {id : SessionId} {bounded : Bool} {survey : Survey}
    (turn : f.errands[n]? = some (.greeting id bounded survey))
    (proceeds : f.proceed? (.greeting id bounded survey) = some (next, hub)) :
    (f.without a).followAll a (f.sight? a (.proceed n)).toList =
      some (Foyer.without ⟨hub, f.errands.set n next⟩ a) := by
  rw [followAll_of_seen turn rfl rfl]
  simp only [proceed?] at proceeds
  split at proceeds
  case h_1 further more =>
    cases proceeds
    refine follow_proceed turn rfl ?_ rfl (Hub.without_without ..)
    simp only [proceed?]
    rw [show (f.without a).hub.programme = f.hub.programme from rfl, more]
    rfl
  case h_2 all =>
    cases proceeds
    have proceeds₀ : (f.without a).proceed? (.greeting id bounded survey) =
        some (.connecting id bounded,
          ((f.hub.without a).offer id (Snapshot.render .initial survey.seen)).2) := by
      simp only [proceed?]
      rw [show (f.without a).hub.programme = f.hub.programme from rfl, all]
      rfl
    exact follow_proceed turn rfl proceeds₀ rfl (offer_without ..)

theorem followed_connecting {id : SessionId} {bounded : Bool}
    (turn : f.errands[n]? = some (.connecting id bounded))
    (proceeds : f.proceed? (.connecting id bounded) = some (next, hub)) :
    (f.without a).followAll a (f.sight? a (.proceed n)).toList =
      some (Foyer.without ⟨hub, f.errands.set n next⟩ a) := by
  simp only [proceed?] at proceeds
  split at proceeds
  case isFalse => cases proceeds
  rename_i free
  have free₀ : (f.without a).isWritable := (isWritable_without f a).trans free
  split at proceeds
  case isTrue full =>
    cases proceeds
    have seen : f.sight? a (.proceed n) = some (.refusal (f.place a n)) := by
      simp only [sight?, turn, Option.bind_eq_bind, Option.bind_some, Errand.isTurnedAway,
        full, if_true]
    have errand : (Errand.connecting id bounded).without? a = some (.connecting id bounded) := rfl
    obtain ⟨turn₀, set⟩ := turn_without turn errand
    have errands := set (.connected id false) (.connected id false) rfl
    have hubs : ((f.without a).hub.dismiss id).without a = (f.hub.dismiss id).without a :=
      dismiss_without ..
    rw [seen]
    refine (followAll_singleton ..).trans ?_
    simp only [follow, turn₀]
    exact congrArg some (congrArg₂ Foyer.mk hubs errands)
  case isFalse room =>
    cases proceeds
    rw [followAll_of_seen turn (Bool.eq_false_iff.mpr room) rfl]
    refine follow_proceed turn rfl ?_ rfl (activate_without ..)
    simp only [proceed?, free₀, if_true]
    rw [show (f.without a).hub.isFull = false from rfl, Bool.and_false]
    rfl

theorem followed_service {sender : SessionId} {message : Text} {service : Service}
    (turn : f.errands[n]? = some (.inbound sender message service))
    (proceeds : f.proceed? (.inbound sender message service) = some (next, hub)) :
    (f.without a).followAll a (f.sight? a (.proceed n)).toList =
      some (Foyer.without ⟨hub, f.errands.set n next⟩ a) := by
  simp only [proceed?, Option.map_eq_some_iff] at proceeds
  obtain ⟨⟨service', hub'⟩, serves, same⟩ := proceeds
  cases same
  cases own : (Errand.inbound sender message service).isOnlyFor a with
  | false =>
      rw [followAll_of_seen turn rfl own]
      exact follow_of_serves turn (serves_of_serve? serves) own
  | true =>
      obtain ⟨reply, delivered, frame, ahead, reached, rfl⟩ := onRound_of_isOnlyFor own
      rw [followAll_of_own turn rfl own]
      cases serves
      refine congrArg some (unseen_turn turn ?_ (offer_without_self ..)).symm
      simp only [Errand.without?, Service.without, Round.without, filter_reached_self,
        List.filter_cons, ne_eq, not_true_eq_false, decide_false, if_false, Bool.false_eq_true]

theorem followed_crying {round : Round} (turn : f.errands[n]? = some (.crying round))
    (proceeds : f.proceed? (.crying round) = some (next, hub)) :
    (f.without a).followAll a (f.sight? a (.proceed n)).toList =
      some (Foyer.without ⟨hub, f.errands.set n next⟩ a) := by
  obtain ⟨frame, ahead, reached⟩ := round
  cases ahead with
  | nil =>
      cases proceeds
      rw [followAll_of_seen turn rfl rfl]
      refine follow_proceed turn rfl rfl ?_ ?_
      · simp [Errand.without?, Round.without]
      · rw [without_count, without_count]
        exact Hub.without_without ..
  | cons id ahead =>
      cases proceeds
      by_cases own : id = a
      · subst own
        rw [followAll_of_own turn rfl (by simp [Errand.isOnlyFor])]
        refine congrArg some (unseen_turn turn ?_ (offer_without_self ..)).symm
        simp only [Errand.without?, Round.without, filter_reached_self, List.filter_cons, ne_eq,
          not_true_eq_false, decide_false, if_false, Bool.false_eq_true]
      · have proceeds₀ :
            (f.without a).proceed? (.crying (Round.without a ⟨frame, id :: ahead, reached⟩)) =
            some (.crying ⟨frame, ahead.filter (· ≠ a),
              if (f.hub.offer id frame).1 then reached.filter (· ≠ a) ++ [id]
              else reached.filter (· ≠ a)⟩,
              ((f.hub.without a).offer id frame).2) := by
          simp only [proceed?]
          rw [show (f.without a).hub = f.hub.without a from rfl, round_without rfl own]
        rw [followAll_of_seen turn rfl (by simp [Errand.isOnlyFor, own])]
        refine follow_proceed turn rfl proceeds₀ ?_ (offer_without ..)
        rw [← filter_reached own]
        simp only [Errand.without?, Round.without, List.filter_filter, Bool.and_self]
        rfl

theorem followed_proceed (turn : f.errands[n]? = some d)
    (proceeds : f.proceed? d = some (next, hub)) :
    (f.without a).followAll a (f.sight? a (.proceed n)).toList =
      some (Foyer.without ⟨hub, f.errands.set n next⟩ a) := by
  cases d with
  | greeting id bounded survey => exact followed_greeting turn proceeds
  | connecting id bounded => exact followed_connecting turn proceeds
  | entering id =>
      cases proceeds
      rw [followAll_of_seen turn rfl rfl]
      exact follow_proceed turn rfl rfl rfl (enter_without ..)
  | inbound sender message service => exact followed_service turn proceeds
  | crying round => exact followed_crying turn proceeds
  | disconnecting id remaining =>
      cases proceeds
      by_cases own : id = a
      · rw [followAll_of_own turn rfl (by simp [Errand.isOnlyFor, own])]
        exact congrArg some
          (unseen_turn turn (by simp [Errand.without?, own]) (without_count ..)).symm
      · rw [followAll_of_seen turn rfl (by simp [Errand.isOnlyFor, own])]
        refine follow_proceed turn (if_neg own) rfl (by simp [Errand.without?, own]) ?_
        rw [without_count, without_count]
        exact Hub.without_without ..
  | closingAll ids uncounted =>
      cases uncounted with
      | zero => cases proceeds
      | succ uncounted =>
          cases proceeds
          rw [followAll_of_own turn rfl rfl]
          exact congrArg some (unseen_turn turn (by rfl) (without_count ..)).symm
  | connected | broadcasting | cried | disconnected => cases proceeds

theorem followed_setOut {order : List SessionId} (turn : f.errands[n]? = some d)
    (readable : f.isReadable) (everyone : order.Perm f.hub.registry)
    (sets : setOut? order d = some next) :
    (f.without a).follow a (.event (.setOut (f.place a n) (order.filter (· ≠ a)))) =
      some (Foyer.without ⟨f.hub, f.errands.set n next⟩ a) := by
  have readable₀ : (f.without a).isReadable := (isReadable_without f a).trans readable
  have everyone₀ : (order.filter (· ≠ a)).isPerm (f.without a).hub.registry :=
    List.isPerm_iff.mpr (everyone.filter _)
  have follows {d₀ next₀ : Errand} (seen : d.without? a = some d₀)
      (sets₀ : setOut? (order.filter (· ≠ a)) d₀ = some next₀)
      (call : next₀.without? a = next.without? a) :
      (f.without a).follow a (.event (.setOut (f.place a n) (order.filter (· ≠ a)))) =
        some (Foyer.without ⟨f.hub, f.errands.set n next⟩ a) := by
    obtain ⟨turn₀, set⟩ := turn_without turn seen
    have errands := set next next₀ call
    simp only [follow, step?, readable₀, everyone₀, Bool.and_self, if_true, turn₀, sets₀,
      Option.bind_eq_bind, Option.bind_some, Option.map_some]
    exact congrArg some (congrArg₂ Foyer.mk (Hub.without_without ..) errands)
  unfold setOut? at sets
  split at sets
  · cases sets
    exact follows rfl rfl (by simp [Errand.without?, Service.without, Round.without])
  · cases sets
    exact follows rfl rfl (by simp [Errand.without?, Round.without])
  · cases sets

theorem followed_write {id : SessionId} (free : f.isWritable || !f.hub.isLeaving id)
    (step : f.hub.writerStep id = some hub) :
    (f.without a).followAll a (f.sight? a (.write id)).toList =
      some (Foyer.without ⟨hub, f.errands⟩ a) := by
  by_cases own : id = a
  · subst own
    have unseen : f.sight? id (.write id) = none := if_pos rfl
    rw [unseen]
    exact congrArg some (congrArg (Foyer.mk · _) (writerStep_without_self step)).symm
  · have seen : f.sight? a (.write id) = some (.event (.write id)) := if_neg own
    obtain ⟨hub₀, step₀, hubs⟩ := writerStep_without own step
    have free₀ : (f.without a).isWritable || !(f.without a).hub.isLeaving id := by
      rw [isWritable_without, show (f.without a).hub = f.hub.without a from rfl,
        isLeaving_without own]
      exact free
    rw [seen]
    refine (followAll_singleton ..).trans ?_
    simp only [follow, step?, free₀, if_true]
    rw [show (f.without a).hub = f.hub.without a from rfl, step₀]
    exact congrArg some (congrArg₂ Foyer.mk hubs (filterMap_without? ..))

/-- Each event does for everyone but `a` what they see of it. -/
theorem follow_of_step {f' : Foyer} (step : f.step? e = some f') :
    (f.without a).followAll a (f.sight? a e).toList = some (f'.without a) := by
  cases e with
  | begin command =>
      simp only [step?, Option.bind_eq_bind, Option.bind_eq_some_iff] at step
      obtain ⟨⟨d, hub⟩, begins, same⟩ := step
      cases same
      exact followed_begin begins
  | proceed n =>
      simp only [step?, Option.bind_eq_bind, Option.bind_eq_some_iff] at step
      obtain ⟨d, turn, ⟨next, hub⟩, proceeds, same⟩ := step
      cases same
      exact followed_proceed turn proceeds
  | setOut n order =>
      simp only [step?] at step
      split at step
      case isFalse => cases step
      rename_i allowed
      rw [Bool.and_eq_true, List.isPerm_iff] at allowed
      simp only [Option.bind_eq_bind, Option.bind_eq_some_iff] at step
      obtain ⟨d, turn, next, sets, same⟩ := step
      cases same
      exact (followAll_singleton ..).trans (followed_setOut turn allowed.1 allowed.2 sets)
  | write id =>
      simp only [step?] at step
      split at step
      case isFalse => cases step
      rename_i allowed
      simp only [Option.bind_eq_bind, Option.bind_eq_some_iff] at step
      obtain ⟨hub, written, same⟩ := step
      cases same
      exact followed_write allowed written
  | transport id sink =>
      cases step
      by_cases own : id = a
      · subst own
        have unseen : f.sight? id (.transport id sink) = none := if_pos rfl
        rw [unseen]
        have hubs : (f.hub.update id (·.withSink fun _ => sink)).without id = f.hub.without id :=
          update_without_self fun s here => (s.id_withSink fun _ => sink).trans here
        exact congrArg some (congrArg (Foyer.mk · _) hubs).symm
      · have seen :
            f.sight? a (.transport id sink) = some (.event (.transport id sink)) := if_neg own
        rw [seen]
        refine (followAll_singleton ..).trans ?_
        have hubs : ((f.hub.without a).update id (·.withSink fun _ => sink)).without a =
            (f.hub.update id (·.withSink fun _ => sink)).without a :=
          update_without (·.id_withSink fun _ => sink) (·.id_withSink fun _ => sink)
            (·.forget_withSink fun _ => sink)
        exact congrArg some (congrArg₂ Foyer.mk hubs (filterMap_without? ..))

theorem sights_append {f f' : Foyer} {before : List Event} (run : f.run? before = some f')
    (a : SessionId) (after : List Event) :
    f.sights a (before ++ after) = f.sights a before ++ f'.sights a after := by
  induction before generalizing f with
  | nil =>
      cases run
      rfl
  | cons e rest ih =>
      rw [runs.cons, Option.bind_eq_some_iff] at run
      obtain ⟨next, step, run⟩ := run
      simp only [List.cons_append, sights, step, Option.map_some, Option.getD_some,
        List.append_assoc, ih run]

theorem follow_of_run {f' : Foyer} {events : List Event} (run : f.run? events = some f') :
    (f.without a).followAll a (f.sights a events) = some (f'.without a) := by
  induction events generalizing f with
  | nil =>
      cases run
      rfl
  | cons e rest ih =>
      rw [runs.cons, Option.bind_eq_some_iff] at run
      obtain ⟨next, step, run⟩ := run
      rw [sights, step, Option.map_some, Option.getD_some, followAll_append, follow_of_step step,
        Option.bind_some]
      exact ih run

/-- Two runs in which everyone but `a` sees the same end alike for everyone but `a`. -/
theorem without_eq_of_sights {f f' g g' : Foyer} {events events' : List Event}
    (run : f.run? events = some f') (run' : g.run? events' = some g')
    (start : f.without a = g.without a) (same : f.sights a events = g.sights a events') :
    f'.without a = g'.without a := by
  have followed := follow_of_run (a := a) run
  rw [start, same, follow_of_run run', Option.some.injEq] at followed
  exact followed.symm

end Foyer

end BoxOffice.Hub
