import BoxOffice.Proofs.Delivery

/-! # The trail of an inbound call

An inbound call leaves a trail: the frames it offers, in their order, the orders in which its
announcement sets out, and whether its booking was granted. How far the call has come says
what the trail is.
-/

namespace BoxOffice

/-! ## Bookings that a programme shows -/

namespace Programme

/-- The seats that a message asks for are booked, in the show that it names. -/
def HasSold (p : Programme) (message : Text) : Prop :=
  ∃ request i s, Request.parse message = .ok request ∧
    p.position? request.theater request.movie = some i ∧ p[i]? = some s ∧
    ∀ n ∈ request.seats, n ∈ s.seats.bookedSeats

theorem HasSold.growsTo {p q : Programme} {message : Text} (h : p.HasSold message)
    (grows : p.GrowsTo q) : q.HasSold message := by
  obtain ⟨request, i, s, read, found, here, sold⟩ := h
  obtain ⟨s', here', -⟩ := show_of_bill grows.bill here
  refine ⟨request, i, s', read, ?_, here',
    fun n asked => grows.keeps i s s' here here' n (sold n asked)⟩
  rw [position?_of_bill grows.bill, found]

theorem Books.hasSold {p q : Programme} {message : Text} {request : Request}
    (h : p.Books message (.ok request) q) : q.HasSold message := by
  cases h with
  | @granted _ i s read found here free =>
      refine ⟨request, i, { s with seats := s.seats.bookAll request.seats }, read, ?_, ?_, ?_⟩
      · rw [position?_of_bill (bill_setSeats ..), found]
      · rw [getElem?_setSeats, if_pos rfl, here, Option.map_some]
      · intro n asked
        exact (SeatPlan.mem_bookedSeats_bookAll free.isValid).mpr (.inr asked)

theorem decide_of_comma {p : Programme} {message : Text} (comma : ',' ∈ message) :
    p.decide message = (some (p.book message).1, (p.book message).2) := by
  have other : message ∉ snapshotCommands := fun command => comma_not_mem_of_command command comma
  simp only [decide, List.contains_iff_mem, other, comma, if_false, if_true]

theorem decide_of_plain {p : Programme} {message : Text} (plain : ',' ∉ message) :
    p.decide message = (none, p) := by
  simp only [decide, List.contains_iff_mem, plain, if_false, ite_self]

theorem hasSold_of_decide {p : Programme} {message : Text} {request : Request}
    (granted : (p.decide message).1 = some (.ok request)) :
    (p.decide message).2.HasSold message := by
  by_cases comma : ',' ∈ message
  · rw [decide_of_comma comma] at granted ⊢
    exact Books.hasSold (Option.some.inj granted ▸ p.books message)
  · rw [decide_of_plain comma] at granted
    cases granted

end Programme

/-! ## Frames that announce a booking -/

def Snapshot.isUpdate (frame : Text) : Bool := updateMark.isPrefixOf frame

/-- Whether an offer announces a booking to a session that takes it. -/
def Hub.Offer.updates (o : Hub.Offer) (id : SessionId) : Bool :=
  o.session = id && o.taken && Snapshot.isUpdate o.frame

theorem Snapshot.isUpdate_render_update (p : Programme) : isUpdate (render .update p) := by
  simp only [isUpdate, render, Kind.header, List.append_assoc, List.isPrefixOf_iff_prefix]
  exact List.prefix_append ..

theorem Snapshot.isUpdate_render_initial (p : Programme) :
    isUpdate (render .initial p) = false := by
  simp only [render, Kind.header, List.append_assoc]
  rfl

theorem Reply.isUpdate_compose (message : Text) (result : Option (Except Refusal Request))
    (seen : Programme) : Snapshot.isUpdate (compose message result seen).text = false := by
  unfold compose
  split
  · rename_i result
    cases result <;> rfl
  · split
    · exact Snapshot.isUpdate_render_initial seen
    · rfl

theorem Reply.announce_compose {message : Text} {result : Option (Except Refusal Request)}
    {seen : Programme} :
    (compose message result seen).announce ↔ ∃ request, result = some (.ok request) := by
  cases result with
  | none =>
      have silent : (compose message none seen).announce = false := by
        simp only [compose]
        split <;> rfl
      simp [silent]
  | some result => cases result <;> simp [compose, ofBooking]

namespace Hub.Foyer

/-! ## Trails -/

/-- What a call has done so far. -/
@[ext]
structure Trail where
  /-- Its booking was granted. -/
  granted : Prop
  /-- What it has offered, in that order. -/
  offers : List Offer
  /-- The orders in which its frame has set out, one for each time. -/
  orders : List (List SessionId)

def Event.order? (n : Nat) : Event → Option (List SessionId)
  | .setOut m order => if m = n then some order else none
  | _ => none

/-- The next step of the call in place `n` books what its message asks for. -/
def Grants (f : Foyer) (n : Nat) : Prop :=
  ∃ sender message request, f.errands[n]? = some (.inbound sender message .lookedUp) ∧
    (f.hub.programme.decide message).1 = some (.ok request)

def trail (start : Foyer) (events : List Event) (n : Nat) : Trail where
  granted := ∃ k u, Moment run? start events k u (.proceed n) ∧ u.Grants n
  offers := (start.offers events).filter (·.call = n)
  orders := events.filterMap (·.order? n)

section

variable {start f f' : Foyer} {events : List Event} {e : Event} {n : Nat}

theorem offers_trail_append (run : start.run? events = some f) (e : Event) (n : Nat) :
    (trail start (events ++ [e]) n).offers =
      (trail start events n).offers ++ (f.offer? e).toList.filter (·.call = n) := by
  simp only [trail, offers_append run, List.filter_append]

theorem orders_trail_append (events : List Event) (e : Event) (n : Nat) :
    (trail start (events ++ [e]) n).orders = (trail start events n).orders ++
      (e.order? n).toList := by
  cases order : e.order? n <;> simp [trail, order]

theorem granted_trail_append (run : start.run? events = some f) (e : Event) (n : Nat) :
    (trail start (events ++ [e]) n).granted ↔
      (trail start events n).granted ∨ e = .proceed n ∧ f.Grants n := by
  constructor
  · rintro ⟨k, u, moment, grants⟩
    rcases moment.of_snoc with earlier | ⟨-, same, now⟩
    · exact .inl ⟨k, u, earlier, grants⟩
    · rw [run, Option.some.injEq] at now
      exact .inr ⟨same.symm, now ▸ grants⟩
  · rintro (⟨k, u, moment, grants⟩ | ⟨rfl, grants⟩)
    · exact ⟨k, u, moment.append [e], grants⟩
    · exact ⟨events.length, f, .last run _, grants⟩

theorem trail_of_other (run : start.run? events = some f) (proceeds : e ≠ .proceed n)
    (setsOut : ∀ order, e ≠ .setOut n order) :
    trail start (events ++ [e]) n = trail start events n := by
  have order : e.order? n = none := by
    cases e with
    | setOut m order =>
        refine if_neg ?_
        rintro rfl
        exact setsOut order rfl
    | begin | proceed | write | transport => rfl
  have offers : (f.offer? e).toList.filter (·.call = n) = [] := by
    rw [List.filter_eq_nil_iff]
    intro o member own
    have turn := (offer?_eq_some (Option.mem_toList.mp member)).1
    exact proceeds (of_decide_eq_true own ▸ turn)
  ext1
  · exact propext ((granted_trail_append run e n).trans (or_iff_left fun now => proceeds now.1))
  · rw [offers_trail_append run, offers, List.append_nil]
  · rw [orders_trail_append, order, Option.toList_none, List.append_nil]

theorem trail_of_silent {sender : SessionId} {message : Text} {service : Service}
    (run : start.run? events = some f)
    (turn : f.errands[n]? = some (.inbound sender message service))
    (silent : (Errand.inbound sender message service).offering? = none)
    (decided : service ≠ .lookedUp) :
    trail start (events ++ [.proceed n]) n = trail start events n := by
  ext1
  · refine propext ((granted_trail_append run _ n).trans (or_iff_left ?_))
    rintro ⟨-, sender', message', request, turn', -⟩
    rw [turn, Option.some.injEq] at turn'
    cases turn'
    exact decided rfl
  · rw [offers_trail_append run, offer?_of_turn turn silent]
    exact List.append_nil _
  · exact (orders_trail_append ..).trans (List.append_nil _)

theorem trail_of_offering {sender id : SessionId} {message frame : Text} {service : Service}
    (run : start.run? events = some f)
    (turn : f.errands[n]? = some (.inbound sender message service))
    (offering : (Errand.inbound sender message service).offering? = some (id, frame)) :
    trail start (events ++ [.proceed n]) n =
      { trail start events n with
        offers := (trail start events n).offers ++
          [⟨n, id, frame, f.hub.isRegistered id, (f.hub.session? id).any (·.isOpen)⟩] } := by
  ext1
  · refine propext ((granted_trail_append run _ n).trans (or_iff_left ?_))
    rintro ⟨-, sender', message', request, turn', -⟩
    rw [turn, Option.some.injEq] at turn'
    cases turn'
    cases offering
  · rw [offers_trail_append run, offer?_of_offering turn offering]
    simp
  · exact (orders_trail_append ..).trans (List.append_nil _)

/-! ## Steps of one call -/

theorem lt_length_of_step (step : f.step? e = some f')
    (own : e = .proceed n ∨ ∃ order, e = .setOut n order) : n < f.errands.length := by
  rcases own with rfl | ⟨order, rfl⟩
  · simp only [step?, Option.bind_eq_bind, Option.bind_eq_some_iff] at step
    obtain ⟨errand, turn, -⟩ := step
    exact (List.getElem?_eq_some_iff.mp turn).1
  · simp only [step?] at step
    split at step
    · simp only [Option.bind_eq_bind, Option.bind_eq_some_iff] at step
      obtain ⟨errand, turn, -⟩ := step
      exact (List.getElem?_eq_some_iff.mp turn).1
    · cases step

theorem length_le_of_moves (moves : f.Moves e f') : f.errands.length ≤ f'.errands.length := by
  cases moves <;> simp

theorem trail_of_unbegun {programme : Programme} {limit : Option Nat}
    (run : (idle programme limit).run? events = some f) (unbegun : f.errands.length ≤ n) :
    trail (idle programme limit) events n = ⟨False, [], []⟩ := by
  refine runs.induction (motive := fun events f => f.errands.length ≤ n →
    trail (idle programme limit) events n = ⟨False, [], []⟩) ?_ ?_ run unbegun
  · intro _
    ext1
    · refine propext ⟨?_, False.elim⟩
      rintro ⟨k, u, ⟨event, -⟩, -⟩
      cases event
    · rfl
    · rfl
  · intro events u e v before none step later
    have early := Nat.le_trans (length_le_of_moves (moves_of_step? step)) later
    rw [trail_of_other before, none early]
    · rintro rfl
      have := lt_length_of_step step (.inl rfl)
      omega
    · rintro order rfl
      have := lt_length_of_step step (.inr ⟨order, rfl⟩)
      omega

/-- Where an inbound call is after an event. -/
inductive Attends (f : Foyer) (f' : Foyer) (n : Nat) (sender : SessionId) (message : Text) :
    Event → Service → Prop where
  | rest {e : Event} {service : Service}
      (turn : f.errands[n]? = some (.inbound sender message service))
      (proceeds : e ≠ .proceed n) (setsOut : ∀ order, e ≠ .setOut n order) :
      Attends f f' n sender message e service
  | refuse (place : n = f.errands.length) :
      Attends f f' n sender message (.begin (.inbound sender message)) .unknownSender
  | lookUp (place : n = f.errands.length) :
      Attends f f' n sender message (.begin (.inbound sender message)) .lookedUp
  | serve {service next : Service} (turn : f.errands[n]? = some (.inbound sender message service))
      (serves : f.hub.Serves sender message service next f'.hub) :
      Attends f f' n sender message (.proceed n) next
  | announce {order : List SessionId} {reply : Reply} {delivered : Bool} {seen : Programme}
      (turn : f.errands[n]? =
        some (.inbound sender message (.announcing reply delivered ⟨seen, []⟩)))
      (everyone : order.Perm f.hub.registry) (same : f'.hub = f.hub) :
      Attends f f' n sender message (.setOut n order)
        (.onRound reply delivered ⟨Snapshot.render .update seen, order, []⟩)

theorem attends_of_moves {sender : SessionId} {message : Text} {service : Service}
    (moves : f.Moves e f') (turn : f'.errands[n]? = some (.inbound sender message service)) :
    Attends f f' n sender message e service := by
  cases moves with
  | refuse | lookUp =>
      rcases of_getElem?_append turn with old | ⟨place, same⟩
      · exact .rest old nofun nofun
      · cases same
        first | exact .refuse place | exact .lookUp place
  | assign | broadcast | remove | miss | drain =>
      rcases of_getElem?_append turn with old | ⟨-, same⟩
      · exact .rest old nofun nofun
      · cases same
  | serve before serves =>
      rcases of_getElem?_set turn with ⟨old, apart⟩ | ⟨rfl, same⟩
      · exact .rest old (fun here => apart (Event.proceed.inj here)) nofun
      · cases same
        exact .serve before serves
  | announce before readable everyone =>
      rcases of_getElem?_set turn with ⟨old, apart⟩ | ⟨rfl, same⟩
      · exact .rest old nofun fun order here => apart (Event.setOut.inj here).1
      · cases same
        exact .announce before everyone rfl
  | cry =>
      rcases of_getElem?_set turn with ⟨old, apart⟩ | ⟨-, same⟩
      · exact .rest old nofun fun order here => apart (Event.setOut.inj here).1
      · cases same
  | look | greet | dismiss | activate | enter | reach | comeBack | tell | tellAll =>
      rcases of_getElem?_set turn with ⟨old, apart⟩ | ⟨-, same⟩
      · exact .rest old (fun here => apart (Event.proceed.inj here)) nofun
      · cases same
  | write | transport => exact .rest turn nofun nofun

theorem registry_of_moves {d : Errand} (guarded : f.Guarded) (moves : f.Moves e f')
    (member : d ∈ f.errands) (onRound : d.isOnRound) : f'.hub.registry = f.hub.registry := by
  have busy : 0 < f.errands.countP (·.isOnRound) := List.countP_pos_iff.mpr ⟨d, member, onRound⟩
  have locked (free : f.isWritable) : False := by
    have := countP_onRound_of_isWritable free
    omega
  cases moves with
  | remove free | drain free => exact (locked free).elim
  | enter turn =>
      have entering : 0 < f.errands.countP (·.isEntering) :=
        List.countP_pos_iff.mpr ⟨_, List.mem_of_getElem? turn, rfl⟩
      have := guarded.apart entering
      omega
  | serve turn serves =>
      cases serves with
      | @compose result seen =>
          obtain ⟨tally, same⟩ := f.hub.exists_countAnswer (.compose _ result seen)
          rw [same]
      | _ => rfl
  | write free step =>
      cases writes_of_writerStep step with
      | own there writes same => rw [same]; rfl
      | leave there stand => exact (locked (free (by simp [isLeaving, there, stand]))).elim
      | pass | tell => rfl
  | _ => rfl

/-! ## Where a call stands -/

/-- The sender of a call was offered an answer, and nobody was offered anything else. -/
structure Trail.Answers (t : Trail) (sender : SessionId) (answer : Offer) : Prop where
  offers : t.offers = [answer]
  sender : answer.session = sender
  orders : t.orders = []

/-- The announcement of a booking has set out. The sender was offered the answer before. The frame
    shows the booking; it was offered to sessions of the order one after another, and those ahead
    are still to be reached. -/
structure Trail.Announces (t : Trail) (sender : SessionId) (message : Text) (answer : Offer)
    (sent : List Offer) (ahead : List SessionId) (seen : Programme) : Prop where
  granted : t.granted
  offers : t.offers = answer :: sent
  sender : answer.session = sender
  grants : ∃ request past, answer.frame = (Reply.ofBooking (.ok request) past).text
  orders : t.orders = [sent.map (·.session) ++ ahead]
  shows : seen.HasSold message
  frames : ∀ o ∈ sent, o.registered ∧ o.frame = Snapshot.render .update seen

/-- What the trail of a call is, by how far the call has come. -/
inductive Stands (h : Hub) (sender : SessionId) (message : Text) (t : Trail) : Service → Prop where
  | unknownSender (none : t = ⟨False, [], []⟩) : Stands h sender message t .unknownSender
  | lookedUp (none : t = ⟨False, [], []⟩) : Stands h sender message t .lookedUp
  | answering {result : Option (Except Refusal Request)} {survey : Survey} (offers : t.offers = [])
      (orders : t.orders = []) (granted : t.granted ↔ ∃ request, result = some (.ok request))
      (sold : t.granted → h.programme.HasSold message) :
      Stands h sender message t (.answering result survey)
  | answered {result : Option (Except Refusal Request)} {seen : Programme} (offers : t.offers = [])
      (orders : t.orders = []) (granted : t.granted ↔ ∃ request, result = some (.ok request))
      (sold : t.granted → h.programme.HasSold message) :
      Stands h sender message t (.answered (.compose message result seen))
  | announcing {reply : Reply} {delivered : Bool} {survey : Survey} {answer : Offer}
      (granted : t.granted) (answers : t.Answers sender answer)
      (grants : ∃ request past, answer.frame = (Reply.ofBooking (.ok request) past).text)
      (sold : survey.seen.HasSold message) (grown : survey.seen.GrowsTo h.programme) :
      Stands h sender message t (.announcing reply delivered survey)
  | onRound {reply : Reply} {delivered : Bool} {ahead reached : List SessionId} {answer : Offer}
      {sent : List Offer} {seen : Programme}
      (announces : t.Announces sender message answer sent ahead seen)
      (everyone : ∀ order ∈ t.orders, order.Perm h.registry) :
      Stands h sender message t
        (.onRound reply delivered ⟨Snapshot.render .update seen, ahead, reached⟩)
  | served {delivery : Delivery} (done : (¬ t.granted ∧ ∃ answer, t.Answers sender answer) ∨
        ∃ answer sent seen, t.Announces sender message answer sent [] seen) :
      Stands h sender message t (.served delivery)
  | returned {delivery : Delivery} (done : (¬ t.granted ∧ ∃ answer, t.Answers sender answer) ∨
        ∃ answer sent seen, t.Announces sender message answer sent [] seen) :
      Stands h sender message t (.returned delivery)

theorem Stands.kept {h h' : Hub} {sender : SessionId} {message : Text} {t : Trail}
    {service : Service} (stands : Stands h sender message t service)
    (grows : h.programme.GrowsTo h'.programme)
    (registry : (Errand.inbound sender message service).isOnRound → h'.registry = h.registry) :
    Stands h' sender message t service := by
  cases stands with
  | unknownSender none => exact .unknownSender none
  | lookedUp none => exact .lookedUp none
  | answering offers orders granted sold =>
      exact .answering offers orders granted fun yes => (sold yes).growsTo grows
  | answered offers orders granted sold =>
      exact .answered offers orders granted fun yes => (sold yes).growsTo grows
  | announcing granted answers grants sold grown =>
      exact .announcing granted answers grants sold (grown.trans grows)
  | onRound announces everyone => exact .onRound announces (registry rfl ▸ everyone)
  | served done => exact .served done
  | returned done => exact .returned done

/-! ## What the steps of a call do to where it stands -/

section

variable {sender : SessionId} {message : Text} {reply : Reply} {delivered : Bool}

theorem grants_of_turn (turn : f.errands[n]? = some (.inbound sender message .lookedUp)) :
    f.Grants n ↔ ∃ request, (f.hub.programme.decide message).1 = some (.ok request) := by
  constructor
  · rintro ⟨sender', message', request, turn', yes⟩
    rw [turn, Option.some.injEq] at turn'
    cases turn'
    exact ⟨request, yes⟩
  · rintro ⟨request, yes⟩
    exact ⟨sender, message, request, turn, yes⟩

theorem stands_decide (run : start.run? events = some f)
    (turn : f.errands[n]? = some (.inbound sender message .lookedUp))
    (none : trail start events n = ⟨False, [], []⟩) (survey : Survey) :
    Stands { f.hub with programme := (f.hub.programme.decide message).2 } sender message
      (trail start (events ++ [.proceed n]) n)
      (.answering (f.hub.programme.decide message).1 survey) := by
  have granted := granted_trail_append run (.proceed n) n
  rw [none, false_or, and_iff_right rfl, grants_of_turn turn] at granted
  refine .answering ?_ ?_ granted ?_
  · rw [offers_trail_append run, offer?_of_turn turn rfl, none]
    rfl
  · rw [orders_trail_append, none]
    rfl
  · intro yes
    obtain ⟨request, yes⟩ := granted.mp yes
    exact Programme.hasSold_of_decide yes

theorem Trail.Announces.reach {t : Trail} {answer : Offer} {sent : List Offer} {id : SessionId}
    {ahead : List SessionId} {seen : Programme}
    (h : t.Announces sender message answer sent (id :: ahead) seen) {o : Offer}
    (own : o.session = id) (registered : o.registered)
    (frame : o.frame = Snapshot.render .update seen) :
    Trail.Announces { t with offers := t.offers ++ [o] } sender message answer (sent ++ [o]) ahead
      seen where
  granted := h.granted
  offers := by rw [h.offers, List.cons_append]
  sender := h.sender
  grants := h.grants
  orders := by
    rw [h.orders, List.map_append, List.append_assoc, ← own]
    rfl
  shows := h.shows
  frames := by
    intro o' member
    rcases List.mem_append.mp member with old | new
    · exact h.frames o' old
    · rw [List.mem_singleton.mp new]
      exact ⟨registered, frame⟩

theorem stands_reach (run : start.run? events = some f) {id : SessionId} {answer : Offer}
    {sent : List Offer} {seen : Programme} {ahead reached reached' : List SessionId}
    (turn : f.errands[n]? = some (.inbound sender message
      (.onRound reply delivered ⟨Snapshot.render .update seen, id :: ahead, reached⟩)))
    (announces : (trail start events n).Announces sender message answer sent (id :: ahead) seen)
    (everyone : ∀ order ∈ (trail start events n).orders, order.Perm f.hub.registry) :
    Stands (f.hub.offer id (Snapshot.render .update seen)).2 sender message
      (trail start (events ++ [.proceed n]) n)
      (.onRound reply delivered ⟨Snapshot.render .update seen, ahead, reached'⟩) := by
  -- whoever is on the order is registered still, since the round has its share of the lock
  have registered : f.hub.isRegistered id := by
    have own : sent.map (·.session) ++ id :: ahead ∈ (trail start events n).orders := by
      rw [announces.orders]
      exact List.mem_singleton_self _
    rw [isRegistered_iff, ← (everyone _ own).mem_iff]
    exact List.mem_append_right _ (List.mem_cons_self ..)
  rw [trail_of_offering run turn rfl]
  exact .onRound (announces.reach rfl registered rfl) everyone

theorem stands_of_serves {service next : Service} {hub : Hub} (run : start.run? events = some f)
    (turn : f.errands[n]? = some (.inbound sender message service))
    (serves : f.hub.Serves sender message service next hub)
    (stands : Stands f.hub sender message (trail start events n) service) :
    Stands hub sender message (trail start (events ++ [.proceed n]) n) next := by
  cases serves with
  | decide =>
      cases stands with
      | lookedUp none => exact stands_decide run turn none _
  | look next =>
      cases stands with
      | answering offers orders granted sold =>
          rw [trail_of_silent run turn rfl nofun]
          exact .answering offers orders granted sold
  | @compose result seen =>
      obtain ⟨tally, same⟩ := f.hub.exists_countAnswer (.compose message result seen)
      cases stands with
      | answering offers orders granted sold =>
          rw [trail_of_silent run turn rfl nofun, same]
          exact .answered offers orders granted sold
  | answer silent =>
      cases stands with
      | answered offers orders granted sold =>
          have refused : ¬ (trail start events n).granted := by
            rw [granted, ← Reply.announce_compose, silent]
            nofun
          rw [trail_of_offering run turn rfl, offers]
          exact .served (.inl ⟨refused, _, rfl, rfl, orders⟩)
  | grant granted =>
      cases stands with
      | answered offers orders iff_granted sold =>
          obtain ⟨request, rfl⟩ := Reply.announce_compose.mp granted
          have yes := iff_granted.mpr ⟨request, rfl⟩
          rw [trail_of_offering run turn rfl, offers]
          exact .announcing yes ⟨rfl, rfl, orders⟩ ⟨request, _, rfl⟩ (sold yes) (.refl _)
  | lookAgain next =>
      cases stands with
      | announcing granted answers grants sold grown =>
          obtain ⟨i, -, same⟩ := Survey.next?_eq_some next
          obtain ⟨more, later⟩ := grown.lookAt i
          rw [trail_of_silent run turn rfl nofun]
          exact .announcing granted answers grants (same ▸ sold.growsTo more) (same ▸ later)
  | reach =>
      cases stands with
      | onRound announces everyone => exact stands_reach run turn announces everyone
  | comeBack =>
      cases stands with
      | onRound announces everyone =>
          rw [trail_of_silent run turn rfl nofun]
          exact .served (.inr ⟨_, _, _, announces⟩)
  | letGo =>
      cases stands with
      | served done =>
          rw [trail_of_silent run turn rfl nofun]
          exact .returned done

theorem stands_setOut (run : start.run? events = some f) {h : Hub} {order : List SessionId}
    {reached : List SessionId} {seen : Programme} (everyone : order.Perm h.registry)
    (stands : Stands h sender message (trail start events n)
      (.announcing reply delivered ⟨seen, []⟩)) :
    Stands h sender message (trail start (events ++ [.setOut n order]) n)
      (.onRound reply delivered ⟨Snapshot.render .update seen, order, reached⟩) := by
  cases stands with
  | @announcing _ _ _ answer granted answers grants sold grown =>
      have orders : (trail start (events ++ [.setOut n order]) n).orders = [order] := by
        rw [orders_trail_append, answers.orders, Event.order?, if_pos rfl]
        rfl
      have announces :
          (trail start (events ++ [.setOut n order]) n).Announces sender message answer
          [] order seen := by
        refine ⟨(granted_trail_append run ..).mpr (.inl granted), ?_, answers.sender,
          grants, orders, sold, nofun⟩
        rw [offers_trail_append run, answers.offers]
        rfl
      refine .onRound announces ?_
      intro other member
      rw [orders, List.mem_singleton] at member
      exact member ▸ everyone

end

theorem stands_of_run {programme : Programme} {limit : Option Nat}
    (run : (idle programme limit).run? events = some f) {sender : SessionId} {message : Text}
    {service : Service} (turn : f.errands[n]? = some (.inbound sender message service)) :
    Stands f.hub sender message (trail (idle programme limit) events n) service := by
  refine runs.induction (motive := fun events f => ∀ n sender message service,
    f.errands[n]? = some (.inbound sender message service) →
      Stands f.hub sender message (trail (idle programme limit) events n) service) ?_ ?_ run
    n sender message service turn
  · intro n sender message service turn
    cases turn
  -- the last event is a step of the call itself, which takes its trail on, or leaves the trail
  -- alone
  intro events u e v before known step n sender message service turn
  have moves := moves_of_step? step
  cases attends_of_moves moves turn with
  | rest old proceeds setsOut =>
      rw [trail_of_other before proceeds setsOut]
      exact (known n sender message service old).kept (growsTo_of_moves moves)
        (registry_of_moves (Sound.of_run before).guarded moves (List.mem_of_getElem? old))
  | refuse place =>
      rw [trail_of_other before (by nofun) (by nofun)]
      exact .unknownSender (trail_of_unbegun before (Nat.le_of_eq place.symm))
  | lookUp place =>
      rw [trail_of_other before (by nofun) (by nofun)]
      exact .lookedUp (trail_of_unbegun before (Nat.le_of_eq place.symm))
  | serve old serves => exact stands_of_serves before old serves (known n sender message _ old)
  | announce old everyone same =>
      rw [same]
      exact stands_setOut before everyone (known n sender message _ old)

end

end Hub.Foyer

end BoxOffice
