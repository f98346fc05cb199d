import BoxOffice.Proofs.Turn

/-! # What an onlooker sees

A customer who says nothing is sent the greeting and the announcements. As long as calls take turns
and nothing is sent to everyone from outside, whatever the others say, the onlooker holds after each
frame the programme as it was when the frame was queued, and in the end the programme as it is.
-/

namespace BoxOffice

/-! ## A written-out queue -/

/-- The first so many frames that were written to the customer, taken in. -/
def Session.received (s : Session) (frames : Nat) : Client.Received :=
  Client.Received.nothing.takeAll (s.written.take frames)

namespace Session

variable {s : Session} {n : Nat} {frame : Text}

theorem received_succ (here : s.written[n]? = some frame) :
    s.received (n + 1) = (s.received n).take frame := by
  rw [received, List.take_add_one, here, Option.toList_some, Client.Received.takeAll_concat]
  rfl

/-- A queue that is written out without loss, while its writer serves, is open. -/
theorem Sound.isOpen_of_drained (h : s.Sound) (serving : s.writer.isServing)
    (drained : s.written = s.accepted) : s.isOpen := by
  have flows := h.flows
  rw [h.isOpen]
  unfold Flows at flows
  cases stand : s.writer with
  | waiting | writing => rfl
  | closingQueue | leaving =>
      cases ending : s.writer.ending? with
      | none => rw [stand] at ending; cases ending
      | some ending' =>
          cases ending' with
          | drained => rw [Writer.not_isServing_of_drained ending] at serving; cases serving
          | failed =>
              rw [ending] at flows
              obtain ⟨lost, same⟩ := flows
              rw [drained] at same
              exact absurd same.symm (by simp)
  | unstarted | telling | finishing | stopped => rw [stand] at serving; cases serving

end Session

namespace Hub.Foyer

variable {programme : Programme} {limit : Option Nat} {start f f' u u' : Foyer}
  {events : List Event} {e : Event} {w : SessionId} {s : Session} {i j k k' : Nat}
  {frame frame' : Text}

theorem growsTo_of_run (run : f.run? events = some f') :
    f.hub.programme.GrowsTo f'.hub.programme := by
  refine runs.induction
    (motive := fun _ now => f.hub.programme.GrowsTo now.hub.programme) (.refl _) ?_ run
  intro _ u e v _ grown step
  exact grown.trans (growsTo_of_moves (moves_of_step? step))

/-! ## Runs in turn -/

/-- Calls take turns, nobody broadcasts from outside, and the session says nothing. -/
structure Conducted (start : Foyer) (events : List Event) (w : SessionId) : Prop where
  inTurn : ∀ k u e, Moment run? start events k u e → u.InTurn e
  quiet : ∀ frame, .begin (.broadcast frame) ∉ events
  mute : ∀ message, .begin (.inbound w message) ∉ events

theorem Conducted.of_snoc (h : Conducted start (events ++ [e]) w) : Conducted start events w where
  inTurn k u d moment := h.inTurn k u d (moment.append [e])
  quiet frame here := h.quiet frame (List.mem_append_left _ here)
  mute message here := h.mute message (List.mem_append_left _ here)

/-- Whether each event is in turn when it comes. -/
def runsInTurn (f : Foyer) : List Event → Bool
  | [] => true
  | e :: rest => decide (f.InTurn e) && (f.step? e).all (·.runsInTurn rest)

theorem inTurn_of_runsInTurn (check : start.runsInTurn events)
    (moment : Moment run? start events k u e) :
    u.InTurn e := by
  induction events generalizing start k with
  | nil => cases moment.event
  | cons d rest ih =>
      rw [runsInTurn, Bool.and_eq_true, decide_eq_true_eq] at check
      obtain ⟨event, before⟩ := moment
      cases k with
      | zero =>
          cases event
          cases before
          exact check.1
      | succ k =>
          rw [List.take_succ_cons, runs.cons, Option.bind_eq_some_iff] at before
          obtain ⟨next, step, before⟩ := before
          rw [step, Option.all_some] at check
          exact ih check.2 ⟨event, before⟩

/-! ## The step that queued a frame -/

/-- At event `k` a call offers the frame to the session, whose open queue has taken
    `j` frames before. -/
structure Queues (start : Foyer) (events : List Event) (w : SessionId) (j : Nat) (frame : Text)
    (k : Nat) (u : Foyer) : Prop where
  offers : ∃ n d, Moment run? start events k u (.proceed n) ∧ u.errands[n]? = some d ∧
    d.offering? = some (w, frame)
  takes : ∃ s ∈ u.hub.sessions, s.id = w ∧ s.isOpen ∧ s.accepted.length = j

theorem Queues.append (h : Queues start events w j frame k u) (after : List Event) :
    Queues start (events ++ after) w j frame k u where
  offers := by
    obtain ⟨n, d, moment, rest⟩ := h.offers
    exact ⟨n, d, moment.append after, rest⟩
  takes := h.takes

/-- Frames are queued in the order in which they stand, and the programme grows meanwhile. -/
theorem Queues.growsTo (sound : start.Sound) (first : Queues start events w i frame k u)
    (second : Queues start events w j frame' k' u') (order : i < j) :
    u.hub.programme.GrowsTo u'.hub.programme := by
  obtain ⟨n, d, moment, -⟩ := first.offers
  obtain ⟨n', d', moment', -⟩ := second.offers
  obtain ⟨s, there, rfl, -, length⟩ := first.takes
  obtain ⟨s', there', number, -, length'⟩ := second.takes
  have later : k ≤ k' := by
    by_contra earlier
    obtain ⟨meanwhile, run⟩ := moment'.between runs moment (by omega)
    have grown := ((sound.run moment'.before).ages run there' there number.symm).accepted.length_le
    omega
  obtain ⟨meanwhile, run⟩ := moment.between runs moment' later
  exact growsTo_of_run run

/-- What the calls can tell the session, what it was sent last, and what each frame that its queue
    took showed when it was queued. -/
structure Follows (start : Foyer) (events : List Event) (w : SessionId) (f : Foyer) : Prop where
  tells : ∀ d ∈ f.errands, d.TellsNow w f.hub
  upToDate : f.UpToDate w
  queued : ∀ s ∈ f.hub.sessions, s.id = w → ∀ j frame, s.accepted[j]? = some frame →
    ∃ k u kind, Queues start events w j frame k u ∧ frame = Snapshot.render kind u.hub.programme

theorem Follows.step (h : Follows start events w f) (sound : f.Sound)
    (run : start.run? events = some f) (step : f.step? e = some f')
    (conducted : Conducted start (events ++ [e]) w) :
    Follows start (events ++ [e]) w f' := by
  have inTurn := conducted.inTurn events.length f e (.last run e)
  have last : e ∈ events ++ [e] := List.mem_append_right _ (List.mem_singleton_self e)
  have moves := moves_of_step? step
  constructor
  case tells =>
    exact tellsNow_of_moves moves inTurn (fun message same => conducted.mute message (same ▸ last))
      (fun frame same => conducted.quiet frame (same ▸ last)) h.tells
  case upToDate => exact h.upToDate.step sound step inTurn h.tells
  case queued =>
    intro s' there' own j frame here
    obtain ⟨sink, rfl⟩ | ⟨s, there, number, grown⟩ := accepts sound moves s' there'
    · cases here
    obtain rfl : s.id = w := number.symm.trans own
    by_cases old : j < s.accepted.length
    · rw [grown, List.getElem?_append_left old] at here
      obtain ⟨k, u, kind, queues, same⟩ := h.queued s there rfl j frame here
      exact ⟨k, u, kind, queues.append [e], same⟩
    · -- the frame is the one that this event offers
      rw [grown, List.getElem?_append_right (by omega)] at here
      have some_frame : took (f.offer? e).toList s.id ≠ [] := by
        intro nothing
        rw [nothing] at here
        cases here
      obtain ⟨kind, shown, -⟩ := took_eq_render moves h.tells some_frame
      obtain ⟨isOpen, n, d, offered, rfl, turn, offering, only⟩ :=
        offering_of_took_ne_nil some_frame
      rw [session?_of_mem sound there, Option.any_some] at isOpen
      rw [only] at here shown
      obtain ⟨next, rfl⟩ : j - s.accepted.length = 0 ∧ offered = frame := by
        simpa [List.getElem?_singleton] using here
      have queues : Queues start (events ++ [.proceed n]) s.id j offered events.length f :=
        ⟨⟨n, d, .last run _, turn, offering⟩, s, there, rfl, isOpen, by omega⟩
      exact ⟨events.length, f, kind, queues, List.singleton_inj.mp shown⟩

theorem follows_of_run (run : (idle programme limit).run? events = some f)
    (conducted : Conducted (idle programme limit) events w) :
    Follows (idle programme limit) events w f := by
  refine runs.induction (motive := fun events now => Conducted (idle programme limit) events w →
    Follows (idle programme limit) events w now) (fun _ => ⟨?_, ?_, ?_⟩) ?_ run conducted
  · exact fun d member => absurd member List.not_mem_nil
  · exact fun s member => absurd member not_mem_idle
  · exact fun s member => absurd member not_mem_idle
  · intro events u e v before known step conducted
    exact (known conducted.of_snoc).step (.of_run before) before step conducted

/-! ## What the onlooker holds -/

/-- What a customer who only looks on holds of the programme. -/
structure Informed (start : Foyer) (events : List Event) (f : Foyer) (s : Session) : Prop where
  /-- After each frame: the shows of the programme at the step that queued the frame. -/
  shown : ∀ j frame, s.written[j]? = some frame → ∃ k u, Queues start events s.id j frame k u ∧
    (s.received (j + 1)).shows = u.hub.programme.grouped
  /-- From frame to frame: the same shows, and no seat free again. -/
  kept : ∀ i j, 0 < i → i ≤ j → j ≤ s.written.length →
    Programme.GrowsTo (s.received i).shows (s.received j).shows
  /-- When the queue of a registered session is written out and no call is under way: the shows of
      the programme as it is. -/
  current : s.id ∈ f.hub.registry → s.written = s.accepted → (∀ d ∈ f.errands, d.rests) →
    (s.received s.written.length).shows = f.hub.programme.grouped
  /-- No frame is taken for the answer to a booking, if no name holds the mark of one. -/
  silent : (∀ mark ∈ [successMark, errorMark], ¬ start.hub.programme.Mentions mark) →
    ∀ n, (s.received n).lastBookingResponse = []

theorem shows_received_succ {p : Programme} {kind : Snapshot.Kind} (legible : ∀ t ∈ p, t.IsLegible)
    (here : s.written[j]? = some (Snapshot.render kind p)) :
    (s.received (j + 1)).shows = p.grouped := by
  rw [Session.received_succ here,
    Client.Received.shows_take (Snapshot.carriesSnapshot_of_suffix (List.suffix_refl _)),
    Snapshot.parse_render_of_legible legible]

/-- What is written shows a programme that the first one has grown to. -/
theorem Follows.of_written (h : Follows start events s.id f) (sound : f.Sound)
    (there : s ∈ f.hub.sessions) (written : s.written[j]? = some frame) :
    ∃ k u kind, Queues start events s.id j frame k u ∧
    frame = Snapshot.render kind u.hub.programme ∧
      start.hub.programme.GrowsTo u.hub.programme := by
  obtain ⟨-, intact, -⟩ := sound.session there
  obtain ⟨rest, accepted⟩ := Session.Sound.written_prefix intact
  have inside := (List.getElem?_eq_some_iff.mp written).1
  have here : s.accepted[j]? = some frame := by
    rw [← accepted, List.getElem?_append_left inside, written]
  obtain ⟨k, u, kind, queues, same⟩ := h.queued s there rfl j frame here
  obtain ⟨n, d, moment, -⟩ := queues.offers
  exact ⟨k, u, kind, queues, same, growsTo_of_run moment.before⟩

theorem Follows.shown (h : Follows start events s.id f) (sound : f.Sound)
    (there : s ∈ f.hub.sessions) (legible : ∀ t ∈ start.hub.programme, t.IsLegible)
    (written : s.written[j]? = some frame) :
    ∃ k u, Queues start events s.id j frame k u ∧
    (s.received (j + 1)).shows = u.hub.programme.grouped := by
  obtain ⟨k, u, kind, queues, rfl, grown⟩ := h.of_written sound there written
  exact ⟨k, u, queues, shows_received_succ (Programme.legible_of_bill grown.bill legible) written⟩

theorem Follows.current (h : Follows start events s.id f) (sound : f.Sound)
    (there : s ∈ f.hub.sessions) (legible : ∀ t ∈ f.hub.programme, t.IsLegible)
    (registered : s.id ∈ f.hub.registry) (drained : s.written = s.accepted)
    (rest : ∀ d ∈ f.errands, d.rests) :
    (s.received s.written.length).shows = f.hub.programme.grouped := by
  obtain ⟨t, there', number, intact, serving⟩ := sound.serving registered
  cases sound.eq_of_id there there' number
  have entries : 0 < (f.life s.id).entries := List.count_pos_iff.mpr registered
  have isIn : (f.life s.id).IsIn := by
    unfold Life.IsIn
    omega
  have isOpen : s.isOpen := intact.isOpen_of_drained serving drained
  obtain ⟨kind, last⟩ :=
    (h.upToDate s there rfl isOpen isIn).resolve_right fun ⟨d, member, owes⟩ => by
    cases owes.underWay.symm.trans (rest d member)
  rw [← drained, List.getLast?_eq_getElem?] at last
  have some_frame := (List.getElem?_eq_some_iff.mp last).1
  rw [← shows_received_succ legible last, Nat.sub_add_cancel (by omega)]

theorem Follows.silent (h : Follows start events s.id f) (sound : f.Sound)
    (there : s ∈ f.hub.sessions)
    (silent : ∀ mark ∈ [successMark, errorMark], ¬ start.hub.programme.Mentions mark) (n : Nat) :
    (s.received n).lastBookingResponse = [] := by
  induction n with
  | zero => rfl
  | succ n ih =>
      cases here : s.written[n]? with
      | none =>
          have short := List.getElem?_eq_none_iff.mp here
          rwa [Session.received, List.take_of_length_le (by omega), ← List.take_of_length_le short]
      | some frame =>
          obtain ⟨k, u, kind, -, rfl, grown⟩ := h.of_written sound there here
          have silent_now := Programme.silent_of_bill grown.bill silent
          rw [Session.received_succ here,
            Client.Received.lastBookingResponse_take_render silent_now, ih]

/-- Whatever the others say, in whatever order their calls come and nest, a customer who only looks
    on is informed. -/
theorem onlooker_informed (legible : ∀ t ∈ programme, t.IsLegible)
    (run : (idle programme limit).run? events = some f) (there : s ∈ f.hub.sessions)
    (conducted : Conducted (idle programme limit) events s.id) :
    Informed (idle programme limit) events f s := by
  have sound := Sound.of_run run
  have follows := follows_of_run run conducted
  have grown : programme.GrowsTo f.hub.programme := growsTo_of_run run
  constructor
  case shown => exact fun j frame written => follows.shown sound there legible written
  case kept =>
    intro i j some_frame order inside
    obtain ⟨i, rfl⟩ := Nat.exists_eq_succ_of_ne_zero (Nat.ne_of_gt some_frame)
    obtain ⟨j, rfl⟩ := Nat.exists_eq_succ_of_ne_zero (by omega : j ≠ 0)
    rcases Nat.eq_or_lt_of_le (Nat.le_of_succ_le_succ order) with rfl | before
    · exact .refl _
    · have shows {n : Nat} (here : n ≤ j) :=
        follows.shown sound there legible
          (List.getElem?_eq_getElem (by omega : n < s.written.length))
      obtain ⟨k, u, first, shows_first⟩ := shows (Nat.le_of_lt before)
      obtain ⟨k', u', second, shows_second⟩ := shows (Nat.le_refl j)
      rw [shows_first, shows_second]
      exact (first.growsTo (.idle programme limit) second before).grouped
  case current => exact follows.current sound there (Programme.legible_of_bill grown.bill legible)
  case silent => exact fun silent => follows.silent sound there silent

/-- The second customer books a seat, and another one inside that call. -/
def matinee : List Event :=
  [.begin (.connect ⟨none, false, false⟩ false), .proceed 0, .proceed 0, .proceed 0, .proceed 0,
    .begin (.connect ⟨none, false, false⟩ false), .proceed 1, .proceed 1, .proceed 1, .proceed 1,
    .begin (.inbound 2 "PVR,Inception,1"), .begin (.inbound 2 "PVR,Inception,2"),
    .proceed 3, .proceed 3, .proceed 3, .proceed 3, .proceed 3, .setOut 3 [1, 2],
    .proceed 3, .proceed 3, .proceed 3, .proceed 3,
    .proceed 2, .proceed 2, .proceed 2, .proceed 2, .proceed 2, .setOut 2 [1, 2],
    .proceed 2, .proceed 2, .proceed 2, .proceed 2,
    .write 1, .write 1, .write 1, .write 1, .write 1, .write 1]

def afterMatinee : Foyer := ((idle .single none).run? matinee).get (by decide +kernel)

def spectator : Session := afterMatinee.hub.sessions.get ⟨0, by decide +kernel⟩

/-- The first customer is sent three frames, and in the end sees both seats booked. -/
theorem spectator_informed : (∀ t ∈ Programme.single, t.IsLegible) ∧
    (idle .single none).run? matinee = some afterMatinee ∧ spectator ∈ afterMatinee.hub.sessions ∧
    Conducted (idle .single none) matinee spectator.id ∧
    Informed (idle .single none) matinee afterMatinee spectator ∧ spectator.written.length = 3 ∧
    (spectator.received 3).shows = afterMatinee.hub.programme.grouped ∧
    afterMatinee.hub.programme.map (·.seats.bookedSeats) = [[1, 2]] := by
  have legible : ∀ t ∈ Programme.single, t.IsLegible := by decide +kernel
  have run : (idle .single none).run? matinee = some afterMatinee := (Option.some_get _).symm
  have there : spectator ∈ afterMatinee.hub.sessions := List.get_mem ..
  have first : spectator.id = 1 := by decide +kernel
  have conducted : Conducted (idle .single none) matinee spectator.id := by
    refine ⟨fun k u e => inTurn_of_runsInTurn (by decide +kernel), ?_, ?_⟩
    · simp [matinee]
    · simp [matinee, first]
  have informed := onlooker_informed legible run there conducted
  have length : spectator.written.length = 3 := by decide +kernel
  have current := informed.current (by decide +kernel) (by decide +kernel) (by decide +kernel)
  exact ⟨legible, run, there, conducted, informed, length, length ▸ current, by decide +kernel⟩

end Hub.Foyer

end BoxOffice
