import BoxOffice.Proofs.Listing
import BoxOffice.Proofs.Rest

/-! # Calls that take turns

Calls may run one at a time, or one inside another where the outer one is to be dispatched. Then a
call sees one programme from its dispatch to its end, so every frame it computes shows the programme
as it is. And when a booking has changed the programme, the call that made it owes everyone the
announcement until it has reached them.
-/

namespace BoxOffice.Hub

/-! ## Turns -/

/-- The call has returned, or it waits where its message is to be dispatched. -/
def Errand.rests : Errand → Bool
  | .connected .. | .cried .. | .disconnected .. | .closingAll _ 0 => true
  | .inbound _ _ .unknownSender | .inbound _ _ .lookedUp | .inbound _ _ (.returned _) => true
  | _ => false

namespace Foyer

def Event.isOfCall : Event → Bool
  | .begin _ | .proceed _ | .setOut .. => true
  | .write _ | .transport .. => false

/-- If the event is a step of a call, every other call rests. -/
def InTurn (f : Foyer) (e : Event) : Prop :=
  e.isOfCall → ∀ n < f.errands.length, e.call? = some n ∨ (f.errands[n]?).all (·.rests)

instance (f : Foyer) (e : Event) : Decidable (f.InTurn e) := inferInstanceAs (Decidable (_ → _))

variable {f f' : Foyer} {e : Event} {n : Nat} {d : Errand} {w : SessionId}

theorem InTurn.rests (inTurn : f.InTurn e) (ofCall : e.isOfCall) (turn : f.errands[n]? = some d)
    (other : e.call? ≠ some n) : d.rests := by
  have inside := (List.getElem?_eq_some_iff.mp turn).1
  have rests := (inTurn ofCall n inside).resolve_left other
  rwa [turn, Option.all_some] at rests

/-- A step that is not the first of a call is one of the only call under way. -/
theorem InTurn.call?_eq (inTurn : f.InTurn e) (ofCall : e.isOfCall) (turn : f.errands[n]? = some d)
    (underWay : d.rests = false) : e.call? = some n := by
  by_contra other
  rw [inTurn.rests ofCall turn other] at underWay
  cases underWay

end Foyer

/-! ## Frames that show the programme as it is -/

/-- The announcement of a call that has set out shows the programme as it is. -/
def Service.AnnouncesNow (h : Hub) : Service → Prop
  | .onRound _ _ round => round.frame = h.announcement
  | _ => True

/-- All that the call can still tell the session `w` is the programme as it is. -/
def Errand.TellsNow (w : SessionId) (h : Hub) : Errand → Prop
  | .greeting _ _ survey => survey.seen = h.programme
  | .inbound sender _ service => sender ≠ w ∧ service.SeesNow h ∧ service.AnnouncesNow h
  | .broadcasting _ | .crying _ => False
  | _ => True

namespace Errand.TellsNow

variable {w : SessionId} {h h' : Hub} {d : Errand}

theorem of_programme (tells : d.TellsNow w h) (same : h'.programme = h.programme) :
    d.TellsNow w h' := by
  have announcement : h'.announcement = h.announcement := congrArg (Snapshot.render .update) same
  cases d with
  | greeting => exact Eq.trans tells same.symm
  | inbound sender message service =>
      obtain ⟨other, sees, announces⟩ := tells
      cases service with
      | answering | announcing => exact ⟨other, Eq.trans sees same.symm, trivial⟩
      | onRound => exact ⟨other, trivial, Eq.trans announces announcement.symm⟩
      | unknownSender | lookedUp | answered | served | returned => exact ⟨other, trivial, trivial⟩
  | broadcasting | crying => exact tells
  | connecting | entering | connected | cried | disconnecting | disconnected | closingAll => trivial

theorem of_rests (tells : d.TellsNow w h) (rests : d.rests) (h' : Hub) : d.TellsNow w h' := by
  cases d with
  | inbound sender message service =>
      obtain ⟨other, -⟩ := tells
      cases service with
      | unknownSender | lookedUp | returned => exact ⟨other, trivial, trivial⟩
      | answering | answered | announcing | onRound | served => cases rests
  | greeting | broadcasting | crying => cases rests
  | connecting | entering | connected | cried | disconnecting | disconnected | closingAll => trivial

/-- A frame that is offered to the session is the snapshot of the programme as it is. -/
theorem render_of_offering {frame : Text} (tells : d.TellsNow w h)
    (offering : d.offering? = some (w, frame)) :
    ∃ kind, frame = Snapshot.render kind h.programme := by
  unfold offering? at offering
  split at offering
  · cases offering
    exact ⟨.initial, congrArg _ tells⟩
  · cases offering
    exact absurd rfl tells.1
  · cases offering
    exact ⟨.update, tells.2.2⟩
  · exact tells.elim
  · cases offering

theorem serves {sender : SessionId} {message : Text} {service next : Service}
    (tells : (Errand.inbound sender message service).TellsNow w h)
    (serves : h.Serves sender message service next h') :
    (Errand.inbound sender message next).TellsNow w h' := by
  obtain ⟨other, sees, announces⟩ := tells
  refine ⟨other, (rest_of_serves sees serves).1, ?_⟩
  cases serves with
  | reach => exact announces
  | decide | look | compose | answer | grant | lookAgain | comeBack | letGo => trivial

end Errand.TellsNow

namespace Foyer

variable {f f' : Foyer} {e : Event} {n : Nat} {d : Errand} {w : SessionId}

/-- Only the dispatch of a message changes the programme. -/
theorem programme_of_moves (moves : f.Moves e f') : f'.hub.programme = f.hub.programme ∨
    ∃ n sender message, e = .proceed n ∧ f.errands[n]? = some (.inbound sender message .lookedUp) ∧
      f' = ⟨{ f.hub with programme := (f.hub.programme.decide message).2 },
        f.errands.set n (.inbound sender message (.answering (f.hub.programme.decide message).1
          (.begin (f.hub.programme.decide message).2)))⟩ := by
  cases moves with
  | serve turn serves =>
      cases serves with
      | decide => exact .inr ⟨_, _, _, rfl, turn, rfl⟩
      | @compose result seen =>
          obtain ⟨tally, same⟩ := f.hub.exists_countAnswer (.compose _ result seen)
          exact .inl (by rw [same])
      | look | answer | grant | lookAgain | reach | comeBack | letGo => exact .inl rfl
  | write free step => exact .inl (Calm.writerStep step).programme
  | _ => exact .inl rfl

/-- Where a message is dispatched in turn, every call rests. -/
theorem rests_of_dispatch {sender : SessionId} {message : Text} (inTurn : f.InTurn (.proceed n))
    (turn : f.errands[n]? = some (.inbound sender message .lookedUp)) (member : d ∈ f.errands) :
    d.rests := by
  obtain ⟨m, place⟩ := List.mem_iff_getElem?.mp member
  by_cases own : m = n
  · subst own
    cases turn.symm.trans place
    rfl
  · exact inTurn.rests rfl place fun same => own (Option.some.inj same).symm

theorem tellsNow_of_moves (moves : f.Moves e f') (inTurn : f.InTurn e)
    (mute : ∀ message, e ≠ .begin (.inbound w message))
    (quiet : ∀ frame, e ≠ .begin (.broadcast frame)) (known : ∀ d ∈ f.errands, d.TellsNow w f.hub) :
    ∀ d ∈ f'.errands, d.TellsNow w f'.hub := by
  have at_turn {n : Nat} {d : Errand} (turn : f.errands[n]? = some d) : d.TellsNow w f.hub :=
    known d (List.mem_of_getElem? turn)
  intro d' member
  rcases programme_of_moves moves with same | ⟨n, sender, message, rfl, turn, rfl⟩
  · have old {d : Errand} (before : d ∈ f.errands) : d.TellsNow w f'.hub :=
      (known d before).of_programme same
    cases moves with
    | assign | remove | miss | drain =>
        rcases List.mem_append.mp member with before | now
        · exact old before
        · rw [List.mem_singleton.mp now]
          trivial
    | refuse sender message | lookUp message =>
        rcases List.mem_append.mp member with before | now
        · exact old before
        · rw [List.mem_singleton.mp now]
          exact ⟨fun own => mute message (own ▸ rfl), trivial, trivial⟩
    | broadcast frame => exact absurd rfl (quiet frame)
    | look turn next =>
        rcases List.mem_or_eq_of_mem_set member with before | rfl
        · exact old before
        · obtain ⟨i, -, seen⟩ := Survey.next?_eq_some next
          have looked := congrArg (·.lookAt f.hub.programme i) (at_turn turn)
          exact seen.trans (looked.trans (Programme.lookAt_self ..))
    | greet | dismiss | activate | enter | tell | tellAll =>
        rcases List.mem_or_eq_of_mem_set member with before | rfl
        · exact old before
        · trivial
    | serve turn serves =>
        rcases List.mem_or_eq_of_mem_set member with before | rfl
        · exact old before
        · exact (at_turn turn).serves serves
    | reach turn | comeBack turn | cry turn => exact (at_turn turn).elim
    | announce turn =>
        rcases List.mem_or_eq_of_mem_set member with before | rfl
        · exact old before
        · obtain ⟨other, sees, -⟩ := at_turn turn
          exact ⟨other, trivial, congrArg (Snapshot.render .update) sees⟩
    | write | transport => exact old member
  · rcases List.mem_or_eq_of_mem_set member with before | rfl
    · exact (known d' before).of_rests (rests_of_dispatch inTurn turn before) _
    · exact ⟨(at_turn turn).1, rfl, trivial⟩

end Foyer

/-! ## Who is still to be told -/

/-- The session is registered, or it is greeted and about to be. -/
def Life.IsIn (l : Life) : Prop := 0 < l.entries + l.crew .connecting + l.crew .entering

namespace Life

variable {l l' : Life} {writing : Prop} {s : Session}

theorem Sound.accepted_ne_nil (h : l.Sound) (isIn : l.IsIn) (there : s ∈ l.sessions) :
    s.accepted ≠ [] := by
  cases h with
  | absent sessions => rw [sessions] at there; cases there
  | waiting sessions _ _ entries _ _ one entering _ greeted =>
      rw [sessions, List.mem_singleton] at there
      unfold IsIn at isIn
      rw [there, ne_eq, greeted]
      omega
  | started sessions _ _ _ started =>
      rw [sessions, List.mem_singleton] at there
      exact there ▸ started.greeted

theorem Sound.greeting_eq_zero (h : l.Sound) (there : s ∈ l.sessions) (greeted : s.accepted ≠ []) :
    l.crew .greeting = 0 := by
  cases h with
  | absent _ _ crew => exact crew _
  | waiting sessions _ _ _ _ _ _ _ _ empty =>
      rw [sessions, List.mem_singleton] at there
      rw [there, ne_eq, empty] at greeted
      omega
  | started _ _ greeting => exact greeting

/-- Nobody comes in but by being greeted. -/
theorem Step.isIn (step : l.Step writing l') (isIn : l'.IsIn) : l.IsIn ∨ 0 < l.crew .greeting := by
  unfold IsIn at *
  cases step with
  | rest | offer | write | tell | transport => exact .inl isIn
  | greet _ turn => exact .inr turn
  | assign | lookUp | letGo =>
      simp only [Crew.shift] at isIn
      exact .inl (by simpa using isIn)
  | dismiss turn | activate turn | enter turn => exact .inl (by omega)
  | remove fewer => exact .inl (by dsimp only at isIn; omega)
  | leave => exact .inl (by dsimp only at isIn; omega)

end Life

/-- The call made a booking that the session is still to be told of. -/
def Errand.Owes (w : SessionId) : Errand → Prop
  | .inbound _ _ (.answering result _) => ∃ r, result = some (.ok r)
  | .inbound _ _ (.answered reply) => reply.announce = true
  | .inbound _ _ (.announcing ..) => True
  | .inbound _ _ (.onRound _ _ round) => w ∈ round.ahead
  | _ => False

theorem Errand.Owes.underWay {w : SessionId} {d : Errand} (owes : d.Owes w) : d.rests = false := by
  unfold Errand.Owes at owes
  split at owes
  · rfl
  · rfl
  · rfl
  · rfl
  · exact owes.elim

namespace Foyer

variable {f f' : Foyer} {e : Event} {n : Nat} {d : Errand} {w : SessionId}

theorem decide_granted {p : Programme} {message : Text} (changed : (p.decide message).2 ≠ p) :
    ∃ r, (p.decide message).1 = some (.ok r) := by
  by_cases comma : ',' ∈ message
  · rw [Programme.decide_of_comma comma] at changed ⊢
    cases outcome : (p.book message).1 with
    | ok r => exact ⟨r, rfl⟩
    | error refusal =>
        have books := p.books message
        rw [outcome] at books
        exact absurd books.eq_of_refused changed
  · rw [Programme.decide_of_plain comma] at changed
    exact absurd rfl changed

theorem registered_of_isIn {sender : SessionId} {message : Text} {service : Service}
    (inTurn : f.InTurn e) (turn : e.call? = some n)
    (place : f.errands[n]? = some (.inbound sender message service)) (isIn : (f.life w).IsIn) :
    w ∈ f.hub.registry := by
  have ofCall : e.isOfCall := by
    cases e with
    | proceed | setOut => rfl
    | begin | write | transport => cases turn
  have nobody (r : Role) (working : r ≠ .holding) : (f.life w).crew r = 0 := by
    apply List.countP_eq_zero.mpr
    intro c member role
    obtain ⟨m, there⟩ := List.mem_iff_getElem?.mp member
    cases c with
    | inbound =>
        have holds := (Option.ite_none_right_eq_some.mp (of_decide_eq_true role)).2
        exact working (Option.some.inj holds).symm
    | greeting | connecting | entering =>
        cases (inTurn.call?_eq ofCall there rfl).symm.trans turn
        cases there.symm.trans place
    | connected | broadcasting | crying | cried | disconnecting | disconnected | closingAll =>
        simp [Errand.role?] at role
  have connecting := nobody .connecting (by decide)
  have entering := nobody .entering (by decide)
  unfold Life.IsIn at isIn
  exact List.count_pos_iff.mp (by omega : 0 < (f.life w).entries)

/-- What the call still owes to a session that is in, it goes on to owe, unless it pays. -/
theorem owes_of_moves (moves : f.Moves e f') (inTurn : f.InTurn e) (isIn : (f.life w).IsIn)
    (isOpen : (f.hub.session? w).any (·.isOpen)) (member : d ∈ f.errands) (owes : d.Owes w) :
    (∃ d ∈ f'.errands, d.Owes w) ∨ took (f.offer? e).toList w ≠ [] := by
  obtain ⟨m, place⟩ := List.mem_iff_getElem?.mp member
  have own (ofCall : e.isOfCall) : e.call? = some m := inTurn.call?_eq ofCall place owes.underWay
  have goes {next : Errand} (still : next.Owes w) : ∃ d ∈ f.errands.set m next, d.Owes w :=
    ⟨next, List.mem_of_getElem? (turn_set place next), still⟩
  cases moves with
  | write | transport => exact .inl ⟨d, member, owes⟩
  | assign | refuse | lookUp | broadcast | remove | miss | drain => cases own rfl
  | look turn | greet turn | dismiss turn | activate turn | enter turn | reach turn | comeBack turn
  | tell turn | tellAll turn | cry turn =>
      cases own rfl
      cases place.symm.trans turn
      exact owes.elim
  | announce turn readable everyone =>
      cases own rfl
      cases place.symm.trans turn
      exact .inl (goes (everyone.mem_iff.mpr (registered_of_isIn inTurn rfl place isIn)))
  | serve turn serves =>
      cases own rfl
      cases place.symm.trans turn
      cases serves with
      | decide | letGo => exact owes.elim
      | look => exact .inl (goes owes)
      | compose =>
          obtain ⟨r, rfl⟩ := owes
          exact .inl (goes rfl)
      | answer silent => cases silent.symm.trans owes
      | grant | lookAgain => exact .inl (goes trivial)
      | @reach reply delivered frame id ahead reached =>
          rcases List.mem_cons.mp owes with rfl | ahead
          · refine .inr ?_
            rw [offer?_of_offering turn rfl]
            simp [took, isOpen]
          · exact .inl (goes ahead)
      | comeBack => cases owes

/-! ## What the session was sent last -/

theorem offering_of_took_ne_nil (some_frame : took (f.offer? e).toList w ≠ []) :
    (f.hub.session? w).any (·.isOpen) ∧ ∃ n d frame, e = .proceed n ∧ f.errands[n]? = some d ∧
      d.offering? = some (w, frame) ∧ took (f.offer? e).toList w = [frame] := by
  cases offered : f.offer? e with
  | none =>
      rw [offered] at some_frame
      exact absurd rfl some_frame
  | some o =>
      obtain ⟨proceeds, -, taken, d, turn, offering⟩ := offer?_eq_some offered
      rw [offered] at some_frame
      by_cases own : o.session = w ∧ o.taken
      · have one : took (some o).toList w = [o.frame] := by simp [took, own]
        obtain ⟨rfl, isOpen⟩ := own
        exact ⟨taken ▸ isOpen, o.call, d, o.frame, proceeds, turn, offering, one⟩
      · simp [took, own] at some_frame

/-- What is offered to the session while calls take turns shows the programme as it is, and as it
    still is afterwards. -/
theorem took_eq_render (moves : f.Moves e f') (known : ∀ d ∈ f.errands, d.TellsNow w f.hub)
    (some_frame : took (f.offer? e).toList w ≠ []) :
    ∃ kind, took (f.offer? e).toList w = [Snapshot.render kind f.hub.programme] ∧
      f'.hub.programme = f.hub.programme := by
  obtain ⟨-, n, d, frame, rfl, turn, offering, same⟩ := offering_of_took_ne_nil some_frame
  obtain ⟨kind, rfl⟩ := (known d (List.mem_of_getElem? turn)).render_of_offering offering
  refine ⟨kind, same, (programme_of_moves moves).resolve_right ?_⟩
  intro ⟨m, sender, message, now, dispatched, _⟩
  cases now
  cases turn.symm.trans dispatched
  cases offering

/-- The frame shows the programme as it is, or a call is still to send the session the
    announcement. -/
def Current (f : Foyer) (w : SessionId) (last : Option Text) : Prop :=
  (∃ kind, last = some (Snapshot.render kind f.hub.programme)) ∨ ∃ d ∈ f.errands, d.Owes w

/-- If a step sends the session nothing, then it leaves the programme as it is or begins to owe the
    session the announcement. -/
theorem Current.of_moves {last : Option Text} (h : f.Current w last) (moves : f.Moves e f')
    (inTurn : f.InTurn e) (isIn : (f.life w).IsIn) (isOpen : (f.hub.session? w).any (·.isOpen))
    (nothing : took (f.offer? e).toList w = []) : f'.Current w last := by
  rcases programme_of_moves moves with same | ⟨n, sender, message, rfl, turn, rfl⟩
  · rcases h with ⟨kind, shown⟩ | ⟨d, member, owes⟩
    · exact .inl ⟨kind, same ▸ shown⟩
    · exact .inr
        ((owes_of_moves moves inTurn isIn isOpen member owes).resolve_right (not_not.mpr nothing))
  · by_cases same : (f.hub.programme.decide message).2 = f.hub.programme
    · rcases h with ⟨kind, shown⟩ | ⟨d, member, owes⟩
      · exact .inl ⟨kind, shown.trans (congrArg (fun p => some (Snapshot.render kind p)) same.symm)⟩
      · cases owes.underWay.symm.trans (rests_of_dispatch inTurn turn member)
    · exact .inr ⟨_, List.mem_of_getElem? (turn_set turn _), decide_granted same⟩

theorem isOpen_of_step {s s' : Session} (sound : f.Sound) (step : f.step? e = some f')
    (there : s ∈ f.hub.sessions) (there' : s' ∈ f'.hub.sessions) (number : s'.id = s.id)
    (isOpen : s'.isOpen) :
    s.isOpen := by
  have once : f.run? [e] = some f' := runs.single step
  by_contra shut
  obtain ⟨shut', -⟩ := (sound.ages once there there' number).shut (Bool.eq_false_iff.mpr shut)
  rw [shut'] at isOpen
  cases isOpen

/-- If the session is in and its queue open, the last frame that the queue took is current. -/
def UpToDate (f : Foyer) (w : SessionId) : Prop :=
  ∀ s ∈ f.hub.sessions, s.id = w → s.isOpen → (f.life w).IsIn → f.Current w s.accepted.getLast?

theorem UpToDate.step (h : f.UpToDate w) (sound : f.Sound) (step : f.step? e = some f')
    (inTurn : f.InTurn e) (known : ∀ d ∈ f.errands, d.TellsNow w f.hub) : f'.UpToDate w := by
  intro s' there' own isOpen' isIn'
  have moves := moves_of_step? step
  have filled := ((sound.step step).lives w).accepted_ne_nil isIn' (mem_own.mpr ⟨there', own⟩)
  obtain ⟨sink, rfl⟩ | ⟨s, there, number, grown⟩ := accepts sound moves s' there'
  · exact absurd rfl filled
  obtain rfl : s.id = w := number.symm.trans own
  have isOpen : s.isOpen := isOpen_of_step sound step there there' number isOpen'
  by_cases nothing : took (f.offer? e).toList s.id = []
  · -- the session was greeted before, so it was in before
    rw [nothing, List.append_nil] at grown
    have greeted := (sound.lives s.id).greeting_eq_zero (mem_own.mpr ⟨there, rfl⟩) (grown ▸ filled)
    have isIn := ((sound.life_step step s.id).isIn isIn').resolve_right (by omega)
    have found : (f.hub.session? s.id).any (·.isOpen) := by
      rw [session?_of_mem sound there, Option.any_some, isOpen]
    rw [grown]
    exact (h s there rfl isOpen isIn).of_moves moves inTurn isIn found nothing
  · obtain ⟨kind, taken, same⟩ := took_eq_render moves known nothing
    exact .inl ⟨kind, by rw [grown, taken, same, List.getLast?_concat]⟩

end Foyer

end BoxOffice.Hub
