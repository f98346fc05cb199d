import BoxOffice.Proofs.Foyer
import BoxOffice.Proofs.Run

/-! # The foyer without one session

`Foyer.without a` is what a foyer is for everyone but the session `a`: that session is left out, and
so is what only depends on it, such as how many sessions remained after a removal. Every step of the
hub does there what it does in the foyer.
-/

namespace BoxOffice

/-! ## What is left out -/

namespace Session

/-- Where a writer stands, apart from how many sessions remained when it left. -/
def Writer.forget : Writer → Writer
  | .telling ending _ => .telling ending 0
  | writer => writer

def forget (s : Session) : Session := { s with writer := s.writer.forget }

@[simp] theorem id_forget (s : Session) : s.forget.id = s.id := rfl

@[simp] theorem Writer.forget_forget (writer : Writer) : writer.forget.forget = writer.forget := by
  cases writer <;> rfl

@[simp] theorem forget_forget (s : Session) : s.forget.forget = s.forget := by
  simp [forget]

theorem offer_forget (s : Session) (frame : Text) :
    s.forget.offer frame = (s.offer frame).forget := by
  unfold offer
  split <;> simp_all [forget]

theorem forget_hold (s : Session) : s.forget.hold.forget = s.hold.forget := by
  simp [forget, hold]

theorem forget_release (s : Session) : s.forget.release.forget = s.release.forget := by
  simp [forget, release]

theorem forget_withSink (s : Session) (change : Sink → Sink) :
    (s.forget.withSink change).forget = (s.withSink change).forget := by
  simp [forget, withSink]

theorem forget_of_writer {s : Session} (stand : s.writer.forget = s.writer) : s.forget = s := by
  simp only [forget, stand]

/-- A writer that goes on by itself has not left yet, or has told already. -/
theorem Writes.forget_eq {s next : Session} {canStillCome : Bool} (h : s.Writes canStillCome next) :
    s.forget = s ∧ next.forget = next := by
  cases h with
  | take stand | drain stand | write stand | fail stand | close stand | stop stand =>
      exact ⟨forget_of_writer (by rw [stand]; rfl), rfl⟩

/-- The sessions as everyone but `a` sees them. -/
def others (a : SessionId) (sessions : List Session) : List Session :=
  (sessions.filter fun s => s.id ≠ a).map (·.forget)

variable {a : SessionId} {sessions : List Session}

theorem others_cons_self {s : Session} (own : s.id = a) :
    others a (s :: sessions) = others a sessions := by
  simp [others, own]

theorem others_cons {s : Session} (other : s.id ≠ a) :
    others a (s :: sessions) = s.forget :: others a sessions := by
  simp [others, other]

theorem others_append (before after : List Session) :
    others a (before ++ after) = others a before ++ others a after := by
  simp [others]

/-- What is done to everyone is done alike where `a` is not there. -/
theorem others_map_others {change₀ change : Session → Session} (keeps₀ : ∀ s, (change₀ s).id = s.id)
    (keeps : ∀ s, (change s).id = s.id)
    (alike : ∀ s, (change₀ s.forget).forget = (change s).forget) :
    others a ((others a sessions).map change₀) = others a (sessions.map change) := by
  induction sessions with
  | nil => rfl
  | cons s rest ih =>
      by_cases own : s.id = a
      · rw [others_cons_self own, List.map_cons, others_cons_self ((keeps s).trans own), ih]
      · have other : (change₀ s.forget).id ≠ a := by rwa [keeps₀, id_forget]
        have other' : (change s).id ≠ a := by rwa [keeps]
        rw [others_cons own, List.map_cons, List.map_cons, others_cons other,
          others_cons other', ih, alike]

theorem others_map_of_same {change : Session → Session} (keeps : ∀ s, (change s).id = s.id)
    (same : ∀ s, s.id ≠ a → change s = s) : others a (sessions.map change) = others a sessions := by
  induction sessions with
  | nil => rfl
  | cons s rest ih =>
      by_cases own : s.id = a
      · rw [List.map_cons, others_cons_self ((keeps s).trans own), others_cons_self own, ih]
      · rw [List.map_cons, same s own, others_cons own, others_cons own, ih]

theorem others_others : others a (others a sessions) = others a sessions := by
  have same : others a ((others a sessions).map fun s => s) = others a (sessions.map fun s => s) :=
    others_map_others (fun _ => rfl) (fun _ => rfl) (·.forget_forget)
  simpa using same

theorem find?_others {id : SessionId} (other : id ≠ a) :
    (others a sessions).find? (·.id == id) = (sessions.find? (·.id == id)).map (·.forget) := by
  induction sessions with
  | nil => rfl
  | cons s rest ih =>
      by_cases own : s.id = a
      · have apart : (s.id == id) = false := beq_false_of_ne (own ▸ Ne.symm other)
        rw [others_cons_self own, List.find?_cons, apart, ih]
      · rw [others_cons own, List.find?_cons, List.find?_cons, id_forget]
        cases s.id == id
        · exact ih
        · rfl

theorem find?_others_self : (others a sessions).find? (·.id == a) = none := by
  simp [others]

end Session

namespace Hub

def without (h : Hub) (a : SessionId) : Hub :=
  { h with
    sessions := Session.others a h.sessions
    registry := h.registry.filter (· ≠ a)
    limit := none
    tally := .zero }

def Round.without (a : SessionId) (round : Round) : Round :=
  ⟨round.frame, round.ahead.filter (· ≠ a), round.reached.filter (· ≠ a)⟩

/-- Whether the queue of `a` took an answer is left out. -/
def Delivery.without (a sender : SessionId) (delivery : Delivery) : Delivery where
  reply := delivery.reply
  delivered := sender ≠ a && delivery.delivered
  announcement := delivery.announcement.map fun (frame, reached) => (frame, reached.filter (· ≠ a))

@[simp] theorem Round.without_without (a : SessionId) (round : Round) :
    (round.without a).without a = round.without a := by
  simp [Round.without]

@[simp] theorem Delivery.without_without (a sender : SessionId) (delivery : Delivery) :
    (delivery.without a sender).without a sender = delivery.without a sender := by
  obtain ⟨reply, delivered, announcement⟩ := delivery
  cases announcement <;> simp [Delivery.without]

def Service.without (a sender : SessionId) : Service → Service
  | .announcing reply delivered survey => .announcing reply (sender ≠ a && delivered) survey
  | .onRound reply delivered round => .onRound reply (sender ≠ a && delivered) (round.without a)
  | .served delivery => .served (delivery.without a sender)
  | .returned delivery => .returned (delivery.without a sender)
  | service => service

/-- A disconnect of `a` and a message of `a` that did not find it registered are no calls
    for the others. -/
def Errand.without? (a : SessionId) : Errand → Option Errand
  | .inbound sender message .unknownSender =>
      if sender = a then none else some (.inbound sender message .unknownSender)
  | .inbound sender message service => some (.inbound sender message (service.without a sender))
  | .crying round => some (.crying (round.without a))
  | .cried frame reached => some (.cried frame (reached.filter (· ≠ a)))
  | .disconnecting id _ => if id = a then none else some (.disconnecting id 0)
  | .disconnected id wasRegistered => if id = a then none else some (.disconnected id wasRegistered)
  | .closingAll ids _ => some (.closingAll (ids.filter (· ≠ a)) 0)
  | errand => some errand

def Foyer.without (f : Foyer) (a : SessionId) : Foyer :=
  ⟨f.hub.without a, f.errands.filterMap (·.without? a)⟩

variable {h h' : Hub} {a id : SessionId}

/-! ## Hubs -/

@[simp] theorem without_without (h : Hub) (a : SessionId) :
    (h.without a).without a = h.without a := by
  simp [without, Session.others_others, List.filter_filter]

/-- What is done to one session is done alike where `a` is not there. -/
theorem update_without_of {change₀ change : Session → Session}
    (keeps₀ : ∀ s, s.id = id → (change₀ s).id = id) (keeps : ∀ s, s.id = id → (change s).id = id)
    (alike : ∀ s, s.id = id → (change₀ s.forget).forget = (change s).forget) :
    ((h.without a).update id change₀).without a = (h.update id change).without a := by
  have number {change : Session → Session} (keeps : ∀ s, s.id = id → (change s).id = id)
      (s : Session) :
      (if s.id = id then change s else s).id = s.id := by
    split
    · rename_i here
      rw [keeps s here, here]
    · rfl
  have sessions : Session.others a
      ((Session.others a h.sessions).map fun s => if s.id = id then change₀ s else s) =
      Session.others a (h.sessions.map fun s => if s.id = id then change s else s) := by
    refine Session.others_map_others (number keeps₀) (number keeps) fun s => ?_
    rw [Session.id_forget]
    split
    · rename_i here
      exact alike s here
    · exact s.forget_forget
  simp [without, update, sessions, List.filter_filter]

theorem update_without {change₀ change : Session → Session} (keeps₀ : ∀ s, (change₀ s).id = s.id)
    (keeps : ∀ s, (change s).id = s.id)
    (alike : ∀ s, (change₀ s.forget).forget = (change s).forget) :
    ((h.without a).update id change₀).without a = (h.update id change).without a :=
  update_without_of (fun s here => (keeps₀ s).trans here)
    (fun s here => (keeps s).trans here) fun s _ => alike s

theorem update_without_self {change : Session → Session}
    (keeps : ∀ s, s.id = a → (change s).id = a) :
    (h.update a change).without a = h.without a := by
  have sessions : Session.others a (h.sessions.map fun s => if s.id = a then change s else s) =
      Session.others a h.sessions := by
    refine Session.others_map_of_same (fun s => ?_) fun s other => if_neg other
    split
    · rename_i here
      rw [keeps s here, here]
    · rfl
  simp [without, update, sessions]

theorem session?_without (other : id ≠ a) :
    (h.without a).session? id = (h.session? id).map (·.forget) := Session.find?_others other

theorem session?_without_self : (h.without a).session? a = none := Session.find?_others_self

theorem isRegistered_without (other : id ≠ a) :
    (h.without a).isRegistered id = h.isRegistered id := by
  simp [isRegistered, without, other]

theorem without_count (h : Hub) (occurrence : Occurrence) (a : SessionId) :
    (h.count occurrence).without a = h.without a := rfl

theorem offer_without (h : Hub) (a id : SessionId) (frame : Text) :
    ((h.without a).offer id frame).2.without a = (h.offer id frame).2.without a :=
  update_without (Session.id_offer · frame) (Session.id_offer · frame) fun s => by
    rw [Session.offer_forget, Session.forget_forget]

theorem offer_without_self (h : Hub) (a : SessionId) (frame : Text) :
    (h.offer a frame).2.without a = h.without a :=
  update_without_self fun s here => (s.id_offer frame).trans here

theorem offered_without (h : Hub) (a id : SessionId) (frame : Text) :
    ((h.without a).offer id frame).1 = (id ≠ a && (h.offer id frame).1) := by
  by_cases own : id = a
  · subst own
    simp [offer, session?_without_self]
  · simp [offer, session?_without own, own, Option.any_map, Session.forget]

theorem erase_without (h : Hub) (a id : SessionId) :
    ({ h.without a with registry := (h.without a).registry.erase id } : Hub).without a =
      ({ h with registry := h.registry.erase id } : Hub).without a := by
  have registry :
      ((h.registry.filter (· ≠ a)).erase id).filter (· ≠ a) =
      (h.registry.erase id).filter (· ≠ a) := by
    rw [List.erase_filter, List.filter_filter]
    simp only [Bool.and_self]
  simp only [without, Session.others_others, registry]

theorem erase_without_self (h : Hub) (a : SessionId) :
    ({ h with registry := h.registry.erase a } : Hub).without a = h.without a := by
  have registry : (h.registry.erase a).filter (· ≠ a) = h.registry.filter (· ≠ a) := by
    rw [← List.erase_filter, List.erase_of_not_mem (by simp)]
  simp only [without, registry]

theorem insert_without (registry : List SessionId) (a id : SessionId) :
    ((registry.filter (· ≠ a)).insert id).filter (· ≠ a) = (registry.insert id).filter (· ≠ a) := by
  by_cases own : id = a
  · subst own
    by_cases there : id ∈ registry <;> simp [there]
  · by_cases there : id ∈ registry <;> simp [there, own]

theorem enter_without (h : Hub) (a id : SessionId) :
    ((h.without a).enter id).without a = (h.enter id).without a := by
  have released : ((h.without a).update id .release).without a = (h.update id .release).without a :=
    update_without (·.id_release) (·.id_release) (·.forget_release)
  have registry := insert_without h.registry a id
  simp only [without, Hub.mk.injEq] at released
  simp only [enter, count, without, registry, Hub.mk.injEq]
  exact ⟨released.1, released.2.1, trivial, released.2.2.2⟩

theorem programme_without (h : Hub) (a : SessionId) (programme : Programme) :
    ({ h.without a with programme } : Hub).without a = ({ h with programme } : Hub).without a := by
  simp [without, Session.others_others, List.filter_filter]

theorem countAnswer_without (h : Hub) (reply : Reply) (a : SessionId) :
    (h.countAnswer reply).without a = h.without a := by
  obtain ⟨tally, same⟩ := h.exists_countAnswer reply
  rw [same]
  rfl

def blankSink : Session.Sink := ⟨none, false, false⟩

theorem assign_without (h : Hub) (a : SessionId) (sink : Session.Sink) :
    ((h.without a).assign (if h.nextId = a then blankSink else sink)).without a =
      (h.assign sink).without a := by
  have sessions : Session.others a
      (Session.others a h.sessions ++
        [.blank h.nextId (if h.nextId = a then blankSink else sink)]) =
      Session.others a (h.sessions ++ [.blank h.nextId sink]) := by
    rw [Session.others_append, Session.others_append, Session.others_others]
    by_cases own : h.nextId = a
    · rw [Session.others_cons_self own, Session.others_cons_self own]
    · rw [if_neg own]
  simp only [assign, without, sessions, List.filter_filter, Bool.and_self]

theorem dismiss_without (h : Hub) (a id : SessionId) :
    ((h.without a).dismiss id).without a = (h.dismiss id).without a := by
  have sessions : Session.others a ((Session.others a h.sessions).filter fun s => s.id ≠ id) =
      Session.others a (h.sessions.filter fun s => s.id ≠ id) := by
    simp only [Session.others, List.filter_map, List.map_map, List.filter_filter, Function.comp_def,
      Session.id_forget, Session.forget_forget]
    congr 2
    funext s
    by_cases own : s.id = a <;> by_cases same : s.id = id <;> simp [own, same]
  simp only [dismiss, without, sessions, List.filter_filter, Bool.and_self]

theorem activate_without (h : Hub) (a id : SessionId) :
    ((h.without a).activate id).without a = (h.activate id).without a :=
  update_without (fun _ => rfl) (fun _ => rfl) fun _ => rfl

theorem drain_without (h : Hub) (a : SessionId) :
    (h.without a).drain.1.filter (· ≠ a) = h.drain.1.filter (· ≠ a) := by
  simp only [drain, without, Session.others, List.filter_map, List.map_map, List.filter_filter,
    Function.comp_def, Session.id_forget]
  congr 1
  apply List.filter_congr
  intro s _
  by_cases own : s.id = a <;> simp [isRegistered, own]

theorem isLeaving_without (other : id ≠ a) : (h.without a).isLeaving id = h.isLeaving id := by
  simp only [isLeaving, session?_without other, Option.any_map]
  congr 1
  funext s
  cases stand : s.writer <;> simp [Session.forget, stand, Session.Writer.forget]

theorem writes_without {s next : Session} {canStillCome : Bool} (number : s.id = id)
    (writes : s.Writes canStillCome next) :
    ((h.without a).update id fun _ => next).without a = (h.update id fun _ => next).without a :=
  have keeps (t : Session) (_ : t.id = id) : next.id = id := writes.id.trans number
  update_without_of keeps keeps fun _ _ => rfl

/-- Writers that stand alike but for how many sessions remained, which depends on `a`. -/
theorem stand_without (h : Hub) {first second : Session.Writer}
    (alike : first.forget = second.forget) :
    ((h.without a).update id fun s => { s with writer := first }).without a =
      (h.update id fun s => { s with writer := second }).without a :=
  update_without (fun _ => rfl) (fun _ => rfl) fun s => by simp [Session.forget, alike]

theorem leave_without (h : Hub) (a id : SessionId) (ending : Session.Ending) :
    ({ h.without a with registry := (h.without a).registry.erase id }.update id fun s =>
      { s with writer := .telling ending ((h.without a).registry.erase id).length }).without a =
      ({ h with registry := h.registry.erase id }.update id fun s =>
        { s with writer := .telling ending (h.registry.erase id).length }).without a :=
  calc
    _ = (({ h.without a with registry := (h.without a).registry.erase id } : Hub).without a
          |>.update id fun s => { s with writer := .telling ending 0 }).without a :=
      (stand_without _ (by rfl)).symm
    _ = (({ h with registry := h.registry.erase id } : Hub).without a |>.update
          id fun s => { s with writer := .telling ending 0 }).without a := by rw [erase_without]
    _ = _ := stand_without _ (by rfl)

/-- The writer of another session takes its step where `a` is not there. -/
theorem writerStep_without (other : id ≠ a) (step : h.writerStep id = some h') :
    ∃ h₀, (h.without a).writerStep id = some h₀ ∧ h₀.without a = h'.without a := by
  cases found : h.session? id with
  | none => simp [writerStep, found] at step
  | some s =>
      have found₀ : (h.without a).session? id = some s.forget := by
        rw [session?_without other, found]
        rfl
      have number := (mem_of_session? found).2
      have still : (h.without a).canStillCome s = h.canStillCome s := by
        rw [canStillCome, number, isRegistered_without other, canStillCome, number]
      simp only [writerStep, found, Option.bind_eq_bind, Option.bind_some] at step
      simp only [writerStep, found₀, Option.bind_eq_bind, Option.bind_some]
      cases stand : s.writer with
      | leaving ending =>
          have stand₀ : s.forget.writer = .leaving ending := by
            simp only [Session.forget, stand]
            rfl
          simp only [stand, stand₀, remove, isRegistered_without other] at step ⊢
          by_cases registered : h.isRegistered id
          · rw [if_pos registered] at step ⊢
            cases step
            exact ⟨_, rfl, leave_without h a id ending⟩
          · rw [if_neg registered] at step ⊢
            cases step
            exact ⟨_, rfl, stand_without h rfl⟩
      | telling ending remaining =>
          have stand₀ : s.forget.writer = .telling ending 0 := by
            simp only [Session.forget, stand]
            rfl
          simp only [stand, stand₀] at step ⊢
          cases step
          exact ⟨_, rfl, stand_without h rfl⟩
      | writing frame =>
          simp only [stand, Option.bind_eq_some_iff] at step
          obtain ⟨next, writes, step⟩ := step
          have own := Session.writes_of_writerStep writes
          have same := writes_without (h := h) (a := a) number own
          rw [own.forget_eq.1]
          simp only [stand, still, writes, Option.bind_some]
          split at step
          · cases step
            exact ⟨_, if_pos ‹_›, same⟩
          · cases step
            exact ⟨_, if_neg ‹_›, same⟩
      | unstarted | waiting | closingQueue | finishing | stopped =>
          simp only [stand, Option.bind_eq_some_iff] at step
          obtain ⟨next, writes, same⟩ := step
          cases same
          have own := Session.writes_of_writerStep writes
          rw [own.forget_eq.1]
          simp only [stand, still, writes, Option.bind_some]
          exact ⟨_, rfl, writes_without number own⟩

theorem writerStep_without_self (step : h.writerStep a = some h') : h'.without a = h.without a := by
  cases writes_of_writerStep step with
  | @own s next hub there writes same =>
      have number := (mem_of_session? there).2
      have after : h'.without a = (h.update a fun _ => next).without a := by rw [same]; rfl
      rw [after]
      exact update_without_self fun _ _ => writes.id.trans number
  | @leave s ending =>
      have gone := erase_without_self h a
      rw [← gone]
      exact update_without_self fun _ here => here
  | pass | tell => exact update_without_self fun _ here => here

end Hub

end BoxOffice
