import BoxOffice.Hub.Foyer
import BoxOffice.Proofs.Hub
import Mathlib.Data.List.Infix

/-! # What becomes of a session

Where the frames of a session are, and whether it is open and registered, follows from where its
writer stands. `Sound` and `Started` say how; everything that is done to a session keeps them.
-/

namespace BoxOffice

namespace Session

/-- The stage of a session whose writer stands here. -/
def Writer.stage : Writer → Stage
  | .unstarted => .connecting
  | .stopped _ => .closed
  | _ => .active

def Writer.isOpen : Writer → Bool
  | .unstarted | .waiting | .writing _ | .closingQueue _ => true
  | .leaving _ | .telling .. | .finishing _ | .stopped _ => false

@[simp] theorem id_hold (s : Session) : s.hold.id = s.id := rfl

@[simp] theorem id_release (s : Session) : s.release.id = s.id := rfl

@[simp] theorem id_withSink (s : Session) (change : Sink → Sink) : (s.withSink change).id = s.id :=
  rfl

attribute [simp] id_offer

def Writer.ending? : Writer → Option Ending
  | .unstarted | .waiting | .writing _ => none
  | .closingQueue ending | .leaving ending | .telling ending _ | .finishing ending
  | .stopped ending => some ending

/-- The frame that a writer has taken and not yet written. -/
def Writer.hand : Writer → List Text
  | .writing frame => [frame]
  | _ => []

/-- Whether the session of a writer may be registered: the writer was started and has not left. -/
def Writer.isServing : Writer → Bool
  | .waiting | .writing _ | .closingQueue .failed | .leaving .failed => true
  | _ => false

def Stage.age : Stage → Nat
  | .connecting => 0
  | .active => 1
  | .closed => 2

/-- Where the frames of a session are. A frame that could not be written is lost, and so is the
    queue behind it. -/
def Flows (s : Session) : Prop :=
  match s.writer.ending? with
  | none => s.accepted = s.written ++ s.writer.hand ++ s.queue
  | some .drained => s.accepted = s.written ∧ s.queue = []
  | some .failed => ∃ lost, s.accepted = s.written ++ lost :: s.queue

/-- Stage and queue are as the writer has them, and no frame went astray. -/
structure Sound (s : Session) : Prop where
  stage : s.stage = s.writer.stage
  isOpen : s.isOpen = s.writer.isOpen
  flows : s.Flows

/-- What can have become of a session. What was accepted and written stays so; a queue that is
    closed takes nothing more, and a writer that has made its last write writes nothing more. -/
structure Ages (s s' : Session) : Prop where
  number : s'.id = s.id
  accepted : s.accepted <+: s'.accepted
  written : s.written <+: s'.written
  stage : s.stage.age ≤ s'.stage.age
  shut : s.isOpen = false → s'.isOpen = false ∧ s'.accepted = s.accepted
  ended : ∀ ending, s.writer.ending? = some ending →
    s'.writer.ending? = some ending ∧ s'.written = s.written

theorem Ages.refl (s : Session) : s.Ages s where
  number := rfl
  accepted := List.prefix_rfl
  written := List.prefix_rfl
  stage := Nat.le_refl _
  shut := by intro shut; exact ⟨shut, rfl⟩
  ended := by intro ending ended; exact ⟨ended, rfl⟩

theorem Ages.trans {s s' s'' : Session} (first : s.Ages s') (second : s'.Ages s'') :
    s.Ages s'' where
  number := second.number.trans first.number
  accepted := first.accepted.trans second.accepted
  written := first.written.trans second.written
  stage := first.stage.trans second.stage
  shut := by
    intro shut
    obtain ⟨shut', same⟩ := first.shut shut
    obtain ⟨shut'', same'⟩ := second.shut shut'
    exact ⟨shut'', same'.trans same⟩
  ended := by
    intro ending ended
    obtain ⟨ended', same⟩ := first.ended ending ended
    obtain ⟨ended'', same'⟩ := second.ended ending ended'
    exact ⟨ended'', same'.trans same⟩

theorem Ages.admitted {s s' : Session} (h : s.Ages s') (admitted : s.stage ≠ .connecting) :
    s'.stage ≠ .connecting := by
  intro waiting
  have later := h.stage
  rw [waiting] at later
  cases same : s.stage with
  | connecting => exact admitted same
  | active | closed => rw [same] at later; cases later

/-- All a writer can do that concerns nobody else. -/
inductive Writes (s : Session) (canStillCome : Bool) : Session → Prop where
  | take {frame : Text} {rest : List Text} (stand : s.writer = .waiting)
      (next : s.queue = frame :: rest) :
      Writes s canStillCome { s with queue := rest, writer := .writing frame }
  | drain (stand : s.writer = .waiting) (empty : s.queue = []) (gone : canStillCome = false) :
      Writes s canStillCome { s with writer := .closingQueue .drained }
  | write {frame : Text} (stand : s.writer = .writing frame)
      (verdict : s.sink.verdict s.written.length = .written) :
      Writes s canStillCome { s with written := s.written ++ [frame], writer := .waiting }
  | fail {frame : Text} (stand : s.writer = .writing frame)
      (verdict : s.sink.verdict s.written.length = .failed) :
      Writes s canStillCome { s with writer := .closingQueue .failed }
  | close {ending : Ending} (stand : s.writer = .closingQueue ending) :
      Writes s canStillCome { s with isOpen := false, writer := .leaving ending }
  | stop {ending : Ending} (stand : s.writer = .finishing ending) :
      Writes s canStillCome { s with stage := .closed, writer := .stopped ending }

theorem writes_of_writerStep {s next : Session} {canStillCome : Bool}
    (step : s.writerStep canStillCome = some next) : s.Writes canStillCome next := by
  unfold writerStep at step
  split at step
  case h_1 stand =>
    split at step
    case h_1 frame rest more =>
      cases step
      exact .take stand more
    case h_2 empty =>
      split at step
      · cases step
      · rename_i gone
        cases step
        exact .drain stand empty (by simpa using gone)
  case h_2 frame stand =>
    split at step
    case h_1 verdict =>
      cases step
      exact .write stand verdict
    case h_2 => cases step
    case h_3 verdict =>
      cases step
      exact .fail stand verdict
  case h_3 ending stand =>
    cases step
    exact .close stand
  case h_4 ending stand =>
    cases step
    exact .stop stand
  all_goals cases step

theorem Writes.id {s next : Session} {canStillCome : Bool} (h : s.Writes canStillCome next) :
    next.id = s.id := by
  cases h <;> rfl

theorem Writes.stand {s next : Session} {canStillCome : Bool} (h : s.Writes canStillCome next) :
    s.writer ≠ .unstarted := by
  cases h <;> simp [*]

theorem Writes.age_le {s next : Session} {canStillCome : Bool} (h : s.Writes canStillCome next)
    (sound : s.Sound) : next.stage.age ≤ s.stage.age + 1 := by
  have stage := sound.stage
  cases h with
  | take | drain | write | fail | close => exact Nat.le_succ _
  | stop stand =>
      rw [stand] at stage
      rw [stage]
      exact Nat.le_refl 2

theorem Sound.blank (id : SessionId) (sink : Sink) : (blank id sink).Sound := ⟨rfl, rfl, rfl⟩

theorem Writer.not_isServing_of_drained {writer : Writer} (h : writer.ending? = some .drained) :
    writer.isServing = false := by
  cases writer with
  | unstarted | waiting | writing => cases h
  | closingQueue | leaving | telling | finishing | stopped => cases h; rfl

theorem Writer.stage_of_isServing {writer : Writer} (h : writer.isServing) :
    writer.stage = .active := by
  cases writer <;> first | rfl | cases h

theorem Writer.isOpen_of_isServing {writer : Writer} (h : writer.isServing) :
    writer.isOpen = false ↔ ∃ ending, writer = .leaving ending := by
  cases writer with
  | waiting | writing | closingQueue => simp [Writer.isOpen]
  | leaving ending => simp [Writer.isOpen]
  | unstarted | telling | finishing | stopped => cases h

theorem Writer.isOpen_of_closed {writer : Writer} (h : writer.stage = .closed) :
    writer.isOpen = false := by
  cases writer <;> first | rfl | cases h

theorem Writer.admitted {writer : Writer} (started : writer ≠ .unstarted) :
    writer.stage ≠ .connecting := by
  cases writer with
  | unstarted => exact absurd rfl started
  | waiting | writing | closingQueue | leaving | telling | finishing | stopped => nofun

theorem Writer.exists_ending_of_closed {writer : Writer} (h : writer.stage = .closed) :
    ∃ ending, writer.ending? = some ending := by
  cases writer <;> first | exact ⟨_, rfl⟩ | cases h

theorem writer_offer (s : Session) (frame : Text) : (s.offer frame).writer = s.writer := by
  unfold Session.offer
  split <;> rfl

theorem stage_offer (s : Session) (frame : Text) : (s.offer frame).stage = s.stage := by
  unfold Session.offer
  split <;> rfl

theorem holds_offer (s : Session) (frame : Text) : (s.offer frame).holds = s.holds := by
  unfold Session.offer
  split <;> rfl

theorem Sound.hold {s : Session} (h : s.Sound) : s.hold.Sound := ⟨h.stage, h.isOpen, h.flows⟩

theorem Sound.release {s : Session} (h : s.Sound) : s.release.Sound := ⟨h.stage, h.isOpen, h.flows⟩

theorem Sound.withSink {s : Session} (h : s.Sound) (change : Sink → Sink) :
    (s.withSink change).Sound :=
  ⟨h.stage, h.isOpen, h.flows⟩

theorem Sound.activate {s : Session} (h : s.Sound) (stand : s.writer = .unstarted) :
    s.activate.Sound := by
  have isOpen := h.isOpen
  have flows := h.flows
  simp only [Flows, stand] at isOpen flows
  exact ⟨rfl, isOpen, flows⟩

/-- Frames can be offered at any time but one: when the writer has decided that no more can come. -/
theorem Sound.offer {s : Session} (h : s.Sound) (frame : Text)
    (more : s.writer ≠ .closingQueue .drained) : (s.offer frame).Sound := by
  unfold Session.offer
  split
  · rename_i isOpen
    refine ⟨h.stage, h.isOpen, ?_⟩
    have flows := h.flows
    rw [h.isOpen] at isOpen
    unfold Flows at flows ⊢
    cases stand : s.writer with
    | unstarted | waiting | writing =>
        simp only [stand, Writer.ending?] at flows ⊢
        rw [flows, List.append_assoc, ← List.append_assoc]
    | closingQueue ending =>
        cases ending with
        | drained => exact absurd stand more
        | failed =>
            simp only [stand, Writer.ending?] at flows ⊢
            obtain ⟨lost, flows⟩ := flows
            exact ⟨lost, by rw [flows, List.append_assoc, List.cons_append]⟩
    | leaving | telling | finishing | stopped => simp [stand, Writer.isOpen] at isOpen
  · exact h

theorem Sound.writes {s next : Session} {canStillCome : Bool} (h : s.Sound)
    (writes : s.Writes canStillCome next) : next.Sound := by
  obtain ⟨stage, isOpen, flows⟩ := h
  unfold Flows at flows
  cases writes with
  | take stand more =>
      simp only [stand, Writer.ending?, Writer.hand, more, List.append_nil] at flows
      refine ⟨by simp [stage, stand, Writer.stage], by simp [isOpen, stand, Writer.isOpen], ?_⟩
      simp [Flows, Writer.ending?, Writer.hand, flows]
  | drain stand empty gone =>
      simp only [stand, Writer.ending?, Writer.hand, empty, List.append_nil] at flows
      refine ⟨by simp [stage, stand, Writer.stage], by simp [isOpen, stand, Writer.isOpen], ?_⟩
      exact ⟨flows, empty⟩
  | write stand verdict =>
      simp only [stand, Writer.ending?, Writer.hand] at flows
      refine ⟨by simp [stage, stand, Writer.stage], by simp [isOpen, stand, Writer.isOpen], ?_⟩
      simp [Flows, Writer.ending?, Writer.hand, flows]
  | fail stand verdict =>
      simp only [stand, Writer.ending?, Writer.hand] at flows
      refine ⟨by simp [stage, stand, Writer.stage], by simp [isOpen, stand, Writer.isOpen], ?_⟩
      exact ⟨_, by rw [flows, List.append_assoc, List.singleton_append]⟩
  | close stand =>
      simp only [stand, Writer.ending?] at flows
      exact ⟨by simp [stage, stand, Writer.stage], rfl, flows⟩
  | stop stand =>
      simp only [stand, Writer.ending?] at flows
      exact ⟨rfl, by simp [isOpen, stand, Writer.isOpen], flows⟩

theorem Ages.offer (s : Session) (frame : Text) : s.Ages (s.offer frame) := by
  unfold Session.offer
  split
  · rename_i isOpen
    exact { refl s with
      accepted := List.prefix_append ..
      shut := by intro shut; rw [isOpen] at shut; cases shut }
  · exact refl s

theorem Ages.writes {s next : Session} {canStillCome : Bool} (h : s.Sound)
    (writes : s.Writes canStillCome next) : s.Ages next := by
  have stage := h.stage
  cases writes with
  | take stand | drain stand | fail stand =>
      exact { refl s with ended := by intro ending ended; rw [stand] at ended; cases ended }
  | write stand =>
      exact { refl s with
        written := List.prefix_append ..
        ended := by intro ending ended; rw [stand] at ended; cases ended }
  | close stand =>
      exact { refl s with
        shut := by intro _; exact ⟨rfl, rfl⟩
        ended := by intro ending ended; rw [stand] at ended; exact ⟨ended, rfl⟩ }
  | stop stand =>
      exact { refl s with
        stage := by rw [stage, stand]; exact Nat.le_succ 1
        ended := by intro ending ended; rw [stand] at ended; exact ⟨ended, rfl⟩ }

/-! ## A session that may be reached -/

/-- A session whose writer was started, how often it is registered, how many calls are registering
    it, and how many hold its queue. As long as anyone is to reach it through the registry the
    writer has not decided to end, and it only does so when nobody can reach it any more. -/
structure Started (s : Session) (entries entering holding : Nat) : Prop where
  sound : s.Sound
  stand : s.writer ≠ .unstarted
  greeted : s.accepted ≠ []
  once : entries + entering ≤ 1
  holds : s.holds = holding + entering
  serving : 0 < entries + entering → s.writer.isServing
  drained : s.writer.ending? = some .drained → s.holds = 0

namespace Started

variable {s : Session} {entries entering holding : Nat}

theorem activate (sound : s.Sound) (stand : s.writer = .unstarted) (holds : s.holds = 0)
    (greeted : s.accepted ≠ []) : s.activate.hold.Started 0 1 0 where
  sound := (sound.activate stand).hold
  stand := nofun
  greeted := greeted
  once := Nat.le_refl 1
  holds := by simp only [hold, Session.activate, holds]
  serving := by intro _; rfl
  drained := by intro drained; cases drained

theorem not_drained (h : s.Started entries entering holding)
    (reachable : 0 < entries ∨ 0 < holding) : s.writer.ending? ≠ some .drained := by
  intro ending
  have held := h.holds
  have free := h.drained ending
  have serving := h.serving (by omega)
  rw [Writer.not_isServing_of_drained ending] at serving
  cases serving

theorem enter (h : s.Started entries (entering + 1) holding) :
    s.release.Started (max entries 1) entering holding where
  sound := h.sound.release
  stand := h.stand
  greeted := h.greeted
  once := by have := h.once; omega
  holds := by have := h.holds; simp only [release]; omega
  serving := by intro _; exact h.serving (by omega)
  drained := by intro ending; have := h.drained ending; simp only [release]; omega

theorem hold (h : s.Started entries entering holding) (registered : 0 < entries) :
    s.hold.Started entries entering (holding + 1) where
  sound := h.sound.hold
  stand := h.stand
  greeted := h.greeted
  once := h.once
  holds := by have := h.holds; simp only [Session.hold]; omega
  serving := h.serving
  drained := by intro ending; exact absurd ending (h.not_drained (.inl registered))

theorem release (h : s.Started entries entering (holding + 1)) :
    s.release.Started entries entering holding where
  sound := h.sound.release
  stand := h.stand
  greeted := h.greeted
  once := h.once
  holds := by have := h.holds; simp only [Session.release]; omega
  serving := h.serving
  drained := by intro ending; have := h.drained ending; simp only [Session.release]; omega

theorem offer (h : s.Started entries entering holding) (frame : Text)
    (reachable : 0 < entries ∨ 0 < holding) : (s.offer frame).Started entries entering holding where
  sound := by
    apply h.sound.offer
    intro last
    exact h.not_drained reachable (by rw [last]; rfl)
  stand := by rw [writer_offer]; exact h.stand
  greeted := by
    rw [accepted_offer]
    split
    · simp
    · exact h.greeted
  once := h.once
  holds := by rw [holds_offer]; exact h.holds
  serving := by rw [writer_offer]; exact h.serving
  drained := by rw [writer_offer, holds_offer]; exact h.drained

theorem remove {fewer : Nat} (h : s.Started entries entering holding) (less : fewer ≤ entries) :
    s.Started fewer entering holding where
  sound := h.sound
  stand := h.stand
  greeted := h.greeted
  once := by have := h.once; omega
  holds := h.holds
  serving := by intro reachable; exact h.serving (by omega)
  drained := h.drained

theorem withSink (h : s.Started entries entering holding) (change : Sink → Sink) :
    (s.withSink change).Started entries entering holding :=
  ⟨h.sound.withSink change, h.stand, h.greeted, h.once, h.holds, h.serving, h.drained⟩

theorem writes {next : Session} (h : s.Started entries entering holding)
    (writes : s.Writes (entries != 0 || s.holds != 0) next) :
    next.Started entries entering holding := by
  have sound := h.sound.writes writes
  have serving := h.serving
  cases writes with
  | take stand | write stand | fail stand =>
      refine ⟨sound, nofun, h.greeted, h.once, h.holds, ?_, nofun⟩
      intro _
      rfl
  | drain stand empty gone =>
      simp only [Bool.or_eq_false_iff, bne_eq_false_iff_eq] at gone
      refine ⟨sound, nofun, h.greeted, h.once, h.holds, ?_, fun _ => gone.2⟩
      intro reachable
      have := h.holds
      omega
  | @close ending stand =>
      rw [stand] at serving
      refine ⟨sound, nofun, h.greeted, h.once, h.holds, ?_, ?_⟩
      · cases ending with
        | drained => exact serving
        | failed => intro _; rfl
      · have drained := h.drained
        rw [stand] at drained
        exact drained
  | stop stand =>
      rw [stand] at serving
      have drained := h.drained
      rw [stand] at drained
      exact ⟨sound, nofun, h.greeted, h.once, h.holds, serving, drained⟩

/-- The writer leaves the registry, and nobody is registering the session. -/
theorem leave {ending : Ending} {writer : Writer} (h : s.Started entries 0 holding)
    (stand : s.writer = .leaving ending)
    (left : writer = .finishing ending ∨ ∃ remaining, writer = .telling ending remaining) :
    ({ s with writer } : Session).Started (entries - 1) 0 holding := by
  have once := h.once
  obtain ⟨⟨stage, isOpen, flows⟩, -, greeted, -, holds, -, drained⟩ := h
  rw [stand] at stage isOpen drained
  simp only [Flows, stand] at flows
  rcases left with rfl | ⟨remaining, rfl⟩
  · exact ⟨⟨stage, isOpen, flows⟩, nofun, greeted, by omega, holds, by omega, drained⟩
  · exact ⟨⟨stage, isOpen, flows⟩, nofun, greeted, by omega, holds, by omega, drained⟩

theorem tell {ending : Ending} {remaining : Nat} (h : s.Started entries entering holding)
    (stand : s.writer = .telling ending remaining) :
    ({ s with writer := .finishing ending } : Session).Started entries entering holding := by
  obtain ⟨⟨stage, isOpen, flows⟩, -, greeted, once, holds, serving, drained⟩ := h
  rw [stand] at stage isOpen serving drained
  simp only [Flows, stand] at flows
  exact ⟨⟨stage, isOpen, flows⟩, nofun, greeted, once, holds, serving, drained⟩

end Started

end Session

end BoxOffice
