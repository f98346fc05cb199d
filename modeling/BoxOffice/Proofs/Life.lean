import BoxOffice.Proofs.Session

/-! # The life of one session

What a hub does to one session depends on little: the session itself, its entries in the registry,
and how many calls are at work for it, and as what. A life holds just that. Everything a hub can do
is a step of every life, most often one that changes nothing, so what is proved of the steps of a
life holds of every session under every interleaving.
-/

namespace BoxOffice

namespace Hub

/-- What a call can be at work for a session as. -/
inductive Role where
  /-- It is writing the greeting. -/
  | greeting
  /-- It is to have the session admitted. -/
  | connecting
  /-- It is registering the session. -/
  | entering
  /-- It holds the queue of the session to answer a message. -/
  | holding
  deriving Repr, DecidableEq

/-- How many calls are at work for a session, by role. -/
abbrev Crew := Role → Nat

/-- One call changes its role. -/
def Crew.shift (c : Crew) (old new : Option Role) : Crew := fun r =>
  c r - (if old = some r then 1 else 0) + (if new = some r then 1 else 0)

/-- Everything that matters for one session. -/
@[ext]
structure Life where
  /-- The sessions of its number. -/
  sessions : List Session
  /-- Whether its number was given. -/
  isNumbered : Bool
  /-- How often the registry has its number. -/
  entries : Nat
  crew : Crew

namespace Life

/-- All that can happen in the life of a session, and whether it is the turn of its writer. -/
inductive Step (l : Life) (writing : Prop) : Life → Prop where
  | rest : l.Step writing l
  | assign (id : SessionId) (sink : Session.Sink) (new : l.isNumbered = false) :
      l.Step writing { l with
        sessions := l.sessions ++ [.blank id sink]
        isNumbered := true
        crew := l.crew.shift none (some .greeting) }
  | greet (frame : Text) (turn : 0 < l.crew .greeting) :
      l.Step writing { l with
        sessions := l.sessions.map (·.offer frame)
        crew := l.crew.shift (some .greeting) (some .connecting) }
  | dismiss (turn : 0 < l.crew .connecting) :
      l.Step writing { l with sessions := [], crew := l.crew.shift (some .connecting) none }
  | activate (turn : 0 < l.crew .connecting) :
      l.Step writing { l with
        sessions := l.sessions.map fun s => s.activate.hold
        crew := l.crew.shift (some .connecting) (some .entering) }
  | enter (turn : 0 < l.crew .entering) :
      l.Step writing { l with
        sessions := l.sessions.map (·.release)
        entries := max l.entries 1
        crew := l.crew.shift (some .entering) none }
  | lookUp (registered : 0 < l.entries) :
      l.Step writing { l with
        sessions := l.sessions.map (·.hold)
        crew := l.crew.shift none (some .holding) }
  | offer (frame : Text) (reachable : 0 < l.entries ∨ 0 < l.crew .holding) :
      l.Step writing { l with sessions := l.sessions.map (·.offer frame) }
  | letGo (turn : 0 < l.crew .holding) :
      l.Step writing { l with
        sessions := l.sessions.map (·.release)
        crew := l.crew.shift (some .holding) none }
  | remove {entries : Nat} (fewer : entries < l.entries) : l.Step writing { l with entries }
  | write {s next : Session} (now : writing) (there : l.sessions.head? = some s)
      (writes : s.Writes (l.entries != 0 || s.holds != 0) next) :
      l.Step writing { l with sessions := l.sessions.map fun _ => next }
  /-- The writer has left, and whether it was the one who removed the session. -/
  | leave {s : Session} {ending : Session.Ending} {writer : Session.Writer}
      (now : writing) (there : l.sessions.head? = some s) (stand : s.writer = .leaving ending)
      (free : l.crew .entering = 0)
      (left : writer = .finishing ending ∨ ∃ remaining, writer = .telling ending remaining) :
      l.Step writing { l with
        sessions := l.sessions.map fun s => { s with writer }
        entries := l.entries - 1 }
  | tell {s : Session} {ending : Session.Ending} {remaining : Nat}
      (now : writing) (there : l.sessions.head? = some s)
      (stand : s.writer = .telling ending remaining) :
      l.Step writing { l with sessions := l.sessions.map fun s =>
        { s with writer := .finishing ending } }
  | transport (sink : Session.Sink) :
      l.Step writing { l with sessions := l.sessions.map (·.withSink fun _ => sink) }

/-- The phases of a life: there is no session, because it has no number yet or was dropped;
    the session waits for its greeting and to be admitted; its writer was started. A session
    is registered after that, once, and as long as anyone can reach it the writer has not
    decided to end. -/
inductive Sound (l : Life) : Prop where
  | absent (sessions : l.sessions = []) (entries : l.entries = 0) (crew : ∀ r, l.crew r = 0)
  | waiting {s : Session} (sessions : l.sessions = [s]) (numbered : l.isNumbered) (sound : s.Sound)
      (entries : l.entries = 0) (stand : s.writer = .unstarted) (holds : s.holds = 0)
      (connecting : l.crew .greeting + l.crew .connecting = 1) (entering : l.crew .entering = 0)
      (holding : l.crew .holding = 0) (greeted : s.accepted = [] ↔ 0 < l.crew .greeting)
  | started {s : Session} (sessions : l.sessions = [s]) (numbered : l.isNumbered)
      (greeting : l.crew .greeting = 0) (connecting : l.crew .connecting = 0)
      (started : s.Started l.entries (l.crew .entering) (l.crew .holding))

variable {l l' : Life} {writing : Prop} {s s' : Session}

theorem only {t : Session} (sessions : l.sessions = [s]) (there : l.sessions.head? = some t) :
    s = t := by
  rw [sessions, List.head?_cons, Option.some.injEq] at there
  exact there

theorem only_of_map {change : Session → Session} (sessions : l.sessions = [s])
    (there' : s' ∈ l.sessions.map change) : s' = change s := by
  rw [sessions, List.map_singleton, List.mem_singleton] at there'
  exact there'

/-! ## What each step does to the phase -/

theorem Sound.assign (h : l.Sound) (id : SessionId) (sink : Session.Sink)
    (new : l.isNumbered = false) :
    Sound { l with
      sessions := l.sessions ++ [.blank id sink]
      isNumbered := true
      crew := l.crew.shift none (some .greeting) } := by
  cases h with
  | absent sessions entries crew =>
      refine .waiting (by rw [sessions]; rfl) rfl (.blank id sink) entries rfl rfl ?_ ?_ ?_ ?_ <;>
        simp [Crew.shift, crew, Session.blank]
  | waiting _ numbered | started _ numbered =>
      rw [new] at numbered
      cases numbered

theorem Sound.greet (h : l.Sound) (frame : Text) (turn : 0 < l.crew .greeting) :
    Sound { l with
      sessions := l.sessions.map (·.offer frame)
      crew := l.crew.shift (some .greeting) (some .connecting) } := by
  cases h with
  | absent _ _ crew => exact absurd (crew .greeting) (Nat.ne_of_gt turn)
  | started _ _ greeting => omega
  | @waiting s sessions numbered sound entries stand holds connecting entering holding greeted =>
      have isOpen : s.isOpen := by rw [sound.isOpen, stand]; rfl
      refine .waiting (s := s.offer frame) (by rw [sessions]; rfl) numbered
        (sound.offer frame (by rw [stand]; nofun)) entries ?_ ?_ ?_ ?_ ?_ ?_
      · rw [s.writer_offer, stand]
      · rw [s.holds_offer, holds]
      · simp [Crew.shift]; omega
      · simp [Crew.shift, entering]
      · simp [Crew.shift, holding]
      · simp [s.accepted_offer, isOpen, Crew.shift]; omega

theorem Sound.dismiss (h : l.Sound) (turn : 0 < l.crew .connecting) :
    Sound { l with sessions := [], crew := l.crew.shift (some .connecting) none } := by
  cases h with
  | absent _ _ crew => exact absurd (crew .connecting) (Nat.ne_of_gt turn)
  | started _ _ _ connecting => omega
  | waiting _ _ _ entries _ _ connecting entering holding =>
      refine .absent rfl entries ?_
      intro r
      cases r <;> simp [Crew.shift] <;> omega

theorem Sound.activate (h : l.Sound) (turn : 0 < l.crew .connecting) :
    Sound { l with
      sessions := l.sessions.map fun s => s.activate.hold
      crew := l.crew.shift (some .connecting) (some .entering) } := by
  cases h with
  | absent _ _ crew => exact absurd (crew .connecting) (Nat.ne_of_gt turn)
  | started _ _ _ connecting => omega
  | @waiting s sessions numbered sound entries stand holds connecting entering holding greeted =>
      have some : s.accepted ≠ [] := by
        intro empty
        have := greeted.mp empty
        omega
      refine .started (s := s.activate.hold) (by rw [sessions]; rfl) numbered ?_ ?_ ?_
      · simp [Crew.shift]; omega
      · simp [Crew.shift]; omega
      · simpa [Crew.shift, entries, entering, holding] using .activate sound stand holds some

theorem Sound.enter (h : l.Sound) (turn : 0 < l.crew .entering) :
    Sound { l with
      sessions := l.sessions.map (·.release)
      entries := max l.entries 1
      crew := l.crew.shift (some .entering) none } := by
  cases h with
  | absent _ _ crew => exact absurd (crew .entering) (Nat.ne_of_gt turn)
  | waiting _ _ _ _ _ _ _ entering => omega
  | @started s sessions numbered greeting connecting started =>
      obtain ⟨more, count⟩ := Nat.exists_eq_add_one.mpr turn
      rw [count] at started
      refine .started (s := s.release) (by rw [sessions]; rfl) numbered ?_ ?_ ?_
      · simp [Crew.shift, greeting]
      · simp [Crew.shift, connecting]
      · simpa [Crew.shift, count] using started.enter

theorem Sound.lookUp (h : l.Sound) (registered : 0 < l.entries) :
    Sound { l with
      sessions := l.sessions.map (·.hold)
      crew := l.crew.shift none (some .holding) } := by
  cases h with
  | absent _ entries | waiting _ _ _ entries => omega
  | @started s sessions numbered greeting connecting started =>
      refine .started (s := s.hold) (by rw [sessions]; rfl) numbered ?_ ?_ ?_
      · simp [Crew.shift, greeting]
      · simp [Crew.shift, connecting]
      · simpa [Crew.shift] using started.hold registered

theorem Sound.offer (h : l.Sound) (frame : Text)
    (reachable : 0 < l.entries ∨ 0 < l.crew .holding) :
    Sound { l with sessions := l.sessions.map (·.offer frame) } := by
  cases h with
  | absent _ entries crew =>
      have holding := crew .holding
      omega
  | waiting _ _ _ entries _ _ _ _ holding => omega
  | started sessions numbered greeting connecting started =>
      exact .started (by rw [sessions]; rfl) numbered greeting connecting
        (started.offer frame reachable)

theorem Sound.letGo (h : l.Sound) (turn : 0 < l.crew .holding) :
    Sound { l with
      sessions := l.sessions.map (·.release)
      crew := l.crew.shift (some .holding) none } := by
  cases h with
  | absent _ _ crew => exact absurd (crew .holding) (Nat.ne_of_gt turn)
  | waiting _ _ _ _ _ _ _ _ holding => omega
  | @started s sessions numbered greeting connecting started =>
      obtain ⟨more, count⟩ := Nat.exists_eq_add_one.mpr turn
      rw [count] at started
      refine .started (s := s.release) (by rw [sessions]; rfl) numbered ?_ ?_ ?_
      · simp [Crew.shift, greeting]
      · simp [Crew.shift, connecting]
      · simpa [Crew.shift, count] using started.release

theorem Sound.remove {entries : Nat} (h : l.Sound) (fewer : entries < l.entries) :
    Sound { l with entries } := by
  cases h with
  | absent _ none | waiting _ _ _ none => omega
  | started sessions numbered greeting connecting started =>
      exact .started sessions numbered greeting connecting (started.remove (Nat.le_of_lt fewer))

theorem Sound.write (h : l.Sound) (there : l.sessions.head? = some s)
    (writes : s.Writes (l.entries != 0 || s.holds != 0) s') :
    Sound { l with sessions := l.sessions.map fun _ => s' } := by
  cases h with
  | absent sessions => rw [sessions] at there; cases there
  | waiting sessions _ _ _ stand =>
      obtain rfl := only sessions there
      exact absurd stand writes.stand
  | started sessions numbered greeting connecting started =>
      obtain rfl := only sessions there
      exact .started (by rw [sessions]; rfl) numbered greeting connecting (started.writes writes)

theorem Sound.leave {ending : Session.Ending} {writer : Session.Writer} (h : l.Sound)
    (there : l.sessions.head? = some s) (stand : s.writer = .leaving ending)
    (free : l.crew .entering = 0)
    (left : writer = .finishing ending ∨ ∃ remaining, writer = .telling ending remaining) :
    Sound { l with
      sessions := l.sessions.map fun s => { s with writer }
      entries := l.entries - 1 } := by
  cases h with
  | absent sessions => rw [sessions] at there; cases there
  | waiting sessions _ _ _ unstarted =>
      obtain rfl := only sessions there
      rw [unstarted] at stand
      cases stand
  | started sessions numbered greeting connecting started =>
      obtain rfl := only sessions there
      rw [free] at started
      refine .started (by rw [sessions]; rfl) numbered greeting connecting ?_
      simpa only [free] using started.leave stand left

theorem Sound.tell {ending : Session.Ending} {remaining : Nat} (h : l.Sound)
    (there : l.sessions.head? = some s) (stand : s.writer = .telling ending remaining) :
    Sound { l with sessions := l.sessions.map fun s =>
      { s with writer := .finishing ending } } := by
  cases h with
  | absent sessions => rw [sessions] at there; cases there
  | waiting sessions _ _ _ unstarted =>
      obtain rfl := only sessions there
      rw [unstarted] at stand
      cases stand
  | started sessions numbered greeting connecting started =>
      obtain rfl := only sessions there
      exact .started (by rw [sessions]; rfl) numbered greeting connecting (started.tell stand)

theorem Sound.transport (h : l.Sound) (sink : Session.Sink) :
    Sound { l with sessions := l.sessions.map (·.withSink fun _ => sink) } := by
  cases h with
  | absent sessions entries crew => exact .absent (by rw [sessions]; rfl) entries crew
  | waiting sessions numbered sound entries stand holds connecting entering holding greeted =>
      exact .waiting (by rw [sessions]; rfl) numbered (sound.withSink _) entries stand holds
        connecting entering holding greeted
  | started sessions numbered greeting connecting started =>
      exact .started (by rw [sessions]; rfl) numbered greeting connecting (started.withSink _)

theorem Sound.step (h : l.Sound) (step : l.Step writing l') : l'.Sound := by
  cases step with
  | rest => exact h
  | assign id sink new => exact h.assign id sink new
  | greet frame turn => exact h.greet frame turn
  | dismiss turn => exact h.dismiss turn
  | activate turn => exact h.activate turn
  | enter turn => exact h.enter turn
  | lookUp registered => exact h.lookUp registered
  | offer frame reachable => exact h.offer frame reachable
  | letGo turn => exact h.letGo turn
  | remove fewer => exact h.remove fewer
  | write _ there writes => exact h.write there writes
  | leave _ there stand free left => exact h.leave there stand free left
  | tell _ there stand => exact h.tell there stand
  | transport sink => exact h.transport sink

/-! ## What a step does to the session -/

theorem Sound.session (h : l.Sound) (there : s ∈ l.sessions) :
    l.sessions = [s] ∧ s.Sound ∧ l.isNumbered := by
  cases h with
  | absent sessions => rw [sessions] at there; cases there
  | waiting sessions numbered sound =>
      rw [sessions, List.mem_singleton] at there
      subst there
      exact ⟨sessions, sound, numbered⟩
  | started sessions numbered _ _ started =>
      rw [sessions, List.mem_singleton] at there
      subst there
      exact ⟨sessions, started.sound, numbered⟩

theorem Sound.unstarted (h : l.Sound) (there : s ∈ l.sessions)
    (turn : 0 < l.crew .connecting) : s.writer = .unstarted := by
  cases h with
  | absent sessions => rw [sessions] at there; cases there
  | waiting sessions _ _ _ stand =>
      rw [sessions, List.mem_singleton] at there
      exact there ▸ stand
  | started _ _ _ connecting => omega

/-- In one step a session ages, and by one stage at most. -/
theorem Step.ages (step : l.Step writing l') (h : l.Sound)
    (there : s ∈ l.sessions) (there' : s' ∈ l'.sessions) :
    s.Ages s' ∧ s'.stage.age ≤ s.stage.age + 1 := by
  obtain ⟨sessions, sound, numbered⟩ := h.session there
  cases step with
  | rest | remove =>
      rw [sessions, List.mem_singleton] at there'
      subst there'
      exact ⟨.refl _, Nat.le_succ _⟩
  | assign id sink new => rw [new] at numbered; cases numbered
  | dismiss => cases there'
  | greet frame | offer frame =>
      obtain rfl := only_of_map sessions there'
      exact ⟨.offer _ frame, by rw [Session.stage_offer]; exact Nat.le_succ _⟩
  | activate turn =>
      have stage := sound.stage
      have stand := h.unstarted there turn
      rw [stand] at stage
      obtain rfl := only_of_map sessions there'
      refine ⟨{ Session.Ages.refl s with stage := ?_, ended := ?_ }, ?_⟩
      · rw [stage]; exact Nat.zero_le 1
      · intro ending ended
        rw [stand] at ended
        cases ended
      · rw [stage]; exact Nat.le_refl 1
  | enter | lookUp | letGo | transport =>
      obtain rfl := only_of_map sessions there'
      exact ⟨{ Session.Ages.refl s with }, Nat.le_succ _⟩
  | write now same writes =>
      obtain rfl := only sessions same
      obtain rfl := only_of_map sessions there'
      exact ⟨.writes sound writes, writes.age_le sound⟩
  | leave now same stand free left =>
      obtain rfl := only sessions same
      obtain rfl := only_of_map sessions there'
      refine ⟨{ Session.Ages.refl s with ended := ?_ }, Nat.le_succ _⟩
      intro ending ended
      rw [stand] at ended
      rcases left with rfl | ⟨remaining, rfl⟩ <;> exact ⟨ended, rfl⟩
  | tell now same stand =>
      obtain rfl := only sessions same
      obtain rfl := only_of_map sessions there'
      refine ⟨{ Session.Ages.refl s with ended := ?_ }, Nat.le_succ _⟩
      intro ending ended
      rw [stand] at ended
      exact ⟨ended, rfl⟩

theorem Step.numbered (step : l.Step writing l') (numbered : l.isNumbered) : l'.isNumbered := by
  cases step <;> first | rfl | exact numbered

theorem Step.comes (step : l.Step writing l') (h : l.Sound) (numbered : l.isNumbered)
    (there' : s' ∈ l'.sessions) : ∃ s ∈ l.sessions, s.Ages s' := by
  have before : ∃ s, s ∈ l.sessions := by
    cases step with
    | rest | remove => exact ⟨s', there'⟩
    | assign _ _ new => rw [new] at numbered; cases numbered
    | dismiss => cases there'
    | greet | activate | enter | lookUp | offer | letGo | write | leave | tell | transport =>
        obtain ⟨s, there, -⟩ := List.mem_map.mp there'
        exact ⟨s, there⟩
  obtain ⟨s, there⟩ := before
  exact ⟨s, there, (step.ages h there there').1⟩

/-- Only a session that waits to be admitted is ever dropped. -/
theorem Step.stays (step : l.Step writing l') (h : l.Sound) (there : s ∈ l.sessions)
    (admitted : s.stage ≠ .connecting) : ∃ s' ∈ l'.sessions, s.Ages s' := by
  have after : ∃ s', s' ∈ l'.sessions := by
    cases step with
    | rest | remove => exact ⟨s, there⟩
    | assign => exact ⟨s, List.mem_append_left _ there⟩
    | dismiss turn =>
        have stage := (h.session there).2.1.stage
        rw [h.unstarted there turn] at stage
        exact absurd stage admitted
    | greet | activate | enter | lookUp | offer | letGo | write | leave | tell | transport =>
        exact ⟨_, List.mem_map_of_mem there⟩
  obtain ⟨s', there'⟩ := after
  exact ⟨s', there', (step.ages h there there').1⟩

/-- Whether the session of a life will never be registered again: its number was given, no call is
    to register it, and it is not registered. -/
structure IsOver (l : Life) : Prop where
  numbered : l.isNumbered
  entries : l.entries = 0
  greeting : l.crew .greeting = 0
  connecting : l.crew .connecting = 0
  entering : l.crew .entering = 0

theorem IsOver.step (h : l.IsOver) (step : l.Step writing l') : l'.IsOver := by
  obtain ⟨numbered, entries, greeting, connecting, entering⟩ := h
  cases step with
  | assign _ _ new => rw [new] at numbered; cases numbered
  | greet _ turn | dismiss turn | activate turn | enter turn | lookUp turn | remove turn => omega
  | letGo =>
      exact ⟨numbered, entries, by simp [Crew.shift, greeting], by simp [Crew.shift, connecting],
        by simp [Crew.shift, entering]⟩
  | leave => exact ⟨numbered, by simp only [entries], greeting, connecting, entering⟩
  | rest | offer | write | tell | transport =>
      exact ⟨numbered, entries, greeting, connecting, entering⟩

theorem Step.isOver (step : l.Step writing l') (h : l.Sound) (before : 0 < l.entries)
    (after : l'.entries = 0) : l'.IsOver := by
  have sound := h.step step
  cases h with
  | absent _ entries | waiting _ _ _ entries => omega
  | started sessions numbered greeting connecting started =>
      have once := started.once
      cases step with
      | assign _ _ new => rw [new] at numbered; cases numbered
      | greet _ turn | dismiss turn | activate turn | enter turn => omega
      | rest | lookUp | offer | letGo | write | tell | transport =>
          exact absurd after (Nat.ne_of_gt before)
      | remove => exact ⟨numbered, after, greeting, connecting, by simp only; omega⟩
      | leave => exact ⟨numbered, after, greeting, connecting, by simp only; omega⟩

end Life

end Hub

end BoxOffice
