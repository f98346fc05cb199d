import BoxOffice.Proofs.Arrival

/-! # All sockets of a hub

Every session comes by a socket of its own, and a step of one handler leaves those of the others
where they were (`Orderly`). So whoever is registered has a handler that is not finished, and once a
handler is finished its session is out of the registry (`handlers_faithful`).
-/

namespace BoxOffice.Web

open Hub (Foyer Errand Purpose)

theorem Socket.Turns.entry {f : Foyer} {s s' : Socket} {command : Option Hub.Command}
    (turns : s.Turns f command s') : s'.entry = s.entry := by
  cases turns <;> rfl

/-- A handler calls for its own session only, and does not connect. -/
theorem Fares.purpose_of_begin {f : Foyer} {id : SessionId} {s s' : Socket} {command : Hub.Command}
    {purpose : Purpose} (fares : Fares f id s.handler s.read) (turns : s.Turns f (some command) s')
    (begun : f.begun? (.begin command) = some purpose) :
    purpose.visitor? = none ∧ ∀ other, id ≠ other → purpose.message? other = none := by
  obtain ⟨place, handler, arrivals, read⟩ := s
  cases turns with
  | post stand =>
      cases stand
      cases fares
      cases begun
      exact ⟨rfl, fun other apart => if_neg apart⟩
  | depart =>
      cases begun
      exact ⟨rfl, fun _ _ => rfl⟩

namespace Traffic

variable {programme : Programme} {limit : Option Nat} {t t' : Traffic} {e : Event}
  {events : List Event} {n : Nat} {s s' : Socket}

theorem map_entry_set (here : t.sockets[n]? = some s) (same : s'.entry = s.entry) :
    (t.sockets.set n s').map (·.entry) = t.sockets.map (·.entry) := by
  obtain ⟨after, cut, changed⟩ := exists_cut here
  rw [changed]
  conv => rhs; rw [cut]
  simp only [List.map_append, List.map_cons, same]

/-- A socket is that of a session, and its handler fares as it should. -/
def Serves (f : Foyer) (s : Socket) (id : SessionId) : Prop :=
  f.purposes[s.entry]? = some (.connect id) ∧ Fares f id s.handler s.read

/-- Every handler fares as it should, and sessions come by their sockets only. -/
structure Orderly (programme : Programme) (limit : Option Nat) (t : Traffic) : Prop where
  reached : ∃ events, (Foyer.idle programme limit).run? events = some t.foyer
  serves : ∀ (n : Nat) s, t.sockets[n]? = some s → ∃ id, Serves t.foyer s id
  apart : (t.sockets.map (·.entry)).Nodup
  owned : ∀ (c : Nat) id, t.foyer.purposes[c]? = some (.connect id) → c ∈ t.sockets.map (·.entry)
  known : ∀ id, id ∉ t.foyer.visitors → t.foyer.passed id = []

namespace Orderly

theorem idle : Orderly programme limit (.idle programme limit) where
  reached := ⟨[], rfl⟩
  serves := nofun
  apart := List.nodup_nil
  owned := nofun
  known := fun _ _ => rfl

variable (h : t.Orderly programme limit)

include h

theorem sound : t.foyer.Sound := by
  obtain ⟨_, run⟩ := h.reached
  exact .of_run run

theorem eq_of_session {m n : Nat} {s r : Socket} {id : SessionId} (here : t.sockets[m]? = some s)
    (there : t.sockets[n]? = some r) (own : t.foyer.purposes[s.entry]? = some (.connect id))
    (same : t.foyer.purposes[r.entry]? = some (.connect id)) : m = n := by
  obtain ⟨_, run⟩ := h.reached
  have entry := Foyer.connect_unique run own same
  have inside : m < (t.sockets.map (·.entry)).length := by
    rw [List.length_map]
    exact (List.getElem?_eq_some_iff.mp here).1
  refine (List.getElem?_inj inside h.apart).mp ?_
  rw [List.getElem?_map, List.getElem?_map, here, there, Option.map_some, Option.map_some, entry]

theorem of_same {sockets : List Socket}
    (serves : ∀ (n : Nat) s, sockets[n]? = some s → ∃ id, Serves t.foyer s id)
    (same : sockets.map (·.entry) = t.sockets.map (·.entry)) :
    Orderly programme limit ⟨t.foyer, sockets⟩ where
  reached := h.reached
  serves := serves
  apart := same ▸ h.apart
  owned := same ▸ h.owned
  known := h.known

variable {d : Foyer.Event} {foyer : Foyer} (happens : t.foyer.step? d = some foyer)

include happens

theorem reached_step : ∃ events, (Foyer.idle programme limit).run? events = some foyer := by
  obtain ⟨events, run⟩ := h.reached
  exact ⟨events ++ [d], Foyer.runs.snoc.mpr ⟨_, run, happens⟩⟩

/-- A socket that is left alone serves its session as before. -/
theorem serves_step {id : SessionId} (serves : Serves t.foyer s id)
    (aloof : ∀ purpose, t.foyer.begun? d = some purpose → purpose.message? id = none) :
    Serves foyer s id := by
  have alone : Aloof t.foyer id d foyer := ⟨h.sound, happens, aloof⟩
  exact ⟨Foyer.purposes_stay alone.run serves.1, serves.2.kept alone⟩

theorem known_step
    (aloof : ∀ id, id ∉ t.foyer.visitors → ∀ purpose, t.foyer.begun? d = some purpose →
      purpose.message? id = none) : ∀ id, id ∉ foyer.visitors → foyer.passed id = [] := by
  intro id stranger
  rw [Foyer.visitors_of_moves (Foyer.moves_of_step? happens), List.mem_append, not_or] at stranger
  have alone : Aloof t.foyer id d foyer := ⟨h.sound, happens, aloof id stranger.1⟩
  rw [alone.passed, h.known id stranger.1]

/-- The sockets are still in their places, and an event of the hub has brought no session. -/
theorem of_step {sockets : List Socket}
    (serves : ∀ (n : Nat) s, sockets[n]? = some s → ∃ id, Serves foyer s id)
    (same : sockets.map (·.entry) = t.sockets.map (·.entry))
    (aloof : ∀ id, id ∉ t.foyer.visitors → ∀ purpose, t.foyer.begun? d = some purpose →
      purpose.message? id = none)
    (foreign : ∀ purpose, t.foyer.begun? d = some purpose → purpose.visitor? = none) :
    Orderly programme limit ⟨foyer, sockets⟩ where
  reached := h.reached_step happens
  serves := serves
  apart := same ▸ h.apart
  owned := by
    intro c id connects
    rw [Foyer.purposes_of_moves (Foyer.moves_of_step? happens)] at connects
    rw [same]
    cases begun : t.foyer.begun? d with
    | none =>
        rw [begun, Option.toList_none, List.append_nil] at connects
        exact h.owned c id connects
    | some purpose =>
        rw [begun, Option.toList_some] at connects
        rcases of_getElem?_append connects with old | ⟨-, rfl⟩
        · exact h.owned c id old
        · cases foreign _ begun
  known := h.known_step happens aloof

omit happens

theorem openSocket {sink : Session.Sink}
    (happens : t.foyer.step? (.begin (.connect sink true)) = some foyer) :
    Orderly programme limit ⟨foyer,
      t.sockets ++ [⟨t.foyer.errands.length, .entering, [], []⟩]⟩ := by
  obtain ⟨_, run⟩ := h.reached
  have aloof : ∀ id purpose, t.foyer.begun? (.begin (.connect sink true)) = some purpose →
      purpose.message? id = none := by
    intro id purpose begun
    cases begun
    rfl
  have length : t.foyer.purposes.length = t.foyer.errands.length := List.length_map _
  have grown : foyer.purposes = t.foyer.purposes ++ [.connect t.foyer.hub.nextId] :=
    Foyer.purposes_of_moves (Foyer.moves_of_step? happens)
  have entries :
      (t.sockets ++ [(⟨t.foyer.errands.length, .entering, [], []⟩ : Socket)]).map (·.entry) =
      t.sockets.map (·.entry) ++ [t.foyer.errands.length] := List.map_append
  refine ⟨h.reached_step happens, ?_, ?_, ?_, h.known_step happens fun id _ => aloof id⟩
  · intro n s there
    rcases of_getElem?_append there with old | ⟨-, rfl⟩
    · obtain ⟨id, serves⟩ := h.serves n s old
      exact ⟨id, h.serves_step happens serves (aloof id)⟩
    · have fresh : t.foyer.hub.nextId ∉ t.foyer.visitors :=
        fun came => Nat.lt_irrefl _ ((Foyer.visitors_of_run run).2 _ came)
      have alone : Aloof t.foyer t.foyer.hub.nextId _ foyer := ⟨h.sound, happens, aloof _⟩
      refine ⟨t.foyer.hub.nextId, ?_, .entering (alone.passed.trans (h.known _ fresh))⟩
      rw [grown, ← length]
      exact List.getElem?_concat_length
  · rw [entries]
    refine List.nodup_append.mpr ⟨h.apart, List.nodup_singleton _, fun c old c' new same => ?_⟩
    rw [List.mem_singleton] at new
    obtain ⟨s, there, rfl⟩ := List.mem_map.mp old
    obtain ⟨n, place⟩ := List.mem_iff_getElem?.mp there
    obtain ⟨id, own, -⟩ := h.serves n s place
    have inside := (List.getElem?_eq_some_iff.mp own).1
    omega
  · intro c id connects
    rw [entries]
    rw [grown] at connects
    rcases of_getElem?_append connects with old | ⟨place, -⟩
    · exact List.mem_append_left _ (h.owned c id old)
    · exact List.mem_append_right _ (List.mem_singleton.mpr (place.trans length))

theorem begin {command : Hub.Command} (here : t.sockets[n]? = some s)
    (turns : s.Turns t.foyer (some command) s')
    (happens : t.foyer.step? (.begin command) = some foyer) :
    Orderly programme limit ⟨foyer, t.sockets.set n s'⟩ := by
  obtain ⟨_, run⟩ := h.reached
  obtain ⟨id, own, fares⟩ := h.serves n s here
  have purpose {purpose : Purpose} (begun : t.foyer.begun? (.begin command) = some purpose) :=
    fares.purpose_of_begin turns begun
  refine h.of_step happens ?_ (map_entry_set here turns.entry) ?_ fun _ begun => (purpose begun).1
  · intro m r there
    rcases of_getElem?_set there with ⟨old, other⟩ | ⟨-, rfl⟩
    · obtain ⟨id', serves⟩ := h.serves m r old
      have apart : id ≠ id' := by
        rintro rfl
        exact other (h.eq_of_session here old own serves.1)
      exact ⟨id', h.serves_step happens serves fun _ begun => (purpose begun).2 _ apart⟩
    · have once : t.foyer.run? [.begin command] = some foyer := Foyer.runs.single happens
      refine ⟨id, ?_, fares.begin run turns happens⟩
      rw [turns.entry]
      exact Foyer.purposes_stay once own
  · intro stranger away p begun
    refine (purpose begun).2 stranger ?_
    rintro rfl
    rw [Foyer.getElem?_purposes, Option.map_eq_some_iff] at own
    obtain ⟨c, turn, connects⟩ := own
    exact away (Foyer.mem_visitors turn (by rw [connects]; rfl))

theorem step (moves : t.Moves e t') : Orderly programme limit t' := by
  cases moves with
  | openSocket step => exact h.openSocket step
  | @arrive m r a here =>
      refine h.of_same ?_ (map_entry_set here rfl)
      intro m s there
      rcases of_getElem?_set there with ⟨old, -⟩ | ⟨-, rfl⟩
      · exact h.serves m s old
      · exact h.serves _ r here
  | turn own here turns =>
      refine h.of_same ?_ (map_entry_set here turns.entry)
      intro m s there
      rcases of_getElem?_set there with ⟨old, -⟩ | ⟨-, rfl⟩
      · exact h.serves m s old
      · obtain ⟨id, own, fares⟩ := h.serves _ _ here
        exact ⟨id, by rw [turns.entry]; exact own, fares.turn turns own⟩
  | begin here turns step => exact h.begin here turns step
  | hub silent foreign step =>
      refine h.of_step step ?_ rfl (fun id _ p begun => (foreign p begun).2 id) fun p begun =>
        (foreign p begun).1
      intro m s there
      obtain ⟨id, serves⟩ := h.serves m s there
      exact ⟨id, h.serves_step step serves fun p begun => (foreign p begun).2 id⟩

end Orderly

theorem Orderly.of_run (run : (Traffic.idle programme limit).run? events = some t) :
    t.Orderly programme limit :=
  runs.induction (motive := fun _ now => now.Orderly programme limit) .idle
    (fun _ _ _ _ _ orderly step => orderly.step (moves_of_step? step)) run

/-! ## After the last reading -/

theorem left_of_turns {f : Foyer} {command : Option Hub.Command} (turns : s.Turns f command s')
    (left : s.handler.hasLeft) : s'.read = s.read ∧ s'.handler.hasLeft := by
  cases turns with
  | depart | finish => exact ⟨rfl, rfl⟩
  | welcome stand | turnAway stand | readText stand | passOver stand | hangUp stand | post stand
  | goOn stand | giveUp stand | notice stand =>
      rw [stand] at left
      cases left

theorem left_of_moves (moves : t.Moves e t') (here : t.sockets[n]? = some s)
    (left : s.handler.hasLeft) :
    ∃ s', t'.sockets[n]? = some s' ∧ s'.entry = s.entry ∧ s'.read = s.read ∧
    s'.handler.hasLeft := by
  have inside := (List.getElem?_eq_some_iff.mp here).1
  have changed {m : Nat} {r r' : Socket} (there : t.sockets[m]? = some r)
      (entry : r'.entry = r.entry)
      (goes : r.handler.hasLeft → r'.read = r.read ∧ r'.handler.hasLeft) :
      ∃ s', (t.sockets.set m r')[n]? = some s' ∧ s'.entry = s.entry ∧ s'.read = s.read ∧
        s'.handler.hasLeft := by
    by_cases own : m = n
    · subst own
      cases here.symm.trans there
      exact ⟨r', List.getElem?_set_self inside, entry, goes left⟩
    · exact ⟨s, by rw [List.getElem?_set_ne own, here], rfl, rfl, left⟩
  cases moves with
  | openSocket => exact ⟨s, by rw [List.getElem?_append_left inside, here], rfl, rfl, left⟩
  | arrive a there => exact changed there rfl fun left => ⟨rfl, left⟩
  | turn own there turns | begin there turns =>
      exact changed there turns.entry (left_of_turns turns)
  | hub => exact ⟨s, here, rfl, rfl, left⟩

theorem left_of_run (run : t.run? events = some t') (here : t.sockets[n]? = some s)
    (left : s.handler.hasLeft) :
    ∃ s', t'.sockets[n]? = some s' ∧ s'.entry = s.entry ∧ s'.read = s.read ∧
    s'.handler.hasLeft := by
  refine runs.induction
    (motive := fun _ now => ∃ s', now.sockets[n]? = some s' ∧ s'.entry = s.entry ∧
    s'.read = s.read ∧ s'.handler.hasLeft) ⟨s, here, rfl, rfl, left⟩ ?_ run
  intro _ u e v _ ⟨r, there, entry, read, left⟩ step
  obtain ⟨r', there', entry', read', left'⟩ := left_of_moves (moves_of_step? step) there left
  exact ⟨r', there', entry'.trans entry, read'.trans read, left'⟩

end Traffic

/-! ## What becomes of every socket -/

section

variable {f : Foyer} {id : SessionId} {handler : Handler} {read : List Arrival}

theorem Fares.passes (fares : Fares f id handler read) :
    f.passed id ++ handler.pending = texts read := by
  cases fares with
  | entering nothing | turnedAway nothing => rw [nothing]; rfl
  | reading smooth => rw [smooth.passes, Handler.pending, List.append_nil]
  | posting smooth => rw [smooth.passes, texts_append]; rfl
  | passing busy => rw [busy.passes, texts_append, Handler.pending, List.append_nil]; rfl
  | going ends | leaving ends | finished ends => rw [ends.passes, Handler.pending, List.append_nil]

/-- As long as a handler is in its loop, there is nothing among what it read that would
    have made it leave. -/
theorem Fares.goesOn (fares : Fares f id handler read) (inLoop : handler.hasLeft = false) :
    (∀ a ∈ read, a.keepsReading) ∧ ∀ (n : Nat) message service,
      f.errands[n]? = some (.inbound id message service) → handler ≠ .passing id n →
        ∃ reply, service.result? id = some (.ok reply) := by
  cases fares with
  | entering nothing =>
      exact ⟨nofun, fun n message service there => (not_inbound_of_passed nothing there).elim⟩
  | reading smooth =>
      exact ⟨smooth.keeps, fun n message service there _ => smooth.answered n message service there⟩
  | posting smooth =>
      exact ⟨keepsReading_concat smooth.keeps rfl,
        fun n message service there _ => smooth.answered n message service there⟩
  | @passing past call message service busy =>
      refine ⟨keepsReading_concat busy.keeps rfl,
        fun n message service there other => (busy.answered n message service there ?_).2⟩
      rintro rfl
      exact other rfl
  | going | leaving | finished | turnedAway => cases inLoop

theorem Fares.leaves (fares : Fares f id handler read) (left : handler.hasLeft) :
    (read = [] ∧ ∃ n : Nat, f.errands[n]? = some (.connected id false)) ∨ Ends f id read := by
  cases fares with
  | entering | reading | posting | passing => cases left
  | going ends | leaving ends | finished ends => exact .inr ends
  | turnedAway nothing refused => exact .inl ⟨rfl, _, refused⟩

theorem Fares.not_registered {programme : Programme} {limit : Option Nat}
    {events : List Foyer.Event} (run : (Foyer.idle programme limit).run? events = some f)
    (fares : Fares f id .finished read) :
    id ∉ f.hub.registry := by
  cases fares with
  | finished ends gone => exact Foyer.not_registered_of_isOver gone
  | turnedAway nothing refused =>
      intro registered
      obtain ⟨s, there, own, -⟩ := (Foyer.Sound.of_run run).serving registered
      exact (Foyer.turnedAway_of_run run refused).dropped.2 s there own

end

namespace Traffic

/-- What the handler of socket `n` has done with what came, and what has become of its session
    `id`. -/
structure Faithful (t : Traffic) (events : List Event) (n : Nat) (s : Socket) (id : SessionId) :
    Prop where
  own : t.foyer.purposes[s.entry]? = some (.connect id)
  /-- What came is read in its order. -/
  inOrder : s.read ++ s.arrivals = arrived n events
  /-- Every text that was read is passed on once and in its order; one that was only
      just read is next. -/
  passes : t.foyer.passed id ++ s.handler.pending = texts s.read
  /-- A handler in its loop has read nothing that would have made it leave, and every
      text was answered. -/
  goesOn : s.handler.hasLeft = false → (∀ a ∈ s.read, a.keepsReading) ∧ ∀ (c : Nat) message service,
    t.foyer.errands[c]? = some (.inbound id message service) → s.handler ≠ .passing id c →
      ∃ reply, service.result? id = some (.ok reply)
  /-- A handler that has left its loop was turned away, or what it read ends with what made it
      leave. -/
  leaves : s.handler.hasLeft →
    (s.read = [] ∧ ∃ c : Nat, t.foyer.errands[c]? = some (.connected id false)) ∨
      Ends t.foyer id s.read
  /-- After that nothing is read or passed on. -/
  stays : s.handler.hasLeft → ∀ more t', t.run? more = some t' → ∃ s', t'.sockets[n]? = some s' ∧
    s'.handler.hasLeft ∧ s'.read = s.read ∧ t'.foyer.passed id = t.foyer.passed id
  gone : s.handler = .finished → id ∉ t.foyer.hub.registry

variable {programme : Programme} {limit : Option Nat} {t t' : Traffic} {events : List Event}
  {n : Nat} {s : Socket} {id : SessionId}

theorem passed_of_left (run : (idle programme limit).run? events = some t)
    (here : t.sockets[n]? = some s) (own : t.foyer.purposes[s.entry]? = some (.connect id))
    (left : s.handler.hasLeft) :
    t.foyer.passed id = texts s.read := by
  obtain ⟨i, same, fares⟩ := (Orderly.of_run run).serves n s here
  cases own.symm.trans same
  rw [← fares.passes, Handler.pending_of_hasLeft left, List.append_nil]

/-- The foyer of sockets takes its own steps, one or none for each event. -/
theorem foyer_of_run (run : t.run? events = some t') :
    ∃ steps, t.foyer.run? steps = some t'.foyer := by
  refine runs.induction
    (motive := fun _ now => ∃ steps, t.foyer.run? steps = some now.foyer) ⟨[], rfl⟩ ?_ run
  intro _ u e v _ ⟨steps, before⟩ step
  cases moves_of_step? step with
  | openSocket happens | begin _ _ happens | hub _ _ happens =>
      exact ⟨steps ++ [_], Foyer.runs.snoc.mpr ⟨_, before, happens⟩⟩
  | arrive | turn => exact ⟨steps, before⟩

theorem faithful_of_run (run : (idle programme limit).run? events = some t)
    (here : t.sockets[n]? = some s) :
    ∃ id, Faithful t events n s id := by
  have orderly := Orderly.of_run run
  obtain ⟨id, own, fares⟩ := orderly.serves n s here
  obtain ⟨_, reached⟩ := orderly.reached
  refine ⟨id, own, ?_, fares.passes, fares.goesOn, fares.leaves, ?_, ?_⟩
  · rw [← heard_of_socket here, heard_of_run run]
  · intro left more t' onward
    obtain ⟨s', there, entry, read, left'⟩ := left_of_run onward here left
    obtain ⟨steps, onward'⟩ := foyer_of_run onward
    have own' : t'.foyer.purposes[s'.entry]? = some (.connect id) :=
      entry ▸ Foyer.purposes_stay onward' own
    have long : (idle programme limit).run? (events ++ more) = some t' := by
      rw [runs.append, run, Option.bind_some, onward]
    refine ⟨s', there, left', read, ?_⟩
    rw [passed_of_left long there own' left', read, passed_of_left run here own left]
  · intro ended
    exact (ended ▸ fares).not_registered reached

/-- Whoever is registered came by one socket, whose handler is not finished. -/
theorem existsUnique_handler_of_registered (run : (idle programme limit).run? events = some t)
    (registered : id ∈ t.foyer.hub.registry) : ∃! n : Nat, ∃ s, t.sockets[n]? = some s ∧
      t.foyer.purposes[s.entry]? = some (.connect id) ∧ s.handler ≠ .finished := by
  have orderly := Orderly.of_run run
  obtain ⟨_, reached⟩ := orderly.reached
  obtain ⟨c, turn⟩ := Foyer.connected_of_registered reached registered
  have connects : t.foyer.purposes[c]? = some (.connect id) := by
    rw [Foyer.getElem?_purposes, turn]; rfl
  obtain ⟨s, there, rfl⟩ := List.mem_map.mp (orderly.owned c id connects)
  obtain ⟨n, here⟩ := List.mem_iff_getElem?.mp there
  refine ⟨n, ⟨s, here, connects, fun ended => ?_⟩, fun m ⟨_, other, same, _⟩ =>
    orderly.eq_of_session other here same connects⟩
  obtain ⟨i, faithful⟩ := faithful_of_run run here
  cases connects.symm.trans faithful.own
  exact faithful.gone ended registered

/-- Handlers pass on what they read, in order and to their own sessions; whoever is registered has a
    handler that is not finished, and none whose handler is finished is registered. Without binary
    frames, pings and pongs, the same hub and the same handlers come about. -/
theorem handlers_faithful (run : (idle programme limit).run? events = some t) :
    (∀ (n : Nat) s, t.sockets[n]? = some s → ∃ id, Faithful t events n s id) ∧
    (∀ id ∈ t.foyer.hub.registry, ∃! n : Nat, ∃ s, t.sockets[n]? = some s ∧
      t.foyer.purposes[s.entry]? = some (.connect id) ∧ s.handler ≠ .finished) ∧
    ∃ fewer, fewer.Sublist events ∧ (∀ e ∈ fewer, e.isSilent = false) ∧
      (∀ n, arrived n fewer = audible (arrived n events)) ∧
      (idle programme limit).run? fewer = some t.quiet := by
  refine ⟨fun n s here => faithful_of_run run here,
    fun id => existsUnique_handler_of_registered run, ?_⟩
  obtain ⟨fewer, sub, loud, quiet⟩ := exists_quiet_run run
  refine ⟨fewer, sub, loud, fun n => ?_, quiet⟩
  rw [← heard_of_run quiet, heard_quiet, heard_of_run run]

/-- Someone comes in, says a word, is silent for a while, and goes. -/
def shortVisit : List Event :=
  [.openSocket ⟨none, false, false⟩, .proceed 0, .proceed 0, .proceed 0, .proceed 0, .handle 0,
    .arrive 0 (.text ['h', 'i']), .arrive 0 .ping, .arrive 0 .close,
    .arrive 0 (.text ['l', 'a', 't', 'e']), .handle 0, .handle 0, .proceed 1, .proceed 1,
    .proceed 1, .proceed 1, .proceed 1, .handle 0, .handle 0,
    .handle 0, .handle 0, .proceed 2, .handle 0]

def afterShortVisit : Traffic := ((idle .single none).run? shortVisit).get (by decide +kernel)

theorem shortVisit_faithful :
    (idle .single none).run? shortVisit = some afterShortVisit ∧
    afterShortVisit.sockets.map (·.handler) = [.finished] ∧
    (∃ s id, afterShortVisit.sockets[0]? = some s ∧ Faithful afterShortVisit shortVisit 0 s id) ∧
    afterShortVisit.foyer.passed 1 = [['h', 'i']] ∧
    ∃ fewer, fewer.Sublist shortVisit ∧ .arrive 0 .ping ∉ fewer ∧
      (idle .single none).run? fewer = some afterShortVisit.quiet := by
  have run : (idle .single none).run? shortVisit = some afterShortVisit := (Option.some_get _).symm
  obtain ⟨faithful, -, fewer, sub, loud, -, quiet⟩ := handlers_faithful run
  obtain ⟨s, here⟩ : ∃ s, afterShortVisit.sockets[0]? = some s :=
    Option.isSome_iff_exists.mp (by decide +kernel)
  obtain ⟨id, kept⟩ := faithful 0 s here
  exact ⟨run, by decide +kernel, ⟨s, id, here, kept⟩, by decide +kernel, fewer, sub,
    fun there => Bool.noConfusion (loud _ there), quiet⟩

end Traffic

end BoxOffice.Web
