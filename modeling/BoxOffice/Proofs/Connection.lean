import BoxOffice.Proofs.Client

/-! # Calls, connections and slots of a client

Whatever calls and listeners do, one call at most has the lock of the writer slot, and the newest
connection is its work if it has made any. A listener is started by the call that has made its
connection, and gets into the slot when that call returns (`Sound`).
-/

namespace BoxOffice.Client

/-! ## What becomes of a connection -/

/-- All an event can do to a connection once it is made, but to start its listener. -/
inductive Connection.Changes (x : Connection) : Connection → Prop where
  | same : Changes x x
  | ask : Changes x { x with abortAsked := true }
  | send (frame : Text) : Changes x { x with sent := x.sent ++ [frame] }
  | close : Changes x { x with isLive := false }
  | arrive (a : Arrival) : Changes x { x with
      arrivals := x.arrivals ++ [a], isLive := x.isLive && a ≠ .close && a ≠ .failure }
  | read {a : Arrival} {rest : List Arrival} (next : x.arrivals = a :: rest) :
      Changes x { x with arrivals := rest }
  | finish {a : Arrival} {rest : List Arrival} (reading : x.listener = .reading)
      (next : x.arrivals = a :: rest) (last : a = .close ∨ a = .failure) :
      Changes x { x with arrivals := rest, listener := .leaving }
  | leave (leaving : x.listener = .leaving) : Changes x { x with listener := .stopped }
  | abort (asked : x.abortAsked) (reading : x.listener = .reading) :
      Changes x { x with listener := .aborted }

/-- What ends a listener has ended the connection, too, or it was told to break off. -/
structure Connection.Sound (x : Connection) : Prop where
  ended : x.listener = .leaving ∨ x.listener = .stopped → x.isLive = false
  ending : ∀ a ∈ x.arrivals, a = .close ∨ a = .failure → x.isLive = false
  aborted : x.listener = .aborted → x.abortAsked

namespace Connection

variable {x x' : Connection}

theorem Sound.fresh : Sound .fresh := ⟨nofun, nofun, nofun⟩

theorem Changes.sound (changes : x.Changes x') (h : x.Sound) : x'.Sound := by
  cases changes with
  | same | send => exact ⟨h.ended, h.ending, h.aborted⟩
  | ask => exact ⟨h.ended, h.ending, fun _ => rfl⟩
  | close => exact ⟨fun _ => rfl, fun _ _ _ => rfl, h.aborted⟩
  | arrive a =>
      refine ⟨fun told => by simp [h.ended told], fun b there ends => ?_, h.aborted⟩
      rcases List.mem_append.mp there with old | new
      · simp [h.ending b old ends]
      · rw [List.mem_singleton.mp new] at ends
        rcases ends with rfl | rfl <;> simp
  | read next =>
      exact ⟨h.ended, fun b there => h.ending b (next ▸ List.mem_cons_of_mem _ there), h.aborted⟩
  | finish reading next last =>
      exact ⟨fun _ => h.ending _ (next ▸ List.mem_cons_self) last,
        fun b there => h.ending b (next ▸ List.mem_cons_of_mem _ there), nofun⟩
  | leave leaving => exact ⟨fun _ => h.ended (.inl leaving), h.ending, nofun⟩
  | abort asked => exact ⟨nofun, h.ending, fun _ => asked⟩

theorem Changes.isLive (changes : x.Changes x') (live : x'.isLive) : x.isLive := by
  cases changes with
  | same | ask | send | read | finish | leave | abort => exact live
  | close => cases live
  | arrive a => exact ((Bool.and_eq_true _ _).mp ((Bool.and_eq_true _ _).mp live).1).1

theorem Changes.unstarted_iff (changes : x.Changes x') :
    x'.listener = .unstarted ↔ x.listener = .unstarted := by
  cases changes with
  | same | ask | send | close | arrive | read => exact Iff.rfl
  | finish stand | leave stand | abort _ stand => simp [stand]

/-- The listener has lowered the flag, or it was broken off and never will. -/
def HasEnded (x : Connection) : Prop := x.listener = .stopped ∨ x.listener = .aborted

theorem Changes.hasEnded (changes : x.Changes x') (ended : x.HasEnded) : x'.HasEnded := by
  cases changes with
  | same | ask | send | close | arrive | read => exact ended
  | leave => exact .inl rfl
  | abort => exact .inr rfl
  | finish reading => rcases ended with told | told <;> cases reading.symm.trans told

structure Ages (x x' : Connection) : Prop where
  isLive : x'.isLive → x.isLive
  hasEnded : x.HasEnded → x'.HasEnded

theorem Ages.refl (x : Connection) : x.Ages x := ⟨fun live => live, fun ended => ended⟩

theorem Ages.trans {x'' : Connection} (first : x.Ages x') (second : x'.Ages x'') : x.Ages x'' :=
  ⟨fun live => first.isLive (second.isLive live),
    fun ended => second.hasEnded (first.hasEnded ended)⟩

theorem Ages.of_changes (changes : x.Changes x') : x.Ages x' := ⟨changes.isLive, changes.hasEnded⟩

end Connection

theorem of_getElem?_update {c : Client} {m n : ConnectionId} {change : Connection → Connection}
    {x' : Connection} (there : (c.update m change).connections[n]? = some x') :
    ∃ x, c.connections[n]? = some x ∧ x' = if m = n then change x else x := by
  rw [update, List.getElem?_modify, Option.map_eq_map, Option.map_eq_some_iff] at there
  obtain ⟨x, before, same⟩ := there
  exact ⟨x, before, same.symm⟩

theorem changes_of_update {c : Client} {m n : ConnectionId} {change : Connection → Connection}
    {x' : Connection} (changes : ∀ x, c.connections[m]? = some x → x.Changes (change x))
    (there : (c.update m change).connections[n]? = some x') :
    ∃ x, c.connections[n]? = some x ∧ x.Changes x' := by
  obtain ⟨x, before, rfl⟩ := of_getElem?_update there
  refine ⟨x, before, ?_⟩
  split
  · rename_i own
    exact changes x (own ▸ before)
  · exact .same

/-- The listener that was in the slot is told to break off. -/
theorem adopt_changes (c : Client) (n : ConnectionId) :
    (c.adopt n).connections.length = c.connections.length ∧ (c.adopt n).writer = c.writer ∧
      ∀ (m : Nat) x', (c.adopt n).connections[m]? = some x' → ∃ x, c.connections[m]? = some x ∧
      x.Changes x' := by
  unfold adopt
  cases c.listener with
  | none => exact ⟨rfl, rfl, fun m x there => ⟨x, there, .same⟩⟩
  | some previous =>
      exact ⟨List.length_modify .., rfl, fun m x' => changes_of_update fun _ _ => .ask⟩

/-! ## Calls, connections and slots -/

/-- The connection for which a connect has raised the flag. -/
def Call.raised? : Call → Option ConnectionId
  | .connect _ _ (.starting n) | .connect _ _ (.adopting n) | .connect _ _ (.connected n) => some n
  | _ => none

structure Call.Ages (a a' : Call) : Prop where
  kind : a'.isDisconnect = a.isDisconnect
  raised : ∀ n, a.raised? = some n → a'.raised? = some n
  connected : ∀ address dial n, a = .connect address dial (.connected n) → a' = a
  returned : a = .disconnect .returned → a' = a

namespace Call

theorem made?_of_raised? {a : Call} {n : ConnectionId} (raised : a.raised? = some n) :
    a.made? = some n := by
  unfold raised? at raised
  split at raised
  · exact raised
  · exact raised
  · exact raised
  · cases raised

theorem Ages.refl (a : Call) : a.Ages a :=
  ⟨rfl, fun _ raised => raised, fun _ _ _ _ => rfl, fun _ => rfl⟩

theorem Ages.trans {a b c : Call} (first : a.Ages b) (second : b.Ages c) : a.Ages c where
  kind := second.kind.trans first.kind
  raised := fun n raised => second.raised n (first.raised n raised)
  connected := by
    rintro address dial n rfl
    cases first.connected address dial n rfl
    exact second.connected address dial n rfl
  returned := by
    rintro rfl
    cases first.returned rfl
    exact second.returned rfl

theorem Ages.of_turns {c c' : Client} {free : Bool} {call next : Call}
    (turns : call.Turns c free next c') :
    call.Ages next := by
  cases turns with
  | rest made still kind locks calm idle silent goes =>
      refine ⟨kind, fun n raised => ?_, ?_, fun returned => absurd returned goes⟩
      · rw [made?_of_raised? raised] at made
        cases made
      · rintro address dial n rfl
        cases made
  | attach | raise | start | adopt | transmit | fail | lower | takeWriter | mark | close
  | takeListener =>
      refine ⟨rfl, fun n raised => ?_, nofun, nofun⟩
      cases raised <;> rfl

end Call

/-- Whether the listener of the connection that a connect has made is started. -/
def Call.hasStarted : Call → Bool
  | .connect _ _ (.adopting _) | .connect _ _ (.connected _) => true
  | _ => false

namespace Traffic

/-- Call `i` has connected, and its connection is `n`. -/
def HasConnected (t : Traffic) (i : Nat) (n : ConnectionId) : Prop :=
  ∃ address dial, t.calls[i]? = some (.connect address dial (.connected n))

/-- One call has the lock at most. Every connection is made by one call, and the newest one by the
    call that has the lock, if that has made any. -/
structure Held (t : Traffic) : Prop where
  alone : ∀ (i j : Nat) a b, t.calls[i]? = some a → t.calls[j]? = some b → a.holdsLock →
    b.holdsLock → i = j
  made : ∀ (i : Nat) a n, t.calls[i]? = some a → a.made? = some n → n < t.client.connections.length
  once : ∀ (i j : Nat) a b n, t.calls[i]? = some a → t.calls[j]? = some b → a.made? = some n →
    b.made? = some n →
    i = j
  newest : ∀ (i : Nat) a n, t.calls[i]? = some a → a.holdsLock → a.made? = some n →
    t.client.connections.length = n + 1
  writer : ∀ n, t.client.writer = some n → t.client.connections.length = n + 1
  /-- A send fails on the newest connection only, when that is not live any more. -/
  failing : ∀ (i : Nat) frame, t.calls[i]? = some (.send frame .lowering) →
    ∀ n x, t.client.connections.length = n + 1 → t.client.connections[n]? = some x →
      x.isLive = false

/-- Listeners are started by the calls that have made their connections, and known to others
    only after that. -/
structure Linked (t : Traffic) : Prop where
  sound : ∀ (n : Nat) x, t.client.connections[n]? = some x → x.Sound
  started : ∀ (i : Nat) a n x, t.calls[i]? = some a → a.made? = some n →
    t.client.connections[n]? = some x →
    (x.listener = .unstarted ↔ a.hasStarted = false)
  slot : ∀ n, t.client.listener = some n → ∃ i, t.HasConnected i n
  awaited : ∀ (i : Nat) n, t.calls[i]? = some (.disconnect (.awaiting n)) → ∃ j, t.HasConnected j n

variable {t t' : Traffic} {e : Event} {k : Nat} {call next : Call} {client : Client}

theorem not_holdsLock_of_free (free : t.lockIsFree) {i : Nat} {a : Call}
    (turn : t.calls[i]? = some a) :
    a.holdsLock = false := by
  have unheld := List.all_eq_true.mp free a (List.mem_of_getElem? turn)
  cases held : a.holdsLock with
  | true => rw [held] at unheld; cases unheld
  | false => rfl

theorem begin_idle (c : Client) (command : Command) :
    (Call.begin c command).made? = none ∧ (Call.begin c command).holdsLock = false ∧
      (∀ frame, Call.begin c command ≠ .send frame .lowering) ∧
      ∀ n, Call.begin c command ≠ .disconnect (.awaiting n) := by
  cases command with
  | connect address dial =>
      cases dials : canDial address <;> simp [Call.begin, Call.made?, dials, Connecting.made?,
      Call.holdsLock, Connecting.holdsLock]
  | send frame =>
      cases known : c.isConnected <;> simp [Call.begin, Call.made?, known, Call.holdsLock,
      Sending.holdsLock]
  | disconnect => simp [Call.begin, Call.made?, Call.holdsLock]

namespace Held

variable (h : t.Held)

include h

theorem withClient (length : client.connections.length = t.client.connections.length)
    (writer : ∀ n, client.writer = some n → t.client.writer = some n)
    (live : ∀ (n : Nat) x', client.connections[n]? = some x' →
      ∃ x, t.client.connections[n]? = some x ∧ (x'.isLive → x.isLive)) :
    Held { t with client } where
  alone := h.alone
  made := fun i a n turn made => length ▸ h.made i a n turn made
  once := h.once
  newest := fun i a n turn locks made => length.trans (h.newest i a n turn locks made)
  writer := fun n slot => length.trans (h.writer n (writer n slot))
  failing := by
    intro i frame turn n x' newest there
    obtain ⟨x, before, goes⟩ := live n x' there
    have dead := h.failing i frame turn n x (length.symm.trans newest) before
    by_contra lives
    rw [goes (Bool.of_not_eq_false lives)] at dead
    cases dead

theorem set (next : Call) (turn : t.calls[k]? = some call) (made : next.made? = call.made?)
    (locks : next.holdsLock → call.holdsLock ∨ t.lockIsFree ∧ next.made? = none)
    (calm : ∀ frame, next = .send frame .lowering → ∀ n x, t.client.connections.length = n + 1 →
      t.client.connections[n]? = some x → x.isLive = false) :
    Held { t with calls := t.calls.set k next } := by
  have of_set {i : Nat} {b : Call} (there : (t.calls.set k next)[i]? = some b) :
      ∃ a, t.calls[i]? = some a ∧ b.made? = a.made? ∧
        (b.holdsLock → a.holdsLock ∨ t.lockIsFree ∧ i = k ∧ b.made? = none) := by
    rcases of_getElem?_set there with ⟨old, -⟩ | ⟨rfl, rfl⟩
    · exact ⟨b, old, rfl, .inl⟩
    · exact ⟨call, turn, made, fun holds => (locks holds).imp_right fun ⟨free, nothing⟩ =>
        ⟨free, rfl, nothing⟩⟩
  refine ⟨?_, ?_, ?_, ?_, h.writer, ?_⟩
  · intro i j b b' first second holds holds'
    obtain ⟨a, old, -, was⟩ := of_set first
    obtain ⟨a', old', -, was'⟩ := of_set second
    rcases was holds with held | ⟨free, here, -⟩ <;> rcases was' holds'
      with held' | ⟨free', here', -⟩
    · exact h.alone i j a a' old old' held held'
    · rw [not_holdsLock_of_free free' old] at held
      cases held
    · rw [not_holdsLock_of_free free old'] at held'
      cases held'
    · exact here.trans here'.symm
  · intro i b n there makes
    obtain ⟨a, old, same, -⟩ := of_set there
    exact h.made i a n old (same.symm.trans makes)
  · intro i j b b' n first second makes makes'
    obtain ⟨a, old, same, -⟩ := of_set first
    obtain ⟨a', old', same', -⟩ := of_set second
    exact h.once i j a a' n old old' (same.symm.trans makes) (same'.symm.trans makes')
  · intro i b n there holds makes
    obtain ⟨a, old, same, was⟩ := of_set there
    rcases was holds with held | ⟨-, -, nothing⟩
    · exact h.newest i a n old held (same.symm.trans makes)
    · rw [nothing] at makes
      cases makes
  · intro i frame there n x newest found
    rcases of_getElem?_set there with ⟨old, -⟩ | ⟨-, same⟩
    · exact h.failing i frame old n x newest found
    · exact calm frame same.symm n x newest found

theorem begin (command : Command) :
    Held { t with calls := t.calls ++ [.begin t.client command] } := by
  obtain ⟨makes, holds, calm, -⟩ := begin_idle t.client command
  have of_append {i : Nat} {b : Call} (there : (t.calls ++ [.begin t.client command])[i]? = some b)
      (busy : b.made? ≠ none ∨ b.holdsLock) : t.calls[i]? = some b := by
    rcases of_getElem?_append there with old | ⟨-, rfl⟩
    · exact old
    · rcases busy with made | held
      · exact absurd makes made
      · rw [holds] at held
        cases held
  have some_ne {o : Option ConnectionId} {n : ConnectionId} (known : o = some n) : o ≠ none :=
    known ▸ Option.some_ne_none n
  refine ⟨?_, ?_, ?_, ?_, h.writer, ?_⟩
  · intro i j a b first second held held'
    exact h.alone i j a b (of_append first (.inr held)) (of_append second (.inr held')) held held'
  · intro i a n there made
    exact h.made i a n (of_append there (.inl (some_ne made))) made
  · intro i j a b n first second made made'
    exact h.once i j a b n (of_append first (.inl (some_ne made)))
      (of_append second (.inl (some_ne made'))) made made'
  · intro i a n there held made
    exact h.newest i a n (of_append there (.inr held)) held made
  · intro i frame there
    exact h.failing i frame (of_append there (.inr rfl))

/-- The newest connection is made by the call that has the lock. -/
theorem attach {address : Config.Client}
    (turn : t.calls[k]? = some (.connect address .accepted .dialling)) :
    Held ⟨t.client.attach.2,
      t.calls.set k (.connect address .accepted (.raising t.client.connections.length))⟩ := by
  have length : t.client.attach.2.connections.length = t.client.connections.length + 1 :=
    List.length_append
  -- whatever has the lock is call `k`
  have only {i : Nat} {a : Call} (there : t.calls[i]? = some a) (held : a.holdsLock) : i = k :=
    h.alone i k a _ there turn held rfl
  have made {i : Nat} {b : Call} {n : ConnectionId} (makes : b.made? = some n)
      (there : (t.calls.set k
        (.connect address .accepted (.raising t.client.connections.length)))[i]? = some b) :
      (t.calls[i]? = some b ∧ k ≠ i ∧ n < t.client.connections.length) ∨
      (k = i ∧ n = t.client.connections.length) := by
    rcases of_getElem?_set there with ⟨old, other⟩ | ⟨own, rfl⟩
    · exact .inl ⟨old, other, h.made i b n old makes⟩
    · exact .inr ⟨own, (Option.some.inj makes).symm⟩
  refine ⟨?_, ?_, ?_, ?_, ?_, ?_⟩
  · intro i j a b first second held held'
    rcases of_getElem?_set first with ⟨old, -⟩ | ⟨own, -⟩ <;> rcases of_getElem?_set second
      with ⟨old', -⟩ | ⟨own', -⟩
    · exact h.alone i j a b old old' held held'
    · exact (only old held).trans own'
    · exact own.symm.trans (only old' held').symm
    · exact own.symm.trans own'
  · intro i a n there makes
    rw [length]
    rcases made makes there with ⟨-, -, before⟩ | ⟨-, rfl⟩
    · exact Nat.lt_succ_of_lt before
    · exact Nat.lt_succ_self _
  · intro i j a b n first second makes makes'
    rcases made makes first with ⟨old, -, before⟩ | ⟨own, last⟩ <;>
      rcases made makes' second with ⟨old', -, before'⟩ | ⟨own', last'⟩
    · exact h.once i j a b n old old' makes makes'
    · exact absurd last' (Nat.ne_of_lt before)
    · exact absurd last (Nat.ne_of_lt before')
    · exact own.symm.trans own'
  · intro i a n there held makes
    rcases made makes there with ⟨old, other, -⟩ | ⟨-, rfl⟩
    · exact absurd (only old held).symm other
    · exact length
  · intro n slot
    cases slot
    exact length
  · intro i frame there
    rcases of_getElem?_set there with ⟨old, other⟩ | ⟨-, same⟩
    · exact absurd (only old rfl).symm other
    · cases same

end Held

theorem HasConnected.set {i : Nat} {n : ConnectionId} (connected : t.HasConnected i n)
    (turn : t.calls[k]? = some call)
    (unfinished : ∀ address dial n, call ≠ .connect address dial (.connected n)) :
    HasConnected ⟨client, t.calls.set k next⟩ i n := by
  obtain ⟨address, dial, there⟩ := connected
  have other : k ≠ i := by
    rintro rfl
    rw [turn, Option.some.injEq] at there
    exact unfinished address dial n there
  exact ⟨address, dial, by rw [List.getElem?_set_ne other, there]⟩

namespace Linked

variable (h : t.Linked)

include h

theorem withClient (listener : ∀ n, client.listener = some n → t.client.listener = some n)
    (changes : ∀ (n : Nat) x', client.connections[n]? = some x' →
      ∃ x, t.client.connections[n]? = some x ∧ x.Changes x') : Linked { t with client } where
  sound := by
    intro n x' there
    obtain ⟨x, before, changed⟩ := changes n x' there
    exact changed.sound (h.sound n x before)
  started := by
    intro i a n x' turn made there
    obtain ⟨x, before, changed⟩ := changes n x' there
    rw [changed.unstarted_iff]
    exact h.started i a n x turn made before
  slot := fun n slot => h.slot n (listener n slot)
  awaited := h.awaited

theorem set (next : Call) (turn : t.calls[k]? = some call) (made : next.made? = call.made?)
    (begun : next.hasStarted = call.hasStarted)
    (unfinished : ∀ address dial n, call ≠ .connect address dial (.connected n))
    (waits : ∀ n, next = .disconnect (.awaiting n) → ∃ j, t.HasConnected j n) :
    Linked { t with calls := t.calls.set k next } where
  sound := h.sound
  started := by
    intro i b n x there makes found
    rcases of_getElem?_set there with ⟨old, -⟩ | ⟨-, rfl⟩
    · exact h.started i b n x old makes found
    · rw [begun]
      exact h.started k call n x turn (made.symm.trans makes) found
  slot := by
    intro n slot
    obtain ⟨i, connected⟩ := h.slot n slot
    exact ⟨i, connected.set turn unfinished⟩
  awaited := by
    intro i n there
    have waited : ∃ j, t.HasConnected j n := by
      rcases of_getElem?_set there with ⟨old, -⟩ | ⟨-, same⟩
      · exact h.awaited i n old
      · exact waits n same.symm
    obtain ⟨j, connected⟩ := waited
    exact ⟨j, connected.set turn unfinished⟩

theorem begin (command : Command) :
    Linked { t with calls := t.calls ++ [.begin t.client command] } := by
  obtain ⟨makes, -, -, waits⟩ := begin_idle t.client command
  have onward {n : ConnectionId} (known : ∃ j, t.HasConnected j n) :
      ∃ j, HasConnected { t with calls := t.calls ++ [.begin t.client command] } j n := by
    obtain ⟨j, address, dial, there⟩ := known
    exact ⟨j, address,
      dial, by rw [List.getElem?_append_left (List.getElem?_eq_some_iff.mp there).1, there]⟩
  refine ⟨h.sound, ?_, fun n slot => onward (h.slot n slot), ?_⟩
  · intro i a n x there made
    rcases of_getElem?_append there with old | ⟨-, rfl⟩
    · exact h.started i a n x old made
    · rw [makes] at made
      cases made
  · intro i n there
    rcases of_getElem?_append there with old | ⟨-, same⟩
    · exact onward (h.awaited i n old)
    · exact absurd same.symm (waits n)

theorem attach (held : t.Held) {address : Config.Client}
    (turn : t.calls[k]? = some (.connect address .accepted .dialling)) :
    Linked ⟨t.client.attach.2,
      t.calls.set k (.connect address .accepted (.raising t.client.connections.length))⟩ := by
  have unfinished :
      ∀ a d n, Call.connect address .accepted .dialling ≠ .connect a d (.connected n) := nofun
  refine ⟨?_, ?_, ?_, ?_⟩
  · intro n x there
    rcases of_getElem?_append there with old | ⟨-, rfl⟩
    · exact h.sound n x old
    · exact .fresh
  · intro i b n x there makes found
    rcases of_getElem?_set there with ⟨old, -⟩ | ⟨-, rfl⟩ <;> rcases of_getElem?_append found
      with old' | ⟨last, rfl⟩
    · exact h.started i b n x old makes old'
    · exact absurd last (Nat.ne_of_lt (held.made i b n old makes))
    · cases makes
      exact absurd (List.getElem?_eq_some_iff.mp old').1 (Nat.lt_irrefl _)
    · exact ⟨fun _ => rfl, fun _ => rfl⟩
  · intro n slot
    obtain ⟨i, connected⟩ := h.slot n slot
    exact ⟨i, connected.set turn unfinished⟩
  · intro i n there
    rcases of_getElem?_set there with ⟨old, -⟩ | ⟨-, same⟩
    · obtain ⟨j, connected⟩ := h.awaited i n old
      exact ⟨j, connected.set turn unfinished⟩
    · cases same

theorem start (held : t.Held) {address : Config.Client} {dial : Dial} {n : ConnectionId}
    (turn : t.calls[k]? = some (.connect address dial (.starting n))) :
    Linked ⟨t.client.startListener n, t.calls.set k (.connect address dial (.adopting n))⟩ := by
  have unfinished :
      ∀ a d m, Call.connect address dial (.starting n) ≠ .connect a d (.connected m) := nofun
  refine ⟨?_, ?_, ?_, ?_⟩
  · intro m x' there
    obtain ⟨x, before, rfl⟩ := of_getElem?_update there
    have sound := h.sound m x before
    split
    · exact ⟨nofun, sound.ending, nofun⟩
    · exact sound
  · intro i b m x' there makes found
    obtain ⟨x, before, rfl⟩ := of_getElem?_update found
    rcases of_getElem?_set there with ⟨old, other⟩ | ⟨-, rfl⟩
    · have apart : n ≠ m := by
        rintro rfl
        exact other (held.once k i _ b n turn old rfl makes)
      rw [if_neg apart]
      exact h.started i b m x old makes before
    · cases makes
      rw [if_pos rfl]
      exact ⟨nofun, nofun⟩
  · intro m slot
    obtain ⟨i, connected⟩ := h.slot m slot
    exact ⟨i, connected.set turn unfinished⟩
  · intro i m there
    rcases of_getElem?_set there with ⟨old, -⟩ | ⟨-, same⟩
    · obtain ⟨j, connected⟩ := h.awaited i m old
      exact ⟨j, connected.set turn unfinished⟩
    · cases same

end Linked

/-- What holds whatever calls and listeners do. -/
structure Sound (t : Traffic) : Prop where
  held : t.Held
  linked : t.Linked

namespace Sound

variable (h : t.Sound)

include h

theorem withClient (length : client.connections.length = t.client.connections.length)
    (writer : ∀ n, client.writer = some n → t.client.writer = some n)
    (listener : ∀ n, client.listener = some n → t.client.listener = some n)
    (changes : ∀ (n : Nat) x', client.connections[n]? = some x' →
      ∃ x, t.client.connections[n]? = some x ∧ x.Changes x') : Sound { t with client } where
  held := h.held.withClient length writer fun n x' there =>
    (changes n x' there).imp fun _ ⟨before, changed⟩ =>
    ⟨before, changed.isLive⟩
  linked := h.linked.withClient listener changes

/-- One connection changes, and nothing else that matters. -/
theorem update {n : ConnectionId} {change : Connection → Connection}
    (changes : ∀ x, t.client.connections[n]? = some x → x.Changes (change x)) :
    Sound { t with client := t.client.update n change } :=
  h.withClient (List.length_modify ..) (fun _ slot => slot) (fun _ slot => slot)
    (fun _ _ => changes_of_update changes)

theorem update_at {n : ConnectionId} {x : Connection} {change : Connection → Connection}
    (there : t.client.connections[n]? = some x) (changes : x.Changes (change x)) :
    Sound { t with client := t.client.update n change } := by
  refine h.update fun y found => ?_
  cases there.symm.trans found
  exact changes

theorem set (next : Call) (turn : t.calls[k]? = some call) (made : next.made? = call.made?)
    (begun : next.hasStarted = call.hasStarted)
    (unfinished : ∀ address dial n, call ≠ .connect address dial (.connected n))
    (locks : next.holdsLock → call.holdsLock ∨ t.lockIsFree ∧ next.made? = none)
    (calm : ∀ frame, next = .send frame .lowering → ∀ n x, t.client.connections.length = n + 1 →
      t.client.connections[n]? = some x → x.isLive = false)
    (waits : ∀ n, next = .disconnect (.awaiting n) → ∃ j, t.HasConnected j n) :
    Sound { t with calls := t.calls.set k next } :=
  ⟨h.held.set next turn made locks calm, h.linked.set next turn made begun unfinished waits⟩

theorem setFlag (isConnected : Bool) : Sound { t with client := t.client.setFlag isConnected } :=
  h.withClient rfl (fun _ slot => slot) (fun _ slot => slot) fun _ x there => ⟨x, there, .same⟩

theorem start {address : Config.Client} {dial : Dial} {n : ConnectionId}
    (turn : t.calls[k]? = some (.connect address dial (.starting n))) :
    Sound ⟨t.client.startListener n, t.calls.set k (.connect address dial (.adopting n))⟩ := by
  have held := h.held.set (.connect address dial (.adopting n)) turn rfl (fun _ => .inl rfl) nofun
  refine ⟨held.withClient (List.length_modify ..) (fun _ slot => slot) ?_,
    h.linked.start h.held turn⟩
  intro m x' there
  obtain ⟨x, before, rfl⟩ := of_getElem?_update there
  refine ⟨x, before, fun live => ?_⟩
  split at live <;> exact live

theorem adopt {address : Config.Client} {dial : Dial} {n : ConnectionId}
    (turn : t.calls[k]? = some (.connect address dial (.adopting n))) :
    Sound ⟨t.client.adopt n, t.calls.set k (.connect address dial (.connected n))⟩ := by
  obtain ⟨length, writer, changes⟩ := t.client.adopt_changes n
  have asked : Sound ⟨{ t.client.adopt n with listener := none }, t.calls⟩ :=
    h.withClient length (fun _ slot => writer ▸ slot) nofun changes
  obtain ⟨held, linked⟩ :=
    asked.set (.connect address dial (.connected n)) turn rfl rfl nofun nofun nofun nofun
  refine ⟨⟨held.alone, held.made, held.once, held.newest, held.writer, held.failing⟩,
    ⟨linked.sound, linked.started, fun m slot => ?_, linked.awaited⟩⟩
  cases slot
  exact ⟨k, address, dial, List.getElem?_set_self (List.getElem?_eq_some_iff.mp turn).1⟩

theorem takeListener (turn : t.calls[k]? = some (.disconnect .taking)) :
    Sound ⟨{ t.client with listener := none },
      t.calls.set k (.disconnect (t.client.listener.elim .returned .awaiting))⟩ := by
  have waiting : ∀ n, .disconnect (t.client.listener.elim .returned .awaiting) =
      Call.disconnect (.awaiting n) → ∃ j, t.HasConnected j n := by
    intro n waits
    cases slot : t.client.listener with
    | none => rw [slot] at waits; cases waits
    | some m =>
        rw [slot] at waits
        cases waits
        exact h.linked.slot n slot
  have taken := h.set (.disconnect (t.client.listener.elim .returned .awaiting)) turn rfl rfl nofun
    nofun nofun waiting
  exact taken.withClient rfl (fun _ slot => slot) nofun fun _ x there => ⟨x, there, .same⟩

theorem turn (turn : t.calls[k]? = some call)
    (turns : call.Turns t.client t.lockIsFree next client) :
    Sound ⟨client, t.calls.set k next⟩ := by
  cases turns with
  | rest made still kind locks calm idle silent goes =>
      have begun {a : Call} (nothing : a.made? = none) : a.hasStarted = false := by
        unfold Call.hasStarted
        split
        · cases nothing
        · cases nothing
        · rfl
      refine h.set next turn (still.trans made.symm) ((begun still).trans (begun made).symm) ?_
        (fun holds => (locks holds).imp_right fun free => ⟨free, still⟩)
        (fun frame same => absurd same (calm frame))
        fun n same => absurd same (idle n)
      rintro address dial n rfl
      cases made
  | attach => exact ⟨h.held.attach turn, h.linked.attach h.held turn⟩
  | @raise address dial n =>
      have raised :=
        h.set (.connect address dial (.starting n)) turn rfl rfl nofun
          (fun _ => .inl rfl) nofun nofun
      exact raised.setFlag true
  | start => exact h.start turn
  | adopt => exact h.adopt turn
  | @transmit frame n =>
      have sent := h.set (.send frame (.sent n)) turn rfl rfl nofun nofun nofun nofun
      exact sent.update fun _ _ => .send frame
  | @fail frame n slot dead =>
      refine h.set (.send frame .lowering) turn rfl rfl nofun (fun _ => .inl rfl)
        (fun _ _ m x newest there => ?_) nofun
      have same : m = n := Nat.succ.inj (newest.symm.trans (h.held.writer n slot))
      subst same
      rw [there] at dead
      exact dead
  | @lower frame =>
      have failed := h.set (.send frame (.failed sendFailed)) turn rfl rfl nofun nofun nofun nofun
      exact failed.setFlag false
  | takeWriter =>
      have emptied :=
        h.set (.disconnect (.lowering t.client.writer)) turn rfl rfl nofun nofun nofun nofun
      exact emptied.withClient rfl nofun (fun _ slot => slot) fun _ x there => ⟨x, there, .same⟩
  | @mark writer =>
      have marked :=
        h.set (.disconnect (writer.elim .taking .closing)) turn rfl rfl nofun nofun nofun (by
        intro n waits
        cases writer <;> cases waits)
      exact marked.setFlag false
  | close =>
      have closed := h.set (.disconnect .taking) turn rfl rfl nofun nofun nofun nofun
      exact closed.update fun _ _ => .close
  | takeListener => exact h.takeListener turn

theorem step (moves : t.Moves e t') : t'.Sound := by
  cases moves with
  | begin command => exact ⟨h.held.begin command, h.linked.begin command⟩
  | turn there turns => exact h.turn there turns
  | giveUp there =>
      have returned := h.set (.disconnect .returned) there rfl rfl nofun nofun nofun nofun
      exact returned.update fun _ _ => .ask
  | arrive n a => exact h.update fun _ _ => .arrive a
  | @read n x a rest received there reading next =>
      have taken :
          Sound { t with client := t.client.update n fun x => { x with arrivals := rest } } :=
        h.update_at there (.read next)
      exact taken.withClient rfl (fun _ slot => slot) (fun _ slot => slot) fun _ x there =>
        ⟨x, there, .same⟩
  | finish there reading next last => exact h.update_at there (.finish reading next last)
  | leave there leaving => exact (h.setFlag false).update_at there (.leave leaving)
  | abort there asked reading => exact h.update_at there (.abort asked reading)

end Sound

theorem Sound.idle : Traffic.idle.Sound := by
  have none {i : Nat} {a : Call} : Traffic.idle.calls[i]? ≠ some a := nofun
  exact ⟨⟨fun _ _ _ _ turn => absurd turn none, fun _ _ _ turn => absurd turn none,
      fun _ _ _ _ _ turn => absurd turn none, fun _ _ _ turn => absurd turn none, nofun,
      fun _ _ turn => absurd turn none⟩,
    ⟨nofun, fun _ _ _ _ turn => absurd turn none, nofun, fun _ _ turn => absurd turn none⟩⟩

theorem Sound.of_run {events : List Event} (run : Traffic.idle.run? events = some t) : t.Sound :=
  runs.induction (motive := fun _ now => now.Sound) .idle
    (fun _ _ _ _ _ h step => h.step (moves_of_step? step)) run

/-! ## What later steps leave -/

theorem ages_of_update {c : Client} {m n : ConnectionId} {change : Connection → Connection}
    {x : Connection} (there : c.connections[n]? = some x) (ages : m = n → x.Ages (change x)) :
    ∃ x', (c.update m change).connections[n]? = some x' ∧ x.Ages x' := by
  refine ⟨if m = n then change x else x, ?_, ?_⟩
  · rw [update, List.getElem?_modify, there]
    rfl
  · split
    · rename_i own
      exact ages own
    · exact .refl x

theorem ages_of_update_at {c : Client} {m n : ConnectionId} {change : Connection → Connection}
    {x y : Connection} (there : c.connections[n]? = some x) (found : c.connections[m]? = some y)
    (changes : y.Changes (change y)) :
    ∃ x', (c.update m change).connections[n]? = some x' ∧ x.Ages x' := by
  refine ages_of_update there fun own => ?_
  subst own
  cases there.symm.trans found
  exact .of_changes changes

theorem connection_stays (h : t.Sound) (moves : t.Moves e t') {n : ConnectionId} {x : Connection}
    (there : t.client.connections[n]? = some x) :
    ∃ x', t'.client.connections[n]? = some x' ∧ x.Ages x' := by
  have kept : ∃ x', t.client.connections[n]? = some x' ∧ x.Ages x' := ⟨x, there, .refl x⟩
  cases moves with
  | begin => exact kept
  | turn turn turns =>
      cases turns with
      | rest | raise | fail | lower | takeWriter | mark | takeListener => exact kept
      | attach =>
          have inside := (List.getElem?_eq_some_iff.mp there).1
          exact ⟨x, by rw [attach, List.getElem?_append_left inside, there], .refl x⟩
      | @start address dial m =>
          refine ages_of_update there fun own => ⟨fun live => live, fun ended => ?_⟩
          subst own
          have fresh := (h.linked.started _ _ m x turn rfl there).mpr rfl
          rcases ended with told | told <;> cases fresh.symm.trans told
      | @adopt address dial m =>
          unfold adopt
          cases t.client.listener with
          | none => exact kept
          | some previous => exact ages_of_update there fun _ => .of_changes .ask
      | transmit => exact ages_of_update there fun _ => .of_changes (.send _)
      | close => exact ages_of_update there fun _ => .of_changes .close
  | giveUp => exact ages_of_update there fun _ => .of_changes .ask
  | arrive n a => exact ages_of_update there fun _ => .of_changes (.arrive a)
  | read received found reading next => exact ages_of_update_at there found (.read next)
  | finish found reading next last =>
      exact ages_of_update_at there found (.finish reading next last)
  | leave found leaving => exact ages_of_update_at there found (.leave leaving)
  | abort found asked reading => exact ages_of_update_at there found (.abort asked reading)

theorem call_stays (moves : t.Moves e t') {i : Nat} {a : Call} (turn : t.calls[i]? = some a) :
    ∃ a', t'.calls[i]? = some a' ∧ a.Ages a' := by
  have kept : ∃ a', t.calls[i]? = some a' ∧ a.Ages a' := ⟨a, turn, .refl a⟩
  have changed {k : Nat} {call next : Call} (there : t.calls[k]? = some call)
      (ages : call.Ages next) :
      ∃ a', (t.calls.set k next)[i]? = some a' ∧ a.Ages a' := by
    by_cases own : k = i
    · subst own
      cases turn.symm.trans there
      exact ⟨next, List.getElem?_set_self (List.getElem?_eq_some_iff.mp turn).1, ages⟩
    · exact ⟨a, by rw [List.getElem?_set_ne own, turn], .refl a⟩
  cases moves with
  | begin =>
      exact ⟨a, by rw [List.getElem?_append_left (List.getElem?_eq_some_iff.mp turn).1,
        turn], .refl a⟩
  | turn there turns => exact changed there (.of_turns turns)
  | giveUp there => exact changed there ⟨rfl, nofun, nofun, nofun⟩
  | arrive | read | finish | leave | abort => exact kept

theorem length_le_of_moves (moves : t.Moves e t') :
    t.client.connections.length ≤ t'.client.connections.length := by
  cases moves with
  | begin => exact Nat.le_refl _
  | turn turn turns =>
      cases turns with
      | rest | raise | fail | lower | takeWriter | mark | takeListener => exact Nat.le_refl _
      | attach => exact List.length_append ▸ Nat.le_add_right ..
      | start | transmit | close => exact Nat.le_of_eq (List.length_modify ..).symm
      | adopt => exact Nat.le_of_eq (adopt_changes ..).1.symm
  | giveUp | arrive | read | finish | leave | abort =>
      exact Nat.le_of_eq (List.length_modify ..).symm

/-- Later states keep connections and calls in their places. -/
structure Onward (t t' : Traffic) : Prop where
  length : t.client.connections.length ≤ t'.client.connections.length
  connection : ∀ (n : Nat) x, t.client.connections[n]? = some x →
    ∃ x', t'.client.connections[n]? = some x' ∧ x.Ages x'
  call : ∀ (i : Nat) a, t.calls[i]? = some a → ∃ a', t'.calls[i]? = some a' ∧ a.Ages a'

theorem Onward.of_run {events : List Event} (h : t.Sound) (run : t.run? events = some t') :
    t.Onward t' := by
  refine (runs.induction (motive := fun _ now => now.Sound ∧ t.Onward now) ⟨h, ?_⟩ ?_ run).2
  · exact ⟨Nat.le_refl _, fun n x there => ⟨x, there, .refl x⟩,
      fun i a there => ⟨a, there, .refl a⟩⟩
  intro _ u e v _ ⟨sound, onward⟩ step
  have moves := moves_of_step? step
  refine ⟨sound.step moves, Nat.le_trans onward.length (length_le_of_moves moves), ?_, ?_⟩
  · intro n x there
    obtain ⟨y, between, ages⟩ := onward.connection n x there
    obtain ⟨z, after, ages'⟩ := connection_stays sound moves between
    exact ⟨z, after, ages.trans ages'⟩
  · intro i a there
    obtain ⟨b, between, ages⟩ := onward.call i a there
    obtain ⟨c, after, ages'⟩ := call_stays moves between
    exact ⟨c, after, ages.trans ages'⟩

end Traffic

end BoxOffice.Client
