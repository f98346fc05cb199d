import BoxOffice.Proofs.Connection

/-! # Whether a live connection is known

The flag says what was stored last. Once a connection has raised it, and as long as the connection
is live, only those who came before can lower it: listeners of earlier connections, and disconnects
that began before the connect. A disconnect that began before can also take the new listener for the
old one and break it off (`newest_connection`). If they have all come to their ends when the flag is
raised, a live connection stays known and listened to (`known_of_settled`).
-/

namespace BoxOffice.Client.Traffic

variable {t t' : Traffic} {e : Event} {events : List Event} {c : Nat} {n : ConnectionId}

/-! ## The flag -/

def Raises (t : Traffic) (c : Nat) (n : ConnectionId) : Prop :=
  ∃ address dial, t.calls[c]? = some (.connect address dial (.raising n))

/-- An event that lowers the flag. -/
inductive Lowers (t : Traffic) : Event → Prop where
  | listener {n : ConnectionId} {x : Connection} (there : t.client.connections[n]? = some x)
      (leaving : x.listener = .leaving) : Lowers t (.listen n)
  | send {k : Nat} {frame : Text} (turn : t.calls[k]? = some (.send frame .lowering)) :
      Lowers t (.proceed k)
  | disconnect {k : Nat} {writer : Option ConnectionId}
      (turn : t.calls[k]? = some (.disconnect (.lowering writer))) : Lowers t (.proceed k)

theorem not_lowers_of_turn {k : Nat} {call : Call} (turn : t.calls[k]? = some call)
    (send : ∀ frame, call ≠ .send frame .lowering)
    (disconnect : ∀ writer, call ≠ .disconnect (.lowering writer)) :
    ¬ t.Lowers (.proceed k) := by
  intro lowers
  cases lowers with
  | send there =>
      cases turn.symm.trans there
      exact send _ rfl
  | disconnect there =>
      cases turn.symm.trans there
      exact disconnect _ rfl

theorem not_lowers_of_listener {x : Connection} (there : t.client.connections[n]? = some x)
    (stays : x.listener ≠ .leaving) : ¬ t.Lowers (.listen n) := by
  intro lowers
  cases lowers with
  | listener found leaving =>
      cases there.symm.trans found
      exact stays leaving

theorem flag_of_moves (moves : t.Moves e t') :
    (∃ k n, t.Raises k n ∧ e = .proceed k ∧ t'.client.isConnected = true) ∨
    (t.Lowers e ∧ t'.client.isConnected = false) ∨
    (¬ t.Lowers e ∧ t'.client.isConnected = t.client.isConnected) := by
  cases moves with
  | begin => exact .inr (.inr ⟨nofun, rfl⟩)
  | turn turn turns =>
      cases turns with
      | rest made still kind locks calm idle silent =>
          exact .inr (.inr ⟨not_lowers_of_turn turn silent.1 silent.2, rfl⟩)
      | raise => exact .inl ⟨_, _, ⟨_, _, turn⟩, rfl, rfl⟩
      | adopt =>
          refine .inr (.inr ⟨not_lowers_of_turn turn nofun nofun, ?_⟩)
          unfold adopt
          cases t.client.listener <;> rfl
      | attach | start | transmit | fail | takeWriter | close | takeListener =>
          exact .inr (.inr ⟨not_lowers_of_turn turn nofun nofun, rfl⟩)
      | lower => exact .inr (.inl ⟨.send turn, rfl⟩)
      | mark => exact .inr (.inl ⟨.disconnect turn, rfl⟩)
  | giveUp | arrive | abort => exact .inr (.inr ⟨nofun, rfl⟩)
  | read received there reading =>
      exact .inr (.inr ⟨not_lowers_of_listener there (by rw [reading]; nofun), rfl⟩)
  | finish there reading =>
      exact .inr (.inr ⟨not_lowers_of_listener there (by rw [reading]; nofun), rfl⟩)
  | leave there leaving => exact .inr (.inl ⟨.listener there leaving, rfl⟩)

theorem raised_before (moves : t.Moves e t') {a' : Call} (turn : t'.calls[c]? = some a')
    (raised : a'.raised? = some n) :
    (∃ a, t.calls[c]? = some a ∧ a.raised? = some n) ∨
      e = .proceed c ∧ t.Raises c n ∧ t'.client.isConnected = true := by
  have changed {k : Nat} {call next : Call} (there : t.calls[k]? = some call)
      (after : (t.calls.set k next)[c]? = some a')
      (same : k = c → next.raised? = some n → call.raised? = some n) :
      ∃ a, t.calls[c]? = some a ∧ a.raised? = some n := by
    rcases of_getElem?_set after with ⟨old, -⟩ | ⟨rfl, rfl⟩
    · exact ⟨a', old, raised⟩
    · exact ⟨call, there, same rfl raised⟩
  cases moves with
  | begin command =>
      rcases of_getElem?_append turn with old | ⟨-, rfl⟩
      · exact .inl ⟨a', old, raised⟩
      · have made := Call.made?_of_raised? raised
        rw [(begin_idle t.client command).1] at made
        cases made
  | turn there turns =>
      cases turns with
      | rest made still =>
          refine .inl (changed there turn fun _ raised => ?_)
          rw [Call.made?_of_raised? raised] at still
          cases still
      | @raise address dial m =>
          rcases of_getElem?_set turn with ⟨old, -⟩ | ⟨rfl, rfl⟩
          · exact .inl ⟨a', old, raised⟩
          · cases raised
            exact .inr ⟨rfl, ⟨address, dial, there⟩, rfl⟩
      | start | adopt => exact .inl (changed there turn fun _ raised => raised)
      | attach | transmit | fail | lower | takeWriter | mark | close | takeListener =>
          exact .inl (changed there turn nofun)
  | giveUp there => exact .inl (changed there turn nofun)
  | arrive | read | finish | leave | abort => exact .inl ⟨a', turn, raised⟩

theorem raised_of_raises (moves : t.Moves (.proceed c) t') (raises : t.Raises c n) :
    ∃ a, t'.calls[c]? = some a ∧ a.raised? = some n := by
  obtain ⟨address, dial, there⟩ := raises
  cases moves with
  | turn turn turns =>
      cases there.symm.trans turn
      cases turns with
      | rest made => cases made
      | raise => exact ⟨_, List.getElem?_set_self (List.getElem?_eq_some_iff.mp turn).1, rfl⟩

theorem raised_once {j k : Nat} {u v : Traffic} (first : Moment run? idle events j u (.proceed c))
    (second : Moment run? idle events k v (.proceed c)) (raises : u.Raises c n)
    (again : v.Raises c n) : ¬ j < k := by
  intro order
  obtain ⟨w, meanwhile, step, onward⟩ := first.since runs second order
  have moves := moves_of_step? step
  obtain ⟨a, turn, raised⟩ := raised_of_raises moves raises
  have sound := (Sound.of_run first.before).step moves
  obtain ⟨b, later, ages⟩ := (Onward.of_run sound onward).call c a turn
  obtain ⟨address, dial, there⟩ := again
  cases later.symm.trans there
  cases ages.raised n raised

theorem flag_of_run (run : idle.run? events = some t) {call : Call} (turn : t.calls[c]? = some call)
    (raised : call.raised? = some n) (newest : t.client.connections.length = n + 1) :
    ∃ j u, Moment run? idle events j u (.proceed c) ∧ u.Raises c n ∧
      (t.client.isConnected = false ↔ ∃ k v e, j < k ∧ Moment run? idle events k v e ∧
        v.Lowers e) := by
  refine runs.induction
    (motive := fun past now => ∀ call, now.calls[c]? = some call → call.raised? = some n →
    now.client.connections.length = n + 1 → ∃ j u, Moment run? idle past j u (.proceed c) ∧
    u.Raises c n ∧
      (now.client.isConnected = false ↔ ∃ k v e, j < k ∧ Moment run? idle past k v e ∧ v.Lowers e))
    (by intro _ turn; cases turn) ?_ run call turn raised newest
  intro past u e v before known step call turn raised newest
  have sound := Sound.of_run before
  have moves := moves_of_step? step
  rcases raised_before moves turn raised with ⟨a, old, was⟩ | ⟨rfl, raises, shown⟩
  · have inside := sound.held.made c a n old (Call.made?_of_raised? was)
    have length : u.client.connections.length = n + 1 :=
      Nat.le_antisymm (newest ▸ length_le_of_moves moves) inside
    obtain ⟨j, w, moment, raises, flag⟩ := known a old was length
    refine ⟨j, w, moment.append [e], raises, ?_⟩
    rcases flag_of_moves moves
      with ⟨k, m, ⟨address, dial, there⟩, rfl, -⟩ | ⟨lowers, down⟩ | ⟨stays, same⟩
    · -- only the newest connection can raise the flag, and it has done so before
      have last := sound.held.newest k _ m there rfl rfl
      have own : m = n := Nat.succ.inj (last.symm.trans length)
      subst own
      have place := sound.held.once k c _ a m there old rfl (Call.made?_of_raised? was)
      subst place
      cases there.symm.trans old
      cases was
    · exact ⟨fun _ => ⟨past.length, u, e, moment.lt_length, .last before e, lowers⟩, fun _ => down⟩
    · rw [same, flag]
      constructor
      · rintro ⟨k, w', d, order, later, lowers⟩
        exact ⟨k, w', d, order, later.append [e], lowers⟩
      · rintro ⟨k, w', d, order, later, lowers⟩
        rcases later.of_snoc with inside | ⟨rfl, rfl, here⟩
        · exact ⟨k, w', d, order, inside, lowers⟩
        · cases before.symm.trans here
          exact absurd lowers stays
  · refine ⟨past.length, u, .last before _, raises, ?_⟩
    rw [shown]
    refine ⟨nofun, ?_⟩
    rintro ⟨k, w, d, order, later, -⟩
    have inside := later.lt_length
    rw [List.length_append, List.length_singleton] at inside
    omega

/-! ## Listeners that are told to break off -/

/-- The listener that a connect adopts takes the place of an earlier one, which is
    told to break off. -/
theorem asked_of_adopt (h : t.Sound) {k : Nat} {address : Config.Client} {dial : Dial}
    {m : ConnectionId} (turn : t.calls[k]? = some (.connect address dial (.adopting m)))
    {x' : Connection} (there : (t.client.adopt m).connections[n]? = some x')
    (asked : x'.abortAsked) :
    (∃ x, t.client.connections[n]? = some x ∧ x.abortAsked) ∨
      n + 1 < (t.client.adopt m).connections.length := by
  have length := (t.client.adopt_changes m).1
  rw [length]
  unfold adopt at there
  cases slot : t.client.listener with
  | none =>
      rw [slot] at there
      exact .inl ⟨x', there, asked⟩
  | some previous =>
      rw [slot] at there
      obtain ⟨x, before, rfl⟩ := of_getElem?_update there
      split at asked
      · rename_i own
        subst own
        obtain ⟨i, address', dial', connected⟩ := h.linked.slot previous slot
        have last := h.held.newest _ _ m turn rfl rfl
        have apart : previous ≠ m := by
          rintro rfl
          have same := h.held.once _ _ _ _ previous connected turn rfl rfl
          subst same
          cases connected.symm.trans turn
        have inside := h.held.made i _ previous connected rfl
        rw [last] at inside ⊢
        exact .inr (Nat.succ_lt_succ (Nat.lt_of_le_of_ne (Nat.le_of_lt_succ inside) apart))
      · exact .inl ⟨x, before, asked⟩

/-- An event tells a listener to break off: a disconnect that waits for it waits no longer, or a
    later connection takes its place. -/
theorem asked_of_moves (h : t.Sound) (moves : t.Moves e t') {x' : Connection}
    (there : t'.client.connections[n]? = some x') (asked : x'.abortAsked) :
    (∃ x, t.client.connections[n]? = some x ∧ x.abortAsked) ∨
      (∃ d, e = .giveUp d ∧ t.calls[d]? = some (.disconnect (.awaiting n))) ∨
      n + 1 < t'.client.connections.length := by
  have changed {m : ConnectionId} {change : Connection → Connection}
      (after : (t.client.update m change).connections[n]? = some x')
      (same : ∀ x, (change x).abortAsked = x.abortAsked) :
      ∃ x, t.client.connections[n]? = some x ∧ x.abortAsked := by
    obtain ⟨x, before, rfl⟩ := of_getElem?_update after
    refine ⟨x, before, ?_⟩
    split at asked
    · exact same x ▸ asked
    · exact asked
  cases moves with
  | begin => exact .inl ⟨x', there, asked⟩
  | turn turn turns =>
      cases turns with
      | rest | raise | fail | lower | takeWriter | mark | takeListener =>
          exact .inl ⟨x', there, asked⟩
      | attach =>
          rcases of_getElem?_append there with old | ⟨-, rfl⟩
          · exact .inl ⟨x', old, asked⟩
          · cases asked
      | start | transmit | close => exact .inl (changed there fun _ => rfl)
      | adopt => exact (asked_of_adopt h turn there asked).imp_right .inr
  | @giveUp k m turn =>
      obtain ⟨x, before, rfl⟩ := of_getElem?_update there
      split at asked
      · rename_i own
        exact .inr (.inl ⟨k, rfl, own ▸ turn⟩)
      · exact .inl ⟨x, before, asked⟩
  | arrive | read | finish | leave | abort => exact .inl (changed there fun _ => rfl)

theorem asked_of_run (run : idle.run? events = some t) {x : Connection}
    (there : t.client.connections[n]? = some x) (asked : x.abortAsked) :
    n + 1 < t.client.connections.length ∨
      ∃ k v d, Moment run? idle events k v (.giveUp d) ∧
      v.calls[d]? = some (.disconnect (.awaiting n)) := by
  refine runs.induction
    (motive := fun past now => ∀ x, now.client.connections[n]? = some x → x.abortAsked →
    n + 1 < now.client.connections.length ∨
      ∃ k v d, Moment run? idle past k v (.giveUp d) ∧
      v.calls[d]? = some (.disconnect (.awaiting n)))
    (by intro _ there; cases there) ?_ run x there asked
  intro past u e v before known step x' there asked
  have moves := moves_of_step? step
  rcases asked_of_moves (Sound.of_run before) moves there asked
    with ⟨x, old, was⟩ | ⟨d, rfl, awaits⟩ | older
  · rcases known x old was with older | ⟨k, w, d, moment, awaits⟩
    · exact .inl (Nat.lt_of_lt_of_le older (length_le_of_moves moves))
    · exact .inr ⟨k, w, d, moment.append _, awaits⟩
  · exact .inr ⟨past.length, u, d, .last before _, awaits⟩
  · exact .inl older

/-! ## The newest connection -/

/-- Call `c` has connected last, its connection `n` is live, and no disconnect began after it. -/
structure Newest (t : Traffic) (c : Nat) (n : ConnectionId) : Prop where
  connected : t.HasConnected c n
  newest : t.client.connections.length = n + 1
  live : (t.client.connections[n]?).any (·.isLive)
  kept : ∀ d progress, c < d → t.calls[d]? ≠ some (.disconnect progress)

/-- One who came before call `c` lowers the flag: the listener of an earlier connection, or an
    earlier disconnect. -/
inductive Overtakes (t : Traffic) (c : Nat) (n : ConnectionId) : Event → Prop where
  | listener {m : ConnectionId} {x : Connection} (older : m < n)
      (there : t.client.connections[m]? = some x)
      (leaving : x.listener = .leaving) : Overtakes t c n (.listen m)
  | disconnect {d : Nat} {writer : Option ConnectionId} (earlier : d < c)
      (turn : t.calls[d]? = some (.disconnect (.lowering writer))) : Overtakes t c n (.proceed d)

theorem Overtakes.lowers (overtakes : t.Overtakes c n e) : t.Lowers e := by
  cases overtakes with
  | listener older there leaving => exact .listener there leaving
  | disconnect earlier turn => exact .disconnect turn

namespace Newest

theorem of_last (connected : t.HasConnected c n) (newest : t.client.connections.length = n + 1)
    (live : (t.client.connections[n]?).any (·.isLive)) (last : t.calls.length = c + 1) :
    t.Newest c n where
  connected := connected
  newest := newest
  live := live
  kept := by
    intro d progress later there
    have inside := (List.getElem?_eq_some_iff.mp there).1
    omega

theorem connection (h : t.Newest c n) : ∃ x, t.client.connections[n]? = some x ∧ x.isLive :=
  (Option.any_eq_true ..).mp h.live

variable (run : idle.run? events = some t) (h : t.Newest c n)

include run h

/-- No disconnect that began later is among the calls at any time. -/
theorem earlier {k d : Nat} {v : Traffic} (moment : Moment run? idle events k v e)
    {progress : Disconnecting} (turn : v.calls[d]? = some (.disconnect progress)) : d < c := by
  obtain ⟨a, later, ages⟩ :=
    (Onward.of_run (.of_run moment.before) (moment.onward runs run)).call d _ turn
  obtain ⟨progress', rfl⟩ : ∃ progress', a = .disconnect progress' := by
    have kind := ages.kind
    cases a with
    | disconnect progress' => exact ⟨progress', rfl⟩
    | connect | send => cases kind
  rcases Nat.lt_trichotomy d c with before | rfl | after
  · exact before
  · obtain ⟨address, dial, connected⟩ := h.connected
    cases connected.symm.trans later
  · exact absurd later (h.kept d progress' after)

/-- Whatever lowers the flag after it was raised for a live connection came before. -/
theorem overtakes {j k : Nat} {u v : Traffic} (raised : Moment run? idle events j u (.proceed c))
    (raises : u.Raises c n) (moment : Moment run? idle events k v e) (order : j < k)
    (lowers : v.Lowers e) :
    v.Overtakes c n e := by
  obtain ⟨w, meanwhile, step, between⟩ := raised.since runs moment order
  have moves := moves_of_step? step
  obtain ⟨a, turn, was⟩ := raised_of_raises moves raises
  have sound := Sound.of_run moment.before
  obtain ⟨b, turn', ages⟩ :=
    (Onward.of_run ((Sound.of_run raised.before).step moves) between).call c a turn
  have inside := sound.held.made c b n turn' (Call.made?_of_raised? (ages.raised n was))
  have onward := Onward.of_run sound (moment.onward runs run)
  have length : v.client.connections.length = n + 1 :=
    Nat.le_antisymm (h.newest ▸ onward.length) inside
  have live : ∀ x, v.client.connections[n]? = some x → x.isLive := by
    intro x there
    obtain ⟨x', after, goes⟩ := onward.connection n x there
    obtain ⟨y, found, alive⟩ := h.connection
    cases after.symm.trans found
    exact goes.isLive alive
  cases lowers with
  | @listener m x there leaving =>
      have below := (List.getElem?_eq_some_iff.mp there).1
      rw [length] at below
      refine .listener (Nat.lt_of_le_of_ne (Nat.le_of_lt_succ below) ?_) there leaving
      rintro rfl
      have dead := (sound.linked.sound m x there).ended (.inl leaving)
      rw [live x there] at dead
      cases dead
  | @send k frame turn =>
      obtain ⟨x, there⟩ : ∃ x, v.client.connections[n]? = some x :=
        ⟨_, List.getElem?_eq_getElem inside⟩
      have dead := sound.held.failing k frame turn n x length there
      rw [live x there] at dead
      cases dead
  | disconnect turn => exact .disconnect (h.earlier run moment turn) turn

theorem known_iff : ∃ j u, Moment run? idle events j u (.proceed c) ∧ u.Raises c n ∧
    (t.client.isConnected = false ↔ ∃ k v e, j < k ∧ Moment run? idle events k v e ∧
      v.Overtakes c n e) := by
  obtain ⟨address, dial, connected⟩ := h.connected
  obtain ⟨j, u, raised, raises, flag⟩ := flag_of_run run connected rfl h.newest
  refine ⟨j, u, raised, raises, flag.trans ⟨?_, ?_⟩⟩
  · rintro ⟨k, v, e, order, moment, lowers⟩
    exact ⟨k, v, e, order, moment, h.overtakes run raised raises moment order lowers⟩
  · rintro ⟨k, v, e, order, moment, overtakes⟩
    exact ⟨k, v, e, order, moment, overtakes.lowers⟩

theorem listened_or_given_up : ∃ x, t.client.connections[n]? = some x ∧ (x.listener = .reading ∨
    x.listener = .aborted ∧ ∃ k v d, d < c ∧ Moment run? idle events k v (.giveUp d) ∧
      v.calls[d]? = some (.disconnect (.awaiting n))) := by
  obtain ⟨address, dial, connected⟩ := h.connected
  obtain ⟨x, there, live⟩ := h.connection
  have linked := (Sound.of_run run).linked
  have sound := linked.sound n x there
  have started := (linked.started c _ n x connected rfl there).not.mpr nofun
  refine ⟨x, there, ?_⟩
  cases stand : x.listener with
  | unstarted => exact absurd stand started
  | reading => exact .inl rfl
  | leaving =>
      rw [sound.ended (.inl stand)] at live
      cases live
  | stopped =>
      rw [sound.ended (.inr stand)] at live
      cases live
  | aborted =>
      rcases asked_of_run run there (sound.aborted stand) with older | ⟨k, v, d, moment, awaits⟩
      · rw [h.newest] at older
        exact absurd older (Nat.lt_irrefl _)
      · exact .inr ⟨rfl, k, v, d, h.earlier run moment awaits, moment, awaits⟩

end Newest

/-- A live connection that is the newest is known unless someone who came before has
    lowered the flag since, and it is listened to unless a disconnect that came before
    gave up on its listener. -/
theorem newest_connection (run : idle.run? events = some t) (h : t.Newest c n) :
    (∃ j u, Moment run? idle events j u (.proceed c) ∧ u.Raises c n ∧
      (t.client.isConnected = false ↔ ∃ k v e, j < k ∧ Moment run? idle events k v e ∧
        v.Overtakes c n e)) ∧
    ∃ x, t.client.connections[n]? = some x ∧ (x.listener = .reading ∨ x.listener = .aborted ∧
      ∃ k v d, d < c ∧ Moment run? idle events k v (.giveUp d) ∧
        v.calls[d]? = some (.disconnect (.awaiting n))) :=
  ⟨h.known_iff run, h.listened_or_given_up run⟩

/-- Call `k` connects with nobody else at work. -/
def connects (k : Nat) : List Event :=
  .begin (.connect ⟨['h'], ['1']⟩ .accepted) :: List.replicate 6 (.proceed k)

/-- The first listener has seen its connection close, and lowers the flag only when a send has
    failed and the client is connected again. -/
def lateListener : List Event :=
  connects 0 ++ [.arrive 0 .close, .listen 0, .begin (.send ['x']), .proceed 1, .proceed 1,
    .proceed 1] ++
    connects 2 ++ [.listen 0]

/-- A disconnect has lowered the flag, and finds the next listener in the slot when it looks
    for the first one. -/
def lateDisconnect : List Event :=
  connects 0 ++ [.begin .disconnect, .proceed 1, .proceed 1] ++ connects 2 ++
    [.proceed 1, .proceed 1, .giveUp 1, .abort 1]

def afterLateListener : Traffic := (idle.run? lateListener).get (by decide +kernel)

def afterLateDisconnect : Traffic := (idle.run? lateDisconnect).get (by decide +kernel)

theorem newest_afterLateListener : afterLateListener.Newest 2 1 :=
  .of_last ⟨⟨['h'], ['1']⟩, .accepted, by decide +kernel⟩ (by decide +kernel) (by decide +kernel)
    (by decide +kernel)

theorem newest_afterLateDisconnect : afterLateDisconnect.Newest 2 1 :=
  .of_last ⟨⟨['h'], ['1']⟩, .accepted, by decide +kernel⟩ (by decide +kernel) (by decide +kernel)
    (by decide +kernel)

theorem lateListener_overtakes :
    idle.run? lateListener = some afterLateListener ∧ afterLateListener.Newest 2 1 ∧
    afterLateListener.client.isConnected = false ∧
    ∃ k v e, Moment run? idle lateListener k v e ∧ v.Overtakes 2 1 e := by
  have run : idle.run? lateListener = some afterLateListener := (Option.some_get _).symm
  have down : afterLateListener.client.isConnected = false := by decide +kernel
  obtain ⟨⟨j, u, -, -, flag⟩, -⟩ := newest_connection run newest_afterLateListener
  obtain ⟨k, v, e, -, moment, overtakes⟩ := flag.mp down
  exact ⟨run, newest_afterLateListener, down, k, v, e, moment, overtakes⟩

/-- A live connection may be unknown, or nobody may listen to it, although every call has returned
    and nobody has disconnected since. -/
theorem live_connection_lost :
    (afterLateListener.isQuiet ∧ afterLateListener.Newest 2 1 ∧
      afterLateListener.client.isConnected = false) ∧
    (afterLateDisconnect.isQuiet ∧ afterLateDisconnect.Newest 2 1 ∧
      (afterLateDisconnect.client.connections[1]?).any (·.listener = .aborted)) ∧
    ¬ ∀ events t c n, idle.run? events = some t → t.isQuiet → t.Newest c n →
      t.client.isConnected = true ∧ (t.client.connections[n]?).any (·.listener = .reading) := by
  refine ⟨⟨by decide +kernel, newest_afterLateListener, by decide +kernel⟩,
    ⟨by decide +kernel, newest_afterLateDisconnect, by decide +kernel⟩, fun all => ?_⟩
  have known := (all lateListener afterLateListener 2 1 (Option.some_get _).symm (by decide +kernel)
    newest_afterLateListener).1
  revert known
  decide +kernel

/-- When call `c` raises the flag for connection `n`, whoever came before has come to an end. -/
structure Settled (u : Traffic) (c : Nat) (n : ConnectionId) : Prop where
  raises : u.Raises c n
  ended : ∀ (m : Nat) x, m < n → u.client.connections[m]? = some x → x.HasEnded
  returned : ∀ (d : Nat) progress, u.calls[d]? = some (.disconnect progress) → progress = .returned

namespace Settled

variable {u : Traffic} (settled : u.Settled c n) (onward : u.Onward t)

include settled onward

theorem returned_later {d : Nat} {progress : Disconnecting} (earlier : d < c)
    (turn : t.calls[d]? = some (.disconnect progress)) : progress = .returned := by
  obtain ⟨address, dial, there⟩ := settled.raises
  have inside : d < u.calls.length := Nat.lt_trans earlier (List.getElem?_eq_some_iff.mp there).1
  have before := List.getElem?_eq_getElem inside
  obtain ⟨a, after, ages⟩ := onward.call d _ before
  cases turn.symm.trans after
  cases stand : u.calls[d] with
  | disconnect past =>
      rw [stand] at before ages
      have stopped := settled.returned d past before
      subst stopped
      cases ages.returned rfl
      rfl
  | connect | send =>
      rw [stand] at ages
      cases ages.kind

theorem ended_later (sound : u.Sound) {m : ConnectionId} {x : Connection} (older : m < n)
    (there : t.client.connections[m]? = some x) : x.HasEnded := by
  obtain ⟨address, dial, turn⟩ := settled.raises
  have inside := Nat.lt_trans older (sound.held.made c _ n turn rfl)
  obtain ⟨y, after, ages⟩ := onward.connection m _ (List.getElem?_eq_getElem inside)
  cases there.symm.trans after
  exact ages.hasEnded (settled.ended m _ older (List.getElem?_eq_getElem inside))

end Settled

/-- If earlier listeners have ended and no disconnect is under way when a connect raises the
    flag, its connection is known and listened to as long as it is live and nobody
    disconnects or connects. -/
theorem known_of_settled (run : idle.run? events = some t) (h : t.Newest c n) {j : Nat}
    {u : Traffic} (raised : Moment run? idle events j u (.proceed c)) (settled : u.Settled c n) :
    t.client.isConnected = true ∧ ∃ x, t.client.connections[n]? = some x ∧
    x.listener = .reading := by
  obtain ⟨j', u', raised', raises', flag⟩ := h.known_iff run
  obtain ⟨x, there, stands⟩ := h.listened_or_given_up run
  have same : j' = j :=
    Nat.le_antisymm (Nat.le_of_not_lt (raised_once raised raised' settled.raises raises'))
    (Nat.le_of_not_lt (raised_once raised' raised raises' settled.raises))
  subst same
  cases raised.before.symm.trans raised'.before
  have sound := Sound.of_run raised.before
  have later {k : Nat} {v : Traffic} {e : Event} (moment : Moment run? idle events k v e)
      (order : j' ≤ k) :
      u.Onward v := by
    obtain ⟨meanwhile, between⟩ := raised.between runs moment order
    exact .of_run sound between
  constructor
  · by_contra lowered
    obtain ⟨k, v, e, order, moment, overtakes⟩ := flag.mp (Bool.eq_false_iff.mpr lowered)
    have onward := later moment (Nat.le_of_lt order)
    cases overtakes with
    | listener older found leaving =>
        rcases settled.ended_later onward sound older found with stand | stand <;>
          cases leaving.symm.trans stand
    | disconnect earlier turn => cases settled.returned_later onward earlier turn
  · rcases stands with reading | ⟨-, k, v, d, earlier, moment, awaits⟩
    · exact ⟨x, there, reading⟩
    · exfalso
      rcases Nat.le_total j' k with order | order
      · cases settled.returned_later (later moment order) earlier awaits
      · -- nobody can wait for the listener before the flag is raised
        obtain ⟨meanwhile, between⟩ := moment.between runs raised order
        obtain ⟨i, address, dial, connected⟩ :=
          (Sound.of_run moment.before).linked.awaited d n awaits
        obtain ⟨a, now, ages⟩ := (Onward.of_run (.of_run moment.before) between).call i _ connected
        cases ages.connected address dial n rfl
        obtain ⟨address', dial', turn⟩ := settled.raises
        have own := sound.held.once i c _ _ n now turn rfl rfl
        subst own
        cases now.symm.trans turn

end BoxOffice.Client.Traffic
