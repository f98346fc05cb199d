import BoxOffice.Proofs.TurnedAway
import BoxOffice.Web.Upgrade

/-! # The limit

Bounded connects never register more sessions than the limit allows, however they and all that
removes sessions overlap. Everyone who reads the limit reads the same of it, also where unbounded
connects have gone beyond it (`within_limit`).
-/

namespace BoxOffice.Hub

/-- Whether a call is not a connect that is still to be admitted regardless of the limit. -/
def Errand.isBounded : Errand → Bool
  | .greeting _ bounded _ | .connecting _ bounded => bounded
  | _ => true

namespace Foyer

variable {f f' : Foyer} {events : List Event} {e : Event} {max : Nat}

theorem limit_of_moves (moves : f.Moves e f') : f'.hub.limit = f.hub.limit := by
  cases moves with
  | serve turn serves =>
      cases serves with
      | @compose result seen =>
          obtain ⟨tally, same⟩ := f.hub.exists_countAnswer (.compose _ result seen)
          rw [same]
      | _ => rfl
  | write free step =>
      cases writes_of_writerStep step with
      | own there writes same => rw [same]; rfl
      | leave | pass | tell => rfl
  | _ => rfl

theorem limit_of_run {programme : Programme} {limit : Option Nat}
    (run : (idle programme limit).run? events = some f) : f.hub.limit = limit := by
  refine runs.induction (motive := fun _ now => now.hub.limit = limit) rfl ?_ run
  intro _ u e v _ same step
  rw [limit_of_moves (moves_of_step? step), same]

/-! ## Never beyond the limit -/

/-- The limit is respected, also once whoever is admitted is registered, and so it stays. -/
structure Within (max : Nat) (f : Foyer) : Prop where
  limit : f.hub.limit = some max
  room : f.hub.registry.length + f.errands.countP (·.isEntering) ≤ max
  bounded : ∀ d ∈ f.errands, d.isBounded

def Event.isUnbounded : Event → Bool
  | .begin (.connect _ bounded) => !bounded
  | _ => false

namespace Within

theorem append {hub : Hub} {d : Errand} (h : f.Within max) (entering : d.isEntering = false)
    (bounded : d.isBounded) (limit : hub.limit = f.hub.limit)
    (registry : hub.registry.length ≤ f.hub.registry.length) :
    Within max ⟨hub, f.errands ++ [d]⟩ where
  limit := limit.trans h.limit
  room := by
    have room := h.room
    simp only [List.countP_append, List.countP_singleton, entering]
    simp only [Bool.false_eq_true, if_false]
    omega
  bounded := by
    intro d' member
    rcases List.mem_append.mp member with old | new
    · exact h.bounded d' old
    · exact List.mem_singleton.mp new ▸ bounded

theorem set {hub : Hub} {n : Nat} {d next : Errand} (h : f.Within max)
    (turn : f.errands[n]? = some d) (bounded : d.isBounded → next.isBounded)
    (limit : hub.limit = f.hub.limit)
    (room : hub.registry.length + (f.errands.set n next).countP (·.isEntering) ≤ max) :
    Within max ⟨hub, f.errands.set n next⟩ where
  limit := limit.trans h.limit
  room := room
  bounded := by
    intro d' member
    rcases List.mem_or_eq_of_mem_set member with old | rfl
    · exact h.bounded d' old
    · exact bounded (h.bounded d (List.mem_of_getElem? turn))

theorem quiet {hub : Hub} {n : Nat} {d next : Errand} (h : f.Within max)
    (turn : f.errands[n]? = some d) (bounded : d.isBounded → next.isBounded)
    (entering : next.isEntering = false) (limit : hub.limit = f.hub.limit)
    (registry : hub.registry = f.hub.registry) :
    Within max ⟨hub, f.errands.set n next⟩ := by
  refine h.set turn bounded limit ?_
  have fewer : (f.errands.set n next).countP (·.isEntering) ≤ f.errands.countP (·.isEntering) :=
    countP_set_le turn (by simp [entering])
  have room := h.room
  rw [registry]
  omega

theorem withHub {hub : Hub} (h : f.Within max) (limit : hub.limit = f.hub.limit)
    (registry : hub.registry.length ≤ f.hub.registry.length) : Within max ⟨hub, f.errands⟩ where
  limit := limit.trans h.limit
  room := by
    have room := h.room
    simp only
    omega
  bounded := h.bounded

theorem serves {n : Nat} {sender : SessionId} {message : Text} {service next : Service} {hub : Hub}
    (h : f.Within max) (turn : f.errands[n]? = some (.inbound sender message service))
    (serves : f.hub.Serves sender message service next hub) :
    Within max ⟨hub, f.errands.set n (.inbound sender message next)⟩ := by
  cases serves with
  | @compose result seen =>
      obtain ⟨tally, same⟩ := f.hub.exists_countAnswer (.compose message result seen)
      rw [same]
      exact h.quiet turn (fun _ => rfl) rfl rfl rfl
  | decide | look | answer | grant | lookAgain | reach | comeBack | letGo =>
      exact h.quiet turn (fun _ => rfl) rfl rfl rfl

theorem moves (h : f.Within max) (moves : f.Moves e f') (bounded : e.isUnbounded = false) :
    f'.Within max := by
  have room := h.room
  cases moves with
  | assign sink bounded' =>
      have bounded : bounded' = true := by simpa [Event.isUnbounded] using bounded
      exact h.append rfl bounded rfl (Nat.le_refl _)
  | refuse | lookUp | broadcast | miss => exact h.append rfl rfl rfl (Nat.le_refl _)
  | remove => exact h.append rfl rfl rfl (List.length_erase_le ..)
  | drain => exact h.append rfl rfl rfl (Nat.zero_le _)
  | look turn | greet turn => exact h.quiet turn (fun bounded => bounded) rfl rfl rfl
  | dismiss turn | comeBack turn | tell turn | tellAll turn | reach turn | announce turn
  | cry turn =>
      exact h.quiet turn (fun _ => rfl) rfl rfl rfl
  | @activate n id bounded' turn free full =>
      -- nobody else is admitted while the registry is locked for the one who is
      have nobody := countP_entering_of_isReadable (isReadable_of_isWritable free)
      have one : (f.errands.set n (.entering id)).countP (·.isEntering) = 1 := by
        obtain ⟨inside, same⟩ := List.getElem?_eq_some_iff.mp turn
        rw [List.countP_set inside, same, nobody]
        rfl
      have bounded : bounded' = true := h.bounded _ (List.mem_of_getElem? turn)
      have space : f.hub.registry.length < max := by
        simpa [bounded, isFull, h.limit] using full
      refine h.set turn (fun _ => rfl) rfl ?_
      rw [one]
      exact space
  | @enter n id turn =>
      have fewer : (f.errands.set n (.connected id true)).countP (·.isEntering) + 1 =
          f.errands.countP (·.isEntering) := by
        obtain ⟨inside, same⟩ := List.getElem?_eq_some_iff.mp turn
        have here : 0 < f.errands.countP (·.isEntering) :=
          List.countP_pos_iff.mpr ⟨_, List.mem_of_getElem? turn, rfl⟩
        rw [List.countP_set inside, same]
        exact Nat.sub_add_cancel here
      have grown : (f.hub.registry.insert id).length ≤ f.hub.registry.length + 1 := by
        rw [List.length_insert]
        split <;> omega
      refine h.set turn (fun _ => rfl) rfl ?_
      show (f.hub.registry.insert id).length + _ ≤ max
      omega
  | serve turn serves => exact h.serves turn serves
  | write free step =>
      cases writes_of_writerStep step with
      | own there writes same =>
          exact h.withHub (by rw [same]; rfl) (by rw [same]; exact Nat.le_refl _)
      | leave => exact h.withHub rfl (List.length_erase_le ..)
      | pass | tell => exact h.withHub rfl (Nat.le_refl _)
  | transport => exact h.withHub rfl (Nat.le_refl _)

theorem run (h : f.Within max) (run : f.run? events = some f')
    (bounded : ∀ e ∈ events, e.isUnbounded = false) :
    f'.Within max := by
  refine runs.induction
    (motive := fun events now => (∀ e ∈ events, e.isUnbounded = false) → now.Within max)
    (fun _ => h) ?_ run bounded
  intro events u e v _ within step bounded
  refine (within fun d member => bounded d (List.mem_append_left _ member)).moves
    (moves_of_step? step) ?_
  exact bounded e (List.mem_append_right _ (List.mem_singleton_self e))

end Within

/-! ## Everyone reads the same -/

end Foyer

variable {h : Hub} {max : Nat}

theorem hasCapacity_eq (limit : h.limit = some max) :
    h.hasCapacity = false ↔ max ≤ h.registry.length := by
  simp [hasCapacity, limit]

theorem isFull_eq (limit : h.limit = some max) : h.isFull = true ↔ max ≤ h.registry.length := by
  simp [isFull, limit]

theorem degraded_iff (limit : h.limit = some max) :
    h.health.condition.status = .degraded ↔ max ≤ h.registry.length := by
  unfold health
  simp only [limit]
  by_cases full : max ≤ h.registry.length
  · rw [if_pos full]
    exact iff_of_true rfl full
  · rw [if_neg full]
    simp [Health.Condition.status, full]

theorem serve_of_proper {r : Web.Request} (metrics : Option (List (List Text)))
    (path : Web.Path.ofText? r.path = some .session) (get : r.method = "GET".toList) :
    (⟨h, metrics⟩ : Web.Service).serve (.ok ()) r =
      if h.hasCapacity then .empty 101 none
      else .ofText 503 "Too many connections. Please try again later." := by
  rw [Web.Service.serve, path]
  dsimp only
  rw [if_pos get, Web.Service.answer, Web.handshake]

/-- A proper request for a session is turned away if and only if there is no capacity. -/
theorem status_iff {r : Web.Request} (metrics : Option (List (List Text)))
    (path : Web.Path.ofText? r.path = some .session) (get : r.method = "GET".toList) :
    ((⟨h, metrics⟩ : Web.Service).serve (.ok ()) r).status = 503 ↔ h.hasCapacity = false := by
  rw [serve_of_proper metrics path get]
  cases h.hasCapacity with
  | true => simp [Web.Response.empty]
  | false => exact iff_of_true rfl rfl

/-- A bounded connect without capacity uses up a number and changes nothing else. -/
theorem connect_of_full (sink : Session.Sink) (fresh : ∀ s ∈ h.sessions, s.id ≠ h.nextId)
    (full : h.isFull) :
    h.call (.connect sink true) =
      (.refused (.connecting h.nextId sink h.greeting), { h with nextId := h.nextId + 1 }) := by
  have gone :
      (h.sessions ++ [Session.connecting h.nextId sink h.greeting]).filter
        (fun s => s.id ≠ h.nextId) = h.sessions := by
    rw [List.filter_append, List.filter_eq_self.mpr fun s there => decide_eq_true (fresh s there)]
    simp [Session.connecting]
  have enrolled :
      (h.allocate sink).2.enroll h.nextId true = (false, { h with nextId := h.nextId + 1 }) := by
    have full' : (true && (h.allocate sink).2.isFull) = true := full
    rw [enroll, if_pos full']
    simp only [allocate, gone]
  rw [call_connect, enrolled]
  rfl

theorem connect_of_room (sink : Session.Sink) (room : h.isFull = false) :
    (h.call (.connect sink true)).1 = .connected h.nextId := by
  have enrolled : ((h.allocate sink).2.enroll h.nextId true).1 = true := by
    have room' : ¬ (true && (h.allocate sink).2.isFull) = true := Bool.eq_false_iff.mp room
    rw [enroll, if_neg room']
  rw [call_connect, enrolled]
  rfl

namespace Foyer

variable {f : Foyer} {events : List Event}

/-- What everyone who reads the limit reads. -/
structure Agree (max : Nat) (f : Foyer) : Prop where
  capacity : f.hub.hasCapacity = false ↔ max ≤ f.hub.registry.length
  health : f.hub.health.condition.status = .degraded ↔ f.hub.hasCapacity = false
  /-- A request for a session in which the transport finds nothing wrong. -/
  upgrade : ∀ metrics r, Web.Path.ofText? r.path = some .session → r.method = "GET".toList →
    (((⟨f.hub, metrics⟩ : Web.Service).serve (.ok ()) r).status = 503 ↔ f.hub.hasCapacity = false)
  /-- The next bounded connect that gets the lock is refused if and only if there is no capacity. -/
  turn : ∀ n id, f.errands[n]? = some (.connecting id true) → f.isWritable →
    ∃ f', f.step? (.proceed n) = some f' ∧
      (f'.errands[n]? = some (.connected id false) ↔ f.hub.hasCapacity = false)
  /-- So is one that begins now and is left alone; it then only uses up a number. -/
  call : ∀ sink, f.isWritable →
    ∃ begun steps last, f.step? (.begin (.connect sink true)) = some begun ∧
    (∀ e ∈ steps, e.call? = some f.errands.length) ∧
    begun.run? steps = some ⟨(f.hub.call (.connect sink true)).2, f.errands ++ [last]⟩ ∧
    last.Returns (f.hub.call (.connect sink true)).1 ∧
    (f.hub.hasCapacity = false → f.hub.call (.connect sink true) =
      (.refused (.connecting f.hub.nextId sink f.hub.greeting),
      { f.hub with nextId := f.hub.nextId + 1 })) ∧
    (f.hub.hasCapacity → (f.hub.call (.connect sink true)).1 = .connected f.hub.nextId)

theorem agree (sound : f.Sound) (limit : f.hub.limit = some max) : f.Agree max := by
  have capacity := hasCapacity_eq limit
  have full : f.hub.isFull = true ↔ f.hub.hasCapacity = false :=
    (isFull_eq limit).trans capacity.symm
  refine ⟨capacity, (degraded_iff limit).trans capacity.symm,
    fun metrics r => status_iff metrics, ?_, ?_⟩
  · intro n id turn free
    by_cases none : f.hub.hasCapacity = false
    · have step :
          f.step? (.proceed n) =
            some ⟨f.hub.dismiss id, f.errands.set n (.connected id false)⟩ := by
        simp [step?, turn, proceed?, free, full.mpr none]
      exact ⟨_, step, iff_of_true (turn_set turn _) none⟩
    · have step :
          f.step? (.proceed n) = some ⟨f.hub.activate id, f.errands.set n (.entering id)⟩ := by
        simp [step?, turn, proceed?, free, Bool.eq_false_iff.mpr (mt full.mp none)]
      refine ⟨_, step, iff_of_false ?_ none⟩
      simp [turn_set turn]
  · intro sink free
    obtain ⟨begun, steps, last, step, own, run, returns⟩ :=
      undisturbed sound free (.connect sink true)
    refine ⟨begun, steps, last, step, own, run, returns, ?_, ?_⟩
    · intro none
      have fresh : ∀ s ∈ f.hub.sessions, s.id ≠ f.hub.nextId :=
        fun s there => Nat.ne_of_lt (sound.session there).2.2
      exact connect_of_full sink fresh (full.mpr none)
    · intro some
      apply connect_of_room
      rw [Bool.eq_false_iff, ne_eq, full, some]
      exact Bool.noConfusion

structure Limited (programme : Programme) (max : Nat) (events : List Event) (f : Foyer) : Prop where
  /-- From when nobody is registered, bounded connects alone never bring more sessions than
      the limit allows. -/
  within : ∀ before after u, events = before ++ after →
    (idle programme (some max)).run? before = some u →
    u.hub.registry = [] → u.isReadable → (∀ d ∈ u.errands, d.isBounded) →
      (∀ e ∈ after, e.isUnbounded = false) → f.hub.registry.length ≤ max
  agree : f.Agree max
  /-- A connect that was refused has left nothing but a gap in the numbers. -/
  refused : ∀ n id, f.errands[n]? = some (.connected id false) →
    TurnedAway (idle programme (some max)) events n id f

/-- The limit is never exceeded by bounded connects, and whoever reads it reads the same. -/
theorem within_limit {programme : Programme}
    (run : (idle programme (some max)).run? events = some f) :
    Limited programme max events f where
  within := by
    rintro before after u rfl reached nobody readable bounded few
    rw [runs.append, reached, Option.bind_some] at run
    have start : u.Within max := by
      refine ⟨limit_of_run reached, ?_, bounded⟩
      rw [nobody, countP_entering_of_isReadable readable]
      exact Nat.zero_le max
    have room := (start.run run few).room
    omega
  agree := agree (Sound.of_run run) (limit_of_run run)
  refused := fun _ _ refused => turnedAway_of_run run refused

/-- Two customers ask for the only place at once. -/
def crush : List Event :=
  [.begin (.connect ⟨none, false, false⟩ true), .begin (.connect ⟨none, false, false⟩ true),
    .proceed 0, .proceed 1, .proceed 1, .proceed 0, .proceed 1, .proceed 1, .proceed 0]

def afterCrush : Foyer := ((idle .single (some 1)).run? crush).get (by decide +kernel)

/-- The second one is first, and the first one is refused. Whoever asks for a session next is turned
    away before there is a connect. -/
theorem crush_within : afterCrush.hub.registry = [2] ∧ Limited .single 1 crush afterCrush ∧
    TurnedAway (idle .single (some 1)) crush 0 1 afterCrush ∧
    ((⟨afterCrush.hub, none⟩ : Web.Service).respond true (.forSession "/ws")).status = 503 := by
  have run : (idle .single (some 1)).run? crush = some afterCrush := (Option.some_get _).symm
  have limited := within_limit run
  have refused : afterCrush.errands[0]? = some (.connected 1 false) := by rfl
  have full : afterCrush.hub.hasCapacity = false := limited.agree.capacity.mpr (by decide +kernel)
  have away := (limited.agree.upgrade none (.forSession "/ws") rfl rfl).mpr full
  rw [← Web.Request.upgrade_forSession "/ws"] at away
  exact ⟨by decide +kernel, limited, limited.refused 0 1 refused, away⟩

end Foyer

end BoxOffice.Hub
