import BoxOffice.Proofs.Sockets

/-! # A handler that is left alone

If nobody else is at work, a handler that comes upon an arrival does with it what `handle` does in
one go (`handle_alone`).
-/

namespace BoxOffice.Web

open Hub (Foyer Errand)

/-- A call that has returned has no lock. -/
theorem not_locking_of_returns {d : Errand} {result : Hub.Return} (returns : d.Returns result) :
    d.isEntering = false ∧ d.isOnRound = false := by
  cases returns <;> exact ⟨rfl, rfl⟩

namespace Traffic

/-- The steps of handler `n`, and of all calls but the first so many. -/
inductive Event.IsOwn (n calls : Nat) : Event → Prop where
  | handle : IsOwn n calls (.handle n)
  | proceed {call : Nat} (own : calls ≤ call) : IsOwn n calls (.proceed call)
  | setOut {call : Nat} {order : List SessionId} (own : calls ≤ call) :
      IsOwn n calls (.setOut call order)

/-- What the hub and socket `n` come to if only its handler and the calls of that
    handler take steps. -/
def Alone (sockets : List Socket) (n calls : Nat) (f : Foyer) (s : Socket) (f' : Foyer)
    (s' : Socket) : Prop :=
  ∃ events, (∀ e ∈ events, e.IsOwn n calls) ∧
    run? ⟨f, sockets.set n s⟩ events = some ⟨f', sockets.set n s'⟩

namespace Alone

variable {sockets : List Socket} {n calls : Nat} {f f' f'' : Foyer} {s s' s'' : Socket}
  {id : SessionId}

theorem refl : Alone sockets n calls f s f s := ⟨[], nofun, rfl⟩

theorem trans (first : Alone sockets n calls f s f' s')
    (second : Alone sockets n calls f' s' f'' s'') :
    Alone sockets n calls f s f'' s'' := by
  obtain ⟨before, own, run⟩ := first
  obtain ⟨after, own', run'⟩ := second
  refine ⟨before ++ after, fun e there => ?_, by rw [runs.append, run, Option.bind_some, run']⟩
  exact (List.mem_append.mp there).elim (own e) (own' e)

theorem step {e : Event} (own : e.IsOwn n calls)
    (step : step? ⟨f, sockets.set n s⟩ e = some ⟨f', sockets.set n s'⟩) :
    Alone sockets n calls f s f' s' :=
  ⟨[e], fun _ there => List.mem_singleton.mp there ▸ own, runs.single step⟩

theorem proceed {steps : List Foyer.Event} {call : Nat} (later : calls ≤ call)
    (own : ∀ e ∈ steps, e.call? = some call) (run : f.run? steps = some f') :
    Alone sockets n calls f s f' s := by
  induction steps generalizing f with
  | nil =>
      cases run
      exact .refl
  | cons d rest ih =>
      rw [Foyer.runs.cons, Option.bind_eq_some_iff] at run
      obtain ⟨between, happens, run⟩ := run
      have onward := ih (fun e there => own e (List.mem_cons_of_mem _ there)) run
      have first : d.call? = some call := own d List.mem_cons_self
      cases d with
      | proceed m =>
          cases first
          exact .trans
            (.step (.proceed later) (Option.map_eq_some_iff.mpr ⟨between, happens, rfl⟩)) onward
      | setOut m order =>
          cases first
          exact .trans
            (.step (.setOut later) (Option.map_eq_some_iff.mpr ⟨between, happens, rfl⟩)) onward
      | begin | write | transport => cases first

variable (inside : n < sockets.length)

include inside

theorem turn (turn : s.turn? f = some (none, s')) : Alone sockets n calls f s f s' := by
  refine .step .handle ?_
  simp only [step?, List.getElem?_set_self inside, turn, List.set_set, Option.bind_eq_bind,
    Option.bind_some]

variable (sound : f.Sound) (free : f.isWritable) (later : calls ≤ f.errands.length)

include sound free later

/-- The handler makes a call, waits for it to return, and goes on. -/
theorem call {command : Hub.Command} (calling : s.turn? f = some (some command, s'))
    (returned : ∀ hub last, last.Returns (f.hub.call command).1 →
      s'.turn? ⟨hub, f.errands ++ [last]⟩ = some (none, s'')) :
    ∃ last, let after := ⟨(f.hub.call command).2, f.errands ++ [last]⟩
      Alone sockets n calls f s after s'' ∧ after.Sound ∧ after.isWritable := by
  obtain ⟨begun, steps, last, begins, own, run, returns⟩ := Foyer.undisturbed sound free command
  have first : step? ⟨f, sockets.set n s⟩ (.handle n) = some ⟨begun, sockets.set n s'⟩ := by
    simp only [step?, List.getElem?_set_self inside, calling, begins, List.set_set,
      Option.bind_eq_bind, Option.bind_some]
  have unlocked := not_locking_of_returns returns
  exact ⟨last,
    .trans (.step .handle first)
    (.trans (.proceed later own run) (.turn inside (returned _ last returns))),
    (sound.step begins).run run, Foyer.isWritable_append free unlocked.1 unlocked.2⟩

/-- A handler that is to go disconnects its session. -/
theorem leave (stand : s.handler = .going id) :
    ∃ last, Alone sockets n calls f s ⟨(f.hub.disconnect id).2, f.errands ++ [last]⟩
      { s with handler := .finished } := by
  have departs :
      s.turn? f = some (some (.disconnect id),
      { s with handler := .leaving id f.errands.length }) := by
    simp only [Socket.turn?, stand]
  have finishes (hub : Hub) (last : Errand)
      (returns : last.Returns (f.hub.call (.disconnect id)).1) :
      Socket.turn? ⟨hub, f.errands ++ [last]⟩ { s with handler := .leaving id f.errands.length } =
        some (none, { s with handler := .finished }) := by
    have removed : last.Returns (.removed (f.hub.disconnect id).1) := returns
    cases removed
    simp only [Socket.turn?, List.getElem?_concat_length]
  obtain ⟨last, alone, -⟩ := call inside sound free later departs finishes
  exact ⟨last, alone⟩

/-- A handler that has read a text has the hub answer it. -/
theorem post {message : Text} (stand : s.handler = .posting id message) :
    ∃ last, let after := ⟨(f.hub.inbound id message).2, f.errands ++ [last]⟩
      Alone sockets n calls f s after { s with handler :=
        match (f.hub.inbound id message).1 with
        | .ok _ => .reading id
        | .error _ => .going id } ∧ after.Sound ∧ after.isWritable := by
  have posts : s.turn? f = some (some (.inbound id message),
      { s with handler := .passing id f.errands.length }) := by simp only [Socket.turn?, stand]
  refine call inside sound free later posts ?_
  intro hub last returns
  have answered : last.Returns (.answered (f.hub.inbound id message).1) := returns
  generalize (f.hub.inbound id message).1 = result at answered
  cases answered with
  | unknownSender => simp only [Socket.turn?, List.getElem?_concat_length, Hub.Service.result?]
  | @answered sender message delivery =>
      simp only [Socket.turn?, List.getElem?_concat_length, Hub.Service.result?]
      cases delivery.delivered <;> rfl

/-- A handler does with an arrival what `handle` does. -/
theorem handle {a : Arrival} {rest : List Arrival} (stand : s.handler = .reading id)
    (next : s.arrivals = a :: rest) :
    ∃ made, Alone sockets n calls f s ⟨(Web.handle f.hub id a).2, f.errands ++ made⟩
      ⟨s.entry, if (Web.handle f.hub id a).1 then .reading id else .finished, rest,
        s.read ++ [a]⟩ := by
  have goes := leave (s := ⟨s.entry, .going id, rest, s.read ++ [a]⟩) inside sound free later rfl
  cases a with
  | text message =>
      have reads :
          s.turn? f =
            some (none, ⟨s.entry, .posting id message, rest, s.read ++ [.text message]⟩) := by
        simp only [Socket.turn?, stand, next]
      obtain ⟨last, posted, sound, free⟩ :=
        post inside sound free later (s := ⟨s.entry, .posting id message, _, _⟩) rfl
      have passed := (Alone.turn inside reads).trans posted
      cases result : f.hub.inbound id message with
      | mk answer hub =>
          simp only [result] at passed sound free
          cases answer with
          | ok reply =>
              have taken : Web.handle f.hub id (.text message) = (true, hub) := by
                simp only [Web.handle, receive, result]
              rw [taken]
              exact ⟨[last], passed⟩
          | error error =>
              have ended :
                  Web.handle f.hub id (.text message) = (false, (hub.disconnect id).2) := by
                simp only [Web.handle, receive, result]
              have more : calls ≤ (f.errands ++ [last]).length := later.trans (by simp)
              obtain ⟨gone, left⟩ :=
                leave inside sound free more (s := ⟨s.entry, .going id, rest, _⟩) rfl
              rw [List.append_assoc] at left
              rw [ended]
              exact ⟨_, passed.trans left⟩
  | binary | ping | pong =>
      refine ⟨[], ?_⟩
      rw [List.append_nil]
      refine .turn inside ?_
      simp only [Socket.turn?, stand, next]
      rfl
  | close | failure | ended =>
      obtain ⟨last, left⟩ := goes
      refine ⟨[last], .trans (.turn inside ?_) left⟩
      simp only [Socket.turn?, stand, next]
      rfl

end Alone

/-- Left alone, a handler comes from an arrival to where `handle` comes in one go. -/
theorem handle_alone {t : Traffic} {n : Nat} {s : Socket} {id : SessionId} {a : Arrival}
    {rest : List Arrival} (sound : t.foyer.Sound) (free : t.foyer.isWritable)
    (here : t.sockets[n]? = some s) (stand : s.handler = .reading id)
    (next : s.arrivals = a :: rest) :
    ∃ events made, (∀ e ∈ events, e.IsOwn n t.foyer.errands.length) ∧
      t.run? events = some ⟨⟨(handle t.foyer.hub id a).2, t.foyer.errands ++ made⟩, t.sockets.set n
        ⟨s.entry, if (handle t.foyer.hub id a).1 then .reading id else .finished, rest,
          s.read ++ [a]⟩⟩ := by
  obtain ⟨inside, same⟩ := List.getElem?_eq_some_iff.mp here
  obtain ⟨made, events, own, run⟩ := Alone.handle inside sound free (Nat.le_refl _) stand next
  have unchanged : t.sockets.set n s = t.sockets := by rw [← same, List.set_getElem_self]
  rw [unchanged] at run
  exact ⟨events, made, own, run⟩

end Traffic

end BoxOffice.Web
