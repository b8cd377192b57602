import PowerBridge.Machine.Act

/-!
# Sequences of actions

What a sequence comes to once its first action is known. An action that only looks at the machine or
at its environment drops out of the sequence; a log record is put in front of the records of the
rest; after a halt there is no rest. These equations are the only place where the sequencing of
outcomes is opened. Later proofs cite them, and follow an action along its text.

Two kinds of properties pass from the parts of a sequence to the whole. `TracedBy P` speaks of what
is seen on the way from one machine to another: that some frame is never written, that a field is
kept, that the events account for what became of the transport. `Succeeds I env x Q` says that an
action does not halt, neither by a fault nor in a wait that never ends: from every machine whose
transport satisfies `I` the action `x` ends with a value, of which `Q` holds, and leaves a transport
that satisfies `I` again.

Main statements: `Act.TracedBy.bind`, `Act.Succeeds.bind`.
-/

namespace PowerBridge

variable {T α β : Type}

namespace Act

/-! ## Looking -/

theorem env_bind (f : Env → Act T α) (env : Env) (m : Machine T) :
    (Act.env >>= f) env m = f env env m := rfl

theorem machine_bind (f : Machine T → Act T α) (env : Env) (m : Machine T) :
    (Act.machine >>= f) env m = f m env m := rfl

theorem log_bind (level : Log.Level) (message : String) (f : Unit → Act T α) (env : Env)
    (m : Machine T) :
    (Act.log level message >>= f) env m =
      ⟨(f () env m).ending, (f () env m).machine, (f () env m).events,
        env.filter.keep [{ level, message }] ++ (f () env m).logs⟩ := rfl

/-- An event is put in front of those of the rest. -/
theorem emit_bind (event : Event) (f : Unit → Act T α) (env : Env) (m : Machine T) :
    (Act.emit event >>= f) env m =
      ⟨(f () env m).ending, (f () env m).machine, event :: (f () env m).events,
        (f () env m).logs⟩ := rfl

/-! ## Halting -/

theorem halt_bind (why : Halt) (f : α → Act T β) : (Act.halt why >>= f) = Act.halt why := rfl

theorem orFault_ok (a : α) : (Act.orFault (.ok a) : Act T α) = pure a := rfl

theorem orFault_error (why : Fault) :
    (Act.orFault (.error why) : Act T α) = Act.halt (.fault why) := rfl

/-- An action that stands for a value or a fault is not seen, and leaves the machine alone. -/
theorem orFault_apply (value : Except Fault α) (env : Env) (m : Machine T) :
    Act.orFault value env m = ⟨value.mapError .fault, m, [], []⟩ := by
  cases value <;> rfl

/-! ## Operations of the transport -/

/-- What an operation of the transport is seen by is said before it or after it. -/
theorem events_transport (operation : T → Except Fault (α × T)) (env : Env) (m : Machine T) :
    (Act.transport operation env m).events = [] := by
  rw [Act.transport]
  split <;> rfl

/-- An operation of the transport that is seen by an event. -/
theorem seen_of_ok (event : Event) {operation : T → Except Fault (α × T)} (env : Env)
    {m : Machine T} {a : α} {t : T} (done : operation m.transport = .ok (a, t)) :
    (Act.emit event >>= fun _ => Act.transport operation) env m =
      ⟨.ok a, { m with transport := t }, [event], []⟩ := by
  rw [emit_bind, Act.transport, done]

/-- A fault of the transport. It is seen what was tried. -/
theorem seen_of_error (event : Event) {operation : T → Except Fault (α × T)} (env : Env)
    {m : Machine T} {why : Fault} (faulted : operation m.transport = .error why) :
    (Act.emit event >>= fun _ => Act.transport operation) env m =
      ⟨.error (.fault why), m, [event], []⟩ := by
  rw [emit_bind, Act.transport, faulted]

/-- An operation of the transport that gives nothing back. -/
theorem writing_of_ok (event : Event) {operation : T → Except Fault T} (env : Env)
    {m : Machine T} {t : T} (done : operation m.transport = .ok t) :
    (Act.emit event >>= fun _ => Act.transport fun t => return ((), ← operation t)) env m =
      ⟨.ok (), { m with transport := t }, [event], []⟩ :=
  seen_of_ok event env (congrArg (Except.map fun t => ((), t)) done)

theorem writing_of_error (event : Event) {operation : T → Except Fault T} (env : Env)
    {m : Machine T} {why : Fault} (faulted : operation m.transport = .error why) :
    (Act.emit event >>= fun _ => Act.transport fun t => return ((), ← operation t)) env m =
      ⟨.error (.fault why), m, [event], []⟩ :=
  seen_of_error event env (congrArg (Except.map fun t => ((), t)) faulted)

/-- An operation of the transport that only looks at it. -/
theorem looking_of_ok (event : Event) {value : T → Except Fault α} (env : Env) {m : Machine T}
    {a : α} (found : value m.transport = .ok a) :
    (Act.emit event >>= fun _ => Act.transport fun t => return (← value t, t)) env m =
      ⟨.ok a, m, [event], []⟩ :=
  seen_of_ok event env (congrArg (Except.map fun a => (a, m.transport)) found)

/-- A poll is seen with its answer. -/
theorem isBusy_of_ok [Link.Transport T] {channel : Link.Channel} (env : Env) {m : Machine T}
    {busy : Bool} {t : T} (polled : Link.Transport.isBusy channel m.transport = .ok (busy, t)) :
    Act.isBusy channel env m =
      ⟨.ok busy, { m with transport := t }, [.link channel (.polled busy)], []⟩ := by
  rw [Act.isBusy, bind_apply, Act.transport, polled]
  rfl

/-! ## Endings -/

theorem ending_bind_pure (x : Act T α) (g : α → β) (env : Env) (m : Machine T) :
    ((x >>= fun a => pure (g a)) env m).ending = (x env m).ending.map g := by
  rw [bind_apply]
  rcases x env m with ⟨ending, m', events, logs⟩
  cases ending <;> rfl

theorem events_bind_pure (x : Act T α) (g : α → β) (env : Env) (m : Machine T) :
    ((x >>= fun a => pure (g a)) env m).events = (x env m).events := by
  rw [bind_apply]
  rcases x env m with ⟨ending, m', events, logs⟩
  cases ending with
  | error why => rfl
  | ok a => exact List.append_nil events

theorem machine_bind_pure (x : Act T α) (g : α → β) (env : Env) (m : Machine T) :
    ((x >>= fun a => pure (g a)) env m).machine = (x env m).machine := by
  rw [bind_apply]
  rcases x env m with ⟨ending, m', events, logs⟩
  cases ending <;> rfl

/-- The outcome of a sequence whose first action ends with a value. -/
theorem bind_of_ok {x : Act T α} {f : α → Act T β} {env : Env} {m m' : Machine T} {a : α}
    {events : List Event} {logs : List Log.Record} (h : x env m = ⟨.ok a, m', events, logs⟩) :
    (x >>= f) env m =
      ⟨(f a env m').ending, (f a env m').machine, events ++ (f a env m').events,
        logs ++ (f a env m').logs⟩ := by
  rw [bind_apply, h, Outcome.andThen_ok]

/-- The outcome of a sequence whose first action halts. -/
theorem bind_of_error {x : Act T α} {f : α → Act T β} {env : Env} {m m' : Machine T} {why : Halt}
    {events : List Event} {logs : List Log.Record}
    (h : x env m = ⟨.error why, m', events, logs⟩) :
    (x >>= f) env m = ⟨.error why, m', events, logs⟩ := by
  rw [bind_apply, h, Outcome.andThen_error]

end Act

/-! ## What is seen on the way from one machine to another -/

/-- A property of what is seen between two machines that holds where nothing happens, and passes to
sequences. -/
structure Composes (P : Machine T → List Event → Machine T → Prop) : Prop where
  nil : ∀ m, P m [] m
  append : ∀ {m m' m'' : Machine T} {earlier later : List Event},
    P m earlier m' → P m' later m'' → P m (earlier ++ later) m''

namespace Composes

/-- That an invariant is kept. -/
theorem invariant (I : Machine T → Prop) : Composes fun m _ m' => I m → I m' where
  nil _ h := h
  append first rest h := rest (first h)

/-- That every event is of some kind. -/
theorem allEvents (p : Event → Prop) :
    Composes fun (_ : Machine T) events _ => ∀ event ∈ events, p event where
  nil _ _ h := absurd h List.not_mem_nil
  append first rest event mem := by
    rcases List.mem_append.1 mem with earlier | later
    · exact first event earlier
    · exact rest event later

end Composes

namespace Act

/-- What is seen of an action has a property, whatever machine it starts from. -/
def TracedBy (P : Machine T → List Event → Machine T → Prop) (env : Env) (x : Act T α) : Prop :=
  ∀ m, P m (x env m).events (x env m).machine

namespace TracedBy

variable {P : Machine T → List Event → Machine T → Prop} {env : Env}

/-- An action that is not seen, and leaves the machine alone. -/
theorem of_silent (composes : Composes P) {x : Act T α}
    (silent : ∀ m, (x env m).events = [] ∧ (x env m).machine = m) : TracedBy P env x := by
  intro m
  rw [(silent m).1, (silent m).2]
  exact composes.nil m

theorem pure (composes : Composes P) (a : α) : TracedBy P env (Pure.pure a : Act T α) :=
  of_silent composes fun _ => ⟨rfl, rfl⟩

theorem halt (composes : Composes P) (why : Halt) : TracedBy P env (Act.halt why : Act T α) :=
  of_silent composes fun _ => ⟨rfl, rfl⟩

theorem bind (composes : Composes P) {x : Act T α} {f : α → Act T β} (first : TracedBy P env x)
    (rest : ∀ a, TracedBy P env (f a)) : TracedBy P env (x >>= f) := by
  intro m
  have before := first m
  rw [bind_apply]
  rcases h : x env m with ⟨ending, m', events, logs⟩
  rw [h] at before
  cases ending with
  -- what has been seen before a halt stands
  | error why => exact before
  | ok a => exact composes.append before (rest a m')

end TracedBy

/-! ## Actions that end with a value -/

/-- An action ends with a value that has a property, if the transport satisfies an invariant, which
it keeps. -/
def Succeeds (I : T → Prop) (env : Env) (x : Act T α) (Q : α → Prop) : Prop :=
  ∀ m : Machine T, I m.transport →
    ∃ a, (x env m).ending = .ok a ∧ Q a ∧ I (x env m).machine.transport

namespace Succeeds

variable {I : T → Prop} {env : Env} {Q : α → Prop} {R : β → Prop}

/-! ### Sequences -/

theorem pure {a : α} (h : Q a) : Succeeds I env (Pure.pure a) Q :=
  fun _ inv => ⟨a, rfl, h, inv⟩

/-- **A sequence succeeds if its parts do.** The rest may rely on what the first part gives. -/
theorem bind {x : Act T α} {f : α → Act T β} (first : Succeeds I env x Q)
    (rest : ∀ a, Q a → Succeeds I env (f a) R) : Succeeds I env (x >>= f) R := by
  intro m inv
  obtain ⟨a, ended, holds, kept⟩ := first m inv
  rw [bind_apply]
  rcases h : x env m with ⟨ending, m', events, logs⟩
  rw [h] at ended kept
  cases ended
  -- the rest starts where the first part has ended
  exact rest a holds m' kept

/-- A first part that succeeds whatever it gives. -/
theorem andThen {x : Act T α} {f : α → Act T β} (first : Succeeds I env x fun _ => True)
    (rest : ∀ a, Succeeds I env (f a) R) : Succeeds I env (x >>= f) R :=
  first.bind fun a _ => rest a

/-- Only the ending counts, and the transport that is left. -/
theorem congr {x y : Act T α}
    (same : ∀ m, (x env m).ending = (y env m).ending ∧ (x env m).machine = (y env m).machine)
    (h : Succeeds I env y Q) : Succeeds I env x Q := by
  intro m inv
  rw [(same m).1, (same m).2]
  exact h m inv

theorem congr_apply {x y : Act T α} (same : ∀ m, x env m = y env m) (h : Succeeds I env y Q) :
    Succeeds I env x Q :=
  h.congr fun m => ⟨congrArg Outcome.ending (same m), congrArg Outcome.machine (same m)⟩

/-- An action whose outcome is known from every machine. -/
theorem of_outcome {x : Act T α}
    (done : ∀ m : Machine T, I m.transport → ∃ a t events logs, I t ∧
      x env m = ⟨.ok a, { m with transport := t }, events, logs⟩) :
    Succeeds I env x fun _ => True := by
  intro m inv
  obtain ⟨a, t, events, logs, kept, ended⟩ := done m inv
  rw [ended]
  exact ⟨a, rfl, trivial, kept⟩

/-! ### Primitive actions -/

theorem env_bind {f : Env → Act T α} (h : Succeeds I env (f env) Q) :
    Succeeds I env (Act.env >>= f) Q :=
  h

theorem log (level : Log.Level) (message : String) :
    Succeeds I env (Act.log level message) fun _ => True :=
  fun _ inv => ⟨(), rfl, trivial, inv⟩

theorem emit (event : Event) : Succeeds I env (Act.emit event) fun _ => True :=
  fun _ inv => ⟨(), rfl, trivial, inv⟩

/-- A change of the machine that has nothing to do with its transport. -/
theorem modify {change : Machine T → Machine T}
    (same : ∀ m, (change m).transport = m.transport) :
    Succeeds I env (Act.modify change) fun _ => True :=
  fun m inv => ⟨(), rfl, trivial, (same m).symm ▸ inv⟩

theorem orFault {value : Except Fault α} {a : α} (found : value = .ok a) (h : Q a) :
    Succeeds I env (Act.orFault value) Q := by
  rw [found]
  exact pure h

/-! ### Operations of the transport -/

theorem transport {operation : T → Except Fault (α × T)}
    (done : ∀ t, I t → ∃ a t', operation t = .ok (a, t') ∧ I t') :
    Succeeds I env (Act.transport operation) fun _ => True := by
  intro m inv
  obtain ⟨a, t, found, kept⟩ := done m.transport inv
  rw [Act.transport, found]
  exact ⟨a, rfl, trivial, kept⟩

/-- An operation that gives nothing back. -/
theorem writing {operation : T → Except Fault T}
    (done : ∀ t, I t → ∃ t', operation t = .ok t' ∧ I t') :
    Succeeds I env (Act.transport fun t => return ((), ← operation t)) fun _ => True := by
  refine transport fun t inv => ?_
  obtain ⟨t', wrote, kept⟩ := done t inv
  exact ⟨(), t', congrArg (Except.map fun t => ((), t)) wrote, kept⟩

/-- An operation that looks at the transport. -/
theorem looking {value : T → Except Fault α} (done : ∀ t, I t → ∃ a, value t = .ok a) :
    Succeeds I env (Act.transport fun t => return (← value t, t)) fun _ => True := by
  refine transport fun t inv => ?_
  obtain ⟨a, found⟩ := done t inv
  exact ⟨a, t, congrArg (Except.map fun a => (a, t)) found, inv⟩

end Succeeds

end Act

end PowerBridge
