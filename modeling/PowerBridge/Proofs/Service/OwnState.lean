import PowerBridge.Proofs.Service.Commands
import PowerBridge.Proofs.Service.Elementary
import PowerBridge.Proofs.Service.Primary

/-!
# What commands do to the service's own state

Beside its transport the service keeps three things: whether it is up, the scope of the next
shutdown, and the interrupt that the operating system has registered. Three kinds of commands change
them: a setup whose channel can be opened, a shutdown request that only sets the scope, and the
registration of an interrupt, each also as a secure monitor call where there is one. Every other
command leaves all three as they are, whatever the controller answers.

Main statement: `Command.ownState_perform`.
-/

namespace PowerBridge

open Eemi (Api Ioctl ShutdownKind)
open Link (Transport)
open Smc (CallerRegisters argumentOf functionOf)

variable {T α : Type}

/-! ## The service's own state -/

namespace Service

/-- What the service keeps beside its transport. -/
structure OwnState where
  up : Bool
  scope : UInt32
  sgi : SgiRegistration

/-- A change of what the service keeps. -/
inductive Change where
  | cameUp
  | scopeSet (scope : UInt32)
  /-- An interrupt is registered, or the registration is reset; this may fail. -/
  | sgiRegistered (sgi : UInt32) (reset : Bool)

namespace Change

/-- The state after a change, on a platform with the given limit of interrupts. -/
def apply (limit : UInt32) (s : OwnState) : Change → OwnState
  | cameUp => { s with up := true }
  | scopeSet scope => { s with scope }
  | sgiRegistered sgi reset => { s with sgi := (s.sgi.register sgi reset limit).2 }

/-- The scope that is set. -/
def scope? : Change → Option UInt32
  | scopeSet scope => some scope
  | _ => none

/-- The interrupt to be registered, and whether the registration is reset instead. -/
def registration? : Change → Option (UInt32 × Bool)
  | sgiRegistered sgi reset => some (sgi, reset)
  | _ => none

end Change

/-- The change that a call makes. -/
def Call.change? : Call → Option Change
  | .systemShutdown kind subtype => if kind = 2 then some (.scopeSet subtype) else none
  | .ioctl _ id first second =>
    if id = 25 then some (.sgiRegistered first (decide (second = 1))) else none
  | _ => none

/-- The change that a secure monitor call makes if the service takes it: 12 is the number of
shutdown requests, 34 that of device specific controls. -/
def smcChange? (x : CallerRegisters) : Option Change :=
  let number := (functionOf x).number
  if number = 12 ∧ argumentOf x 0 = 2 then some (.scopeSet (argumentOf x 1))
  else if number = 34 ∧ argumentOf x 1 = 25 then
    some (.sgiRegistered (argumentOf x 2) (decide (argumentOf x 3 = 1)))
  else none

end Service

open Service (Call Change OwnState smcChange?)

/-- What the service keeps beside its transport. -/
def Machine.ownState (m : Machine T) : OwnState :=
  { up := m.up
    scope := m.scope
    sgi := m.sgi }

/-- Whether the channel of the primary processor can be opened. -/
def Service.opens [Transport T] (env : Env) (m : Machine T) : Bool :=
  match env.platform.processors.head? with
  | none => false
  | some first =>
    match Transport.openChannel first.channel m.transport with
    | .ok (.ok (), _) => true
    | _ => false

/-- The change that a command makes on a machine. A secure monitor call is served only while the
service is up, and by way of the router only if it is accepted. -/
def Command.change? [Transport T] (env : Env) (m : Machine T) : Command → Option Change
  | .setup => if Service.opens env m then some .cameUp else none
  | .smc _ x => if m.up ∧ Service.Accepts (functionOf x) then smcChange? x else none
  | .serviceSmc _ x => if m.up then smcChange? x else none
  | .call _ c => c.change?
  | .registerSgi sgi reset => some (.sgiRegistered sgi reset)
  | _ => none

/-! ## Effects on the own state -/

/-- The change that an effect makes, if it concerns the service's own state. -/
def Effect.change? : Effect → Option Change
  | .cameUp => some .cameUp
  | .scopeSet scope => some (.scopeSet scope)
  | .sgiRegistered sgi reset => some (.sgiRegistered sgi reset)
  | .exchanged .. | .channelOpened _ | .interruptEnabled _ | .callbackCleared _ => none

variable [Transport T]

/-- An action without effects on the service's own state leaves it as it is. -/
theorem Performs.ownState_eq {may : Effect → Prop} {n : Nat} {x : Act T α} (h : Performs may n x)
    (never : ∀ effect, may effect → effect.change? = none) (env : Env) (m : Machine T) :
    (x env m).machine.ownState = m.ownState := by
  refine h.invariant (I := fun m' => m'.ownState = m.ownState) (fun change same => ?_) rfl
  cases change with
  | transport t => exact same
  | cameUp h => cases never _ h
  | scopeSet h => cases never _ h
  | sgiRegistered h => cases never _ h

namespace Service

/-! ## Calls -/

/-- A call that may make a change is one that makes it. -/
theorem Call.change?_of_allows {c : Call} {world : World} {effect : Effect}
    (allowed : c.Allows world effect) : effect.change? = none ∨ c.change? = effect.change? := by
  cases effect with
  | scopeSet scope =>
    cases (show c = .systemShutdown ShutdownKind.setScope.code scope from allowed)
    exact .inr rfl
  | sgiRegistered sgi reset =>
    obtain ⟨device, second, rfl, rfl⟩ := allowed
    exact .inr rfl
  | cameUp => exact (show False from allowed).elim
  | _ => exact .inl rfl

theorem machine_systemShutdown {kind : UInt32} (setting : kind = 2) (subtype : UInt32)
    (world : World) (env : Env) (m : Machine T) :
    (systemShutdown kind subtype world env m).machine = { m with scope := subtype } := by
  have scope : Coded.ofCode? kind = some ShutdownKind.setScope :=
    Coded.ofCode?_eq_some_iff.2 setting.symm
  rw [systemShutdown, if_pos scope]
  rfl

omit [Transport T] in
theorem registerSgi_apply (sgi : UInt32) (reset : Bool) (env : Env) (m : Machine T) :
    registerSgi sgi reset env m =
      ⟨.ok (m.sgi.register sgi reset env.platform.sgiLimit).1,
        { m with sgi := (m.sgi.register sgi reset env.platform.sgiLimit).2 }, [], []⟩ := rfl

/-- A registration that fails is logged, and reported as wrong arguments. -/
theorem ioctl_setSgi_apply (first second : UInt32) (world : World) (env : Env) (m : Machine T) :
    ∃ logs,
      ioctl 25 first second world env m =
        ⟨.ok (match (m.sgi.register first (decide (second = 1)) env.platform.sgiLimit).1 with
            | .ok () => .ok Eemi.zeroWord
            | .error _ => .error .args),
          { m with
            sgi := (m.sgi.register first (decide (second = 1)) env.platform.sgiLimit).2 },
          [], logs⟩ := by
  have control : Coded.ofCode? 25 = some Ioctl.setSgi := Coded.ofCode?_code Ioctl.setSgi
  simp only [ioctl, control]
  rw [Act.bind_of_ok (registerSgi_apply first _ env m)]
  cases (m.sgi.register first (decide (second = 1)) env.platform.sgiLimit).1 with
  | ok _ => exact ⟨_, rfl⟩
  | error e => exact ⟨_, rfl⟩

theorem machine_ioctl {id : UInt32} (setting : id = 25) (first second : UInt32) (world : World)
    (env : Env) (m : Machine T) :
    (ioctl id first second world env m).machine =
      { m with sgi := (m.sgi.register first (decide (second = 1)) env.platform.sgiLimit).2 } := by
  obtain ⟨logs, done⟩ := ioctl_setSgi_apply first second world env m
  rw [setting, done]

/-- A call makes its change, and no other. -/
theorem Call.ownState_perform (c : Call) (world : World) (env : Env) (m : Machine T) :
    (c.perform world env m).machine.ownState =
      c.change?.elim m.ownState (Change.apply env.platform.sgiLimit m.ownState) := by
  cases changes : c.change? with
  | none =>
    refine (c.performs_perform world).ownState_eq (fun effect allowed => ?_) env m
    rcases Call.change?_of_allows allowed with none | same
    · exact none
    · exact same.symm.trans changes
  | some change =>
    cases c with
    | systemShutdown kind subtype =>
      by_cases setting : kind = 2
      · rw [Call.change?, if_pos setting] at changes
        cases changes
        refine (congrArg Machine.ownState (Act.machine_bind_pure _ _ env m)).trans ?_
        rw [machine_systemShutdown setting]
        rfl
      · rw [Call.change?, if_neg setting] at changes
        cases changes
    | ioctl device id first second =>
      by_cases setting : id = 25
      · rw [Call.change?, if_pos setting] at changes
        cases changes
        refine (congrArg Machine.ownState (Act.machine_bind_pure _ _ env m)).trans ?_
        rw [machine_ioctl setting]
        rfl
      · rw [Call.change?, if_neg setting] at changes
        cases changes
    -- no other call makes a change
    | _ => cases changes

/-! ## Secure monitor calls -/

omit [Transport T] in
/-- The change of a call that is given by registers is read off the registers. -/
theorem Call.change?_ofRegisters {x : CallerRegisters} {api : Api}
    (number : (functionOf x).number.toUInt32 = api.code) :
    (Call.ofRegisters api x).change? = smcChange? x := by
  have named (other : Api) (n : UInt16) (code : n.toUInt32 = other.code) :
      (functionOf x).number = n ↔ api = other := by
    rw [← UInt16.toUInt32_inj, number, code]
    exact ⟨Api.code_injective api other, congrArg Api.code⟩
  have shutdown := named .systemShutdown 12 rfl
  have control := named .ioctl 34 rfl
  unfold smcChange?
  simp only [shutdown, control]
  cases api with
  | systemShutdown => simp [Call.ofRegisters, Call.ofWords, Call.change?]
  | ioctl => simp [Call.ofRegisters, Call.ofWords, Call.change?]
  | _ => rfl

omit [Transport T] in
theorem smcChange?_of_unknown {x : CallerRegisters}
    (unknown : (Coded.ofCode? (functionOf x).number.toUInt32 : Option Api) = none) :
    smcChange? x = none := by
  rw [Coded.ofCode?_eq_none_iff] at unknown
  have shutdown : (functionOf x).number ≠ 12 :=
    fun same => unknown .systemShutdown (congrArg UInt16.toUInt32 same).symm
  have control : (functionOf x).number ≠ 34 :=
    fun same => unknown .ioctl (congrArg UInt16.toUInt32 same).symm
  unfold smcChange?
  simp only [shutdown, control, false_and, if_false]

theorem ownState_handleSmc (world : World) (x : CallerRegisters) (env : Env) (m : Machine T) :
    (handleSmc world x env m).machine.ownState =
      (if m.up then smcChange? x else none).elim m.ownState
        (Change.apply env.platform.sgiLimit m.ownState) := by
  cases up : m.up with
  | false =>
    rw [handleSmc_of_down world x env up]
    rfl
  | true =>
    rw [if_pos rfl]
    cases known : (Coded.ofCode? (functionOf x).number.toUInt32 : Option Api) with
    | none =>
      obtain ⟨logs, refused⟩ := handleSmc_of_unknown world env m known
      rw [refused, smcChange?_of_unknown known]
      rfl
    | some api =>
      have number := (Coded.code_of_ofCode? known).symm
      rw [machine_handleSmc world env up number, Call.ownState_perform,
        Call.change?_ofRegisters number]

theorem ownState_routeSmc (world : World) (x : CallerRegisters) (env : Env) (m : Machine T) :
    (routeSmc world x env m).machine.ownState =
      (if m.up ∧ Accepts (functionOf x) then smcChange? x else none).elim m.ownState
        (Change.apply env.platform.sgiLimit m.ownState) := by
  by_cases accepted : Accepts (functionOf x)
  · simp only [accepted, and_true]
    rw [routeSmc_of_accepts world accepted, ownState_handleSmc]
  · obtain ⟨logs, refused⟩ := routeSmc_of_not_accepts world accepted env m
    rw [refused, if_neg fun h => accepted h.2]
    rfl

/-! ## Setup -/

/-- Setup brings the service up exactly if it can open the channel of the primary processor. A setup
that fails does not take it down. -/
theorem ownState_setup (env : Env) (m : Machine T) :
    (setup env m).machine.ownState =
      (if opens env m then some Change.cameUp else none).elim m.ownState
        (Change.apply env.platform.sgiLimit m.ownState) := by
  cases listed : env.platform.processors.head? with
  | none =>
    have closed : opens env m = false := by rw [opens, listed]
    rw [setup_of_no_processors (List.head?_eq_none_iff.1 listed) m, closed]
    rfl
  | some first =>
    match opened : Transport.openChannel first.channel m.transport with
    | .error why =>
      have closed : opens env m = false := by rw [opens, listed]; simp only [opened]
      rw [closed, setup_of_fault listed opened]
      rfl
    | .ok (.error e, t) =>
      have closed : opens env m = false := by rw [opens, listed]; simp only [opened]
      rw [closed, setup_of_refused listed opened]
      rfl
    | .ok (.ok (), t) =>
      have open_ : opens env m = true := by rw [opens, listed]; simp only [opened]
      rw [open_, setup_of_opened listed opened]
      -- nothing that follows changes the state any more
      have rest : Performs (fun effect => effect.change? = none) 1
          (bringUp first.channel : Act T (Except Link.OpenError Unit)) :=
        performs_bringUp rfl fun _ _ _ => rfl
      exact rest.ownState_eq (fun _ unchanged => unchanged) env _

end Service

/-! ## Commands -/

/-- **A command makes its change, and no other**: what the service keeps is changed by setups,
shutdown requests and registrations alone, whatever the controller answers. -/
theorem Command.ownState_perform (command : Command) (env : Env) (m : Machine T) :
    (command.perform env m).machine.ownState =
      (command.change? env m).elim m.ownState
        (Change.apply env.platform.sgiLimit m.ownState) := by
  have lifted {β : Type} (x : Act T β) (g : β → Answer) :=
    congrArg Machine.ownState (Act.machine_bind_pure x g env m)
  have unchanged (never : ∀ effect, command.Allows effect → effect.change? = none) :=
    command.performs_perform.ownState_eq never env m
  cases command with
  | setup => exact (lifted _ _).trans (Service.ownState_setup env m)
  | smc world x => exact (lifted _ _).trans (Service.ownState_routeSmc world x env m)
  | serviceSmc world x => exact (lifted _ _).trans (Service.ownState_handleSmc world x env m)
  | call world c => exact (lifted _ _).trans (c.ownState_perform world env m)
  | registerSgi sgi reset => rfl
  | _ =>
    refine unchanged fun effect allowed => ?_
    cases effect <;> first | rfl | exact (show False from allowed).elim

/-- Only a setup that can open the channel brings the service up. -/
theorem Command.change?_eq_cameUp_iff {command : Command} {env : Env} {m : Machine T} :
    command.change? env m = some .cameUp ↔ command = .setup ∧ Service.opens env m = true := by
  have served (x : CallerRegisters) : smcChange? x ≠ some .cameUp := by
    unfold smcChange?
    dsimp only
    split
    · simp
    · split <;> simp
  cases command with
  | setup => simp [change?]
  | smc world x => simp [change?, served]
  | serviceSmc world x => simp [change?, served]
  | call world c =>
    cases c <;> simp [change?, Call.change?]
  | _ => simp [change?]

/-- Nothing takes the service down. -/
theorem Command.up_perform_iff {command : Command} {env : Env} {m : Machine T} :
    (command.perform env m).machine.up = true ↔
      m.up = true ∨ command = .setup ∧ Service.opens env m = true := by
  have up : (command.perform env m).machine.up = _ :=
    congrArg OwnState.up (command.ownState_perform env m)
  rw [up, ← Command.change?_eq_cameUp_iff]
  cases command.change? env m with
  | none => simp [Machine.ownState]
  | some change => cases change <;> simp [Change.apply, Machine.ownState]

end PowerBridge
