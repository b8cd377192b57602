import PowerBridge.Proofs.Session.Reachable

/-!
# The inputs of a secure monitor call

A caller may fill eighteen registers, but a call takes its inputs from a few bits of them: the low
half of x0 without the hint about vector registers and without the bit that tells 64-bit calls from
32-bit ones, and x1 and x2. The router reads the fields of the identifier through a mask that leaves
both bits out, the service reads the number of the function and the four argument words. What else
is in the registers is seen in the text of the log at most.

So it has no influence, neither on the call nor on anything after it. Two runs in which the callers'
registers agree in the inputs, and all else is the same, pass through the same sessions and are
reported in the same way, but for the text of the log.

Main statements: `Service.accepts_congr`, `Service.Call.ofRegisters_congr`,
`Service.sameButText_routeSmc`, `Session.only_inputs_matter`.
-/

namespace PowerBridge

open Eemi (Api)
open Link (Transport)
open Smc (CallerRegisters FunctionId argumentOf functionOf)

variable {T α β : Type}

/-! ## Outcomes but for the log -/

/-- Outcomes that differ in the text of log records at most. -/
structure Outcome.SameButText (o o' : Outcome T α) : Prop where
  ending : o.ending = o'.ending
  machine : o.machine = o'.machine
  events : o.events = o'.events
  levels : o.logs.map Log.Record.level = o'.logs.map Log.Record.level

theorem Outcome.SameButText.refl (o : Outcome T α) : o.SameButText o :=
  ⟨rfl, rfl, rfl, rfl⟩

/-- Whether a record is written does not depend on its text. -/
theorem Log.Filter.levels_keep_singleton (f : Log.Filter) (level : Log.Level)
    (message message' : String) :
    (f.keep [{ level, message }]).map Log.Record.level =
      (f.keep [{ level, message := message' }]).map Log.Record.level := by
  by_cases written : f.admits level = true
  · simp [keep, written]
  · simp [keep, written]

/-- A record is logged with two texts, and nothing else is done. -/
theorem Act.sameButText_log (level : Log.Level) (message message' : String) (a : α) (env : Env)
    (m : Machine T) :
    ((Act.log level message >>= fun _ => pure a : Act T α) env m).SameButText
      ((Act.log level message' >>= fun _ => pure a : Act T α) env m) := by
  rw [Act.log_bind, Act.log_bind, Act.pure_apply, List.append_nil, List.append_nil]
  exact ⟨rfl, rfl, rfl, env.filter.levels_keep_singleton level message message'⟩

/-! ## Registers that ask for the same -/

/-- Registers that agree in all inputs of a call: in the identifier of the function, but for bits 16
and 30, and in x1 and x2. -/
structure Smc.SameInputs (x y : CallerRegisters) : Prop where
  function : (functionOf x).word &&& 0xbffeffff = (functionOf y).word &&& 0xbffeffff
  first : x.get ⟨1, by decide⟩ = y.get ⟨1, by decide⟩
  second : x.get ⟨2, by decide⟩ = y.get ⟨2, by decide⟩

namespace Service

open Smc (SameInputs)

variable {x y : CallerRegisters} (same : SameInputs x y)

include same

/-- A mask without the two bits sees the same function. -/
theorem word_and_congr {mask : UInt32} (without : 0xbffeffff &&& mask = mask) :
    (functionOf x).word &&& mask = (functionOf y).word &&& mask := by
  calc (functionOf x).word &&& mask
      = (functionOf x).word &&& 0xbffeffff &&& mask := by rw [UInt32.and_assoc, without]
    _ = (functionOf y).word &&& 0xbffeffff &&& mask := by rw [same.function]
    _ = (functionOf y).word &&& mask := by rw [UInt32.and_assoc, without]

/-- Both calls are routed to the service, or none. -/
theorem accepts_congr : Accepts (functionOf x) ↔ Accepts (functionOf y) := by
  rw [accepts_iff, accepts_iff, word_and_congr same rfl]

/-- Both identifiers are valid, or none. -/
theorem isValid_congr :
    (functionOf x).clearHint.isValid = (functionOf y).clearHint.isValid := by
  -- whether a call is a yielding one, and its reserved bits, are read through such masks
  have fast : (functionOf x).clearHint.kind ≠ .yielding ↔
      (functionOf y).clearHint.kind ≠ .yielding := by
    rw [FunctionId.kind_ne_yielding_iff, FunctionId.kind_ne_yielding_iff,
      FunctionId.clearHint_and _ _ rfl, FunctionId.clearHint_and _ _ rfl, word_and_congr same rfl]
  have yielding := Decidable.not_iff_not.1 fast
  have reserved : (functionOf x).clearHint.word &&& 0x00fe0000 =
      (functionOf y).clearHint.word &&& 0x00fe0000 := by
    rw [FunctionId.clearHint_and _ _ rfl, FunctionId.clearHint_and _ _ rfl,
      word_and_congr same rfl]
  rw [Bool.eq_iff_iff]
  simp only [FunctionId.isValid, Bool.or_eq_true, beq_iff_eq, yielding, reserved]

theorem number_congr : (functionOf x).number.toUInt32 = (functionOf y).number.toUInt32 := by
  rw [FunctionId.toUInt32_number, FunctionId.toUInt32_number, word_and_congr same rfl]

/-- Both calls are the same call of an API. -/
theorem Call.ofRegisters_congr (api : Api) : Call.ofRegisters api x = Call.ofRegisters api y := by
  have first : x[1] = y[1] := same.first
  have second : x[2] = y[2] := same.second
  have words (i : Nat) : argumentOf x i = argumentOf y i := by
    unfold argumentOf
    rw [first, second]
  simp only [Call.ofRegisters, words]

variable [Transport T] (world : World) (env : Env) (m : Machine T)

theorem sameButText_handleSmc :
    (handleSmc world x env m).SameButText (handleSmc world y env m) := by
  unfold handleSmc
  rw [Act.machine_bind, Act.machine_bind]
  by_cases up : m.up = true
  · simp only [if_pos up, ← number_congr same]
    cases (Coded.ofCode? (functionOf x).number.toUInt32 : Option Api) with
    -- the record of a call that is not known shows the whole identifier
    | none => exact Act.sameButText_log ..
    | some api =>
      simp only [Call.ofRegisters_congr same]
      exact .refl _
  · simp only [if_neg up]
    exact .refl _

/-- **Calls with the same inputs have the same outcome**, but for the text of the log. -/
theorem sameButText_routeSmc :
    (routeSmc world x env m).SameButText (routeSmc world y env m) := by
  by_cases accepted : Accepts (functionOf x)
  · rw [routeSmc_of_accepts world accepted,
      routeSmc_of_accepts world ((accepts_congr same).1 accepted)]
    exact sameButText_handleSmc same world env m
  · have refused := mt (accepts_congr same).2 accepted
    unfold routeSmc
    by_cases valid : (functionOf x).clearHint.isValid = true
    · -- the record of a call that nobody owns shows the whole identifier
      have unowned : ¬ (power (T := T)).owns (functionOf x).clearHint = true :=
        fun owned => accepted ⟨valid, owned⟩
      rw [isValid_congr same] at valid
      have unowned' : ¬ (power (T := T)).owns (functionOf y).clearHint = true :=
        fun owned => refused ⟨valid, owned⟩
      simp only [isValid_congr same, if_pos valid, if_neg unowned, if_neg unowned']
      exact Act.sameButText_log ..
    · rw [isValid_congr same] at valid
      simp only [isValid_congr same, if_neg valid]
      exact .refl _

end Service

/-! ## Reports but for the log -/

open Service (callerRegisters routeSmc)
open Smc (SameInputs)

/-- Reports that differ in the text of log records at most. -/
structure Report.SameButText (r r' : Report) : Prop where
  ending : r.ending = r'.ending
  events : r.events = r'.events
  levels : r.logs.map Log.Record.level = r'.logs.map Log.Record.level

theorem Act.sameButText_bind_pure {x y : Act T α} {env : Env} {m : Machine T}
    (same : (x env m).SameButText (y env m)) (g : α → β) :
    ((x >>= fun a => pure (g a)) env m).SameButText ((y >>= fun a => pure (g a)) env m) := by
  rw [Act.bind_apply, Act.bind_apply]
  rcases hx : x env m with ⟨ending, m', events, logs⟩
  rcases hy : y env m with ⟨ending', m'', events', logs'⟩
  rw [hx, hy] at same
  obtain ⟨rfl, rfl, rfl, levels⟩ := same
  cases ending with
  | error why => exact ⟨rfl, rfl, rfl, levels⟩
  | ok a =>
    refine ⟨rfl, rfl, rfl, ?_⟩
    simpa only [Outcome.andThen_ok, Act.pure_apply, List.append_nil] using levels

/-! ## Inputs that ask for the same -/

variable [Transport T]

/-- Inputs that are equal, but for what does not matter in the registers of a caller. -/
inductive Input.SameCall : Input T → Input T → Prop where
  | refl (input : Input T) : SameCall input input
  | smc (world : World) {x y : CallerRegisters} (same : SameInputs x y) :
      SameCall (.command (.smc world x)) (.command (.smc world y))
  | serviceSmc (world : World) {x y : CallerRegisters} (same : SameInputs x y) :
      SameCall (.command (.serviceSmc world x)) (.command (.serviceSmc world y))

namespace Session

/-- Reports that differ in the text of log records at most, with the same session after them. -/
def SameStep (next next' : Report × Session T) : Prop :=
  next.1.SameButText next'.1 ∧ next.2 = next'.2

theorem sameStep_of_outcome {config : Config} {s : Session T} {c d : Command}
    (same : (c.perform (s.env config) s.machine).SameButText
      (d.perform (s.env config) s.machine)) :
    SameStep (s.step config (.command c)) (s.step config (.command d)) :=
  ⟨⟨same.ending, same.events, same.levels⟩,
    congrArg (fun machine => { s with machine }) same.machine⟩

/-- One step with the same inputs is reported in the same way, and leaves the same session. -/
theorem step_sameCall (config : Config) (s : Session T) {input input' : Input T}
    (same : input.SameCall input') : SameStep (s.step config input) (s.step config input') := by
  cases same with
  | refl => exact ⟨⟨rfl, rfl, rfl⟩, rfl⟩
  | smc world same =>
    apply sameStep_of_outcome
    exact Act.sameButText_bind_pure (Service.sameButText_routeSmc same world _ _) _
  | serviceSmc world same =>
    apply sameStep_of_outcome
    exact Act.sameButText_bind_pure (Service.sameButText_handleSmc same world _ _) _

theorem run_sameCalls (config : Config) {inputs inputs' : List (Input T)}
    (same : List.Forall₂ Input.SameCall inputs inputs') (s : Session T) :
    List.Forall₂ SameStep (s.run config inputs) (s.run config inputs') := by
  refine forall₂_run (fun _ _ next => ⟨next.1.ending, next.2⟩) ?_ s
  exact same.imp fun _ _ call s => step_sameCall config s call

/-- **Only the inputs of a secure monitor call matter**: its identifier without the hint and without
the bit for 64-bit calls, and the registers x1 and x2. Calls that agree in these give the same
values, are seen by the same events and leave the same machine; and runs in which calls are replaced
by such ones go the same way. Only the text of the log may differ. -/
theorem only_inputs_matter (config : Config) (s : Session T) :
    (∀ (world : World) (x y : CallerRegisters), SameInputs x y →
      ∀ (env : Env) (m : Machine T),
        (routeSmc world x env m).SameButText (routeSmc world y env m)) ∧
    ∀ inputs inputs' : List (Input T), List.Forall₂ Input.SameCall inputs inputs' →
      List.Forall₂ SameStep (s.run config inputs) (s.run config inputs') := by
  refine ⟨?call, ?run⟩
  case call =>
    intro world x y same env m
    exact Service.sameButText_routeSmc same world env m
  case run =>
    intro inputs inputs' same
    exact run_sameCalls config same s

/-- The registers of a caller that leaves nothing at zero which does not matter. -/
def cluttered (function x1 x2 : UInt64) : CallerRegisters :=
  #v[function ||| 0xdeadbeef40010000, x1, x2, 3, 4, 5, 6, 7, 8, 9, 10, 11, 12, 13, 14, 15, 16, 17]

/-- A clock is enabled in the same way by a 64-bit call with the hint and with all registers in use
as by a 32-bit call with none but its argument, and so is whatever follows. -/
theorem only_inputs_matter_clockEnable :
    let plain := callerRegisters 0x82000024 7 0
    let full := cluttered 0x82000024 7 0
    let s := Session.setUp []
    SameInputs full plain ∧
      (routeSmc .nonSecure full (s.env Config.oneCore) s.machine).SameButText
        (routeSmc .nonSecure plain (s.env Config.oneCore) s.machine) ∧
      List.Forall₂ SameStep
        (s.run Config.oneCore [.command (.smc .nonSecure full), .command .systemOff])
        (s.run Config.oneCore [.command (.smc .nonSecure plain), .command .systemOff]) := by
  intro plain full s
  have same : SameInputs full plain := ⟨by decide, rfl, rfl⟩
  obtain ⟨call, run⟩ := only_inputs_matter Config.oneCore s
  exact ⟨same, call .nonSecure full plain same _ _,
    run _ _ (.cons (.smc .nonSecure same) (.cons (.refl _) .nil))⟩

end Session

end PowerBridge
