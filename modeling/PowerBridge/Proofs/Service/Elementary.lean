import PowerBridge.Proofs.Machine.Sequences
import PowerBridge.Proofs.Service.Footprint

/-!
# Elementary actions

The footprint of an action says from which elementary actions it is made: single operations of the
transport, changes of one field of the machine, and what only the interrupt controller or the chip
sees. An exchange is made of a request that is posted, polls, and perhaps a response that is read.

So a property of what is seen needs to be shown of elementary actions only. Of what they leave
behind there is little to say over every transport: either another transport, or the one field that
their effect names.

Main statements: `Performs.tracedBy` (from elementary actions to actions), and `Performs.invariant`
(what every effect keeps is kept).
-/

namespace PowerBridge

open Act (TracedBy)
open Eemi (Frame)
open Link (Channel Transport)

variable {T α : Type} [Transport T]

/-- An action that is not made of others, with an effect that may happen. -/
inductive Act.Elementary (may : Effect → Prop) : {α : Type} → Act T α → Prop where
  | gic (event : GicEvent) : Elementary may (Act.emit (.gic event))
  | chip (event : ChipEvent) : Elementary may (Act.emit (.chip event))
  | isPending (channel : Channel) : Elementary may (Act.isPending channel)
  | readCallback (channel : Channel) : Elementary may (Act.readCallback channel)
  /-- A frame is written, and the controller is triggered. -/
  | post {awaited : Awaited} {channel : Channel} {frame : Frame}
      (h : may (.exchanged awaited channel frame)) : Elementary may (Exchange.post channel frame)
  | isBusy (channel : Channel) : Elementary may (Act.isBusy channel)
  | readResponse {words : Nat} (channel : Channel) (values : Vector UInt32 words) :
      Elementary may (Act.readResponse channel values)
  | openChannel {channel : Channel} (h : may (.channelOpened channel)) :
      Elementary may (Act.openChannel channel)
  | enableInterrupt {channel : Channel} (h : may (.interruptEnabled channel)) :
      Elementary may (Act.enableInterrupt channel)
  | clearPending {channel : Channel} (h : may (.callbackCleared channel)) :
      Elementary may (Act.clearPending channel)
  | comeUp (h : may .cameUp) : Elementary may (Act.modify fun m => { m with up := true })
  | setScope {scope : UInt32} (h : may (.scopeSet scope)) :
      Elementary may (Service.setScope scope)
  | registerSgi {sgi : UInt32} {reset : Bool} (h : may (.sgiRegistered sgi reset)) :
      Elementary may (Service.registerSgi sgi reset)

open Act (Elementary)

/-! ## From elementary actions to actions -/

section TracedBy

variable {P : Machine T → List Event → Machine T → Prop} {env : Env} (composes : Composes P)

include composes

namespace Exchange

theorem tracedBy_pollUntilIdle {channel : Channel}
    (poll : TracedBy P env (Act.isBusy channel : Act T Bool)) (polls : Nat) :
    TracedBy P env (pollUntilIdle channel polls : Act T Bool) := by
  induction polls with
  | zero => exact .pure composes false
  | succ polls ih =>
    refine poll.bind composes fun busy => ?_
    -- an idle poll ends the wait, a busy one leaves one poll less
    cases busy with
    | false => exact .pure composes true
    | true => exact ih

theorem tracedBy_awaitAck {channel : Channel}
    (poll : TracedBy P env (Act.isBusy channel : Act T Bool)) :
    TracedBy P env (awaitAck channel : Act T (Except Eemi.Failure Unit)) := by
  have polls := tracedBy_pollUntilIdle composes poll
  refine .bind composes (.of_silent composes fun _ => ⟨rfl, rfl⟩) fun found => ?_
  split
  · refine (polls _).bind composes fun idle => ?_
    cases idle <;> exact .pure composes _
  · refine .bind composes (.of_silent composes fun _ => ⟨rfl, rfl⟩) fun m => ?_
    refine (polls _).bind composes fun idle => ?_
    cases idle with
    | false => exact .halt composes _
    | true => exact .pure composes _

end Exchange

/-- **From elementary actions to actions**: what holds of every elementary action with an effect
that may happen holds of every action with such a footprint. -/
theorem Performs.tracedBy {may : Effect → Prop} {n : Nat} {x : Act T α} (h : Performs may n x)
    (elementary : ∀ {β : Type} {y : Act T β}, Elementary may y → TracedBy P env y) :
    TracedBy P env x := by
  have silent {β : Type} {y : Act T β} (h : ∀ m, (y env m).events = [] ∧ (y env m).machine = m) :=
    TracedBy.of_silent composes h
  -- an exchange that waits is a request that is posted, and polls
  have sent (channel : Channel) (frame : Frame)
      (posted : TracedBy P env (Exchange.post channel frame : Act T Unit)) :=
    posted.bind composes fun _ =>
      Exchange.tracedBy_awaitAck composes (elementary (.isBusy channel))
  induction h with
  | pure a => exact .pure composes a
  | bind _ _ first rest => exact first.bind composes rest
  | weaken _ _ ih => exact ih
  | env _ _ ih => exact (silent fun _ => ⟨rfl, rfl⟩).bind composes ih
  | machine => exact silent fun _ => ⟨rfl, rfl⟩
  | halt why => exact .halt composes why
  | log level message => exact silent fun _ => ⟨rfl, rfl⟩
  | gic event => exact elementary (.gic event)
  | chip event => exact elementary (.chip event)
  | isPending channel => exact elementary (.isPending channel)
  | readCallback channel => exact elementary (.readCallback channel)
  | sendNonBlocking h => exact (elementary (.post h)).bind composes fun _ => .pure composes _
  | send h => exact sent _ _ (elementary (.post h))
  | sendForStatus values h =>
    refine (elementary (.post h)).bind composes fun _ => ?_
    refine (Exchange.tracedBy_awaitAck composes (elementary (.isBusy _))).bind composes
      fun acknowledged => ?_
    cases acknowledged with
    | error failure => exact .pure composes _
    | ok _ =>
      exact (elementary (.readResponse _ values)).bind composes fun _ => .pure composes _
  | openChannel h => exact elementary (.openChannel h)
  | enableInterrupt h => exact elementary (.enableInterrupt h)
  | clearPending h => exact elementary (.clearPending h)
  | comeUp h => exact elementary (.comeUp h)
  | setScope h => exact elementary (.setScope h)
  | registerSgi h => exact elementary (.registerSgi h)

end TracedBy

/-! ## What elementary actions leave behind -/

/-- What an elementary action may make of a machine. -/
inductive Changes (may : Effect → Prop) (limit : UInt32) (m : Machine T) : Machine T → Prop where
  | transport (t : T) : Changes may limit m { m with transport := t }
  | cameUp (h : may .cameUp) : Changes may limit m { m with up := true }
  | scopeSet {scope : UInt32} (h : may (.scopeSet scope)) : Changes may limit m { m with scope }
  | sgiRegistered {sgi : UInt32} {reset : Bool} (h : may (.sgiRegistered sgi reset)) :
      Changes may limit m { m with sgi := (m.sgi.register sgi reset limit).2 }

omit [Transport T] in
/-- That nothing but the transport is changed. -/
theorem Composes.onlyTransport :
    Composes fun (m : Machine T) _ m' => ∃ t, m' = { m with transport := t } where
  nil m := ⟨m.transport, rfl⟩
  append := by
    rintro m m' m'' earlier later ⟨t, rfl⟩ ⟨t', rfl⟩
    exact ⟨t', rfl⟩

namespace Act

omit [Transport T] in
theorem exists_transport (operation : T → Except Fault (α × T)) (env : Env) (m : Machine T) :
    ∃ t, (Act.transport operation env m).machine = { m with transport := t } := by
  rw [Act.transport]
  split
  · exact ⟨_, rfl⟩
  · exact ⟨_, rfl⟩

theorem Elementary.changes {may : Effect → Prop} {x : Act T α} (h : Elementary may x) (env : Env)
    (m : Machine T) : Changes may env.platform.sgiLimit m (x env m).machine := by
  have only {β : Type} {y : Act T β}
      (h : TracedBy (fun m _ m' => ∃ t, m' = { m with transport := t }) env y) :
      Changes may env.platform.sgiLimit m (y env m).machine := by
    obtain ⟨t, same⟩ := h m
    rw [same]
    exact .transport t
  have seen {β : Type} (event : Event) (operation : T → Except Fault (β × T)) :
      TracedBy (fun m _ m' => ∃ t, m' = { m with transport := t }) env
        (Act.emit event >>= fun _ => Act.transport operation) :=
    fun m => exists_transport operation env m
  cases h with
  | gic | chip => exact .transport m.transport
  | isPending | readCallback | readResponse | openChannel | enableInterrupt | clearPending =>
    exact only (seen _ _)
  | isBusy channel =>
    refine only (TracedBy.bind .onlyTransport (exists_transport _ env) fun busy => ?_)
    exact fun m => ⟨m.transport, rfl⟩
  | post _ =>
    refine only (TracedBy.bind .onlyTransport (fun m => ⟨m.transport, rfl⟩) fun _ => ?_)
    exact (seen _ _).bind .onlyTransport fun _ => seen _ _
  | comeUp h => exact .cameUp h
  | setScope h => exact .scopeSet h
  | registerSgi h => exact .sgiRegistered h

end Act

/-- **What every effect keeps is kept**: an invariant that no change by an elementary action breaks
holds after an action if it held before. -/
theorem Performs.invariant {may : Effect → Prop} {n : Nat} {x : Act T α} (h : Performs may n x)
    {env : Env} {I : Machine T → Prop}
    (kept : ∀ {m m' : Machine T}, Changes may env.platform.sgiLimit m m' → I m → I m')
    {m : Machine T} (before : I m) : I (x env m).machine :=
  h.tracedBy (.invariant I) (fun elementary m => kept (elementary.changes env m)) m before

end PowerBridge
