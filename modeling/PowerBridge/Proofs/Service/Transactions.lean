import PowerBridge.Proofs.Exchange.Transactions
import PowerBridge.Proofs.Service.Commands

/-!
# Transactions of commands

What is seen of an action with a known footprint is transactions one after the other, as many as it
may make exchanges, each for an exchange that may happen. Only they take responses from the script,
each of those that read one the first that is left.

Main statements: `Performs.transactions`, and for commands of the service `Command.transactions`.
-/

namespace PowerBridge

open Eemi (Api Frame Header)
open Link (Channel Scripted)

variable {α β : Type}

/-! ## Transactions of a footprint -/

/-- Some transactions are all that is seen of an outcome in the way of exchanges. -/
structure Covers (may : Effect → Prop) (env : Env) (m : Machine Scripted) (o : Outcome Scripted α)
    (ts : List Transaction) : Prop where
  carried : ∀ t ∈ ts, ∃ awaited channel frame, may (.exchanged awaited channel frame) ∧
    t.Carries env.platform.wait awaited channel frame
  seen : exchanged o.events = ts.flatMap Transaction.events
  taken : o.machine.transport.responses = m.transport.responses.drop (Transaction.reads ts)

namespace Covers

variable {may : Effect → Prop} {env : Env} {m : Machine Scripted}

theorem none {o : Outcome Scripted α} (quiet : exchanged o.events = [])
    (kept : o.machine.transport.responses = m.transport.responses) :
    ∃ ts, ts.length ≤ 0 ∧ Covers may env m o ts :=
  ⟨[], Nat.le_refl 0, fun _ h => absurd h List.not_mem_nil, quiet, kept⟩

theorem one {awaited : Awaited} {channel : Channel} {frame : Frame} {o : Outcome Scripted α}
    (h : Exchange.IsTransaction awaited channel frame env m o)
    (allowed : may (.exchanged awaited channel frame)) :
    ∃ ts, ts.length ≤ 1 ∧ Covers may env m o ts := by
  obtain ⟨t, carries, seen, taken⟩ := h
  refine ⟨[t], Nat.le_refl 1, ?_, ?_, taken⟩
  · intro t' mem
    cases List.mem_singleton.1 mem
    exact ⟨awaited, channel, frame, allowed, carries⟩
  · rw [seen, List.flatMap_singleton]

/-- The transactions of a sequence are those of its parts, one after the other. -/
theorem append {o : Outcome Scripted α} {later : Outcome Scripted β} {ts ts' : List Transaction}
    (first : Covers may env m o ts) (rest : Covers may env o.machine later ts') :
    Covers may env m { later with events := o.events ++ later.events } (ts ++ ts') where
  carried t mem := by
    rcases List.mem_append.1 mem with earlier | later
    · exact first.carried t earlier
    · exact rest.carried t later
  seen := by
    rw [exchanged_append, first.seen, rest.seen, List.flatMap_append]
  taken := by
    rw [rest.taken, first.taken, List.drop_drop, Transaction.reads_append]

end Covers

/-- **The exchanges of a footprint are transactions**: no exchange begins within another one, and
there are no more of them than are allowed. -/
theorem Performs.transactions {may : Effect → Prop} {n : Nat} {x : Act Scripted α}
    (h : Performs may n x)
    (few : ∀ awaited channel frame, may (.exchanged awaited channel frame) → awaited.words ≤ 8)
    (env : Env) (m : Machine Scripted) :
    ∃ ts, ts.length ≤ n ∧ Covers may env m (x env m) ts := by
  -- on how the action is built: only sequences and exchanges have transactions
  induction h generalizing m with
  | bind _ _ first rest =>
    rename_i x f _ _
    obtain ⟨ts, length, covers⟩ := first m
    rw [Act.bind_apply]
    rcases h : x env m with ⟨ending, m', events, logs⟩
    rw [h] at covers
    cases ending with
    -- a sequence that halts early has the transactions of its first part
    | error why =>
      exact ⟨ts, Nat.le_trans length (Nat.le_add_right _ _), covers.carried, covers.seen,
        covers.taken⟩
    | ok a =>
      obtain ⟨ts', length', covers'⟩ := rest a m'
      obtain ⟨carried, seen, taken⟩ := covers.append covers'
      refine ⟨ts ++ ts', ?_, carried, seen, taken⟩
      rw [List.length_append]
      exact Nat.add_le_add length length'
  | weaken _ le ih =>
    obtain ⟨ts, length, covers⟩ := ih m
    exact ⟨ts, Nat.le_trans length le, covers⟩
  | env _ _ ih => exact ih env m
  | sendNonBlocking allowed =>
    exact Covers.one (Exchange.isTransaction_sendNonBlocking _ _ env m) allowed
  | send allowed => exact Covers.one (Exchange.isTransaction_send _ _ env m) allowed
  | sendForStatus values allowed =>
    exact Covers.one
      (Exchange.isTransaction_sendForStatus _ _ env m (few _ _ _ allowed) values) allowed
  -- opening a channel takes an error from the script, but no response
  | openChannel _ =>
    rcases m with ⟨⟨responses, busyPolls, callback, openError⟩, up, scope, sgi⟩
    cases openError <;> exact Covers.none rfl rfl
  | _ => exact Covers.none rfl rfl

/-! ## Transactions of commands -/

/-- The commands of the service. The others send a request as it is given, on any channel. -/
def Command.OfService : Command → Prop
  | .send .. => False
  | _ => True

/-- The commands that shut down or reset, or ask for it. -/
def Command.ShutsDown : Command → Prop
  | .systemOff | .systemReset => True
  | .call _ c => ∃ kind subtype, c = .systemShutdown kind subtype
  | .smc _ x | .serviceSmc _ x =>
    (Smc.functionOf x).number.toUInt32 = Api.systemShutdown.code
  | _ => False

/-- A transaction that a command may make: without any poll only for a shutdown request of the
service, or if no poll is allowed. -/
structure Command.Makes (command : Command) (wait : WaitPolicy) (t : Transaction) : Prop where
  unpolled : t.polls = 0 →
    wait = .bounded 0 ∨
      command.ShutsDown ∧
        ∃ world, t.words[0] = (Header.ofApi .systemShutdown world).encode
  bounded : ∀ p, wait = .bounded p → t.polls ≤ p.toNat

theorem Service.Call.eq_systemShutdown_of_ofRegisters {api : Api} {x : Smc.CallerRegisters}
    {kind subtype : UInt32} (h : Call.ofRegisters api x = .systemShutdown kind subtype) :
    api = .systemShutdown := by
  cases api <;> first | rfl | cases h

/-- The exchanges of a command of the service read eight words at most, and go on without waiting
only for a shutdown. -/
theorem Command.exchange_of_allows {command : Command} (ofService : command.OfService)
    {awaited : Awaited} {channel : Channel} {frame : Frame}
    (allowed : command.Allows (.exchanged awaited channel frame)) :
    awaited.words ≤ 8 ∧
      (awaited = .nothing → command.ShutsDown ∧
        ∃ world, frame.header = Header.ofApi .systemShutdown world) := by
  cases command with
  | setup =>
    obtain ⟨rfl, -⟩ := allowed
    exact ⟨by decide, fun h => by cases h⟩
  | smc world x | serviceSmc world x =>
    obtain ⟨api, number, exchanges⟩ := allowed
    refine ⟨exchanges.fewWords, fun nothing => ?_⟩
    obtain ⟨header, kind, subtype, call⟩ := exchanges.unawaited nothing
    cases Service.Call.eq_systemShutdown_of_ofRegisters call
    exact ⟨number, world, header⟩
  | call world c =>
    have exchanges : c.Exchanges world awaited frame := allowed
    refine ⟨exchanges.fewWords, fun nothing => ?_⟩
    obtain ⟨header, shutdown⟩ := exchanges.unawaited nothing
    exact ⟨shutdown, world, header⟩
  | systemOff | systemReset =>
    obtain ⟨rfl, header⟩ := allowed
    exact ⟨by decide, fun _ => ⟨trivial, .secure, header⟩⟩
  | passThrough world words =>
    obtain ⟨rfl, -⟩ := allowed
    exact ⟨by decide, fun h => by cases h⟩
  | send mode channel header args values => exact ofService.elim
  | _ => exact allowed.elim

/-- **The transactions of a command**: at most as many as it may make, each of them one that it may
make, and they alone take responses. -/
theorem Command.transactions {command : Command} (ofService : command.OfService) (env : Env)
    (m : Machine Scripted) :
    ∃ ts : List Transaction, ts.length ≤ command.exchanges ∧
      (∀ t ∈ ts, command.Makes env.platform.wait t) ∧
      exchanged (command.perform env m).events = ts.flatMap Transaction.events ∧
      (command.perform env m).machine.transport.responses =
        m.transport.responses.drop (Transaction.reads ts) := by
  obtain ⟨ts, length, covers⟩ := command.performs_perform.transactions
    (fun _ _ _ allowed => (Command.exchange_of_allows ofService allowed).1) env m
  refine ⟨ts, length, fun t mem => ?_, covers.seen, covers.taken⟩
  obtain ⟨awaited, channel, frame, allowed, carries⟩ := covers.carried t mem
  refine ⟨fun unpolled => ?_, carries.bounded⟩
  -- without a poll nothing was waited for, or no poll was allowed
  rcases carries.unpolled unpolled with nothing | none
  · obtain ⟨shutsDown, world, header⟩ := (Command.exchange_of_allows ofService allowed).2 nothing
    right
    refine ⟨shutsDown, world, ?_⟩
    rw [← header, carries.writes]
    rfl
  · exact .inl none

end PowerBridge
