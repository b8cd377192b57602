import PowerBridge.Proofs.Service.Success
import PowerBridge.Proofs.Session.Reachable

/-!
# No call stops the monitor

Whatever the registers of a caller are, a reachable session answers a secure monitor call: no fault
arises on the way, and no wait goes on for ever. Over a script this is so for every platform, one
without processors included, and for every wait policy. Over a mailbox the channels of the
platform's processors must add up to addresses, and the controller must not stay busy if it is
waited for without a bound.

Main statement: `Session.Reachable.answers_calls`, of which `Session.calls_answered` says what it
comes to over either transport.
-/

namespace PowerBridge

open Link (Channel Mailbox Reliable Scripted Transport)
open Smc (CallerRegisters)

variable {T : Type} [Transport T]

namespace Session

/-- A session answers secure monitor calls, by way of the router or not, whatever the registers
are. -/
def AnswersCalls (config : Config) (s : Session T) : Prop :=
  ∀ (world : World) (x : CallerRegisters),
    ∀ command ∈ [Command.smc world x, .serviceSmc world x],
      ∃ r, (s.step config (.command command)).1.ending = .ok (.returned r)

variable {config : Config} {s : Session T}

/-- A reachable session answers secure monitor calls over a transport that can be relied on. -/
theorem Reachable.answers_calls (reachable : s.Reachable config) {used : Channel → Prop}
    {I : T → Prop} (rely : Reliable config.platform.wait used I)
    (uses : ∀ processor ∈ config.platform.processors, used processor.channel)
    (inv : I s.machine.transport) : s.AnswersCalls config := by
  have returned {x : Act T Smc.Return} {r : Smc.Return}
      (answered : (x (s.env config) s.machine).ending = .ok r) :
      ((x >>= fun r => pure (Answer.returned r)) (s.env config) s.machine).ending =
        .ok (.returned r) := by
    rw [Act.ending_bind_pure, answered]
    rfl
  have rely' : Reliable (s.env config).platform.wait used I := rely
  intro world x command mem
  simp only [List.mem_cons, List.not_mem_nil, or_false] at mem
  rcases mem with rfl | rfl
  · obtain ⟨r, answered⟩ :=
      Service.answered_routeSmc rely' uses world x inv reachable.exists_primary
    exact ⟨r, returned answered⟩
  · obtain ⟨r, answered⟩ :=
      Service.answered_handleSmc rely' uses world x inv reachable.exists_primary
    exact ⟨r, returned answered⟩

/-- **No secure monitor call stops the monitor.** A reachable session whose service is up has a
primary processor, and every call is answered: over a script always, and over a mailbox if it serves
the channels of the platform's processors. -/
theorem calls_answered (config : Config) :
    (∀ s : Session Scripted, s.Reachable config →
      (s.machine.up = true → ∃ first, config.platform.processors.head? = some first) ∧
        s.AnswersCalls config) ∧
    ∀ s : Session Mailbox, s.Reachable config →
      (s.machine.up = true → ∃ first, config.platform.processors.head? = some first) ∧
        ((∀ processor ∈ config.platform.processors,
            s.machine.transport.Serves config.platform.wait processor.channel) →
          s.AnswersCalls config) := by
  constructor
  case left =>
    intro s reachable
    refine ⟨reachable.exists_primary, ?_⟩
    have rely := Link.reliable_scripted config.platform.wait fun _ => True
    exact reachable.answers_calls rely (fun _ _ => trivial) trivial
  case right =>
    intro s reachable
    refine ⟨reachable.exists_primary, fun serves => ?_⟩
    -- it is enough that the channels of the processors are served
    have rely := Mailbox.reliable config.platform.wait
      fun channel => ∃ processor ∈ config.platform.processors, processor.channel = channel
    refine reachable.answers_calls rely (fun processor mem => ⟨processor, mem, rfl⟩) ?_
    rintro channel ⟨processor, mem, rfl⟩
    exact serves processor mem

/-- A mailbox with two agents and 64 words, after setup. -/
def setUpMailbox : Session Mailbox :=
  let agents := [⟨4, 0, 0x40, {}⟩, ⟨2, 0x80, 0x40, {}⟩]
  ((start { agents, memory := Array.replicate 64 0 }).step Config.oneCore (.command .setup)).2

/-- After setup all calls are answered, over a script, and over a mailbox with an idle
controller. -/
theorem calls_answered_after_setup :
    (setUp []).machine.up = true ∧ (setUp []).AnswersCalls Config.oneCore ∧
      setUpMailbox.machine.up = true ∧ setUpMailbox.AnswersCalls Config.oneCore := by
  obtain ⟨overScript, overMailbox⟩ := calls_answered Config.oneCore
  have reachable : setUpMailbox.Reachable Config.oneCore :=
    (Reachable.start _).step (.command .setup) rfl
  refine ⟨up_setUp [], (overScript _ (reachable_setUp [])).2, rfl,
    (overMailbox _ reachable).2 fun processor mem => ?_⟩
  cases List.mem_singleton.1 mem
  constructor
  case inRange =>
    rintro here there ⟨⟩ ⟨⟩
    decide
  case idle =>
    rintro here there - ⟨⟩ ⟨⟩
    decide

end Session

end PowerBridge
