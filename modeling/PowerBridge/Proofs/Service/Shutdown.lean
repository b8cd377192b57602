import PowerBridge.Proofs.Exchange.Requests
import PowerBridge.Proofs.Service.Primary
import PowerBridge.Session

/-!
# Shutdowns by the system firmware

The system firmware shuts the system down, or resets it, within the scope that is set. One frame is
written for that on the channel of the primary processor, and the controller is triggered. It is not
waited for, since it may take the calling core down first.

Main statement: `Command.sendsShutdown`.
-/

namespace PowerBridge

open Eemi (Api Frame Header ShutdownKind frameArguments frameWords)
open Link (Channel Transport)
open Exchange (postEvents)

variable {T α : Type} [Transport T]

/-! ## Posting -/

/-- A transport takes a frame on a channel, and then the trigger. -/
def Link.Delivers (channel : Channel) (words : Vector UInt32 frameWords) (t : T) : Prop :=
  ∃ written triggered, Transport.writeRequest channel words t = .ok written ∧
    Transport.trigger channel written = .ok triggered

namespace Exchange

/-- What is seen of a request that is posted begins with its frame, and ends with the trigger unless
the transport faults before. -/
theorem events_post (channel : Channel) (frame : Frame) (env : Env) (m : Machine T) :
    (post channel frame env m).events = [.link channel (.requestWritten frame.words)] ∨
      (post channel frame env m).events = postEvents channel frame := by
  rw [post, Act.log_bind]
  cases wrote : Transport.writeRequest channel frame.words m.transport with
  | error why =>
    rw [Act.writeRequest, Act.bind_of_error (Act.writing_of_error _ env wrote)]
    exact .inl rfl
  | ok t =>
    rw [Act.writeRequest, Act.bind_of_ok (Act.writing_of_ok _ env wrote), Act.trigger,
      Act.emit_bind, Act.events_transport]
    exact .inr rfl

theorem post_of_delivers {channel : Channel} {frame : Frame} {m : Machine T}
    (delivers : Link.Delivers channel frame.words m.transport) (env : Env) :
    ∃ t, post channel frame env m =
      ⟨.ok (), { m with transport := t }, postEvents channel frame,
        env.filter.keep [requestRecord frame]⟩ := by
  obtain ⟨t, t', wrote, triggered⟩ := delivers
  exact ⟨t', post_of_ok wrote triggered env⟩

end Exchange

/-! ## Shutting down -/

namespace Eemi

/-- The frame of a shutdown of some kind, within a scope. -/
def shutdownWords (kind : ShutdownKind) (scope : UInt32) : Vector UInt32 frameWords :=
  #v[0x20c, kind.code, scope, 0, 0, 0]

omit [Transport T] in
theorem words_of_shutdown {kind : ShutdownKind} {scope : UInt32}
    (fits : [kind.code, scope].length ≤ frameArguments) :
    (⟨Header.ofApi .systemShutdown .secure, [kind.code, scope], fits⟩ : Frame).words =
      shutdownWords kind scope := by
  have header : (Header.ofApi .systemShutdown .secure).encode = 0x20c := by decide
  apply Vector.toList_inj.1
  rw [Frame.toList_words, header]
  rfl

end Eemi

/-- One frame is written for a shutdown, and nothing is polled. If the transport takes the frame,
the caller is answered as soon as the controller has been triggered. -/
structure SendsShutdown (channel : Channel) (kind : ShutdownKind) (scope : UInt32) (t : T)
    (ending : Except Halt Answer) (events : List Event) : Prop where
  seen : events = [.link channel (.requestWritten (Eemi.shutdownWords kind scope))] ∨
    events = [.link channel (.requestWritten (Eemi.shutdownWords kind scope)),
      .link channel .triggered]
  answered : Link.Delivers channel (Eemi.shutdownWords kind scope) t →
    ending = .ok (.result (.reply (.ok Eemi.noWords))) ∧
      events = [.link channel (.requestWritten (Eemi.shutdownWords kind scope)),
        .link channel .triggered]

/-- The command by which the system firmware shuts down or resets. -/
def Eemi.ShutdownKind.IsOf (kind : ShutdownKind) : Command → Prop
  | .systemOff => kind = .shutdown
  | .systemReset => kind = .reset
  | _ => False

omit [Transport T] in
theorem Eemi.ShutdownKind.IsOf.code_ne {kind : ShutdownKind} {command : Command}
    (h : kind.IsOf command) : kind.code ≠ 2 := by
  cases command with
  | systemOff | systemReset =>
    cases h
    decide
  | _ => exact h.elim

/-- **A shutdown sends one frame for the scope that is set.** -/
theorem Command.sendsShutdown {command : Command} {kind : ShutdownKind} (is : kind.IsOf command)
    {env : Env} {first : Processor} (listed : env.platform.processors.head? = some first)
    (m : Machine T) :
    SendsShutdown first.channel kind m.scope m.transport (command.perform env m).ending
      (command.perform env m).events := by
  have fits : [kind.code, m.scope].length ≤ frameArguments := Nat.le_add_left 2 3
  let frame : Frame := ⟨Header.ofApi .systemShutdown .secure, [kind.code, m.scope], fits⟩
  have words : frame.words = Eemi.shutdownWords kind m.scope := Eemi.words_of_shutdown fits
  have asked : command.perform env m =
      (Service.systemShutdown kind.code m.scope .secure >>= fun reply =>
        pure (.result (.reply reply))) env m := by
    cases command with
    | systemOff | systemReset =>
      cases is
      rfl
    | _ => exact is.elim
  -- a request that is not waited for is posted, and answered at once
  have posted : command.perform env m =
      (Exchange.post first.channel frame >>= fun _ =>
        pure (.result (.reply (.ok Eemi.noWords)))) env m := by
    rw [asked, Act.bind_apply, Service.systemShutdown_apply listed m is.code_ne m.scope .secure fits,
      ← Act.bind_apply, Exchange.sendNonBlocking]
    simp only [bind_assoc, pure_bind]
    rfl
  rw [posted, Act.ending_bind_pure, Act.events_bind_pure]
  constructor
  case seen =>
    rw [← words]
    exact Exchange.events_post first.channel frame env m
  case answered =>
    intro delivers
    rw [← words] at delivers ⊢
    obtain ⟨t, sent⟩ := Exchange.post_of_delivers delivers env
    rw [sent]
    exact ⟨rfl, rfl⟩

end PowerBridge
