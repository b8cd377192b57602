import PowerBridge.Proofs.Exchange.Reliance
import PowerBridge.Proofs.Link.Opened
import PowerBridge.Proofs.Service.Elementary
import PowerBridge.Proofs.Service.Primary

/-!
# Setup is all or nothing

What setup comes to is decided when the channel of the primary processor is opened. If it is
refused, setup has done nothing else, and whatever the service was before, it still is. If it is
open, the service is up for good: interrupts are routed and enabled, and the controller is asked to
report when cores must power down. What it answers to that, if anything, is logged, and makes no
other difference.

Main statements: `setup_of_reply` (a setup whose request ends), `setup_of_reliable`, and
`setup_all_or_nothing`.
-/

namespace PowerBridge

open Eemi (Frame Header)
open Link (Channel Mailbox OpenError RegisterName Reliable Scripted Transport)

namespace Service

/-! ## What is seen of setup -/

/-- The request to report forced power downs of the first core's subsystem. -/
def idleEventFrame : Frame :=
  { header := Header.ofApi (.forwarded .registerNotifier) .secure
    args := [Eemi.firstCoreNode, Eemi.forcedIdleEvent, 0, 1]
    args_le := by decide }

theorem words_idleEventFrame :
    idleEventFrame.words = #v[0x205, 0x1810c003, 4, 0, 1, 0] := rfl

/-- What is seen of a setup before its request: the channel is opened, and interrupts are routed and
enabled. -/
def bringUpEvents (env : Env) (channel : Channel) : List Event :=
  [.link channel .opened, .gic (.routed env.platform.idleSgi), .link channel .interruptEnabled,
    .gic (.routed env.platform.controllerIrq)]

/-- What is seen of a setup that succeeds, if the controller is busy for some polls. The request is
one of the secure world. -/
def setupEvents (env : Env) (channel : Channel) (busy : Nat) : List Event :=
  let wait := env.platform.wait
  bringUpEvents env channel ++
    Exchange.transcript channel #v[0x205, 0x1810c003, 4, 0, 1, 0] (wait.answers busy)
      (if wait.Allows busy then some 0 else none)

/-! ## Setup on an open channel -/

section

variable {T : Type} [Transport T] {env : Env} {first : Processor}
  (listed : env.platform.processors.head? = some first) {m : Machine T}

include listed

theorem registerIdleEvent_apply (m : Machine T) :
    registerIdleEvent env m = Exchange.request 0 first.channel idleEventFrame env m :=
  ask_apply listed m 0 (.forwarded .registerNotifier) .secure idleEventFrame.args_le

/-- Setup succeeds whatever its request gives. -/
theorem setup_of_request {opened enabled asked : T} {reply : Eemi.Reply 0} {events : List Event}
    {logs : List Log.Record}
    (opens : Transport.openChannel first.channel m.transport = .ok (.ok (), opened))
    (enables : Transport.enableInterrupt first.channel opened = .ok enabled)
    (asks : Exchange.request 0 first.channel idleEventFrame env
        { m with transport := enabled, up := true } =
      ⟨.ok reply, { m with transport := asked, up := true }, events, logs⟩) :
    ∃ logs, setup env m =
      ⟨.ok (.ok ()), { m with transport := asked, up := true },
        bringUpEvents env first.channel ++ events, logs⟩ := by
  have unmasked : Act.enableInterrupt first.channel env
      { m with transport := opened, up := true } = _ :=
    Act.writing_of_ok (.link first.channel .interruptEnabled) env enables
  rw [← registerIdleEvent_apply listed] at asks
  rw [setup_of_opened listed opens, bringUp, Act.env_bind, Act.emit_bind, Act.bind_of_ok unmasked,
    Act.emit_bind, Act.bind_of_ok asks]
  -- a request that fails leaves one record more in the log
  cases reply with
  | ok words =>
    simp only [Act.log_bind, Act.pure_apply, List.append_nil]
    exact ⟨_, rfl⟩
  | error failure =>
    simp only [Act.log_bind, Act.pure_apply, List.append_nil]
    exact ⟨_, rfl⟩

omit listed in
/-- A request changes nothing but the transport. -/
theorem machine_request (n : Nat) (channel : Channel) (frame : Frame) (env : Env) (m : Machine T) :
    ∃ t, (Exchange.request n channel frame env m).machine = { m with transport := t } := by
  have requests : Performs (fun effect => effect = .exchanged (.response n) channel frame) 1
      (Exchange.request n channel frame : Act T (Eemi.Reply n)) := .request rfl
  refine requests.invariant (I := fun m' => ∃ t, m' = { m with transport := t })
    (fun change same => ?_) ⟨m.transport, rfl⟩
  cases change with
  | transport t =>
    obtain ⟨_, rfl⟩ := same
    exact ⟨t, rfl⟩
  | cameUp h => cases h
  | scopeSet h => cases h
  | sgiRegistered h => cases h

/-- A setup whose request ends with a reply succeeds, whatever the reply is. -/
theorem setup_of_reply {opened enabled : T} {reply : Eemi.Reply 0}
    (opens : Transport.openChannel first.channel m.transport = .ok (.ok (), opened))
    (enables : Transport.enableInterrupt first.channel opened = .ok enabled)
    (replied : (Exchange.request 0 first.channel idleEventFrame env
      { m with transport := enabled, up := true }).ending = .ok reply) :
    ∃ t logs, setup env m =
      ⟨.ok (.ok ()), { m with transport := t, up := true },
        bringUpEvents env first.channel ++
          (Exchange.request 0 first.channel idleEventFrame env
            { m with transport := enabled, up := true }).events, logs⟩ := by
  obtain ⟨t, left⟩ := machine_request 0 first.channel idleEventFrame env
    { m with transport := enabled, up := true }
  cases asks : Exchange.request 0 first.channel idleEventFrame env
    { m with transport := enabled, up := true } with
  | mk ending after events logs =>
    rw [asks] at replied left
    cases replied
    cases left
    exact ⟨t, setup_of_request listed opens enables asks⟩

/-- Setup on a channel that is open succeeds over every transport that can be relied on there. -/
theorem setup_of_reliable {opened : T} {I : T → Prop}
    (opens : Transport.openChannel first.channel m.transport = .ok (.ok (), opened))
    (rely : Reliable env.platform.wait (· = first.channel) I)
    (enables : ∀ t, I t → ∃ t', Transport.enableInterrupt first.channel t = .ok t' ∧ I t')
    (inv : I opened) :
    ∃ busy t logs, setup env m =
      ⟨.ok (.ok ()), { m with transport := t, up := true }, setupEvents env first.channel busy,
        logs⟩ := by
  obtain ⟨enabled, enables, kept⟩ := enables opened inv
  obtain ⟨busy, t, reply, -, asks⟩ := Exchange.exists_request rely rfl 0 idleEventFrame
    { m with transport := enabled, up := true } kept
  obtain ⟨logs, done⟩ := setup_of_request listed opens enables asks
  rw [words_idleEventFrame] at done
  exact ⟨busy, t, logs, done⟩

end

/-! ## Over a script and over a mailbox -/

section

variable {env : Env} {first : Processor} (listed : env.platform.processors.head? = some first)

include listed

/-- Over a script the number of busy polls is known, and what is left of the script. -/
theorem setup_scripted {m : Machine Scripted} (opens : m.transport.openError = none) :
    ∃ logs, setup env m =
      ⟨.ok (.ok ()),
        { Exchange.left env.platform.wait
            (if env.platform.wait.Allows m.transport.busyPolls then 1 else 0) m with up := true },
        setupEvents env first.channel m.transport.busyPolls, logs⟩ := by
  have opens : Transport.openChannel first.channel m.transport = .ok (.ok (), m.transport) := by
    rcases m with ⟨⟨responses, busyPolls, callback, openError⟩, up, scope, sgi⟩
    cases opens
    rfl
  have asks := Exchange.request_exact (n := 0) first.channel idleEventFrame env { m with up := true }
  rw [words_idleEventFrame] at asks
  by_cases inTime : env.platform.wait.Allows m.transport.busyPolls
  · rw [if_pos inTime] at asks
    obtain ⟨logs, done⟩ := setup_of_request listed opens rfl asks
    simp only [if_pos inTime, setupEvents]
    exact ⟨logs, done⟩
  · rw [if_neg inTime] at asks
    obtain ⟨logs, done⟩ := setup_of_request listed opens rfl asks
    simp only [if_neg inTime, setupEvents]
    exact ⟨logs, done⟩

/-- Over a mailbox setup succeeds on an open channel, if the controller is not busy where it is
waited for without a bound. -/
theorem setup_mailbox {m : Machine Mailbox} {opened : Mailbox}
    (opens : m.transport.openChannel first.channel = .ok (.ok (), opened))
    (idle : env.platform.wait = .forever → ∀ here there,
      m.transport.agents[first.channel.localId]? = some here →
      m.transport.agents[first.channel.remoteId]? = some there →
        here.registers.observation &&& there.bit = 0) :
    ∃ busy t logs, setup env m =
      ⟨.ok (.ok ()), { m with transport := t, up := true }, setupEvents env first.channel busy,
        logs⟩ := by
  have rely := Mailbox.reliable env.platform.wait (· = first.channel)
  refine setup_of_reliable listed opens rely (fun t inv => ?enables) ?served
  case enables =>
    have other : RegisterName.enable ≠ .observation := by decide
    exact Mailbox.exists_writeBit other (by rfl) t inv
  case served =>
    rintro channel rfl
    exact Mailbox.serves_of_openChannel opens idle

end

/-- **Setup is all or nothing.** If the channel of the primary processor cannot be opened, setup
reports why, and the attempt is all that is seen; up or down, scope and registration stay, and a
mailbox is left as it was. If the channel opens, setup succeeds and the service is up, whatever
reply its request ends with; scope and registration stay. The request does end over every transport
that can be relied on there, over every script, and over a mailbox unless the controller stays busy
and is waited for without a bound. Then what is seen is always the same, but for the polls of that
request. -/
theorem setup_all_or_nothing {env : Env} {first : Processor}
    (listed : env.platform.processors.head? = some first) :
    (∀ {T : Type} [Transport T] (m : Machine T),
      (∀ e t, Transport.openChannel first.channel m.transport = .ok (.error e, t) →
        ∃ logs, setup env m =
          ⟨.ok (.error e), { m with transport := t }, [.link first.channel .opened], logs⟩) ∧
      (∀ (opened enabled : T) (reply : Eemi.Reply 0),
        Transport.openChannel first.channel m.transport = .ok (.ok (), opened) →
        Transport.enableInterrupt first.channel opened = .ok enabled →
        let asked := Exchange.request 0 first.channel idleEventFrame env
          { m with transport := enabled, up := true }
        asked.ending = .ok reply →
          ∃ t logs, setup env m =
            ⟨.ok (.ok ()), { m with transport := t, up := true },
              bringUpEvents env first.channel ++ asked.events, logs⟩) ∧
      ∀ (opened : T) (I : T → Prop),
        Transport.openChannel first.channel m.transport = .ok (.ok (), opened) →
        Reliable env.platform.wait (· = first.channel) I →
        (∀ t, I t → ∃ t', Transport.enableInterrupt first.channel t = .ok t' ∧ I t') →
        I opened →
        ∃ busy t logs, setup env m =
          ⟨.ok (.ok ()), { m with transport := t, up := true },
            setupEvents env first.channel busy, logs⟩) ∧
    (∀ m : Machine Scripted, m.transport.openError = none →
      ∃ logs, setup env m =
        ⟨.ok (.ok ()),
          { Exchange.left env.platform.wait
              (if env.platform.wait.Allows m.transport.busyPolls then 1 else 0) m with up := true },
          setupEvents env first.channel m.transport.busyPolls, logs⟩) ∧
    ∀ m : Machine Mailbox,
      (∀ e m', m.transport.openChannel first.channel = .ok (.error e, m') →
        ∃ logs, setup env m = ⟨.ok (.error e), m, [.link first.channel .opened], logs⟩) ∧
      ∀ m', m.transport.openChannel first.channel = .ok (.ok (), m') →
        (env.platform.wait = .forever → ∀ here there,
          m.transport.agents[first.channel.localId]? = some here →
          m.transport.agents[first.channel.remoteId]? = some there →
            here.registers.observation &&& there.bit = 0) →
        ∃ busy t logs, setup env m =
          ⟨.ok (.ok ()), { m with transport := t, up := true },
            setupEvents env first.channel busy, logs⟩ := by
  refine ⟨fun m => ⟨?refused, ?replied, ?opened⟩, fun m => setup_scripted listed,
    fun m => ⟨?kept, ?up⟩⟩
  case refused => exact fun e t refused => ⟨_, setup_of_refused listed refused⟩
  case replied => exact fun opened enabled reply => setup_of_reply listed
  case opened => exact fun opened I opens rely => setup_of_reliable listed opens rely
  case kept =>
    intro e m' refused
    cases Mailbox.eq_of_openChannel_error refused
    exact ⟨_, setup_of_refused listed refused⟩
  case up => exact fun m' opens => setup_mailbox listed opens

/-- A service that is up stays up when its channel is refused, over a script, and over a mailbox of
16 words. With one word more the channel opens. A controller that is busy for two polls of two makes
no difference, nor does one that answers with a status of 7. -/
theorem setup_all_or_nothing_twoPolls :
    let env : Env :=
      { platform :=
          { coreCount := 1
            idleSgi := ⟨15⟩
            controllerIrq := ⟨62⟩
            wait := .bounded 2
            processors := [⟨Eemi.firstCoreNode, 0, 1, ⟨0, 1⟩⟩] }
        core := 0
        filter := .off }
    let agents : List Link.Agent := [⟨4, 0, 0, {}⟩, ⟨2, 0, 0, {}⟩]
    let narrow : Machine Mailbox := { transport := ⟨agents, Array.replicate 16 0⟩, up := true }
    let wide : Machine Mailbox := { transport := ⟨agents, Array.replicate 17 0⟩ }
    env.platform.processors.head? = some ⟨Eemi.firstCoreNode, 0, 1, ⟨0, 1⟩⟩ ∧
    (∃ logs, setup env { transport := { openError := some (.invalidAgent 1) }, up := true } =
      ⟨.ok (.error (.invalidAgent 1)), ({ transport := {}, up := true } : Machine Scripted),
        [.link ⟨0, 1⟩ .opened], logs⟩) ∧
    (∃ busy t logs, setup env { transport := ({ responses := [⟨7, []⟩] } : Scripted) } =
      ⟨.ok (.ok ()), { transport := t, up := true }, setupEvents env ⟨0, 1⟩ busy, logs⟩) ∧
    (∃ logs, setup env { transport := ({ busyPolls := 2 } : Scripted) } =
      ⟨.ok (.ok ()), { transport := {}, up := true },
        [.link ⟨0, 1⟩ .opened, .gic (.routed ⟨15⟩), .link ⟨0, 1⟩ .interruptEnabled,
          .gic (.routed ⟨62⟩), .link ⟨0, 1⟩ (.requestWritten #v[0x205, 0x1810c003, 4, 0, 1, 0]),
          .link ⟨0, 1⟩ .triggered, .link ⟨0, 1⟩ (.polled true), .link ⟨0, 1⟩ (.polled true)],
        logs⟩) ∧
    (∃ logs, setup env narrow =
      ⟨.ok (.error (.bufferOutOfRange 1)), narrow, [.link ⟨0, 1⟩ .opened], logs⟩) ∧
    ∃ busy t logs, setup env wide =
      ⟨.ok (.ok ()), { wide with transport := t, up := true }, setupEvents env ⟨0, 1⟩ busy,
        logs⟩ := by
  intro env agents narrow wide
  have listed : env.platform.processors.head? = some ⟨Eemi.firstCoreNode, 0, 1, ⟨0, 1⟩⟩ := rfl
  obtain ⟨everywhere, scripted, mailboxes⟩ := setup_all_or_nothing listed
  refine ⟨listed, ?refused, ?failed, ?late, ?tooNarrow, ?wideEnough⟩
  case refused => exact (everywhere { transport := _, up := true }).1 _ _ rfl
  case failed =>
    exact (everywhere { transport := _ }).2.2 _ (fun _ => True) rfl (Link.reliable_scripted _ _)
      (fun t _ => ⟨t, rfl, trivial⟩) trivial
  case late => exact scripted { transport := { busyPolls := 2 } } rfl
  case tooNarrow => exact (mailboxes narrow).1 _ _ rfl
  case wideEnough => exact (mailboxes wide).2 _ rfl fun forever => by cases forever

end Service

end PowerBridge
