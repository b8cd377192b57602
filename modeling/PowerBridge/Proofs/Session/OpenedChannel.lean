import PowerBridge.Proofs.Link.Opened
import PowerBridge.Proofs.Session.RequestsInPlace

/-!
# The primary channel of a service that is up

A service is up only if setup has opened the channel of the primary processor. So while it is up the
messages of this channel lie in the memory, in both directions, at every point of every operation:
no request on it is dropped, and no response or callback is made up.

Main statement: `Session.opening_certifies`.
-/

namespace PowerBridge

open Link (Agent Channel Mailbox Step Transport)
open Link.Mailbox (KeepsLayout placeOf)

/-- A setup that opens the channel has found room for its messages. -/
theorem Service.placed_of_opens {env : Env} {m : Machine Mailbox}
    (opens : Service.opens env m = true) :
    ∃ first request callback, env.platform.processors.head? = some first ∧
      m.transport.Placed first.channel request callback := by
  unfold Service.opens at opens
  split at opens
  · cases opens
  · rename_i first listed
    split at opens
    · rename_i t opened
      obtain ⟨request, callback, placed⟩ := Mailbox.placed_of_openChannel opened
      exact ⟨first, request, callback, listed, placed⟩
    · cases opens

namespace Session

variable {config : Config} {s : Session Mailbox}

/-- While the service is up, the messages of its primary channel lie in the memory. -/
def PrimaryPlaced (config : Config) (s : Session Mailbox) : Prop :=
  s.machine.up = true → ∃ first request callback,
    config.platform.processors.head? = some first ∧
      s.machine.transport.Placed first.channel request callback

theorem primaryPlaced_step {input : Input Mailbox} (keeps : input.KeepsLayout)
    (before : s.PrimaryPlaced config) : (s.step config input).2.PrimaryPlaced config := by
  intro up
  have layout := layout_step config s keeps
  obtain ⟨first, request, callback, listed, placed⟩ : ∃ first request callback,
      config.platform.processors.head? = some first ∧
        s.machine.transport.Placed first.channel request callback := by
    cases input with
    | outside change | core index => exact before up
    | command command =>
      -- the service was up already, or has just come up
      rcases Command.up_perform_iff.1 up with already | ⟨-, opens⟩
      · exact before already
      · exact Service.placed_of_opens opens
  exact ⟨first, request, callback, listed, placed.of_layout layout⟩

/-- Whatever a session does while its service is up, or comes up, the operations on its primary
channel work on the memory. -/
theorem primary_accessible {m : Mailbox} {inputs : List (Input Mailbox)}
    (keep : ∀ input ∈ inputs, input.KeepsLayout) {t : Transition Mailbox}
    (taken : t ∈ (start m).history config inputs) (up : t.after.machine.up = true) :
    ∃ first request callback, config.platform.processors.head? = some first ∧
      t.after.machine.transport.Accessible first.channel request callback ∧
        ∀ before, (t.mailboxAfter before).Accessible first.channel request callback := by
  have down : (start m).PrimaryPlaced config := fun up => by cases up
  obtain ⟨placed, -, stepped⟩ := of_mem_history (I := PrimaryPlaced config)
    (fun input mem s => primaryPlaced_step (keep input mem)) down taken
  have keeps := keep t.input (input_mem_of_mem_history taken)
  rw [stepped] at up ⊢
  obtain ⟨first, request, callback, listed, placed⟩ := primaryPlaced_step keeps placed up
  refine ⟨first, request, callback, listed, placed.accessible, fun before => ?_⟩
  -- at every point on the way the buffers are where they are at the end
  have layout := (Mailbox.layout_replay t.before.machine.transport before).trans
    (layout_step config t.before keeps).symm
  exact (placed.of_layout layout).accessible

/-- **Opening a channel certifies it.** A channel of a mailbox, the offsets of which add up within
the address range, is opened exactly if its agents exist and its messages lie in the memory;
otherwise nothing changes. Once it is open, operations on it work on the memory, whatever other
operations come before them. So all operations on the primary channel do, in every run of a session,
as long as the service is up. -/
theorem opening_certifies :
    (∀ (channel : Channel) (m : Mailbox), m.InRange channel →
      ∃ opened, m.openChannel channel = .ok (m.verdict channel, opened) ∧
        (m.verdict channel ≠ .ok () → opened = m) ∧
        (m.verdict channel = .ok () →
          ∃ here there, m.agents[channel.localId]? = some here ∧
            m.agents[channel.remoteId]? = some there ∧
            ∀ (steps : List (Step Mailbox)) later, (∀ step ∈ steps, KeepsLayout step) →
              Link.after opened steps = .ok later →
                later.Accessible channel (placeOf here there) (placeOf there here))) ∧
    ∀ (config : Config) (m : Mailbox) (inputs : List (Input Mailbox)),
      (∀ input ∈ inputs, input.KeepsLayout) → ∀ t ∈ (start m).history config inputs,
        t.after.machine.up = true → ∃ first request callback,
          config.platform.processors.head? = some first ∧
            t.after.machine.transport.Accessible first.channel request callback ∧
              ∀ before, (t.mailboxAfter before).Accessible first.channel request callback := by
  constructor
  case left =>
    intro channel m inRange
    obtain ⟨opened, done, unchanged⟩ := Mailbox.openChannel_eq_verdict inRange
    refine ⟨opened, done, unchanged, fun ok => ?_⟩
    obtain ⟨here, there, foundHere, foundThere, placed⟩ := Mailbox.placed_of_verdict inRange ok
    refine ⟨here, there, foundHere, foundThere, fun steps later keep ran => ?_⟩
    -- neither opening nor what comes later moves a buffer
    have layout := (Mailbox.layout_of_after keep ran).trans (Mailbox.layout_of_openChannel done).1
    exact (placed.of_layout layout).accessible
  case right =>
    intro config m inputs keep t taken up
    exact primary_accessible keep taken up

/-- Two agents, whose messages need 52 words of memory. -/
def twoAgents (words : Nat) (registers : Link.Registers) : Mailbox :=
  { agents := [⟨4, 0, 0x40, registers⟩, ⟨2, 0x80, 0x40, {}⟩]
    memory := Array.replicate words 0 }

/-- With one word less than it needs the channel is not opened. -/
example : (twoAgents 51 {}).verdict ⟨0, 1⟩ = .error (.bufferOutOfRange 1) := rfl

/-- With 52 words the channel is opened, and stays accessible after a trigger and a poll. So it is
after a setup. -/
theorem opening_certifies_twoAgents :
    (twoAgents 52 {}).openChannel ⟨0, 1⟩ =
        .ok (.ok (), twoAgents 52 { status := 2, disable := 2 }) ∧
      Link.after (twoAgents 52 { status := 2, disable := 2 })
          [.operate .trigger ⟨0, 1⟩, .operate .isBusy ⟨0, 1⟩] =
        .ok (twoAgents 52 { status := 2, disable := 2, trigger := 2 }) ∧
      (twoAgents 52 { status := 2, disable := 2, trigger := 2 }).Accessible ⟨0, 1⟩ 16 48 ∧
      ∃ request callback,
        ((start (twoAgents 52 {})).step Config.oneCore
          (.command .setup)).2.machine.transport.Accessible ⟨0, 1⟩ request callback := by
  obtain ⟨certified, primary⟩ := opening_certifies
  have inRange : (twoAgents 52 {}).InRange ⟨0, 1⟩ := by
    rintro here there ⟨⟩ ⟨⟩
    decide
  refine ⟨rfl, rfl, ?opened, ?setUp⟩
  case opened =>
    obtain ⟨opened, done, -, accessible⟩ := certified ⟨0, 1⟩ (twoAgents 52 {}) inRange
    obtain ⟨here, there, foundHere, foundThere, accessible⟩ := accessible rfl
    cases foundHere
    cases foundThere
    cases done
    exact accessible [.operate .trigger ⟨0, 1⟩, .operate .isBusy ⟨0, 1⟩] _
      (by simp [KeepsLayout]) rfl
  case setUp =>
    have taken : _ ∈ (start (twoAgents 52 {})).history Config.oneCore [.command .setup] :=
      List.mem_singleton.2 rfl
    obtain ⟨first, request, callback, listed, accessible, -⟩ :=
      primary Config.oneCore (twoAgents 52 {}) _ (by simp [Input.KeepsLayout]) _ taken rfl
    cases listed
    exact ⟨request, callback, accessible⟩

end Session

end PowerBridge
