import PowerBridge.Proofs.Exchange.Polls
import PowerBridge.Proofs.Link.Footprint

/-!
# Exchanges over the mailbox

The registers that are polled change from outside only. So all polls of a wait get one answer: a
request is found acknowledged by the first poll, or by none.

To post a request over a channel that can be opened is to write its six words and one register. The
words of the response lie behind it, and the register that is polled is another one. So a whole
exchange is known from the mailbox before it: whether it is in time, what is read, and which cells
are left with other words.

Main statements: `awaitAck_of_idle`, `awaitAck_of_busy`, `exists_posted`,
`sendForStatus_over_mailbox`.
-/

namespace PowerBridge.Exchange

open Eemi (Frame)
open Link (Cell Channel Mailbox Registers Route Transport lookup_cons_of_ne
  lookup_wordCells_register wordCells)

/-! ## Waits in which nothing changes -/

section

variable {T : Type} [Transport T] {channel : Channel} {env : Env} {m : Machine T}

theorem pollUntilIdle_of_idle
    (idle : Transport.isBusy channel m.transport = .ok (false, m.transport)) (polls : Nat) :
    pollUntilIdle channel (polls + 1) env m = ⟨.ok true, m, pollEvents channel [false], []⟩ := by
  rw [pollUntilIdle, Act.bind_of_ok (Act.isBusy_of_ok env idle)]
  rfl

theorem pollUntilIdle_of_busy {polls : Nat}
    (busy : polls ≠ 0 → Transport.isBusy channel m.transport = .ok (true, m.transport)) :
    pollUntilIdle channel polls env m =
      ⟨.ok false, m, pollEvents channel (List.replicate polls true), []⟩ := by
  -- a busy poll leaves the machine as it was, with one poll less to go
  induction polls with
  | zero => rfl
  | succ polls ih =>
    have busy := busy (Nat.succ_ne_zero polls)
    rw [pollUntilIdle, Act.bind_of_ok (Act.isBusy_of_ok env busy), List.replicate_succ]
    simp only [if_true, ih fun _ => busy]
    rfl

/-- A wait that allows a poll at all is over with the first one, if that finds the controller
idle. -/
theorem awaitAck_of_idle (idle : Transport.isBusy channel m.transport = .ok (false, m.transport))
    (allows : env.platform.wait.Allows 0) :
    awaitAck channel env m = ⟨.ok (.ok ()), m, pollEvents channel [false], []⟩ := by
  rw [awaitAck, Act.env_bind]
  cases policy : env.platform.wait with
  | forever =>
    simp only [Act.machine_bind]
    rw [Act.bind_of_ok (pollUntilIdle_of_idle idle _)]
    rfl
  | bounded polls =>
    rw [policy] at allows
    obtain ⟨more, count⟩ := Nat.exists_eq_succ_of_ne_zero (Nat.ne_of_gt allows)
    simp only [count]
    rw [Act.bind_of_ok (pollUntilIdle_of_idle idle more)]
    rfl

/-- A bounded wait expires if every poll finds the controller busy, or if there is none. -/
theorem awaitAck_of_busy {polls : UInt32} (policy : env.platform.wait = .bounded polls)
    (busy : polls ≠ 0 → Transport.isBusy channel m.transport = .ok (true, m.transport)) :
    awaitAck channel env m =
      ⟨.ok (.error .timeout), m, pollEvents channel (List.replicate polls.toNat true), []⟩ := by
  have busy' (nonzero : polls.toNat ≠ 0) := busy fun zero => nonzero (congrArg UInt32.toNat zero)
  rw [awaitAck, Act.env_bind]
  simp only [policy]
  rw [Act.bind_of_ok (pollUntilIdle_of_busy busy')]
  simp only [Bool.false_eq_true, if_false, Act.pure_apply, List.append_nil]

/-! ## Exchanges once a request is posted -/

variable {frame : Frame} {posted : T}
  (sent : post channel frame env m =
    ⟨.ok (), { m with transport := posted }, postEvents channel frame,
      env.filter.keep [requestRecord frame]⟩)
include sent

theorem sendForStatus_of_idle (idle : Transport.isBusy channel posted = .ok (false, posted))
    (allows : env.platform.wait.Allows 0) {n : Nat} {values read : Vector UInt32 n}
    {status : UInt32}
    (reads : Transport.readResponse channel values posted = .ok ((status, read), posted)) :
    sendForStatus channel frame values env m =
      ⟨.ok (.ok status, read), { m with transport := posted },
        transcript channel frame.words [false] (some n), env.filter.keep [requestRecord frame]⟩ := by
  have acknowledged := awaitAck_of_idle (m := { m with transport := posted }) idle allows
  have answered : Act.readResponse channel values env { m with transport := posted } = _ :=
    Act.seen_of_ok (.link channel (.responseRead n)) env reads
  rw [sendForStatus, Act.bind_of_ok sent, Act.bind_of_ok acknowledged]
  dsimp only
  rw [Act.bind_of_ok answered]
  simp only [Act.pure_apply, List.append_nil]
  rfl

theorem sendForStatus_of_busy {polls : UInt32} (policy : env.platform.wait = .bounded polls)
    (busy : polls ≠ 0 → Transport.isBusy channel posted = .ok (true, posted)) {n : Nat}
    (values : Vector UInt32 n) :
    sendForStatus channel frame values env m =
      ⟨.ok (.error .timeout, values), { m with transport := posted },
        transcript channel frame.words (List.replicate polls.toNat true) none,
        env.filter.keep [requestRecord frame]⟩ := by
  have expired := awaitAck_of_busy (m := { m with transport := posted }) policy busy
  rw [sendForStatus, Act.bind_of_ok sent, Act.bind_of_ok expired]
  simp only [Act.pure_apply, List.append_nil]
  exact congrArg (Outcome.mk _ _ · _) (List.append_nil _).symm

end

/-! ## Over the mailbox -/

/-- The cells that are written for a request, with their words: the request lies where those of the
channel do, and the local agent triggers the remote one. -/
def postedCells (channel : Channel) (r : Route) (frame : Frame) : List (Cell × UInt32) :=
  (.register channel.localId .trigger, r.there.bit) :: wordCells r.request frame.words.toList

section

variable {channel : Channel} {r : Route} {frame : Frame}

/-- To post a request is to write its cells. -/
theorem exists_posted {m : Machine Mailbox} (found : m.transport.route channel = .ok (.ok r))
    (inside : r.request + 6 ≤ m.transport.memory.size) (frame : Frame) (env : Env) :
    ∃ posted, m.transport.Updated (postedCells channel r frame) posted ∧
      post channel frame env m =
        ⟨.ok (), { m with transport := posted }, postEvents channel frame,
          env.filter.keep [requestRecord frame]⟩ := by
  obtain ⟨written, wrote, updated⟩ := Mailbox.updated_writeRequest found frame.words
  rw [if_pos inside] at updated
  -- the frame changes no agent, so that the trigger takes the same route
  have agents := Mailbox.agents_of_writeRequest wrote
  have found' := (Mailbox.route_of_agents agents channel).trans found
  obtain ⟨posted, triggered, updated'⟩ := Mailbox.updated_writeBit found' .trigger
  exact ⟨posted, updated.trans updated', post_of_ok wrote triggered env⟩

variable {m posted : Mailbox} (found : m.route channel = .ok (.ok r))
  (updated : m.Updated (postedCells channel r frame) posted)
include found updated

/-- A poll is answered by the register that was there before the request. -/
theorem isBusy_of_posted :
    Transport.isBusy channel posted =
      .ok (decide (r.here.registers.observation &&& r.there.bit ≠ 0), posted) := by
  have unwritten : (postedCells channel r frame).lookup
      (.register channel.localId .observation) = none := by
    rw [postedCells, lookup_cons_of_ne (by simp)]
    exact lookup_wordCells_register _ _ _ _
  have tested : m.testBit Registers.observation channel = .ok _ :=
    Mailbox.withRoute_of_route found _ _
  have tested' := (Mailbox.testBit_of_updated updated found unwritten).trans tested
  exact congrArg (Except.map fun busy => (busy, posted)) tested'

/-- A response is read as before the request. -/
theorem readResponse_of_posted {n : Nat} (values : Vector UInt32 n) :
    posted.readResponse channel values = m.readResponse channel values := by
  refine Mailbox.readResponse_of_updated updated found (fun i behind => ?_) values
  rw [postedCells, lookup_cons_of_ne (by simp)]
  exact Mailbox.lookup_wordCells_of_behind behind frame.words

end

/-- **An exchange over the mailbox is known from the mailbox before it.** On a channel that can be
opened, the request and the trigger are all that is written, whether the wait is in time or not. If
the observation register has no bit of the remote agent and a poll is allowed, the status word is
given, and the first eight of the caller's values are replaced by the words behind it. If it has
such a bit and the wait is bounded, or if no poll is allowed, the exchange times out, and the values
stand. -/
theorem sendForStatus_over_mailbox {channel : Channel} {m : Machine Mailbox} {opened : Mailbox}
    (opens : m.transport.openChannel channel = .ok (.ok (), opened)) (frame : Frame) {n : Nat}
    (values : Vector UInt32 n) (env : Env) :
    ∃ r posted status read,
      m.transport.route channel = .ok (.ok r) ∧
      m.transport.Updated (postedCells channel r frame) posted ∧
      m.transport.memory[r.request + 8]? = some status ∧
      (∀ i (place : i < n), (i < 8 → m.transport.memory[r.request + 9 + i]? = some read[i]) ∧
        (8 ≤ i → read[i] = values[i])) ∧
      (r.here.registers.observation &&& r.there.bit = 0 → env.platform.wait.Allows 0 →
        sendForStatus channel frame values env m =
          ⟨.ok (.ok status, read), { m with transport := posted },
            transcript channel frame.words [false] (some n),
            env.filter.keep [requestRecord frame]⟩) ∧
      ∀ polls, env.platform.wait = .bounded polls →
        (r.here.registers.observation &&& r.there.bit ≠ 0 ∨ polls = 0) →
          sendForStatus channel frame values env m =
            ⟨.ok (.error .timeout, values), { m with transport := posted },
              transcript channel frame.words (List.replicate polls.toNat true) none,
              env.filter.keep [requestRecord frame]⟩ := by
  obtain ⟨request, callback, placed⟩ := Mailbox.placed_of_openChannel opens
  obtain ⟨status, read, reads, first, others⟩ := placed.reads values
  obtain ⟨⟨r, found, rfl, rfl⟩, fits, -⟩ := placed
  have inside : r.request + 6 ≤ m.transport.memory.size :=
    Nat.le_trans (Nat.add_le_add_left (by decide) _) fits
  obtain ⟨posted, updated, sent⟩ := exists_posted found inside frame env
  have polled := isBusy_of_posted found updated
  refine ⟨r, posted, status, read, found, updated, first, others, ?idle, ?busy⟩
  case idle =>
    intro clear allows
    have idle : Transport.isBusy channel posted = .ok (false, posted) := by
      rw [polled, decide_eq_false (not_not_intro clear)]
    have response := (readResponse_of_posted found updated values).trans reads
    exact sendForStatus_of_idle sent idle allows
      (congrArg (Except.map fun response => (response, posted)) response)
  case busy =>
    intro polls policy late
    refine sendForStatus_of_busy sent policy (fun nonzero => ?_) values
    have set := late.resolve_right nonzero
    rw [polled, decide_eq_true set]

/-- In a memory of which each word is its own index, eight of nine values are read, up to the last
word. If the controller is busy, three polls are allowed, and no value is read. -/
theorem sendForStatus_over_mailbox_uneven :
    let memory := ((List.range 33).map UInt32.ofNat).toArray
    let frame : Frame := .empty (.ofApi .getApiVersion .nonSecure)
    let idle : Machine Mailbox := { transport := .uneven memory }
    let busy : Machine Mailbox :=
      { transport := (Mailbox.uneven memory).setRegister 0 .observation 2 }
    let env (wait : WaitPolicy) : Env :=
      { platform :=
          { coreCount := 1
            idleSgi := ⟨15⟩
            controllerIrq := ⟨62⟩
            wait
            processors := [] }
        core := 0
        filter := .off }
    (∃ posted read,
      sendForStatus ⟨0, 1⟩ frame (Vector.replicate 9 7) (env .forever) idle =
        ⟨.ok (.ok 24, read), { transport := posted },
          transcript ⟨0, 1⟩ frame.words [false] (some 9), []⟩ ∧
      (read[0] = 25 ∧ read[7] = 32 ∧ read[8] = 7) ∧
      posted.cell? (.register 0 .trigger) = some 2 ∧ posted.cell? (.word 16) = some 0x1000201 ∧
      posted.cell? (.word 22) = some 22) ∧
    ∃ posted,
      sendForStatus ⟨0, 1⟩ frame #v[7] (env (.bounded 3)) busy =
        ⟨.ok (.error .timeout, #v[7]), { transport := posted },
          transcript ⟨0, 1⟩ frame.words [true, true, true] none, []⟩ := by
  intro memory frame idle busy env
  constructor
  · obtain ⟨r, posted, status, read, found, updated, first, others, inTime, -⟩ :=
      @sendForStatus_over_mailbox ⟨0, 1⟩ idle _ rfl frame 9 (Vector.replicate 9 7) (env .forever)
    cases found
    cases first
    have word (i : Nat) (place : i < 9) (filled : i < 8) := (others i place).1 filled
    refine ⟨posted, read, inTime rfl trivial, ⟨?_, ?_, ?_⟩, (updated.cells _).trans (by decide),
      (updated.cells _).trans (by decide), (updated.cells _).trans (by decide)⟩
    · exact Option.some.inj (word 0 (by decide) (by decide)).symm
    · exact Option.some.inj (word 7 (by decide) (by decide)).symm
    · exact (others 8 (by decide)).2 (by decide)
  · obtain ⟨r, posted, status, read, found, -, -, -, -, late⟩ :=
      @sendForStatus_over_mailbox ⟨0, 1⟩ busy _ rfl frame 1 #v[7] (env (.bounded 3))
    cases found
    exact ⟨posted, late 3 rfl (.inl (by decide))⟩

end PowerBridge.Exchange
