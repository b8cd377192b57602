import PowerBridge.Proofs.Link.Mailbox
import PowerBridge.Proofs.Service.Elementary

/-!
# The mailbox on the way

What is seen of an action tells what became of the mailbox: every operation that writes registers or
memory is seen by an event, and the event says what was written. So the events can be replayed. The
events up to some point give the mailbox as it was at this point, and all of them the mailbox that
is left.

The controller is triggered only right after a frame has been written on the same channel, and
nothing happens to the mailbox in between.

Main statements: `Performs.accounts`, `Accounts.window?_iff` (what is in the request window when the
controller is triggered).
-/

namespace PowerBridge

open Act (Elementary TracedBy)
open Eemi (Frame frameWords)
open Link (Channel Mailbox Route Transport window?)

variable {α : Type}

/-! ## Replaying events -/

namespace Link.Mailbox

/-- The mailbox that an operation leaves; one that faults leaves it as it is. -/
def orKept (m : Mailbox) : Except Fault Mailbox → Mailbox
  | .ok m' => m'
  | .error _ => m

/-- The mailbox after an event. Reading does not change it. -/
def follow (m : Mailbox) : Event → Mailbox
  | .link channel .opened => m.orKept ((m.openChannel channel).map Prod.snd)
  | .link channel (.requestWritten words) => m.orKept (m.writeRequest channel words)
  | .link channel .triggered => m.orKept (m.writeBit .trigger channel)
  | .link channel .pendingCleared => m.orKept (m.writeBit .status channel)
  | .link channel .interruptEnabled => m.orKept (m.writeBit .enable channel)
  | _ => m

/-- The mailbox after some events. -/
def replay (m : Mailbox) (events : List Event) : Mailbox :=
  events.foldl follow m

theorem replay_append (m : Mailbox) (earlier later : List Event) :
    m.replay (earlier ++ later) = (m.replay earlier).replay later :=
  List.foldl_append

theorem layout_follow (m : Mailbox) (event : Event) : (m.follow event).layout = m.layout := by
  have written {name : RegisterName} (channel : Channel) :
      (m.orKept (m.writeBit name channel)).layout = m.layout := by
    cases h : m.writeBit name channel with
    | error why => rfl
    | ok m' => exact layout_of_writeBit h
  unfold follow
  split
  · rename_i channel
    cases h : m.openChannel channel with
    | error why => rfl
    | ok opened => exact (layout_of_openChannel h).1
  · rename_i channel words
    cases h : m.writeRequest channel words with
    | error why => rfl
    | ok m' => exact layout_of_writeRequest h
  · exact written _
  · exact written _
  · exact written _
  · rfl

theorem layout_replay (m : Mailbox) (events : List Event) :
    (m.replay events).layout = m.layout := by
  induction events generalizing m with
  | nil => rfl
  | cons event rest ih => exact (ih _).trans (layout_follow m event)

/-- An operation that only looks at the mailbox. -/
theorem orKept_looking (m : Mailbox) (value : Except Fault α) :
    m.orKept ((do return (← value, m)).map Prod.snd) = m := by
  cases value <;> rfl

/-- An operation that gives nothing but another mailbox. -/
theorem orKept_writing (m : Mailbox) (result : Except Fault Mailbox) :
    m.orKept ((do return ((), ← result)).map Prod.snd) = m.orKept result := by
  cases result <;> rfl

end Link.Mailbox

/-! ## Events that account for the mailbox -/

/-- What is seen between two machines accounts for what became of the mailbox, and every trigger
comes right after a frame was written on its channel. -/
structure Accounts (m : Machine Mailbox) (events : List Event) (m' : Machine Mailbox) : Prop where
  replayed : m'.transport = m.transport.replay events
  announced : ∀ {before after : List Event} {channel : Channel},
    events = before ++ .link channel .triggered :: after →
      ∃ (earlier : List Event) (words : Vector UInt32 frameWords) (written : Mailbox),
        before = earlier ++ [.link channel (.requestWritten words)] ∧
          (m.transport.replay earlier).writeRequest channel words = .ok written

namespace Accounts

theorem of_quiet {m m' : Machine Mailbox} {events : List Event}
    (replayed : m'.transport = m.transport.replay events)
    (quiet : ∀ channel, .link channel .triggered ∉ events) : Accounts m events m' where
  replayed := replayed
  announced := by
    rintro before after channel rfl
    exact absurd (List.mem_append_right _ List.mem_cons_self) (quiet channel)

theorem composes : Composes Accounts where
  nil _ := of_quiet rfl fun _ => List.not_mem_nil
  append := by
    intro m m' m'' earlier later first rest
    refine ⟨?replayed, ?announced⟩
    case replayed =>
      rw [rest.replayed, first.replayed, Mailbox.replay_append]
    case announced =>
      intro before after channel same
      rcases List.append_eq_append_iff.1 same with ⟨between, rfl, rfl⟩ | ⟨between, rfl, tail⟩
      · -- a trigger of the second part comes after all of the first part
        obtain ⟨earlier', words, written, rfl, wrote⟩ := rest.announced rfl
        refine ⟨earlier ++ earlier', words, written, (List.append_assoc ..).symm, ?_⟩
        rwa [Mailbox.replay_append, ← first.replayed]
      · cases between with
        | nil =>
          -- the second part does not begin with a trigger
          have first : later = [] ++ .link channel .triggered :: after := tail.symm
          obtain ⟨_, _, _, none, -⟩ := rest.announced first
          exact absurd none.symm (List.append_ne_nil_of_right_ne_nil _ (List.cons_ne_nil _ _))
        | cons event between =>
          cases tail
          exact first.announced rfl

end Accounts

/-! ## Actions over the mailbox -/

variable {env : Env}

theorem Act.transport_mailbox (operation : Mailbox → Except Fault (α × Mailbox)) (env : Env)
    (m : Machine Mailbox) :
    (Act.transport operation env m).machine.transport =
      m.transport.orKept ((operation m.transport).map Prod.snd) := by
  rw [Act.transport]
  cases operation m.transport <;> rfl

namespace Accounts

/-- An operation that is seen by an event, other than a trigger, which says what it does. -/
theorem seen {event : Event} {operation : Mailbox → Except Fault (α × Mailbox)}
    (follows : ∀ m : Mailbox, m.orKept ((operation m).map Prod.snd) = m.follow event)
    (quiet : ∀ channel, event ≠ .link channel .triggered) :
    TracedBy Accounts env (Act.emit event >>= fun _ => Act.transport operation) := by
  intro m
  rw [Act.emit_bind, Act.events_transport]
  refine of_quiet ?_ fun channel mem => quiet channel (List.mem_singleton.1 mem).symm
  exact (Act.transport_mailbox operation env m).trans (follows m.transport)

/-- An operation that looks at the mailbox. -/
theorem looking {event : Event} {value : Mailbox → Except Fault α}
    (follows : ∀ m : Mailbox, m.follow event = m)
    (quiet : ∀ channel, event ≠ .link channel .triggered) :
    TracedBy Accounts env
      (Act.emit event >>= fun _ => Act.transport fun m => return (← value m, m)) :=
  seen (fun m => (m.orKept_looking _).trans (follows m).symm) quiet

/-- An operation that writes to the mailbox. -/
theorem writing {event : Event} {operation : Mailbox → Except Fault Mailbox}
    (follows : ∀ m : Mailbox, m.follow event = m.orKept (operation m))
    (quiet : ∀ channel, event ≠ .link channel .triggered) :
    TracedBy Accounts env
      (Act.emit event >>= fun _ => Act.transport fun m => return ((), ← operation m)) :=
  seen (fun m => (m.orKept_writing _).trans (follows m).symm) quiet

/-- A frame that has been written, and the trigger after it. -/
theorem of_written {m m' : Machine Mailbox} {channel : Channel} {words : Vector UInt32 frameWords}
    {t : Mailbox} (wrote : m.transport.writeRequest channel words = .ok t)
    (triggered : m'.transport = t.follow (.link channel .triggered)) :
    Accounts m [.link channel (.requestWritten words), .link channel .triggered] m' where
  replayed := by
    have first : m.transport.follow (.link channel (.requestWritten words)) = t := by
      rw [Mailbox.follow, wrote, Mailbox.orKept]
    rw [triggered, ← first]
    rfl
  announced := by
    intro before after channel' same
    -- the only trigger is the second event
    rcases before with _ | ⟨event, _ | ⟨event', rest⟩⟩
    · cases same
    · cases same
      exact ⟨[], words, t, rfl, wrote⟩
    · simp at same

/-- The frame is written first. If that faults, the controller is not triggered. -/
theorem post (channel : Channel) (frame : Frame) :
    TracedBy Accounts env (Exchange.post channel frame : Act Mailbox Unit) := by
  intro m
  rw [Exchange.post, Act.log_bind]
  cases wrote : Transport.writeRequest channel frame.words m.transport with
  | error why =>
    rw [Act.writeRequest, Act.bind_of_error (Act.writing_of_error _ env wrote)]
    refine of_quiet ?_ (by simp)
    exact (congrArg m.transport.orKept wrote).symm
  | ok t =>
    rw [Act.writeRequest, Act.bind_of_ok (Act.writing_of_ok _ env wrote), Act.trigger,
      Act.emit_bind, Act.events_transport]
    refine of_written wrote ?_
    exact (Act.transport_mailbox _ env _).trans (t.orKept_writing _)

end Accounts

theorem Act.Elementary.accounts {may : Effect → Prop} {x : Act Mailbox α} (h : Elementary may x) :
    TracedBy Accounts env x := by
  have emitted (event : Event) (follows : ∀ m : Mailbox, m.follow event = m)
      (quiet : ∀ channel, event ≠ .link channel .triggered) :
      TracedBy Accounts env (Act.emit event) := fun m =>
    .of_quiet (follows m.transport).symm fun channel mem =>
      quiet channel (List.mem_singleton.1 mem).symm
  cases h with
  | gic event => exact emitted _ (fun _ => rfl) (by simp)
  | chip event => exact emitted _ (fun _ => rfl) (by simp)
  | isPending channel => exact Accounts.looking (fun _ => rfl) (by simp)
  | readCallback channel => exact Accounts.looking (fun _ => rfl) (by simp)
  | readResponse channel values =>
    exact Accounts.seen (fun m => m.orKept_looking _) (by simp)
  | openChannel h => exact Accounts.seen (fun _ => rfl) (by simp)
  | enableInterrupt h => exact Accounts.writing (fun _ => rfl) (by simp)
  | clearPending h => exact Accounts.writing (fun _ => rfl) (by simp)
  | isBusy channel =>
    -- the poll is seen after the mailbox has been looked at
    refine .bind Accounts.composes (fun m => ?_) fun busy =>
      .bind Accounts.composes (emitted _ (fun _ => rfl) (by simp)) fun _ =>
        .pure Accounts.composes busy
    rw [Act.events_transport]
    refine .of_quiet ?_ fun _ => List.not_mem_nil
    rw [Act.transport_mailbox]
    exact m.transport.orKept_looking _
  | post h => exact Accounts.post _ _
  | comeUp | setScope | registerSgi =>
    exact fun m => .of_quiet rfl fun _ => List.not_mem_nil

/-- **What is seen accounts for the mailbox**, whatever an action is made of. -/
theorem Performs.accounts {may : Effect → Prop} {n : Nat} {x : Act Mailbox α}
    (h : Performs may n x) : TracedBy Accounts env x :=
  h.tracedBy Accounts.composes fun elementary => elementary.accounts

/-! ## What the controller finds -/

/-- A trigger is written to the register of the local agent if the channel has a route. Otherwise it
is not written at all. -/
theorem Link.Mailbox.follow_triggered (m : Mailbox) (channel : Channel) :
    (∃ r, m.route channel = .ok (.ok r) ∧
        m.follow (.link channel .triggered) =
          m.setRegister channel.localId .trigger r.there.bit) ∨
      (∀ r, m.route channel ≠ .ok (.ok r)) ∧ m.follow (.link channel .triggered) = m := by
  have followed : m.follow (.link channel .triggered) = m.orKept (m.writeBit .trigger channel) :=
    rfl
  rw [followed, writeBit, withRoute]
  rcases m.route channel with why | missing | r
  · exact .inr ⟨fun r => by simp, rfl⟩
  · exact .inr ⟨fun r => by simp, rfl⟩
  · exact .inl ⟨r, rfl, rfl⟩

/-- **What the controller finds when it is triggered**: the frame that has just been written is in
the request window of the channel exactly if the window lies in the memory. -/
theorem Accounts.window?_iff {m m' : Machine Mailbox} {before after : List Event}
    {channel : Channel} (h : Accounts m (before ++ .link channel .triggered :: after) m') {r : Route}
    (found : (m.transport.replay before).route channel = .ok (.ok r)) :
    ∃ earlier words, before = earlier ++ [.link channel (.requestWritten words)] ∧
      (window? (m.transport.replay before).memory r.request frameWords = some words ↔
        r.request + frameWords ≤ (m.transport.replay before).memory.size) := by
  obtain ⟨earlier, words, written, rfl, wrote⟩ := h.announced rfl
  have last : m.transport.replay (earlier ++ [.link channel (.requestWritten words)]) = written := by
    rw [Mailbox.replay_append]
    exact congrArg (m.transport.replay earlier).orKept wrote
  rw [last] at found ⊢
  exact ⟨earlier, words, rfl, Mailbox.window?_of_writeRequest wrote found⟩

end PowerBridge
