import PowerBridge.Eemi.Reply
import PowerBridge.Link.Transport

/-!
# The mailbox

Agents talk through registers and a buffer memory that they share. Every agent has a block of
registers, in which every other agent has its bit, and buffers in the memory. The messages of agent
`a` to agent `b` lie at the buffer offset of `a` plus the target offset of `b`: first the request,
eight words on the response, a status word with up to eight words after it.

Offsets count bytes and are 64 bits wide; a sum that leaves this range is a fault, and nothing else
is. A message is read or written only if the whole of it lies in the memory. Operations on a channel
with an agent that does not exist do nothing.
-/

namespace PowerBridge.Link

open Eemi (Callback frameWords)

/-! ## Registers -/

/-- The registers of an agent. -/
structure Registers where
  /-- The agents on which an interrupt was raised last. -/
  trigger : UInt32 := 0
  /-- The agents that have not acknowledged a trigger yet. -/
  observation : UInt32 := 0
  /-- The agents from which an interrupt is pending. -/
  status : UInt32 := 0
  /-- The agents whose interrupts are masked. -/
  mask : UInt32 := 0
  enable : UInt32 := 0
  disable : UInt32 := 0
  deriving DecidableEq, Repr

/-- The names of the registers. -/
inductive RegisterName where
  | trigger
  | observation
  | status
  | mask
  | enable
  | disable
  deriving DecidableEq, Repr

namespace Registers

def set (name : RegisterName) (value : UInt32) (r : Registers) : Registers :=
  match name with
  | .trigger => { r with trigger := value }
  | .observation => { r with observation := value }
  | .status => { r with status := value }
  | .mask => { r with mask := value }
  | .enable => { r with enable := value }
  | .disable => { r with disable := value }

/-- The values of the registers, in the order of their names. -/
def values (r : Registers) : List UInt32 :=
  [r.trigger, r.observation, r.status, r.mask, r.enable, r.disable]

end Registers

/-- An agent. -/
structure Agent where
  /-- The bit of the agent in the registers of others. -/
  bit : UInt32
  /-- Where the buffers of the agent start, in bytes. -/
  bufferOffset : UInt64
  /-- Where, in the buffers of others, the one for this agent starts, in bytes. -/
  targetOffset : UInt64
  registers : Registers := {}
  deriving DecidableEq, Repr

/-! ## Buffer memory -/

/-- A sum in the 64-bit address range. -/
def addressSum (a b : Nat) : Except Fault Nat :=
  if a + b < UInt64.size then .ok (a + b) else .error .addressOverflow

/-- Stores words from an index on, as far as the memory reaches. -/
def storeWords (memory : Array UInt32) (start : Nat) : List UInt32 → Array UInt32
  | [] => memory
  | word :: rest => storeWords (memory.setIfInBounds start word) (start + 1) rest

/-- Whether `count` words from an index on lie in the memory. -/
def fits (memory : Array UInt32) (start count : Nat) : Bool :=
  start + count ≤ memory.size

/-- The `count` words from an index on, if they lie in the memory. -/
def window? (memory : Array UInt32) (start count : Nat) : Option (Vector UInt32 count) :=
  if inside : start + count ≤ memory.size then
    some ⟨memory.extract start (start + count), by simp only [Array.size_extract]; omega⟩
  else none

/-! ## The mailbox -/

/-- The agents and the buffer memory. -/
structure Mailbox where
  agents : List Agent
  memory : Array UInt32
  deriving DecidableEq, Repr

/-- Where the messages of a channel lie, in words from the start of the memory. -/
structure Route where
  /-- The agent on the side of the cores. -/
  here : Agent
  /-- The agent of the controller. -/
  there : Agent
  /-- Where requests to the remote agent lie. -/
  request : Nat
  /-- Where callbacks from the remote agent lie. -/
  callback : Nat
  deriving DecidableEq, Repr

namespace Mailbox

/-- The number of bytes in a word. -/
def wordBytes : Nat := 4

/-- Where the response starts in a message, in words. -/
def responseOffset : Nat := 8

/-- The largest number of words after the status word of a response. -/
def maxResponseWords : Nat := 8

/-- The number of words in a message, request and response together. -/
def messageWords : Nat := responseOffset + 1 + maxResponseWords

def callbackWords : Nat := 4

/-- The status word of a response that cannot be read. -/
def unreadableStatus : UInt32 := Eemi.Failure.internal.code

/-- Stores a value in a register of an agent. -/
def setRegister (agent : Nat) (name : RegisterName) (value : UInt32) (m : Mailbox) : Mailbox :=
  { m with agents := m.agents.modify agent fun a =>
      { a with registers := a.registers.set name value } }

/-- Stores words in the buffer memory, as far as it reaches. -/
def setWords (start : Nat) (words : List UInt32) (m : Mailbox) : Mailbox :=
  { m with memory := storeWords m.memory start words }

/-- Where the messages of a channel lie. Of two agents that do not exist the local one is
reported. -/
def route (channel : Channel) (m : Mailbox) : Except Fault (Except OpenError Route) :=
  match m.agents[channel.localId]?, m.agents[channel.remoteId]? with
  | none, _ => .ok (.error (.invalidAgent channel.localId))
  | some _, none => .ok (.error (.invalidAgent channel.remoteId))
  | some here, some there => do
    -- offsets count bytes, and the memory is made of words
    let request ← addressSum here.bufferOffset.toNat there.targetOffset.toNat
    let callback ← addressSum there.bufferOffset.toNat here.targetOffset.toNat
    return .ok {
      here, there
      request := request / wordBytes
      callback := callback / wordBytes }

/-- Does something on the route of a channel, or gives `other` if there is no such route. -/
def withRoute {α : Type} (channel : Channel) (m : Mailbox) (other : α)
    (action : Route → α) : Except Fault α := do
  match ← m.route channel with
  | .error _ => return other
  | .ok r => return action r

/-- Writes the bit of the remote agent to a register of the local one. -/
def writeBit (name : RegisterName) (channel : Channel) (m : Mailbox) : Except Fault Mailbox :=
  m.withRoute channel m fun r => m.setRegister channel.localId name r.there.bit

/-- Opens a channel whose messages lie in the memory. -/
def openChannel (channel : Channel) (m : Mailbox) :
    Except Fault (Except OpenError Unit × Mailbox) := do
  match ← m.route channel with
  | .error error => return (.error error, m)
  | .ok r =>
    -- messages must fit as a whole, even if less of them is used
    if fits m.memory r.request messageWords && fits m.memory r.callback callbackWords then
      let masked := m.setRegister channel.localId .disable r.there.bit
      return (.ok (), masked.setRegister channel.localId .status r.there.bit)
    else return (.error (.bufferOutOfRange channel.remoteId), m)

/-- Writes a frame where requests lie, if it fits there. -/
def writeRequest (channel : Channel) (words : Vector UInt32 frameWords) (m : Mailbox) :
    Except Fault Mailbox :=
  m.withRoute channel m fun r =>
    if fits m.memory r.request frameWords then m.setWords r.request words.toList else m

/-- Whether the bit of the remote agent is set in a register of the local one. -/
def testBit (register : Registers → UInt32) (channel : Channel) (m : Mailbox) :
    Except Fault Bool :=
  m.withRoute channel false fun r => register r.here.registers &&& r.there.bit ≠ 0

/-- Reads a response: the status word, and as many of the words after it as there are places for,
eight at most. A response that does not lie in the memory leaves all places as they are. -/
def readResponse {n : Nat} (channel : Channel) (values : Vector UInt32 n) (m : Mailbox) :
    Except Fault (UInt32 × Vector UInt32 n) :=
  m.withRoute channel (unreadableStatus, values) fun r =>
    let count := min n maxResponseWords
    match window? m.memory (r.request + responseOffset) (1 + count) with
    | none => (unreadableStatus, values)
    | some words =>
      -- places behind the eighth keep what they had
      (words[0], Vector.ofFn fun i =>
        if read : i.val < count then words[1 + i.val] else values[i])

def readCallback (channel : Channel) (values : Callback) (m : Mailbox) : Except Fault Callback :=
  m.withRoute channel values fun r =>
    match window? m.memory r.callback callbackWords with
    | none => values
    | some words => ⟨words[0], words[1], words[2], words[3]⟩

instance : Transport Mailbox where
  openChannel := openChannel
  writeRequest := writeRequest
  trigger := writeBit .trigger
  isBusy channel m := return (← m.testBit Registers.observation channel, m)
  readResponse channel values m := return (← m.readResponse channel values, m)
  readCallback channel values m := m.readCallback channel values
  isPending channel m := m.testBit Registers.status channel
  clearPending := writeBit .status
  enableInterrupt := writeBit .enable
  -- registers only change from outside, and polls do not count
  settled _ := 0

end Mailbox

end PowerBridge.Link
