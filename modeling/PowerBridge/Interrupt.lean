import PowerBridge.Basic

/-!
# Interrupts

Interrupts are numbered. The number tells the class of an interrupt: software generated ones come
first, then private and shared peripheral ones, special numbers, the extended peripheral ranges, and
last the message based ones.

The operating system registers one software generated interrupt, through which it is told that a
callback waits for it. A registration is held until it is reset.
-/

namespace PowerBridge

/-! ## Identifiers -/

/-- The identifier of an interrupt. -/
structure InterruptId where
  number : UInt32
  deriving DecidableEq, Repr

namespace InterruptId

/-- The number of software generated interrupts. -/
def sgiCount : UInt32 := 16

/-- The software generated interrupt of the given number. -/
def sgi (n : UInt32) : Except Fault InterruptId :=
  if n < sgiCount then .ok ⟨n⟩ else .error .notAnSgi

/-- The class of an interrupt and its number within the class. -/
def describe (i : InterruptId) : String :=
  let n := i.number.toNat
  if n < 16 then s!"SGI {n}"
  else if n < 32 then s!"PPI {n - 16}"
  else if n < 1020 then s!"SPI {n - 32}"
  else if n < 1024 then s!"Special IntId {n}"
  else if n < 1056 then s!"Reserved IntId {n}"
  else if n < 1120 then s!"EPPI {n - 1056}"
  else if n < 4096 then s!"Reserved IntId {n}"
  else if n < 5120 then s!"ESPI {n - 4096}"
  else if n < 8192 then s!"Reserved IntId {n}"
  else s!"LPI {n - 8192}"

end InterruptId

/-! ## Registration of the notification interrupt -/

/-- Why an interrupt could not be registered. -/
inductive SgiError where
  /-- One is registered already. -/
  | busy
  | invalidSgi (sgi : UInt32)
  deriving DecidableEq, Repr

def SgiError.message : SgiError → String
  | busy => "an SGI is already registered"
  | invalidSgi sgi => s!"invalid SGI {sgi}"

/-- The interrupt that the operating system has registered, if any. -/
inductive SgiRegistration where
  | unregistered
  | registered (sgi : UInt32)
  deriving DecidableEq, Repr

namespace SgiRegistration

def sgi? : SgiRegistration → Option UInt32
  | unregistered => none
  | registered sgi => some sgi

/-- Registers an interrupt whose number is below `limit`, or clears the registration.

A reset always succeeds, whatever number comes with it. Otherwise a registration that is held is
reported before a number out of range. -/
def register (sgi : UInt32) (reset : Bool) (limit : UInt32) (r : SgiRegistration) :
    Except SgiError Unit × SgiRegistration :=
  if reset then (.ok (), unregistered)
  else match r with
    | registered _ => (.error .busy, r)
    | unregistered =>
      if sgi < limit then (.ok (), registered sgi)
      else (.error (.invalidSgi sgi), r)

end SgiRegistration

end PowerBridge
