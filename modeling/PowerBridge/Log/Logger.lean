/-!
# Logging

A record is logged at a level. A filter says up to which level records are written.

Records are written one to a line, each after its level. There is one logger: it is installed once,
and installing it sets the filter; a second attempt fails and changes nothing.

The sink takes text up to some number of characters, if it is bounded; of a text that does not fit
it keeps the part that does.
-/

namespace PowerBridge.Log

/-! ## Levels and filters -/

/-- How important a record is, most important first. -/
inductive Level where
  | error
  | warn
  | info
  | debug
  | trace
  deriving DecidableEq, Repr

namespace Level

/-- The rank of a level: the less important, the higher. -/
def rank : Level → Nat
  | error => 1
  | warn => 2
  | info => 3
  | debug => 4
  | trace => 5

def name : Level → String
  | error => "ERROR"
  | warn => "WARN"
  | info => "INFO"
  | debug => "DEBUG"
  | trace => "TRACE"

end Level

/-- Which records are written: none, or those up to some level. -/
inductive Filter where
  | off
  | upTo (level : Level)
  deriving DecidableEq, Repr

namespace Filter

/-- The rank of the least important level that is written, zero if none is. -/
def rank : Filter → Nat
  | off => 0
  | upTo level => level.rank

/-- Whether records of a level are written. -/
def admits (f : Filter) (level : Level) : Bool :=
  level.rank ≤ f.rank

def name : Filter → String
  | off => "OFF"
  | upTo level => level.name

/-- The filter with the given lower-case name. -/
def ofName? : String → Option Filter
  | "off" => some off
  | "error" => some (upTo .error)
  | "warn" => some (upTo .warn)
  | "info" => some (upTo .info)
  | "debug" => some (upTo .debug)
  | "trace" => some (upTo .trace)
  | _ => none

/-- Whether the monitor is built with its assertions. -/
def assertions : Bool := true

/-- The filter used where no name is given, or an unknown one: records for debugging are written if
the monitor is built with its assertions. -/
def fallback : Filter :=
  if assertions then upTo .debug else upTo .info

/-- The filter with the given name, or else the fallback. -/
def ofName (text : String) : Filter :=
  (ofName? text).getD fallback

end Filter

/-! ## Records -/

/-- A message logged at a level. -/
structure Record where
  level : Level
  message : String
  deriving DecidableEq, Repr

/-- The line written for a record. -/
def Record.line (r : Record) : String :=
  s!"{r.level.name}: {r.message}\n"

/-- The text of a list of records, a line for each. -/
def text (records : List Record) : String :=
  String.join (records.map Record.line)

/-- The records that a filter lets through. -/
def Filter.keep (f : Filter) (records : List Record) : List Record :=
  records.filter fun r => f.admits r.level

/-! ## Installing the logger -/

/-- Whether the logger is installed, and which records it writes. -/
structure Logger where
  installed : Bool
  filter : Filter
  deriving DecidableEq, Repr

namespace Logger

/-- Before anything is installed no record is written. -/
def initial : Logger :=
  { installed := false
    filter := .off }

/-- Installs the logger and sets its filter. Answers whether this succeeded. -/
def install (filter : Filter) (l : Logger) : Bool × Logger :=
  if l.installed then (false, l)
  else (true, { installed := true, filter })

/-- What is written for a record. -/
def write (l : Logger) (r : Record) : String :=
  if l.filter.admits r.level then r.line else ""

end Logger

/-! ## A sink of limited room -/

/-- Text written so far, and how many characters there may be of it. -/
structure Sink where
  /-- The number of characters that fit, if there is a limit. -/
  capacity : Option Nat
  stored : String := ""
  deriving DecidableEq, Repr

namespace Sink

/-- Adds the part of a text that still fits. -/
def write (s : Sink) (text : String) : Sink :=
  let all := s.stored ++ text
  match s.capacity with
  | none => { s with stored := all }
  | some room => { s with stored := String.ofList (all.toList.take room) }

/-- Adds a text and the end of its line. -/
def writeLine (s : Sink) (text : String) : Sink :=
  (s.write text).write "\n"

/-- What is stored after each of some lines. -/
def writeLines (s : Sink) : List String → List String
  | [] => []
  | line :: rest =>
    let next := s.writeLine line
    next.stored :: next.writeLines rest

end Sink

end PowerBridge.Log
