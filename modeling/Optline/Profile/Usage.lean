/-!
# Usage counters

Memory readings arrive at any time and are kept in three counters: the last reading, the highest
one since the running command began, and the highest one of all.  All are in KiB.

* `Usage` — the counters, and whether a command is running.
* `Usage.record` — one reading.
* `Usage.beginCommand`, `Usage.endCommand` — the limits of a command; each may take a reading.
-/

namespace Optline

/-- What is known about the use of memory. -/
structure Usage where
  /-- The last reading. -/
  current : Nat := 0
  /-- The highest reading since the running command began. -/
  commandPeak : Nat := 0
  /-- The highest reading of all. -/
  processPeak : Nat := 0
  /-- Whether a command is running. -/
  inFlight : Bool := false
  deriving DecidableEq, Repr

namespace Usage

/-- Takes one reading in.  It counts for the command only while one is running. -/
def record (u : Usage) (kb : Nat) : Usage :=
  { u with
    current := kb
    processPeak := max u.processPeak kb
    commandPeak := if u.inFlight then max u.commandPeak kb else u.commandPeak }

/-- Takes readings in, one after the other. -/
def recordAll (u : Usage) (kbs : List Nat) : Usage :=
  kbs.foldl record u

/-- Takes a reading in if there is one. -/
def recordIfAny (u : Usage) : Option Nat → Usage
  | some kb => u.record kb
  | none => u

/-- A command begins: its peak starts from the current reading. -/
def beginCommand (u : Usage) (reading : Option Nat) : Usage :=
  let u := u.recordIfAny reading
  { u with commandPeak := u.current, inFlight := true }

/-- The running command ends. -/
def endCommand (u : Usage) (reading : Option Nat) : Usage :=
  { u.recordIfAny reading with inFlight := false }

end Usage

end Optline
