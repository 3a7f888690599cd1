import Optline.Decimal.Fixed
import Optline.Decimal.Literal
import Optline.Decimal.Shortest

/-!
# Profile reports

A command that ran longer than the noise floor is reported with the time and the memory that it
took.  Nothing here touches the result of the command.

* `Measurement` — what was read while a command ran.
* `Report` — what is reported of it.
* `Profiler` — whether to report, and above which time.
* `Profiler.report?` — the report of a measurement, if it is worth one.
* `Report.text` — a report on one line.
-/

namespace Optline

/-- What was read while a command ran; times in nanoseconds, memory in KiB. -/
structure Measurement where
  /-- Time from start to end. -/
  elapsed : Nat
  /-- Processor time at start and end, where there is such a clock. -/
  cpuBefore : Option Nat
  cpuAfter : Option Nat
  /-- Memory before the command. -/
  memoryBefore : Nat
  /-- Highest reading during the command. -/
  commandPeak : Nat
  /-- Highest reading of all. -/
  processPeak : Nat
  /-- Memory after the command. -/
  memoryAfter : Nat
  deriving DecidableEq, Repr

/-- What is reported of a command; times in seconds, memory in MiB. -/
structure Report where
  command : String
  elapsedSecs : Float
  cpuSecs : Option Float
  /-- The peak of the command less the memory before it; negative if memory was freed. -/
  usedMb : Int
  peakMb : Nat
  currentMb : Nat

/-- Nanoseconds as seconds. -/
def secondsOf (nanos : Nat) : Float :=
  Float.ofNat (nanos / 1000000000) + Float.ofNat (nanos % 1000000000) / 1000000000

/-- KiB as whole MiB. -/
def mebibytes (kb : Nat) : Nat :=
  kb / 1024

/-- The memory that a command used, in MiB.  Readings are words of 64 bits and their difference is
taken as a signed word; the division goes toward zero. -/
def usedMebibytes (peak before : Nat) : Int :=
  (((peak : Int) - before).bmod Decimal.wordCount).tdiv 1024

/-- Whether and from which time on commands are reported. -/
structure Profiler where
  enabled : Bool := true
  /-- In milliseconds; a command that takes no longer is not reported. -/
  noiseFloor : Nat := 10
  deriving DecidableEq, Repr

/-- The report of a command, if it is worth one. -/
def Profiler.report? (p : Profiler) (command : String) (m : Measurement) : Option Report :=
  if p.enabled && p.noiseFloor * 1000000 < m.elapsed then
    some {
      command
      elapsedSecs := secondsOf m.elapsed
      cpuSecs :=
        match m.cpuBefore, m.cpuAfter with
        | some before, some after => some (secondsOf (after - before))
        | _, _ => none
      usedMb := usedMebibytes m.commandPeak m.memoryBefore
      peakMb := mebibytes m.processPeak
      currentMb := mebibytes m.memoryAfter }
  else none

/-- A report on one line. -/
def Report.text (r : Report) : String :=
  r.command ++ " elapsed time " ++ Decimal.twoPlaces r.elapsedSecs ++ " seconds"
    ++ (match r.cpuSecs with
      | some cpu => ", cpu_time " ++ Decimal.twoPlaces cpu ++ " seconds"
      | none => "")
    ++ "; used memory " ++ toString r.usedMb ++ "Mb, peak memory " ++ toString r.peakMb
    ++ "Mb, current memory " ++ toString r.currentMb ++ "Mb"

end Optline
