import KeyRotation.Decimal
import KeyRotation.Json
import KeyRotation.KeyStatus

/-! What a run did and why it stopped: the tally kept while it goes, and the report it leaves.
Totals saturate. Every reason is a normal outcome; faults are kept apart. Time is counted in
nanoseconds, and written as seconds in two ways. -/
namespace KeyRotation

inductive Reason where
  | completed
  | nothingToDo
  | targetNotReady
  | versionDrifted
  | timeLimitReached
  deriving DecidableEq, Repr

namespace Reason

def all : List Reason :=
  [.completed, .nothingToDo, .targetNotReady, .versionDrifted, .timeLimitReached]

def tag : Reason → String
  | .completed => "Completed"
  | .nothingToDo => "NothingToDo"
  | .targetNotReady => "TargetNotReady"
  | .versionDrifted => "VersionDrifted"
  | .timeLimitReached => "TimeLimitReached"

def title : Reason → String
  | .completed => "Migration done"
  | .nothingToDo => "Nothing to do"
  | .targetNotReady => "Target not ready"
  | .versionDrifted => "Target changed"
  | .timeLimitReached => "Time limit reached"

/-- The check after a batch ended the run, be it the last batch. -/
def isEarly : Reason → Bool
  | .versionDrifted | .timeLimitReached => true
  | _ => false

def ofTag? (tag : String) : Option Reason := all.find? (·.tag == tag)

def ofJson? (text : String) : Option Reason := (Json.Tag.read? text).bind ofTag?

end Reason

/-- A reading of the clock, in nanoseconds from a moment of its own choice. -/
abbrev Instant := Int

abbrev Elapsed := Nat

namespace Elapsed

def nanosPerSecond : Nat := 1000000000

def ofSeconds (seconds : Nat) : Elapsed := seconds * nanosPerSecond

/-- Whole seconds and nanoseconds, of which a second's worth carries over. A span has
fewer than `2 ^ 64` seconds. -/
def ofParts? (seconds nanos : Nat) : Option Elapsed :=
  if seconds + nanos / nanosPerSecond < UInt64.size then some (ofSeconds seconds + nanos) else none

/-- The time since a reading; a clock that went backwards shows no time at all. -/
def since (started now : Instant) : Elapsed := (now - started).toNat

/-- Seconds as a floating point number: the whole seconds and the fraction are rounded
apart, then their sum. -/
def seconds (elapsed : Elapsed) : Decimal.Binary64 :=
  .add (.ofRatio false (elapsed / nanosPerSecond) 1)
    (.ofRatio false (elapsed % nanosPerSecond) nanosPerSecond)

/-- Amounts are written in full from five places behind the point to sixteen digits in
front of it. -/
def layout : Decimal.Layout := ⟨-5, 15, true, "inf"⟩

def amount (elapsed : Elapsed) : String := layout.render elapsed.seconds

def millis (elapsed : Elapsed) : String := Decimal.fixed 3 elapsed.seconds

end Elapsed

structure BatchOutcome where
  converted : UInt64 := 0
  failed : UInt64 := 0
  deriving DecidableEq, Repr

/-- The sum, or the largest word if it does not fit. -/
def addCounts (a b : UInt64) : UInt64 := UInt64.ofNatClamp (a.toNat + b.toNat)

theorem toNat_ofNatClamp (n : Nat) :
    (UInt64.ofNatClamp n).toNat = min (UInt64.size - 1) n := by
  unfold UInt64.ofNatClamp
  split
  next small =>
    rw [UInt64.toNat_ofNatLT]
    exact (Nat.min_eq_right (Nat.le_sub_one_of_lt small)).symm
  next large =>
    rw [UInt64.toNat_ofNatLT]
    exact (Nat.min_eq_left (Nat.le_trans (Nat.sub_le _ _) (Nat.not_lt.1 large))).symm

theorem toNat_addCounts (a b : UInt64) :
    (addCounts a b).toNat = min (UInt64.size - 1) (a.toNat + b.toNat) :=
  toNat_ofNatClamp _

structure Tally where
  kind : KeyKind
  target : Option KeyVersion := none
  converted : UInt64 := 0
  failed : UInt64 := 0
  planned : UInt64 := 0
  done : UInt64 := 0
  deriving DecidableEq, Repr

structure Report where
  kind : KeyKind
  target : Option KeyVersion
  converted : UInt64
  failed : UInt64
  planned : UInt64
  done : UInt64
  reason : Reason
  elapsed : Elapsed
  deriving DecidableEq, Repr

namespace Tally

def start (kind : KeyKind) : Tally := { kind }

def withTarget (tally : Tally) (version : KeyVersion) : Tally :=
  { tally with target := some version }

def withPlanned (tally : Tally) (batches : UInt64) : Tally :=
  { tally with planned := batches }

def add (tally : Tally) (outcome : BatchOutcome) : Tally :=
  { tally with
    converted := addCounts tally.converted outcome.converted
    failed := addCounts tally.failed outcome.failed
    done := tally.done + 1 }

def report (tally : Tally) (reason : Reason) (elapsed : Elapsed) : Report where
  kind := tally.kind
  target := tally.target
  converted := tally.converted
  failed := tally.failed
  planned := tally.planned
  done := tally.done
  reason := reason
  elapsed := elapsed

end Tally

namespace Report

def count (n : UInt64) : Json := .int n.toNat

def toJson (report : Report) : Json := .obj [
  ("kind", .str report.kind.tag),
  ("target_version", .ofOption (fun v => .int v.toInt) report.target),
  ("converted_total", count report.converted),
  ("failed_total", count report.failed),
  ("batches_planned", count report.planned),
  ("batches_done", count report.done),
  ("reason", .str report.reason.tag),
  ("elapsed_secs", .amount report.elapsed.amount)]

def line (report : Report) : String :=
  report.kind.title ++ " " ++ report.reason.title ++ "! Converted: "
    ++ toString report.converted ++ ", failed: " ++ toString report.failed ++ ", "
    ++ report.elapsed.millis ++ " sec elapsed"

end Report
end KeyRotation
