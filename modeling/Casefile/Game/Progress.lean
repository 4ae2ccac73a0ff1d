import Casefile.Instant
import Casefile.Naming

namespace Casefile

open Json (choice defaulted ifPresent present record required slots)

/-!
How far the player has come with one puzzle.
-/

structure Progress where
  failedAttempts : UInt32 := 0
  lockedUntil? : Option Instant := none
  preQuestionShown : Bool := false
  deriving DecidableEq

namespace Progress

/-- Whether the puzzle is locked at an instant; a lock ends at its deadline. -/
def isLockedAt (progress : Progress) (now : Instant) : Bool :=
  match progress.lockedUntil? with
  | some deadline => now < deadline
  | none => false

/-- The record with one more wrong answer; the count stays at its greatest value. -/
def failedOnce (progress : Progress) : Progress :=
  { progress with
    failedAttempts :=
      if progress.failedAttempts = 0xFFFFFFFF then 0xFFFFFFFF else progress.failedAttempts + 1 }

def cleared (progress : Progress) : Progress := { progress with failedAttempts := 0 }

/-- The record of a puzzle that locks: its wrong answers start again. -/
def lockedUntil (progress : Progress) (deadline : Instant) : Progress :=
  { progress with lockedUntil? := some deadline, failedAttempts := 0 }

def withShown (progress : Progress) (shown : Bool) : Progress :=
  { progress with preQuestionShown := shown }

end Progress

instance : Wire Progress where
  encode progress := record [
    ("failedAttempts", some (Wire.encode progress.failedAttempts)),
    ("lockedUntil", some ((present progress.lockedUntil?).getD .null)),
    ("preQuestionShown", some (Wire.encode progress.preQuestionShown))]
  decode value := do
    let [failedAttempts, lockedUntil, preQuestionShown] ←
      slots ["failedAttempts", "lockedUntil", "preQuestionShown"] value | none
    return {
      failedAttempts := ← defaulted 0 failedAttempts
      lockedUntil? := ← ifPresent lockedUntil
      preQuestionShown := ← defaulted false preQuestionShown }

inductive Phase where
  | fresh
  | preQuestionPending
  | active
  | locked (deadline : Instant)
  deriving DecidableEq

/-- The phase of a puzzle with some record.  The question before the puzzle comes before a lock. -/
def Phase.of (progress? : Option Progress) (hasPreQuestion : Bool) (now : Instant) : Phase :=
  match progress? with
  | none => .fresh
  | some progress =>
    if hasPreQuestion && !progress.preQuestionShown then .preQuestionPending
    else match progress.lockedUntil? with
      | some deadline => if now < deadline then .locked deadline else .active
      | none => .active

end Casefile
