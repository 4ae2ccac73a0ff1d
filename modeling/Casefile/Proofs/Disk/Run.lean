import Casefile.Disk.Replacement

namespace Casefile

/-!
Runs of a replacement.

What a step can do is listed once, in `Goes`.  A replacement keeps its path and its bytes, and comes
to its end after as many steps as it may take.  What holds at its beginning and is preserved by
whatever a step can do therefore holds where it ends.
-/

section

open Replacement (attempt)

variable (path : Path) (bytes : ByteArray) (refusal : Option IoError)

/-- The disk and the stage before a step and after it.  An operation that is refused or fails leaves
the disk as it is, but for directories that were made above the path. -/
inductive Goes : Disk → Stage → Disk → Stage → Prop
  | parentMade (made : disk.makeDirs path.parent.route = (.ok (), after)) :
      Goes disk .makeParent after .writeTemp
  | parentFailed (failed : disk.makeDirs path.parent.route = (.error reason, after)) :
      Goes disk .makeParent after (.finished (.error reason))
  | parentRefused (refused : refusal = some reason) :
      Goes disk .makeParent disk (.finished (.error reason))
  | tempWritten (written : disk.writeFile (disk.tempPath path) bytes = .ok after) :
      Goes disk .writeTemp after (.install (disk.tempPath path))
  | tempFailed
      (failed : attempt refusal (disk.writeFile (disk.tempPath path) bytes) = .error reason) :
      Goes disk .writeTemp disk (.finished (.error reason))
  | installed (renamed : disk.rename temp path = .ok after) :
      Goes disk (.install temp) after (.finished (.ok ()))
  | blocked (failed : attempt refusal (disk.rename temp path) = .error reason)
      (present : disk.pathExists path = true) :
      Goes disk (.install temp) disk (.dropStaleBackup temp)
  | notInstalled (failed : attempt refusal (disk.rename temp path) = .error reason)
      (absent : disk.pathExists path = false) :
      Goes disk (.install temp) disk (.dropTemp temp reason)
  | staleDropped (removed : disk.removeFile path.backup = .ok after) :
      Goes disk (.dropStaleBackup temp) after (.setAside temp)
  | staleLeft (failed : attempt refusal (disk.removeFile path.backup) = .error reason) :
      Goes disk (.dropStaleBackup temp) disk (.setAside temp)
  | aside (renamed : disk.rename path path.backup = .ok after) :
      Goes disk (.setAside temp) after (.installAgain temp)
  | notAside (failed : attempt refusal (disk.rename path path.backup) = .error reason) :
      Goes disk (.setAside temp) disk (.dropTemp temp reason)
  | installedAgain (renamed : disk.rename temp path = .ok after) :
      Goes disk (.installAgain temp) after .dropBackup
  | blockedAgain (failed : attempt refusal (disk.rename temp path) = .error reason) :
      Goes disk (.installAgain temp) disk (.putBack temp reason)
  | back (renamed : disk.rename path.backup path = .ok after) :
      Goes disk (.putBack temp reason) after (.dropTemp temp reason)
  | notBack (failed : attempt refusal (disk.rename path.backup path) = .error cause) :
      Goes disk (.putBack temp reason) disk (.dropTemp temp reason)
  | tempDropped (removed : disk.removeFile temp = .ok after) :
      Goes disk (.dropTemp temp reason) after (.finished (.error reason))
  | tempLeft (failed : attempt refusal (disk.removeFile temp) = .error cause) :
      Goes disk (.dropTemp temp reason) disk (.finished (.error reason))
  | backupDropped (removed : disk.removeFile path.backup = .ok after) :
      Goes disk .dropBackup after (.finished (.ok ()))
  | backupLeft (failed : attempt refusal (disk.removeFile path.backup) = .error cause) :
      Goes disk .dropBackup disk (.finished (.ok ()))
  | stays : Goes disk (.finished outcome) disk (.finished outcome)

end

namespace Replacement

variable {replacement : Replacement} {refusal : Option IoError}

theorem ok_of_attempt {result : Except IoError Disk} {after : Disk}
    (tried : attempt refusal result = .ok after) : result = .ok after := by
  cases refusal with
  | none => exact tried
  | some reason => cases tried

theorem not_ok_of_attempt {result : Except IoError Disk} {reason : IoError}
    (failed : attempt none result = .error reason) (after : Disk) : result ≠ .ok after := by
  rintro rfl
  cases failed

/-- A replacement that has gone on, and whose path and bytes are the same. -/
def GoesTo (replacement : Replacement) (refusal : Option IoError) (next : Replacement) : Prop :=
  ∃ after stage, next = { replacement with disk := after, stage } ∧
    Goes replacement.path replacement.bytes refusal replacement.disk replacement.stage after stage

/-- Where an operation leads that may be refused, from where it leads when it is done or not. -/
theorem goes_goOn {result : Except IoError Disk} {succeeded : Stage} {failed : IoError → Stage}
    (done : ∀ disk, result = .ok disk →
      Goes replacement.path replacement.bytes refusal replacement.disk replacement.stage
        disk succeeded)
    (notDone : ∀ reason, attempt refusal result = .error reason →
      Goes replacement.path replacement.bytes refusal replacement.disk replacement.stage
        replacement.disk (failed reason)) :
    replacement.GoesTo refusal
      (replacement.goOn (attempt refusal result) succeeded failed) := by
  cases tried : attempt refusal result with
  | ok disk => exact ⟨_, _, rfl, done disk (ok_of_attempt tried)⟩
  | error reason => exact ⟨_, _, rfl, notDone reason tried⟩

theorem step_goes (replacement : Replacement) (refusal : Option IoError) :
    replacement.GoesTo refusal (replacement.step refusal) := by
  obtain ⟨disk, path, bytes, stage⟩ := replacement
  cases stage with
  | makeParent =>
      simp only [step]
      unfold makeParent
      split
      · exact ⟨_, _, rfl, .parentRefused rfl⟩
      next made => exact ⟨_, _, rfl, .parentMade made⟩
      next failed => exact ⟨_, _, rfl, .parentFailed failed⟩
  | writeTemp => exact goes_goOn (fun _ => .tempWritten) fun _ => .tempFailed
  | install temp =>
      refine goes_goOn (fun _ => .installed) fun reason failed => ?_
      cases present : disk.pathExists path with
      | true => exact .blocked failed present
      | false => exact .notInstalled failed present
  | dropStaleBackup temp => exact goes_goOn (fun _ => .staleDropped) fun _ => .staleLeft
  | setAside temp => exact goes_goOn (fun _ => .aside) fun _ => .notAside
  | installAgain temp => exact goes_goOn (fun _ => .installedAgain) fun _ => .blockedAgain
  | putBack temp reason => exact goes_goOn (fun _ => .back) fun _ => .notBack
  | dropTemp temp reason => exact goes_goOn (fun _ => .tempDropped) fun _ => .tempLeft
  | dropBackup => exact goes_goOn (fun _ => .backupDropped) fun _ => .backupLeft
  | finished outcome => exact ⟨_, _, rfl, .stays⟩

/-! What holds throughout a run. -/

theorem run_preserves (holds : Disk → Stage → Prop) (replacement : Replacement)
    (refusals : List (Option IoError)) (begun : holds replacement.disk replacement.stage)
    (preserved : ∀ {disk stage after next refusal}, refusal ∈ refusals →
      Goes replacement.path replacement.bytes refusal disk stage after next →
      holds disk stage → holds after next) :
    ∃ after stage, replacement.run refusals = { replacement with disk := after, stage } ∧
      holds after stage := by
  induction refusals generalizing replacement with
  | nil => exact ⟨_, _, rfl, begun⟩
  | cons refusal refusals ih =>
      obtain ⟨after, next, stepped, goes⟩ := replacement.step_goes refusal
      have begun := preserved (List.mem_cons_self ..) goes begun
      rw [run, List.foldl_cons, stepped]
      exact ih _ begun fun member => preserved (List.mem_cons_of_mem _ member)

/-! A replacement comes to its end. -/

/-- How many steps a replacement has left at most. -/
def remaining : Stage → Nat
  | .makeParent => maxSteps
  | .writeTemp => 7
  | .install _ => 6
  | .dropStaleBackup _ => 5
  | .setAside _ => 4
  | .installAgain _ => 3
  | .putBack _ _ => 2
  | .dropTemp _ _ | .dropBackup => 1
  | .finished _ => 0

theorem remaining_of_goes {path : Path} {bytes : ByteArray} {disk after : Disk}
    {stage next : Stage} (goes : Goes path bytes refusal disk stage after next) :
    remaining next ≤ remaining stage - 1 := by
  cases goes <;> simp [remaining, maxSteps]

theorem run_finished {refusals : List (Option IoError)}
    (enough : remaining replacement.stage ≤ refusals.length) :
    ∃ outcome, (replacement.run refusals).stage = .finished outcome := by
  induction refusals generalizing replacement with
  | nil =>
      cases stage : replacement.stage with
      | finished outcome => exact ⟨outcome, stage⟩
      | _ => simp [stage, remaining, maxSteps] at enough
  | cons refusal refusals ih =>
      obtain ⟨after, next, stepped, goes⟩ := replacement.step_goes refusal
      have less := remaining_of_goes goes
      rw [List.length_cons] at enough
      rw [run, List.foldl_cons, stepped]
      exact ih (by dsimp only; omega)

end Replacement

/-- A replacement that nothing interrupts ends, in a state that has what each step preserves. -/
theorem Disk.replaceFile_ends (holds : Disk → Stage → Prop) (disk : Disk) (path : Path)
    (bytes : ByteArray) (begun : holds disk .makeParent)
    (preserved : ∀ {before stage after next}, Goes path bytes none before stage after next →
      holds before stage → holds after next) :
    ∃ outcome after, disk.replaceFile path bytes = (outcome, after) ∧
      holds after (.finished outcome) := by
  let refusals : List (Option IoError) := List.replicate Replacement.maxSteps none
  obtain ⟨after, stage, ended, held⟩ := Replacement.run_preserves holds { disk, path, bytes }
    refusals begun fun {_ _ _ _ refusal} member goes => by
      obtain rfl : refusal = none := (List.mem_replicate.mp member).2
      exact preserved goes
  have finished : ∃ outcome, (Replacement.run { disk, path, bytes } refusals).stage =
      .finished outcome := Replacement.run_finished (by simp [refusals, Replacement.remaining])
  rw [ended] at finished
  obtain ⟨outcome, rfl⟩ := finished
  exact ⟨outcome, after, by rw [replaceFile, ended]; rfl, held⟩

end Casefile
