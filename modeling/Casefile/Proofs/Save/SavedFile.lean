import Casefile.Proofs.Disk.CrashSafety
import Casefile.Proofs.Disk.Frame
import Casefile.Proofs.Save.Vault

namespace Casefile.Disk

/-!
The file of a saved game.

What was saved is loaded, and what was cleared is not.  Loading may bring a backup back to where
nothing is; it changes nothing else, and the second time it changes nothing at all.
-/

variable {disk after : Disk} {path : Path}

/-- The backup of a path has gone to the entry of the path, where there was nothing. -/
def BroughtBack (disk after : Disk) (path : Path) : Prop :=
  ∃ backupDir backup directory name, disk.Names path.backup.route backupDir backup ∧
    disk.Names path.route directory name ∧ disk.root.view (directory ++ [name]) = none ∧
    disk.Carried after (backupDir ++ [backup]) (directory ++ [name])

/-- A node is welcome only where there is something to be found, or nothing at all. -/
theorem Moves.pathExists {fromDir toDir : List String} {fromName toName : String}
    {moved found : Node} (moves : disk.Moves fromDir fromName toDir toName moved after)
    (names : disk.Names path.route toDir toName)
    (unslashed : moved.isDir = false → path.route.slash = false)
    (held : disk.root.get? (toDir ++ [toName]) = some found) : disk.pathExists path = true := by
  refine pathExists_iff.mpr ⟨found, names.node_iff.mpr ⟨held, fun slash => ?_⟩⟩
  have welcome := moves.welcome
  cases kind : moved.isDir with
  | false => simp [unslashed kind] at slash
  | true => cases found <;> simp_all [moveRefusal, Node.isDir]

theorem recover_cases (disk : Disk) (path : Path) :
    (disk.recover path).2 = disk ∨ disk.BroughtBack (disk.recover path).2 path := by
  unfold recover
  split
  · exact .inl rfl
  next vacant =>
    split
    next after renamed =>
      obtain ⟨fromDir, fromName, toDir, toName, moved, backupNames, names, held, unslashed,
        result⟩ := rename_invert renamed
      rcases result with ⟨_, _, same⟩ | moves
      · exact .inl same
      · refine .inr ⟨fromDir, fromName, toDir, toName, backupNames, names, ?_,
          moves.carried held names.directory_exists⟩
        cases there : disk.root.get? (toDir ++ [toName]) with
        | none => exact Node.view_eq_none_iff.mpr there
        | some found =>
            have present := moves.pathExists names unslashed there
            simp [present] at vacant
    · exact .inl rfl

/-- Saving and clearing determine the next load.  Loading loses nothing, and a second load has the
same answer and leaves the disk as the first one left it. -/
theorem loadGame_laws (disk : Disk) (path : Path) :
    (∀ state after, disk.saveGame path state = (.ok (), after) →
      after.loadGame path = (.ok (some state), after)) ∧
    (∀ after, disk.clearGame path = (.ok (), after) → after.loadGame path = (.ok none, after)) ∧
    ((disk.loadGame path).2 = disk ∨ disk.BroughtBack (disk.loadGame path).2 path) ∧
    (disk.loadGame path).2.loadGame path = disk.loadGame path := by
  refine ⟨fun _ _ => loadGame_of_saveGame, fun _ => loadGame_of_clearGame, ?_,
    disk.loadGame_loadGame path⟩
  rw [loadGame_eq]
  exact disk.recover_cases path

theorem eq_of_isOk {result : Except VaultError Unit × Disk} (accepted : result.1.isOk = true) :
    result = (.ok (), result.2) := by
  obtain ⟨_ | _, _⟩ := result
  · exact absurd accepted Bool.false_ne_true
  · rfl

/-- A game is saved beside a stale backup, or cleared together with it. -/
theorem loadGame_laws_crowded :
    let disk := Replacement.crowded
    let path : Path := ⟨"save.json"⟩
    let saved := (disk.saveGame path {}).2
    let cleared := (disk.clearGame path).2
    disk.saveGame path {} = (.ok (), saved) ∧ saved.loadGame path = (.ok (some {}), saved) ∧
      disk.clearGame path = (.ok (), cleared) ∧ cleared.loadGame path = (.ok none, cleared) := by
  have saves := @eq_of_isOk (Replacement.crowded.saveGame ⟨"save.json"⟩ {}) (by decide +kernel)
  have clears := @eq_of_isOk (Replacement.crowded.clearGame ⟨"save.json"⟩) (by decide +kernel)
  obtain ⟨loads, loadsNone, _⟩ := loadGame_laws Replacement.crowded ⟨"save.json"⟩
  exact ⟨saves, loads _ _ saves, clears, loadsNone _ clears⟩

end Casefile.Disk
