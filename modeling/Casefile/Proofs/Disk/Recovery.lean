import Casefile.Proofs.Disk.Missing
import Casefile.Proofs.Disk.Saving

namespace Casefile.Disk

variable {disk after : Disk} {path source destination : Path} {bytes : ByteArray}
  {directory : List String} {name : String}

/-!
Recovering a backup, and removing a file together with its backup.

Recovery is idempotent: once it has brought a backup back there is none to bring back.  After a
removal there is neither a file nor a backup, so recovery finds nothing either.
-/

theorem recover_eq_self (idle : disk.pathExists path = true ∨ disk.pathExists path.backup = false) :
    disk.recover path = (false, disk) := by
  rcases idle with there | absent
  · simp [recover, there]
  · simp [recover, absent]

theorem not_pathExists_of_view_none (names : disk.Names path.route directory name)
    (sameStart : after.cwd = disk.cwd) (gone : after.root.view (directory ++ [name]) = none) :
    after.pathExists path = false := by
  cases there : after.pathExists path with
  | false => rfl
  | true =>
      have namesAfter := names.of_pathExists sameStart there
      obtain ⟨found, reached⟩ := pathExists_iff.mp there
      have held := (namesAfter.node_iff.mp reached).1
      rw [Node.view_eq_none_iff, held] at gone
      cases gone

theorem recover_recover (disk : Disk) (path : Path) :
    ((disk.recover path).2.recover path).2 = (disk.recover path).2 := by
  by_cases idle : disk.pathExists path || !disk.pathExists path.backup
  · have still : disk.recover path = (false, disk) := by simp [recover, idle]
    rw [still]
    exact congrArg Prod.snd still
  · cases renamed : disk.rename path.backup path with
    | error reason =>
        have still : disk.recover path = (false, disk) := by simp [recover, idle, renamed]
        rw [still]
        exact congrArg Prod.snd still
    | ok after =>
        have recovered : disk.recover path = (true, after) := by simp [recover, idle, renamed]
        rw [recovered]
        obtain ⟨fromDir, fromName, _, _, _, names, _, _, _, result⟩ := rename_invert renamed
        rcases result with ⟨_, _, rfl⟩ | moves
        · exact congrArg Prod.snd recovered
        · have gone := not_pathExists_of_view_none names (rename_cwd renamed) moves.source_gone
          rw [recover_eq_self (.inr gone)]

theorem node_of_discardFile (discarded : disk.discardFile path = .ok after) :
    after.node path.route = .error .notFound := by
  cases removed : disk.removeFile path with
  | ok cleared =>
      obtain ⟨directory, name, _, names, isFile, rfl⟩ := removeFile_invert removed
      simp only [discardFile, removed, Except.ok.injEq] at discarded
      subst discarded
      have kept : (disk.unlink directory name).Names path.route directory name :=
        names.kept rfl fun _ => unlink_keeps_directory (not_directory_of_file isFile)
      exact kept.node_absent (Node.view_unlink_below [])
  | error reason =>
      cases reason <;> simp only [discardFile, removed, Except.ok.injEq, reduceCtorEq] at discarded
      subst discarded
      exact node_of_removeFile_notFound removed

theorem discardFile_keeps_notFound {route : Route}
    (discarded : disk.discardFile path = .ok after)
    (missing : disk.node route = .error .notFound) : after.node route = .error .notFound := by
  cases removed : disk.removeFile path with
  | ok cleared =>
      obtain ⟨directory, name, _, _, isFile, rfl⟩ := removeFile_invert removed
      simp only [discardFile, removed, Except.ok.injEq] at discarded
      subst discarded
      refine node_keeps_notFound ?_ ?_ ?_ missing
      · rfl
      · exact fun _ => unlink_keeps_directory (not_directory_of_file isFile)
      · exact fun _ => unlink_keeps_absent
  | error reason =>
      cases reason <;> simp only [discardFile, removed, Except.ok.injEq, reduceCtorEq] at discarded
      subst discarded
      exact missing

theorem removeWithBackup_invert (removed : disk.removeWithBackup path = (.ok (), after)) :
    ∃ middle, disk.discardFile path = .ok middle ∧ middle.discardFile path.backup = .ok after := by
  cases first : disk.discardFile path with
  | error reason => simp [removeWithBackup, first] at removed
  | ok middle =>
      cases second : middle.discardFile path.backup with
      | error reason => simp [removeWithBackup, first, second] at removed
      | ok last =>
          have same : last = after := by simpa [removeWithBackup, first, second] using removed
          exact ⟨middle, rfl, same ▸ second⟩

theorem missing_of_removeWithBackup (removed : disk.removeWithBackup path = (.ok (), after)) :
    after.node path.route = .error .notFound ∧
      after.node path.backup.route = .error .notFound := by
  obtain ⟨middle, first, second⟩ := removeWithBackup_invert removed
  exact ⟨discardFile_keeps_notFound second (node_of_discardFile first),
    node_of_discardFile second⟩

end Casefile.Disk
