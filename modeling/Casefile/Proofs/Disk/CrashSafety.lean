import Casefile.Proofs.Disk.Recovery

namespace Casefile.Disk

/-!
A replacement that is refused at some steps and stopped after any of them loses no file.

While the old bytes are in place, recovery leaves them there.  From the moment at which they are set
aside until the new ones are in place, they are in the backup and there is nothing under the path,
so that recovery brings them back.  The backup that was there before has been replaced by then.
-/

variable {disk after : Disk} {path source destination other : Path} {bytes others : ByteArray}

/-- A file can be put under a path, and there is nothing yet. -/
structure Vacant (disk : Disk) (path : Path) : Prop where
  unslashed : path.route.slash = false
  entry : ∃ directory name, disk.Names path.route directory name ∧
    disk.root.view (directory ++ [name]) = none

theorem Vacant.not_pathExists (vacant : disk.Vacant path) : disk.pathExists path = false := by
  obtain ⟨directory, name, names, absent⟩ := vacant.entry
  exact not_pathExists_of_view_none names rfl absent

theorem Vacant.removeFile (vacant : disk.Vacant path)
    (removed : disk.removeFile other = .ok after) : after.Vacant path := by
  obtain ⟨directory, name, names, absent⟩ := vacant.entry
  obtain ⟨otherDir, otherName, _, _, isFile, rfl⟩ := removeFile_invert removed
  have notDirectory := not_directory_of_file isFile
  exact ⟨vacant.unslashed, directory, name,
    names.kept rfl fun _ => unlink_keeps_directory notDirectory, unlink_keeps_absent absent⟩

theorem moves_of_readBytes (renamed : disk.rename source destination = .ok after)
    (apart : source.Apart destination) (read : disk.readBytes source = .ok bytes) :
    ∃ fromDir fromName toDir toName, disk.HasFile source fromDir fromName bytes ∧
      disk.Names destination.route toDir toName ∧
      disk.Moves fromDir fromName toDir toName (.file bytes) after := by
  obtain ⟨directory, name, has⟩ := hasFile_of_readBytes read
  obtain ⟨toDir, toName, toNames, _, result⟩ := rename_file_invert renamed has.names has.stored
  rcases result with ⟨rfl, rfl, _⟩ | moves
  · exact absurd rfl (apart.entry_ne has.names toNames)
  · exact ⟨directory, name, toDir, toName, has, toNames, moves⟩

theorem vacant_of_rename (renamed : disk.rename source destination = .ok after)
    (apart : source.Apart destination) (read : disk.readBytes source = .ok bytes) :
    after.Vacant source := by
  obtain ⟨fromDir, fromName, _, _, has, _, moves⟩ := moves_of_readBytes renamed apart read
  exact ⟨has.unslashed, fromDir, fromName,
    has.names.kept (rename_cwd renamed) fun _ => moves.keeps_directory has.stored,
    moves.source_gone⟩

theorem readBytes_rename_apart (renamed : disk.rename source destination = .ok after)
    (apart : source.Apart destination) (read : disk.readBytes source = .ok bytes)
    (fromSource : other.Apart source) (fromDestination : other.Apart destination)
    (otherRead : disk.readBytes other = .ok others) : after.readBytes other = .ok others := by
  obtain ⟨_, _, _, _, has, toNames, moves⟩ := moves_of_readBytes renamed apart read
  obtain ⟨directory, name, otherHas⟩ := hasFile_of_readBytes otherRead
  exact (otherHas.afterMove moves has.stored (fromSource.entry_ne otherHas.names has.names).symm
    (fromDestination.entry_ne otherHas.names toNames).symm).readBytes

/-- Nothing in the tree refuses to put a file where there is nothing. -/
theorem rename_vacant (read : disk.readBytes source = .ok bytes)
    (vacant : disk.Vacant destination) : ∃ after, disk.rename source destination = .ok after := by
  obtain ⟨_, _, has⟩ := hasFile_of_readBytes read
  obtain ⟨toDir, toName, names, absent⟩ := vacant.entry
  exact has.exists_rename names vacant.unslashed (by rw [absent]; exact nofun)

/-! What recovery finds. -/

/-- The bytes of a file are in its backup, and can be brought back. -/
structure SetAside (disk : Disk) (path : Path) (bytes : ByteArray) : Prop where
  vacant : disk.Vacant path
  kept : disk.readBytes path.backup = .ok bytes

def Survives (disk : Disk) (path : Path) (bytes : ByteArray) : Prop :=
  disk.readBytes path = .ok bytes ∨ disk.SetAside path bytes

theorem readBytes_recover (survives : disk.Survives path bytes) :
    (disk.recover path).2.readBytes path = .ok bytes := by
  rcases survives with read | aside
  · rw [recover_eq_self (.inl (pathExists_of_readBytes read))]
    exact read
  · have present := pathExists_of_readBytes aside.kept
    obtain ⟨after, renamed⟩ := rename_vacant aside.kept aside.vacant
    have recovered : disk.recover path = (true, after) := by
      simp [recover, aside.vacant.not_pathExists, present, renamed]
    rw [recovered]
    exact readBytes_rename renamed aside.kept

theorem Survives.removeFile (survives : disk.Survives path bytes) (beside : other.Beside path)
    (removed : disk.removeFile other = .ok after) : after.Survives path bytes := by
  rcases survives with read | aside
  · exact .inl (readBytes_removeFile_apart removed beside.target read)
  · exact .inr ⟨aside.vacant.removeFile removed,
      readBytes_removeFile_apart removed beside.backup aside.kept⟩

theorem apart_backup_of_readBytes (different : path.backup ≠ path)
    (read : disk.readBytes path = .ok bytes) : path.Apart path.backup := by
  obtain ⟨_, _, has⟩ := hasFile_of_readBytes read
  exact Path.apart_backup has.unslashed different

/-- What holds before each step, whatever was refused before. -/
def Safe (path : Path) (old new : ByteArray) (disk : Disk) : Stage → Prop
  | .makeParent | .writeTemp => disk.readBytes path = .ok old
  | .install temp | .dropStaleBackup temp | .setAside temp =>
    disk.readBytes path = .ok old ∧ disk.readBytes temp = .ok new ∧ temp.Beside path
  | .installAgain temp =>
    disk.SetAside path old ∧ disk.readBytes temp = .ok new ∧ temp.Beside path
  | .putBack temp _ => disk.SetAside path old ∧ temp.Beside path
  | .dropTemp temp _ => disk.Survives path old ∧ temp.Beside path
  | .dropBackup | .finished (.ok ()) => disk.readBytes path = .ok new
  | .finished (.error _) => disk.Survives path old

variable {old new : ByteArray} {stage next : Stage} {refusal : Option IoError}

theorem Safe.goes (safe : Safe path old new disk stage) (different : path.backup ≠ path)
    (goes : Goes path new refusal disk stage after next) : Safe path old new after next := by
  -- The target is spared by what is done to its backup only because that is another path.
  have apart : ∀ {found}, disk.readBytes path = .ok found → path.Apart path.backup :=
    apart_backup_of_readBytes different
  cases goes with
  | parentMade made =>
      have kept := readBytes_makeDirs safe path.parent.route
      rw [made] at kept
      exact kept
  | parentFailed failed =>
      have kept := readBytes_makeDirs safe path.parent.route
      rw [failed] at kept
      exact .inl kept
  | parentRefused _ => exact .inl safe
  | tempWritten written =>
      have beside := disk.tempPath_beside path
      exact ⟨readBytes_writeFile_apart written beside.target safe, readBytes_writeFile written,
        beside⟩
  | tempFailed _ => exact .inl safe
  | installed renamed => exact readBytes_rename renamed safe.2.1
  | blocked _ _ => exact safe
  | notInstalled _ absent => exact ⟨.inl safe.1, safe.2.2⟩
  | staleDropped removed =>
      obtain ⟨read, tempRead, beside⟩ := safe
      exact ⟨readBytes_removeFile_apart removed (apart read).symm read,
        readBytes_removeFile_apart removed beside.backup.symm tempRead, beside⟩
  | staleLeft _ => exact safe
  | aside renamed =>
      -- From here on the old bytes are in the backup and nowhere else.
      obtain ⟨read, tempRead, beside⟩ := safe
      exact ⟨⟨vacant_of_rename renamed (apart read) read, readBytes_rename renamed read⟩,
        readBytes_rename_apart renamed (apart read) read beside.target beside.backup tempRead,
        beside⟩
  | notAside _ => exact ⟨.inl safe.1, safe.2.2⟩
  | installedAgain renamed => exact readBytes_rename renamed safe.2.1
  | blockedAgain _ => exact ⟨safe.1, safe.2.2⟩
  | back renamed => exact ⟨.inl (readBytes_rename renamed safe.1.kept), safe.2⟩
  | notBack _ => exact ⟨.inr safe.1, safe.2⟩
  | tempDropped removed => exact safe.1.removeFile safe.2 removed
  | tempLeft _ => exact safe.1
  | backupDropped removed => exact readBytes_removeFile_apart removed (apart safe).symm safe
  | backupLeft _ => exact safe
  | stays => exact safe

/-! What a replacement leaves behind. -/

/-- Until a replacement has its new bytes in place, it has not succeeded and the old ones survive. -/
theorem Safe.survives (safe : Safe path old new disk stage) :
    (disk.Survives path old ∧ stage ≠ .finished (.ok ())) ∨ disk.readBytes path = .ok new := by
  cases stage with
  | makeParent | writeTemp => exact .inl ⟨.inl safe, nofun⟩
  | install _ | dropStaleBackup _ | setAside _ => exact .inl ⟨.inl safe.1, nofun⟩
  | installAgain _ | putBack _ _ => exact .inl ⟨.inr safe.1, nofun⟩
  | dropTemp _ _ => exact .inl ⟨safe.1, nofun⟩
  | dropBackup => exact .inr safe
  | finished outcome =>
      cases outcome with
      | ok => exact .inr safe
      | error reason => exact .inl ⟨safe, nofun⟩

end Casefile.Disk

namespace Casefile.Replacement

open Disk

variable {old : ByteArray}

theorem outcome_eq_ok {replacement : Replacement} (succeeded : replacement.outcome = .ok ()) :
    replacement.stage = .finished (.ok ()) := by
  cases stage : replacement.stage with
  | finished outcome => simpa [Replacement.outcome, stage] using succeeded
  | _ => simp [outcome, stage] at succeeded

/-- A file that is being replaced is never lost.  Wherever the replacement stops, and whatever was
refused before, recovery leaves the old bytes or the new ones, and the new ones if the replacement
has succeeded. -/
theorem crash_safe {disk : Disk} {path : Path} {new : ByteArray} (different : path.backup ≠ path)
    (read : disk.readBytes path = .ok old) (refusals : List (Option IoError)) :
    let stopped := run { disk, path, bytes := new } refusals
    let next := (stopped.disk.recover path).2
    (next.readBytes path = .ok old ∨ next.readBytes path = .ok new) ∧
      (stopped.outcome = .ok () → next.readBytes path = .ok new) := by
  intro stopped next
  obtain ⟨after, stage, ended, safe⟩ := run_preserves (Safe path old new)
    { disk, path, bytes := new } refusals read fun _ goes safe => safe.goes different goes
  have left : stopped.disk = after ∧ stopped.stage = stage := by simp [stopped, ended]
  obtain ⟨rfl, rfl⟩ := left
  rcases safe.survives with ⟨kept, unfinished⟩ | replaced
  · exact ⟨.inl (readBytes_recover kept), fun succeeded =>
      absurd (outcome_eq_ok succeeded) unfinished⟩
  · have found : next.readBytes path = .ok new := readBytes_recover (.inl replaced)
    exact ⟨.inr found, fun _ => found⟩

/-- A file beside a backup that an earlier replacement left behind. -/
def crowded : Disk where
  root := .dir [("save.bak", .file "stale".toUTF8), ("save.json", .file "old".toUTF8)]
  cwd := []

/-- Stopped right after the old file was set aside. -/
theorem crash_safe_set_aside :
    let path : Path := ⟨"save.json"⟩
    let stopped := run { disk := crowded, path, bytes := "new".toUTF8 }
      [none, none, some .busy, none, none]
    let next := (stopped.disk.recover path).2
    path.backup ≠ path ∧ crowded.readBytes path = .ok "old".toUTF8 ∧
      stopped.disk.pathExists path = false ∧
      (next.readBytes path = .ok "old".toUTF8 ∨ next.readBytes path = .ok "new".toUTF8) ∧
      (stopped.outcome = .ok () → next.readBytes path = .ok "new".toUTF8) := by
  have different : Path.backup ⟨"save.json"⟩ ≠ ⟨"save.json"⟩ := by decide +kernel
  have read : crowded.readBytes ⟨"save.json"⟩ = .ok "old".toUTF8 := by rfl
  exact ⟨different, read, by decide +kernel, crash_safe different read _⟩

end Casefile.Replacement
