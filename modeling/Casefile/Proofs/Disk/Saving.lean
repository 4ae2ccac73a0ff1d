import Casefile.Proofs.Disk.Files
import Casefile.Proofs.Disk.Run
import Casefile.Proofs.Disk.TempName

namespace Casefile.Disk

/-!
A file that was replaced reads back as it was written, and a file that was removed is gone.

A replacement can take two ways.  On the first the temporary file goes straight over the target; on
the second the target is set aside as a backup first, which then must not be what is read.
-/

variable {disk after made written cleared aside : Disk} {path temp : Path} {bytes : ByteArray}
  {location directory otherDir : List String} {name otherName : String} {found : Node.Kind}

/-! The steps of a replacement. -/

/-- A temporary file with the new bytes, which is not where the backup goes. -/
def TempReady (disk : Disk) (temp path : Path) (bytes : ByteArray) : Prop :=
  ∃ directory name, disk.Names temp.route directory name ∧
    disk.root.view (directory ++ [name]) = some (.file bytes) ∧ name ∉ path.backup.route.names

/-- The new bytes are in place, and what may yet be removed is another entry. -/
def Settled (disk : Disk) (path : Path) (bytes : ByteArray) : Prop :=
  ∃ directory name, disk.HasFile path directory name bytes ∧
    ∀ otherDir otherName, disk.Names path.backup.route otherDir otherName →
      otherDir ++ [otherName] ≠ directory ++ [name]

theorem tempReady_of_writeFile (stored : disk.writeFile (disk.tempPath path) bytes = .ok written) :
    written.TempReady (disk.tempPath path) path bytes := by
  obtain ⟨directory, name, names, unslashed, notDirectory, rfl⟩ := writeFile_invert stored
  have has : (disk.link directory name (.file bytes)).HasFile (disk.tempPath path) directory name
      bytes := names.hasFile unslashed notDirectory
  exact ⟨directory, name, has.names, has.stored, not_mem_backup_of_names names⟩

theorem TempReady.dropStaleBackup (ready : disk.TempReady temp path bytes)
    (removed : disk.removeFile path.backup = .ok cleared) :
    cleared.TempReady temp path bytes ∧
      ∀ directory name, cleared.Names path.backup.route directory name →
        cleared.root.view (directory ++ [name]) = none := by
  obtain ⟨directory, name, names, isFile, unused⟩ := ready
  obtain ⟨backupDir, backupName, others, backupNames, backupFile, rfl⟩ := removeFile_invert removed
  have notDirectory := not_directory_of_file backupFile
  have different : backupDir ++ [backupName] ≠ directory ++ [name] := by
    intro same
    have sameName : backupName = name := by simpa using (List.append_inj' same rfl).2
    exact unused (sameName ▸ backupNames.mem_names)
  constructor
  · refine ⟨directory, name, names.kept rfl fun _ => unlink_keeps_directory notDirectory, ?_, unused⟩
    rw [← isFile]
    exact Node.view_unlink_apart (not_below_of_file notDirectory isFile different)
  · intro otherDir otherName otherNames
    obtain ⟨rfl, rfl⟩ := backupNames.unique otherNames rfl
    exact Node.view_unlink_below []

/-- A move over another entry leaves a file alone, unless it takes the file along. -/
theorem Moves.keeps_file {fromDir toDir : List String} {fromName toName : String} {moved : Node}
    (moves : disk.Moves fromDir fromName toDir toName moved after)
    (isFile : disk.root.view location = some (.file bytes))
    (different : location ≠ toDir ++ [toName])
    (present : after.root.view location = some found) : found = .file bytes := by
  by_cases below : toDir ++ [toName] <+: location
  · obtain ⟨rest, rfl⟩ := below
    cases rest with
    | nil => exact absurd (List.append_nil _) different
    | cons first rest =>
        obtain ⟨entry, entries, listed⟩ := Node.listed_of_view_below isFile
        have welcome := moves.welcome
        cases moved <;> simp [listed, moveRefusal, Node.isDir] at welcome
  · have kept : after.root.view location = (disk.unlink fromDir fromName).root.view location := by
      rw [moves.result]
      exact Node.view_link_apart below
    have before := unlink_within (kept.symm.trans present)
    exact Option.some.inj (before.symm.trans isFile)

theorem settled_of_setAside (ready : disk.TempReady temp path bytes)
    (needed : (∀ after, disk.rename temp path ≠ .ok after) ∨
      ∀ directory name, disk.Names path.backup.route directory name →
        disk.root.view (directory ++ [name]) = none)
    (setAside : disk.rename path path.backup = .ok aside)
    (renamed : aside.rename temp path = .ok after) : after.Settled path bytes := by
  obtain ⟨directory, name, names, isFile, unused⟩ := ready
  obtain ⟨pathDir, pathName, backupDir, backupName, moved, pathNames, backupNames, held, _,
    result⟩ := rename_invert setAside
  rcases result with ⟨rfl, rfl, rfl⟩ | moves
  -- The backup names the target: nothing was set aside, so the refused move is refused again.
  · rcases needed with refused | absent
    · exact absurd renamed (refused after)
    · have gone := absent pathDir pathName backupNames
      simp [Node.view, held] at gone
  · obtain ⟨tempDir, tempName, _, _, temporary, tempNames, _, tempHeld, _, _⟩ :=
      rename_invert renamed
    have asideStart := rename_cwd setAside
    obtain ⟨rfl, rfl⟩ := names.unique tempNames asideStart
    -- The temporary file is neither replaced by the target nor moved along with it.
    have different : tempDir ++ [tempName] ≠ backupDir ++ [backupName] := by
      intro same
      have sameName : tempName = backupName := by
        simpa using (List.append_inj' same rfl).2
      exact unused (sameName ▸ backupNames.mem_names)
    have present : aside.root.view (tempDir ++ [tempName]) = some temporary.kind := by
      simp [Node.view, tempHeld]
    have kept := moves.keeps_file isFile different present
    obtain ⟨toDir, toName, toNames, has⟩ := rename_installs renamed tempNames (kept ▸ present)
    obtain ⟨rfl, rfl⟩ := pathNames.unique toNames asideStart
    refine ⟨toDir, toName, has, ?_⟩
    intro otherDir otherName otherNames
    have start : after.cwd = disk.cwd := by grind
    obtain ⟨rfl, rfl⟩ := backupNames.unique otherNames start
    exact fun same => moves.distinct same.symm

theorem TempReady.install (ready : disk.TempReady temp path bytes)
    (renamed : disk.rename temp path = .ok after) : after.readBytes path = .ok bytes := by
  obtain ⟨_, _, names, isFile, _⟩ := ready
  obtain ⟨_, _, _, has⟩ := rename_installs renamed names isFile
  exact has.readBytes

theorem Settled.readBytes (settled : disk.Settled path bytes) :
    disk.readBytes path = .ok bytes := by
  obtain ⟨_, _, has, _⟩ := settled
  exact has.readBytes

theorem Settled.dropBackup (settled : disk.Settled path bytes)
    (removed : disk.removeFile path.backup = .ok after) : after.readBytes path = .ok bytes := by
  obtain ⟨directory, name, has, apart⟩ := settled
  obtain ⟨backupDir, backupName, others, backupNames, backupFile, rfl⟩ := removeFile_invert removed
  exact (has.unlink backupFile (apart _ _ backupNames)).readBytes

/-- What holds before each step of a replacement that nothing interrupts. -/
def Sound (path : Path) (bytes : ByteArray) (disk : Disk) : Stage → Prop
  | .install temp => disk.TempReady temp path bytes
  | .dropStaleBackup temp =>
    disk.TempReady temp path bytes ∧ ∀ after, disk.rename temp path ≠ .ok after
  | .setAside temp =>
    disk.TempReady temp path bytes ∧ ((∀ after, disk.rename temp path ≠ .ok after) ∨
      ∀ directory name, disk.Names path.backup.route directory name →
        disk.root.view (directory ++ [name]) = none)
  | .installAgain temp => ∀ after, disk.rename temp path = .ok after → after.Settled path bytes
  | .dropBackup => disk.Settled path bytes
  | .finished (.ok ()) => disk.readBytes path = .ok bytes
  | .makeParent | .writeTemp | .putBack _ _ | .dropTemp _ _ | .finished (.error _) => True

theorem Sound.goes {stage next : Stage} (sound : Sound path bytes disk stage)
    (goes : Goes path bytes none disk stage after next) : Sound path bytes after next := by
  cases goes with
  | tempWritten written => exact tempReady_of_writeFile written
  | installed renamed => exact sound.install renamed
  | blocked failed _ => exact ⟨sound, Replacement.not_ok_of_attempt failed⟩
  | staleDropped removed =>
      have ready := sound.1.dropStaleBackup removed
      exact ⟨ready.1, .inr ready.2⟩
  | staleLeft _ => exact ⟨sound.1, .inl sound.2⟩
  | aside renamed => exact fun _ => settled_of_setAside sound.1 sound.2 renamed
  | installedAgain renamed => exact sound after renamed
  | backupDropped removed => exact sound.dropBackup removed
  | backupLeft _ => exact sound.readBytes
  | stays => exact sound
  | _ => trivial

theorem readBytes_of_replaceFile (replaced : disk.replaceFile path bytes = (.ok (), after)) :
    after.readBytes path = .ok bytes := by
  obtain ⟨outcome, ended, same, sound⟩ := replaceFile_ends (Sound path bytes) disk path bytes
    trivial fun goes sound => sound.goes goes
  cases replaced.symm.trans same
  exact sound

end Casefile.Disk
