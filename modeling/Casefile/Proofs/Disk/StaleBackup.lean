import Casefile.Proofs.Disk.AllOrNothing

namespace Casefile

/-!
A backup that was there before a replacement.

Where there is no directory in the way, the temporary file goes straight over the target.  Nothing
looks at the backup then: one that an interrupted replacement left is still there, and recovery
brings its bytes back when the file is gone.
-/

namespace Disk

variable {disk after written : Disk} {path temp other : Path} {bytes others stale : ByteArray}
  {directory location : List String} {name : String} {route : Route}

/-! Disks with the same directories. -/

theorem isDir_iff : disk.isDir route = true ↔
    ∃ location, disk.locate route = .ok location ∧ disk.root.view location = some .directory := by
  constructor
  · intro isDirectory
    cases reached : disk.node route with
    | error reason => simp [isDir, reached] at isDirectory
    | ok node =>
        obtain ⟨location, located, held⟩ := node_iff.mp reached
        cases node with
        | file bytes => simp [isDir, reached, Node.isDir] at isDirectory
        | dir entries => exact ⟨location, located, Node.view_eq_directory_iff.mpr ⟨entries, held⟩⟩
  · rintro ⟨location, located, isDirectory⟩
    obtain ⟨entries, held⟩ := Node.view_eq_directory_iff.mp isDirectory
    simp [isDir, node_iff.mpr ⟨location, located, held⟩, Node.isDir]

theorem isDir_within (sameStart : after.cwd = disk.cwd)
    (directories : ∀ location, disk.root.view location = some .directory →
      after.root.view location = some .directory)
    (isDirectory : disk.isDir route = true) : after.isDir route = true := by
  obtain ⟨location, located, here⟩ := isDir_iff.mp isDirectory
  obtain ⟨inRange, rooted, walked⟩ := locate_iff.mp located
  have start : after.start route = disk.start route := by simp [start, sameStart]
  refine isDir_iff.mpr ⟨location, locate_iff.mpr ⟨inRange, rooted, ?_⟩, directories _ here⟩
  rw [start]
  exact walk_to_directory directories walked here

theorem pathExists_iff_isDir_or_readBytes : disk.pathExists path = true ↔
    disk.isDir path.route = true ∨ ∃ bytes, disk.readBytes path = .ok bytes := by
  cases reached : disk.node path.route with
  | error reason => simp [pathExists, isDir, readBytes, reached]
  | ok node => cases node <;> simp [pathExists, isDir, readBytes, reached, Node.isDir]

/-- What two disks have in common that differ at two entries, neither of which is a directory. -/
structure Alike (disk after : Disk) (one another : Path) : Prop where
  sameStart : after.cwd = disk.cwd
  directories : ∀ location, after.root.view location = some .directory ↔
    disk.root.view location = some .directory
  elsewhere : ∀ other : Path, other.Apart one → other.Apart another → ∀ directory name,
    disk.Names other.route directory name →
    after.root.view (directory ++ [name]) = disk.root.view (directory ++ [name])

namespace Alike

variable {one another : Path}

theorem symm (alike : Alike disk after one another) : Alike after disk one another :=
  ⟨alike.sameStart.symm, fun location => (alike.directories location).symm,
    fun other notOne notAnother directory name names =>
      (alike.elsewhere other notOne notAnother directory name
        (names.kept alike.sameStart.symm fun _ => (alike.directories _).mp)).symm⟩

theorem isDir_eq (alike : Alike disk after one another) (route : Route) :
    after.isDir route = disk.isDir route := by
  rw [Bool.eq_iff_iff]
  exact ⟨isDir_within alike.sameStart.symm fun _ => (alike.directories _).mp,
    isDir_within alike.sameStart fun _ => (alike.directories _).mpr⟩

theorem readBytes (alike : Alike disk after one another) (notOne : other.Apart one)
    (notAnother : other.Apart another) (read : disk.readBytes other = .ok bytes) :
    after.readBytes other = .ok bytes := by
  obtain ⟨directory, name, has⟩ := hasFile_of_readBytes read
  have kept : after.HasFile other directory name bytes :=
    ⟨has.names.kept alike.sameStart fun _ => (alike.directories _).mpr, has.unslashed,
      (alike.elsewhere other notOne notAnother directory name has.names).trans has.stored⟩
  exact kept.readBytes

theorem pathExists_eq (alike : Alike disk after one another) (notOne : other.Apart one)
    (notAnother : other.Apart another) : after.pathExists other = disk.pathExists other := by
  rw [Bool.eq_iff_iff, pathExists_iff_isDir_or_readBytes, pathExists_iff_isDir_or_readBytes,
    alike.isDir_eq]
  exact or_congr_right ⟨fun ⟨bytes, read⟩ => ⟨bytes, alike.symm.readBytes notOne notAnother read⟩,
    fun ⟨bytes, read⟩ => ⟨bytes, alike.readBytes notOne notAnother read⟩⟩

theorem trans {third : Disk} (first : Alike disk after one another)
    (second : Alike after third one another) : Alike disk third one another :=
  ⟨second.sameStart.trans first.sameStart,
    fun location => (second.directories location).trans (first.directories location),
    fun other notOne notAnother directory name names =>
      (second.elsewhere other notOne notAnother directory name
        (names.kept first.sameStart fun _ => (first.directories _).mpr)).trans
        (first.elsewhere other notOne notAnother directory name names)⟩

end Alike

theorem alike_of_writeFile (stored : disk.writeFile temp bytes = .ok written) (another : Path) :
    Alike disk written temp another := by
  obtain ⟨tempDir, tempName, tempNames, _, notDirectory, rfl⟩ := writeFile_invert stored
  refine ⟨rfl, fun location => ?_, fun other notTemp _ directory name names =>
    view_link_file tempNames.directory_exists notDirectory (notTemp.entry_ne names tempNames)⟩
  by_cases here : location = tempDir ++ [tempName]
  · have isFile : (disk.link tempDir tempName (.file bytes)).root.view (tempDir ++ [tempName]) =
        some (.file bytes) := Node.view_link_below tempNames.directory_exists []
    rw [here]
    exact iff_of_false (not_directory_of_file isFile) notDirectory
  · rw [view_link_file tempNames.directory_exists notDirectory here]

theorem alike_of_rename (renamed : disk.rename temp path = .ok after) (apart : temp.Apart path)
    (read : disk.readBytes temp = .ok bytes) : Alike disk after temp path := by
  obtain ⟨fromDir, fromName, toDir, toName, has, names, moves⟩ :=
    moves_of_readBytes renamed apart read
  have elsewhere : ∀ location, location ≠ fromDir ++ [fromName] → location ≠ toDir ++ [toName] →
      after.root.view location = disk.root.view location := fun location notSource notTarget =>
    moves.view_of_file has.stored names.directory_exists notSource notTarget
  refine ⟨rename_cwd renamed, fun location => ?_, fun other notTemp notPath directory name others =>
    elsewhere _ (notTemp.entry_ne others has.names) (notPath.entry_ne others names)⟩
  by_cases source : location = fromDir ++ [fromName]
  · rw [source, moves.source_gone]
    exact iff_of_false nofun (not_directory_of_file has.stored)
  · by_cases target : location = toDir ++ [toName]
    · obtain ⟨_, _, thereNames, installed⟩ := rename_installs renamed has.names has.stored
      obtain ⟨rfl, rfl⟩ := names.unique thereNames rfl
      rw [target]
      exact iff_of_false (not_directory_of_file installed.stored) moves.welcomes_file
    · rw [elsewhere location source target]

/-! Replacements that meet no directory. -/

/-- Only a directory keeps a temporary file from its place. -/
theorem not_pathExists_of_failed (noDirectory : disk.isDir path.route = false)
    (stored : disk.writeFile temp bytes = .ok written)
    (failed : ∀ after, written.rename temp path ≠ .ok after) : written.pathExists path ≠ true := by
  intro present
  have same := (alike_of_writeFile stored path).isDir_eq path.route
  obtain ⟨old, read⟩ : ∃ old, written.readBytes path = .ok old := by
    simpa [same, noDirectory] using pathExists_iff_isDir_or_readBytes.mp present
  obtain ⟨_, _, has⟩ := hasFile_of_readBytes read
  obtain ⟨_, _, tempHas⟩ := hasFile_of_readBytes (readBytes_writeFile stored)
  obtain ⟨after, moved⟩ := tempHas.exists_rename has.names has.unslashed
    (not_directory_of_file has.stored)
  exact failed after moved

/-- What holds before each step of a replacement that meets no directory. -/
def Direct (ready : Disk) (path : Path) (bytes : ByteArray) (disk : Disk) : Stage → Prop
  | .makeParent => ready = (disk.makeDirs path.parent.route).2
  | .writeTemp => ready = disk
  | .install temp => temp.Beside path ∧ ready.writeFile temp bytes = .ok disk
  | .finished (.ok ()) => ∃ temp written, temp.Beside path ∧
      ready.writeFile temp bytes = .ok written ∧ written.rename temp path = .ok disk
  | .dropTemp _ _ | .finished (.error _) => True
  | .dropStaleBackup _ | .setAside _ | .installAgain _ | .putBack _ _ | .dropBackup => False

theorem Direct.goes {ready : Disk} {stage next : Stage}
    (direct : Direct ready path bytes disk stage) (noDirectory : ready.isDir path.route = false)
    (goes : Goes path bytes none disk stage after next) : Direct ready path bytes after next := by
  cases goes with
  | parentMade made =>
      rw [Direct, made] at direct
      exact direct
  | tempWritten written =>
      obtain rfl : ready = disk := direct
      exact ⟨ready.tempPath_beside path, written⟩
  | installed renamed => exact ⟨_, disk, direct.1, direct.2, renamed⟩
  | blocked failed present =>
      have failed := Replacement.not_ok_of_attempt failed
      exact absurd present (not_pathExists_of_failed noDirectory direct.2 failed)
  | stays => exact direct
  | staleDropped _ | staleLeft _ | aside _ | notAside _ | installedAgain _ | blockedAgain _
  | back _ | notBack _ | backupDropped _ | backupLeft _ => exact direct.elim
  | _ => trivial

theorem installed_of_replaceFile
    (noDirectory : (disk.makeDirs path.parent.route).2.isDir path.route = false)
    (replaced : disk.replaceFile path bytes = (.ok (), after)) :
    ∃ temp written, temp.Beside path ∧
      (disk.makeDirs path.parent.route).2.writeFile temp bytes = .ok written ∧
      written.rename temp path = .ok after := by
  obtain ⟨outcome, ended, same, direct⟩ := replaceFile_ends
    (Direct (disk.makeDirs path.parent.route).2 path bytes) disk path bytes rfl
    fun goes direct => direct.goes noDirectory goes
  cases replaced.symm.trans same
  exact direct

/-- A file that is removed leaves its path to what is in the backup. -/
theorem setAside_of_removeFile {removed : Disk} {stale : ByteArray}
    (gone : disk.removeFile path = .ok removed) (different : path.backup ≠ path)
    (read : disk.readBytes path = .ok bytes) (kept : disk.readBytes path.backup = .ok stale) :
    removed.SetAside path stale := by
  have apart := apart_backup_of_readBytes different read
  obtain ⟨directory, name, has⟩ := hasFile_of_readBytes read
  obtain rfl := Except.ok.inj (has.removeFile.symm.trans gone)
  exact ⟨⟨has.unslashed, directory, name,
    has.names.kept rfl fun _ => unlink_keeps_directory (not_directory_of_file has.stored),
    Node.view_unlink_below []⟩, readBytes_removeFile_apart gone apart kept⟩

/-- A replacement that meets no directory leaves the backup of its path as it finds it, once the
directories above are made.  A stale one is what recovery brings back when the file is removed. -/
theorem stale_backup_stays (different : path.backup ≠ path)
    (noDirectory : (disk.makeDirs path.parent.route).2.isDir path.route = false)
    (replaced : disk.replaceFile path bytes = (.ok (), after)) :
    let ready := (disk.makeDirs path.parent.route).2
    after.readBytes path = .ok bytes ∧
      after.pathExists path.backup = ready.pathExists path.backup ∧
      ∀ stale, ready.readBytes path.backup = .ok stale →
        after.readBytes path.backup = .ok stale ∧
          ∀ removed, after.removeFile path = .ok removed →
            (removed.recover path).2.readBytes path = .ok stale := by
  intro ready
  obtain ⟨temp, written, beside, stored, renamed⟩ := installed_of_replaceFile noDirectory replaced
  have tempRead := readBytes_writeFile stored
  have read := readBytes_rename renamed tempRead
  have apart := apart_backup_of_readBytes different read
  have alike : Alike ready after temp path :=
    (alike_of_writeFile stored path).trans (alike_of_rename renamed beside.target tempRead)
  refine ⟨read, alike.pathExists_eq beside.backup.symm apart.symm, fun stale found => ?_⟩
  have kept := alike.readBytes beside.backup.symm apart.symm found
  exact ⟨kept, fun removed gone =>
    readBytes_recover (.inr (setAside_of_removeFile gone different read kept))⟩

theorem stale_backup_stays_crowded :
    let disk := Replacement.crowded
    let path : Path := ⟨"save.json"⟩
    let ready := (disk.makeDirs path.parent.route).2
    let after := (disk.replaceFile path "new".toUTF8).2
    path.backup ≠ path ∧ ready.isDir path.route = false ∧
      disk.replaceFile path "new".toUTF8 = (.ok (), after) ∧
      after.readBytes path = .ok "new".toUTF8 ∧
      after.readBytes path.backup = .ok "stale".toUTF8 := by
  have different : Path.backup ⟨"save.json"⟩ ≠ ⟨"save.json"⟩ := by decide +kernel
  have noDirectory : (Replacement.crowded.makeDirs (Path.parent ⟨"save.json"⟩).route).2.isDir
      (Path.route ⟨"save.json"⟩) = false := by decide +kernel
  have replaced : Replacement.crowded.replaceFile ⟨"save.json"⟩ "new".toUTF8 =
      (.ok (), (Replacement.crowded.replaceFile ⟨"save.json"⟩ "new".toUTF8).2) := by rfl
  obtain ⟨read, _, kept⟩ := stale_backup_stays different noDirectory replaced
  exact ⟨different, noDirectory, replaced, read, (kept "stale".toUTF8 (by rfl)).1⟩

/-- A replacement that succeeds need not leave its path without a backup. -/
theorem stale_backup_left :
    ¬ ∀ (disk after : Disk) (path : Path) (bytes : ByteArray), path.backup ≠ path →
      disk.isDir path.route = false → disk.isDir path.backup.route = false →
      disk.replaceFile path bytes = (.ok (), after) →
      after.readBytes path = .ok bytes ∧ after.pathExists path.backup = false := by
  intro cleaned
  have replaced : Replacement.crowded.replaceFile ⟨"save.json"⟩ "new".toUTF8 =
      (.ok (), (Replacement.crowded.replaceFile ⟨"save.json"⟩ "new".toUTF8).2) := by rfl
  have absent := (cleaned _ _ _ _ (by decide +kernel) (by decide +kernel) (by decide +kernel)
    replaced).2
  exact absurd absent (by decide +kernel)

end Disk

end Casefile
