import Casefile.Proofs.Disk.CrashSafety
import Casefile.Proofs.Disk.Frame

namespace Casefile

/-!
A replacement changes what it is meant to change, or nothing.

Where it fails, nothing has changed but that directories were made on the way to the path.  Where it
succeeds, the path has the new bytes.  A directory that was there has gone to the backup, and
everything else is as it was.

What carries this through the steps is the disk as it would be without the temporary file.
-/

namespace Disk

variable {before bare disk after aside : Disk} {path temp : Path} {bytes : ByteArray}
  {directory location : List String} {name : String}

/-! What a replacement that succeeds has done. -/

/-- The directory under a path has gone to its backup. -/
structure BackedUp (before after : Disk) (path : Path) : Prop where
  sameStart : after.cwd = before.cwd
  wasDirectory : before.root.view (before.place path) = some .directory
  distinct : before.place path ≠ before.place path.backup
  unused : ∀ name rest, before.root.view (before.place path.backup ++ name :: rest) = none
  kept : ∀ rest, after.root.view (before.place path.backup ++ rest) =
    before.root.view (before.place path ++ rest)
  others : ∀ location, ¬ before.place path <+: location →
    ¬ before.place path.backup <+: location →
    before.Keeps after (before.place path.parent) location

/-- The new bytes are under the path.  Over a file or nothing, all else is as it was; a directory has
gone to the backup. -/
structure Replaced (before after : Disk) (path : Path) (bytes : ByteArray) : Prop where
  sameStart : after.cwd = before.cwd
  read : after.readBytes path = .ok bytes
  stored : after.root.view (before.place path) = some (.file bytes)
  overFile : before.root.view (before.place path) ≠ some .directory →
    ∀ location, location ≠ before.place path →
      before.Keeps after (before.place path.parent) location
  overDirectory : before.root.view (before.place path) = some .directory →
    before.BackedUp after path

/-! A disk without the temporary file on it. -/

/-- A disk has a temporary file beside a path, and is otherwise like another. -/
structure Laden (bare disk : Disk) (temp path : Path) (bytes : ByteArray)
    (directory : List String) (name : String) : Prop where
  has : disk.HasFile temp directory name bytes
  beside : temp.Beside path
  downward : Step.up ∉ temp.route.steps
  home : directory = disk.place path.parent
  bare : bare = disk.unlink directory name

/-- There is a directory in the way of a file. -/
def Blocked (disk : Disk) (path : Path) : Prop :=
  ∃ directory name, disk.Names path.route directory name ∧
    disk.root.view (directory ++ [name]) = some .directory

/-- The backup of a path is the path itself, as far as the disk can tell. -/
def SelfBacked (disk : Disk) (path : Path) : Prop :=
  ∃ directory name, disk.Names path.route directory name ∧
    disk.Names path.backup.route directory name

theorem not_below_directory (directory : List String) (name : String) (rest : List String) :
    ¬ directory ++ name :: rest <+: directory := by
  intro below
  have shorter := below.length_le
  rw [List.length_append, List.length_cons] at shorter
  omega

theorem not_below_sibling {other : String} (different : name ≠ other) (rest : List String) :
    ¬ directory ++ [name] <+: directory ++ other :: rest := by
  rw [List.prefix_append_right_inj]
  intro below
  exact different (by simpa using below)

theorem eq_of_below_entry {entry : String} {rest : List String}
    (same : directory ++ [entry] ++ rest = directory ++ [name]) : entry = name := by
  rw [List.append_assoc] at same
  have heads : entry = name ∧ rest = [] := by simpa using (List.append_inj same rfl).2
  exact heads.1

theorem Keeps.below (keeps : before.Keeps after directory (directory ++ name :: rest)) :
    after.root.view (directory ++ name :: rest) = before.root.view (directory ++ name :: rest) := by
  rcases keeps with same | ⟨_, _, above⟩
  · exact same
  · exact absurd above (not_below_directory directory name rest)

theorem Blocked.view_of_names (blocked : disk.Blocked path)
    (names : disk.Names path.route directory name) :
    disk.root.view (directory ++ [name]) = some .directory := by
  obtain ⟨_, _, blockedNames, isDirectory⟩ := blocked
  obtain ⟨rfl, rfl⟩ := names.unique blockedNames rfl
  exact isDirectory

namespace Laden

theorem view_eq (laden : Laden bare disk temp path bytes directory name)
    (different : location ≠ directory ++ [name]) :
    bare.root.view location = disk.root.view location := by
  rw [laden.bare]
  exact view_unlink_file (not_directory_of_file laden.has.stored) different

theorem view_temp (laden : Laden bare disk temp path bytes directory name) :
    bare.root.view (directory ++ [name]) = none := by
  rw [laden.bare]
  exact Node.view_unlink_below []

/-- What agrees with the temporary files agrees without them. -/
theorem view_congr {others : ByteArray} (laden : Laden bare disk temp path bytes directory name)
    (next : Laden after aside temp path others directory name)
    (same : aside.root.view location = disk.root.view location) :
    after.root.view location = bare.root.view location := by
  by_cases here : location = directory ++ [name]
  · rw [here, laden.view_temp, next.view_temp]
  · rw [laden.view_eq here, next.view_eq here, same]

theorem cwd_eq (laden : Laden bare disk temp path bytes directory name) : bare.cwd = disk.cwd := by
  simp [laden.bare]

theorem removeFile (laden : Laden bare disk temp path bytes directory name) :
    disk.removeFile temp = .ok bare := by
  rw [laden.bare]
  exact laden.has.removeFile

theorem names {route : Route} {other : String}
    (laden : Laden bare disk temp path bytes directory name)
    (names : disk.Names route directory other) : bare.Names route directory other := by
  rw [laden.bare]
  exact names.kept rfl fun _ => unlink_keeps_directory (not_directory_of_file laden.has.stored)

theorem of_writeFile (straight : path.Straight)
    (stored : disk.writeFile (disk.tempPath path) bytes = .ok after) :
    ∃ bare directory name, Laden bare after (disk.tempPath path) path bytes directory name ∧
      ∀ reached, disk.Grown bare reached := by
  obtain ⟨directory, name, names, unslashed, notDirectory, rfl⟩ := writeFile_invert stored
  obtain ⟨home, fresh⟩ := fresh_of_names straight names
  have laden : Laden _ (disk.link directory name (.file bytes)) (disk.tempPath path) path bytes
      directory name :=
    ⟨names.hasFile unslashed notDirectory, disk.tempPath_beside path, tempPath_downward straight,
      home, rfl⟩
  refine ⟨_, directory, name, laden, fun reached => ⟨rfl, fun location => .inl ?_⟩⟩
  by_cases here : location = directory ++ [name]
  · rw [here, laden.view_temp, fresh]
  · rw [laden.view_eq here]
    exact view_link_file names.directory_exists notDirectory here

/-- The temporary file takes the place of a file or of nothing. -/
theorem install (laden : Laden bare disk temp path bytes directory name) (straight : path.Straight)
    (renamed : disk.rename temp path = .ok after) :
    ¬ disk.Blocked path ∧ ∃ entry, bare.Names path.route directory entry ∧
      bare.root.view (directory ++ [entry]) ≠ some .directory ∧
      after = bare.link directory entry (.file bytes) := by
  obtain ⟨toDir, entry, names, _, result⟩ :=
    rename_file_invert renamed laden.has.names laden.has.stored
  obtain rfl : toDir = directory := (straight.directory_eq names).trans laden.home.symm
  rcases result with ⟨_, rfl, _⟩ | moves
  · exact absurd rfl (laden.beside.target.entry_ne laden.has.names names)
  · refine ⟨fun blocked => moves.welcomes_file (blocked.view_of_names names), entry,
      laden.names names, ?_, by rw [moves.result, laden.bare]⟩
    rw [laden.bare]
    exact fun there => moves.welcomes_file (unlink_within there)

/-- Only a directory refuses the temporary file where something is in its way. -/
theorem blocked (laden : Laden bare disk temp path bytes directory name)
    (straight : path.Straight) (refused : ∀ after, disk.rename temp path ≠ .ok after)
    (present : disk.pathExists path = true) : disk.Blocked path := by
  obtain ⟨found, reached⟩ := pathExists_iff.mp present
  obtain ⟨location, located, _⟩ := node_iff.mp reached
  obtain ⟨entry, last⟩ := straight.named
  obtain ⟨there, names, _⟩ := names_of_locate located straight.unslashed last
  refine ⟨there, entry, names, Classical.byContradiction fun notDirectory => ?_⟩
  obtain ⟨after, renamed⟩ := laden.has.exists_rename names straight.unslashed notDirectory
  exact refused after renamed

end Laden

/-! Over a file, or where there was nothing. -/

theorem Grown.replaced (grown : before.Grown bare (before.place path.parent))
    (straight : path.Straight) (names : bare.Names path.route directory name)
    (notDirectory : bare.root.view (directory ++ [name]) ≠ some .directory) :
    before.Replaced (bare.link directory name (.file bytes)) path bytes := by
  have there : before.place path = directory ++ [name] :=
    (place_congr grown.sameStart path).symm.trans names.place_eq
  have home : before.place path.parent = directory :=
    (place_congr grown.sameStart path.parent).symm.trans (straight.directory_eq names).symm
  rw [home] at grown
  constructor
  · exact grown.sameStart
  · exact (names.hasFile straight.unslashed notDirectory).readBytes
  · rw [there]
    exact Node.view_link_below names.directory_exists []
  · intro _ location different
    rw [there] at different
    rw [home]
    exact (grown.keeps location).congr
      (view_link_file names.directory_exists notDirectory different)
  · intro wasDirectory
    rw [there] at wasDirectory
    exact absurd ((grown.keeps _).below.trans wasDirectory) notDirectory

/-! Over a directory, which is set aside first. -/

/-- All is as it was but the backup of a path, and the directories made on the way to it. -/
structure GrownButBackup (before bare : Disk) (path : Path) : Prop where
  sameStart : bare.cwd = before.cwd
  unused : (∀ first rest, bare.root.view (before.place path.backup ++ first :: rest) = none) →
    ∀ first rest, before.root.view (before.place path.backup ++ first :: rest) = none
  keeps : ∀ location, location ≠ before.place path.backup →
    before.Keeps bare (before.place path.parent) location

theorem Grown.butBackup (grown : before.Grown bare (before.place path.parent)) :
    before.GrownButBackup bare path :=
  ⟨grown.sameStart, fun unused first rest => (grown.keeps _).absent (unused first rest),
    fun location _ => grown.keeps location⟩

/-- There is nothing where the backup of a path goes. -/
def BackupVacant (disk : Disk) (path : Path) : Prop :=
  ∃ directory name, disk.Names path.backup.route directory name ∧
    disk.root.view (directory ++ [name]) = none

theorem Laden.dropStaleBackup (laden : Laden bare disk temp path bytes directory name)
    (grown : before.Grown bare (before.place path.parent)) (blocked : disk.Blocked path)
    (removed : disk.removeFile path.backup = .ok after) :
    ∃ bare, Laden bare after temp path bytes directory name ∧ after.Blocked path ∧
      after.BackupVacant path ∧ before.GrownButBackup bare path := by
  obtain ⟨backupDir, backup, others, backupNames, isFile, rfl⟩ := removeFile_invert removed
  have notDirectory := not_directory_of_file isFile
  have keptNames : ∀ {route directory name}, disk.Names route directory name →
      (disk.unlink backupDir backup).Names route directory name := fun names =>
    names.kept rfl fun _ => unlink_keeps_directory notDirectory
  have different : backupDir ++ [backup] ≠ directory ++ [name] :=
    (laden.beside.backup.entry_ne laden.has.names backupNames).symm
  have next : Laden _ (disk.unlink backupDir backup) temp path bytes directory name :=
    ⟨laden.has.unlink isFile different, laden.beside, laden.downward, laden.home, rfl⟩
  have sameStart : disk.cwd = before.cwd := laden.cwd_eq.symm.trans grown.sameStart
  have there : before.place path.backup = backupDir ++ [backup] :=
    (place_congr sameStart _).symm.trans backupNames.place_eq
  refine ⟨_, next, ?_, ⟨backupDir, backup, keptNames backupNames, Node.view_unlink_below []⟩,
    sameStart, ?_, ?_⟩
  · obtain ⟨pathDir, entry, names, isDirectory⟩ := blocked
    exact ⟨pathDir, entry, keptNames names, unlink_keeps_directory notDirectory isDirectory⟩
  · intro _ first rest
    refine (grown.keeps _).absent ?_
    rw [there]
    by_cases here : backupDir ++ [backup] ++ first :: rest = directory ++ [name]
    · rw [here, laden.view_temp]
    · rw [laden.view_eq here, Node.view_below_of_not_directory notDirectory]
  · intro location elsewhere
    rw [there] at elsewhere
    exact (grown.keeps location).congr
      (laden.view_congr next (view_unlink_file notDirectory elsewhere))

/-- A directory can be set aside where there is no backup. -/
theorem BackupVacant.exists_setAside (vacant : disk.BackupVacant path) (straight : path.Straight)
    (blocked : disk.Blocked path) : ∃ after, disk.rename path path.backup = .ok after := by
  obtain ⟨pathDir, entry, names, isDirectory⟩ := blocked
  obtain ⟨backupDir, backup, backupNames, absent⟩ := vacant
  obtain rfl : pathDir = backupDir :=
    (straight.directory_eq names).trans (straight.backup_directory_eq backupNames).symm
  obtain ⟨entries, held⟩ := Node.view_eq_directory_iff.mp isDirectory
  refine exists_rename names backupNames held nofun (not_below_directory _ _ [])
    (not_below_directory _ _ []) ?_
  rw [Node.view_eq_none_iff.mp absent]
  rfl

theorem BackupVacant.not_selfBacked (vacant : disk.BackupVacant path)
    (blocked : disk.Blocked path) : ¬ disk.SelfBacked path := by
  rintro ⟨directory, name, names, backupNames⟩
  obtain ⟨_, _, vacantNames, absent⟩ := vacant
  obtain ⟨rfl, rfl⟩ := backupNames.unique vacantNames rfl
  rw [blocked.view_of_names names] at absent
  cases absent

theorem Moves.unused {fromDir toDir : List String} {fromName toName : String}
    {entries : List (String × Node)}
    (moves : disk.Moves fromDir fromName toDir toName (.dir entries) after) (first : String)
    (rest : List String) : disk.root.view (toDir ++ [toName] ++ first :: rest) = none := by
  cases present : disk.root.view (toDir ++ [toName] ++ first :: rest) with
  | none => rfl
  | some found =>
      obtain ⟨entry, others, listed⟩ := Node.listed_of_view_below present
      have welcome := moves.welcome
      simp [listed, moveRefusal, Node.isDir] at welcome

section Carried

variable {entry backup : String}

theorem Carried.view_above
    (carried : disk.Carried aside (directory ++ [entry]) (directory ++ [backup]))
    (above : location <+: directory) : aside.root.view location = disk.root.view location :=
  carried.others location
    (fun below => not_below_directory _ _ [] (below.trans above))
    (fun below => not_below_directory _ _ [] (below.trans above))

theorem Carried.names {route : Route} {other : String}
    (carried : disk.Carried aside (directory ++ [entry]) (directory ++ [backup]))
    (names : disk.Names route directory other) (downward : Step.up ∉ route.steps) :
    aside.Names route directory other :=
  names.kept_downward downward carried.sameStart fun _ above isDirectory =>
    (carried.view_above above).trans isDirectory

theorem Laden.carry (laden : Laden bare disk temp path bytes directory name)
    (carried : disk.Carried aside (directory ++ [entry]) (directory ++ [backup]))
    (notEntry : entry ≠ name) (notBackup : backup ≠ name) :
    Laden (aside.unlink directory name) aside temp path bytes directory name := by
  refine ⟨⟨carried.names laden.has.names laden.downward, laden.has.unslashed, ?_⟩, laden.beside,
    laden.downward, laden.home.trans (place_congr carried.sameStart _).symm, rfl⟩
  rw [← laden.has.stored]
  exact carried.others _ (not_below_sibling notEntry []) (not_below_sibling notBackup [])

/-- What is below an entry beside the temporary file is the same without it. -/
theorem Laden.view_beside (laden : Laden bare disk temp path bytes directory name)
    (different : entry ≠ name) (rest : List String) :
    bare.root.view (directory ++ [entry] ++ rest) =
      disk.root.view (directory ++ [entry] ++ rest) :=
  laden.view_eq fun same => different (eq_of_below_entry same)

theorem GrownButBackup.view_beside (grown : before.GrownButBackup bare path)
    (home : before.place path.parent = directory)
    (backupPlace : before.place path.backup = directory ++ [backup]) (different : entry ≠ backup)
    (rest : List String) :
    bare.root.view (directory ++ [entry] ++ rest) =
      before.root.view (directory ++ [entry] ++ rest) := by
  have kept := grown.keeps (directory ++ [entry] ++ rest) fun same =>
    different (eq_of_below_entry (same.trans backupPlace))
  rw [home, List.append_assoc, List.singleton_append] at kept
  rw [List.append_assoc, List.singleton_append]
  exact kept.below

/-- What was a directory is found under its backup, with the temporary file or without it. -/
theorem Laden.backedUp (laden : Laden bare disk temp path bytes directory name)
    (next : Laden after aside temp path bytes directory name)
    (carried : disk.Carried aside (directory ++ [entry]) (directory ++ [backup]))
    (grown : before.GrownButBackup bare path)
    (place : before.place path = directory ++ [entry])
    (backupPlace : before.place path.backup = directory ++ [backup])
    (distinct : entry ≠ backup) (notEntry : entry ≠ name) (notBackup : backup ≠ name)
    (isDirectory : disk.root.view (directory ++ [entry]) = some .directory)
    (vacated : ∀ first rest, disk.root.view (directory ++ [backup] ++ first :: rest) = none) :
    before.BackedUp after path := by
  have start : disk.cwd = before.cwd := laden.cwd_eq.symm.trans grown.sameStart
  have home : before.place path.parent = directory :=
    (place_congr start _).symm.trans laden.home.symm
  have keptBelow := grown.view_beside home backupPlace distinct
  constructor
  · exact next.cwd_eq.trans (carried.sameStart.trans start)
  · have kept := (laden.view_beside notEntry []).symm.trans (keptBelow [])
    rw [List.append_nil, isDirectory] at kept
    rw [place, ← kept]
  · rw [place, backupPlace]
    exact fun same => distinct (by simpa using same)
  · refine grown.unused fun first rest => ?_
    rw [backupPlace, laden.view_beside notBackup, vacated]
  · intro rest
    rw [place, backupPlace, next.view_beside notBackup, carried.arrived,
      ← laden.view_beside notEntry, keptBelow]
  · intro location notBelow notBelowBackup
    have elsewhere : location ≠ before.place path.backup := fun same =>
      notBelowBackup (same ▸ List.prefix_refl _)
    rw [place] at notBelow
    rw [backupPlace] at notBelowBackup
    exact (grown.keeps location elsewhere).congr
      (laden.view_congr next (carried.others location notBelow notBelowBackup))

end Carried

/-- Once its directory has been set aside, a path is vacant and its backup has the directory. -/
theorem Laden.setAside (laden : Laden bare disk temp path bytes directory name)
    (straight : path.Straight) (blocked : disk.Blocked path)
    (grown : before.GrownButBackup bare path)
    (renamed : disk.rename path path.backup = .ok aside) :
    (disk.SelfBacked path ∧ aside = disk) ∨
      ∃ bare, Laden bare aside temp path bytes directory name ∧ aside.Vacant path ∧
        before.BackedUp bare path := by
  obtain ⟨fromDir, entry, toDir, backup, moved, names, backupNames, held, _, result⟩ :=
    rename_invert renamed
  obtain rfl : fromDir = directory := (straight.directory_eq names).trans laden.home.symm
  obtain rfl : toDir = fromDir := (straight.backup_directory_eq backupNames).trans laden.home.symm
  rcases result with ⟨_, rfl, rfl⟩ | moves
  · exact .inl ⟨⟨toDir, entry, names, backupNames⟩, rfl⟩
  right
  have isDirectory := blocked.view_of_names names
  obtain ⟨entries, listed⟩ := Node.view_eq_directory_iff.mp isDirectory
  obtain rfl : moved = .dir entries := Option.some.inj (held.symm.trans listed)
  have carried := moves.carried held backupNames.directory_exists
  have notEntry : entry ≠ name := fun same =>
    laden.beside.target.entry_ne laden.has.names names (by rw [same])
  have notBackup : backup ≠ name := fun same =>
    laden.beside.backup.entry_ne laden.has.names backupNames (by rw [same])
  have start : disk.cwd = before.cwd := laden.cwd_eq.symm.trans grown.sameStart
  have next := laden.carry carried notEntry notBackup
  refine ⟨_, next, ⟨straight.unslashed, toDir, entry, carried.names names straight.downward,
    by simpa using carried.gone []⟩, ?_⟩
  exact laden.backedUp next carried grown ((place_congr start _).symm.trans names.place_eq)
    ((place_congr start _).symm.trans backupNames.place_eq)
    (fun same => moves.distinct (by rw [same])) notEntry notBackup isDirectory moves.unused

/-- The new file can be put where the directory was. -/
theorem BackedUp.replaced (backedUp : before.BackedUp bare path) (straight : path.Straight)
    (names : bare.Names path.route directory name)
    (notDirectory : bare.root.view (directory ++ [name]) ≠ some .directory) :
    before.Replaced (bare.link directory name (.file bytes)) path bytes := by
  have there : before.place path = directory ++ [name] :=
    (place_congr backedUp.sameStart path).symm.trans names.place_eq
  have elsewhere : ∀ location, location ≠ before.place path →
      (bare.link directory name (.file bytes)).root.view location = bare.root.view location := by
    intro location different
    rw [there] at different
    exact view_link_file names.directory_exists notDirectory different
  constructor
  · exact backedUp.sameStart
  · exact (names.hasFile straight.unslashed notDirectory).readBytes
  · rw [there]
    exact Node.view_link_below names.directory_exists []
  · exact fun notBefore => absurd backedUp.wasDirectory notBefore
  · intro _
    refine ⟨backedUp.sameStart, backedUp.wasDirectory, backedUp.distinct, backedUp.unused, ?_, ?_⟩
    · intro rest
      refine (elsewhere _ fun same => ?_).trans (backedUp.kept rest)
      cases rest with
      | nil => exact backedUp.distinct (by simpa using same.symm)
      | cons first rest =>
          have absent := backedUp.unused first rest
          rw [same, backedUp.wasDirectory] at absent
          cases absent
    · intro location notBelow notBelowBackup
      refine (backedUp.others location notBelow notBelowBackup).congr (elsewhere location ?_)
      rintro rfl
      exact notBelow (List.prefix_refl _)

theorem Replaced.removeFile_backup (replaced : before.Replaced disk path bytes)
    (wasDirectory : before.root.view (before.place path) = some .directory) :
    ∀ after, disk.removeFile path.backup ≠ .ok after := by
  intro after removed
  obtain ⟨directory, name, others, names, isFile, _⟩ := removeFile_invert removed
  have kept := (replaced.overDirectory wasDirectory).kept []
  rw [← place_congr replaced.sameStart path.backup, names.place_eq, List.append_nil,
    List.append_nil, wasDirectory, isFile] at kept
  cases kept

/-- A path that is its own backup is not moved to it. -/
theorem SelfBacked.putBack (selfBacked : disk.SelfBacked path)
    (renamed : disk.rename path.backup path = .ok after) : after = disk := by
  obtain ⟨directory, name, names, backupNames⟩ := selfBacked
  obtain ⟨_, _, _, _, _, fromNames, toNames, _, _, result⟩ := rename_invert renamed
  obtain ⟨rfl, rfl⟩ := backupNames.unique fromNames rfl
  obtain ⟨rfl, rfl⟩ := names.unique toNames rfl
  rcases result with ⟨_, _, same⟩ | moves
  · exact same
  · exact absurd rfl moves.distinct

/-! Through the stages of a replacement. -/

/-- What is so when the directory under a path is to be set aside.  The stale backup may be gone. -/
def ToSetAside (before bare disk : Disk) (path : Path) : Prop :=
  (before.Grown bare (before.place path.parent) ∨
    disk.BackupVacant path ∧ before.GrownButBackup bare path) ∧ disk.Blocked path

/-- What is so afterwards.  A path that is its own backup is where it was. -/
def HasSetAside (before bare disk : Disk) (path : Path) : Prop :=
  before.Grown bare (before.place path.parent) ∧ disk.Blocked path ∧ disk.SelfBacked path ∨
    disk.Vacant path ∧ before.BackedUp bare path

theorem ToSetAside.done (ready : ToSetAside before bare disk path)
    (laden : Laden bare disk temp path bytes directory name) (straight : path.Straight)
    (renamed : disk.rename path path.backup = .ok aside) :
    ∃ bare, Laden bare aside temp path bytes directory name ∧
      HasSetAside before bare aside path := by
  obtain ⟨way, blocked⟩ := ready
  have grown : before.GrownButBackup bare path := by
    rcases way with grown | ⟨_, grown⟩
    · exact grown.butBackup
    · exact grown
  rcases laden.setAside straight blocked grown renamed with ⟨selfBacked, rfl⟩ | moved
  · rcases way with grown | ⟨vacant, _⟩
    · exact ⟨bare, laden, .inl ⟨grown, blocked, selfBacked⟩⟩
    · exact absurd selfBacked (vacant.not_selfBacked blocked)
  · obtain ⟨bare, laden, moved⟩ := moved
    exact ⟨bare, laden, .inr moved⟩

/-- Only where there is a backup can the directory not be set aside. -/
theorem ToSetAside.refused (ready : ToSetAside before bare disk path) (straight : path.Straight)
    (failed : ∀ after, disk.rename path path.backup ≠ .ok after) :
    before.Grown bare (before.place path.parent) := by
  obtain ⟨grown | ⟨vacant, _⟩, blocked⟩ := ready
  · exact grown
  · obtain ⟨after, moved⟩ := vacant.exists_setAside straight blocked
    exact absurd moved (failed after)

theorem HasSetAside.install (ready : HasSetAside before bare disk path)
    (laden : Laden bare disk temp path bytes directory name) (straight : path.Straight)
    (renamed : disk.rename temp path = .ok after) :
    before.Replaced after path bytes ∧
      before.root.view (before.place path) = some .directory := by
  obtain ⟨free, entry, names, notDirectory, rfl⟩ := laden.install straight renamed
  rcases ready with ⟨_, blocked, _⟩ | ⟨_, backedUp⟩
  · exact absurd blocked free
  · exact ⟨backedUp.replaced straight names notDirectory, backedUp.wasDirectory⟩

/-- Only a path that is its own backup is still in the way. -/
theorem HasSetAside.refused (ready : HasSetAside before bare disk path)
    (laden : Laden bare disk temp path bytes directory name)
    (failed : ∀ after, disk.rename temp path ≠ .ok after) :
    before.Grown bare (before.place path.parent) ∧ disk.SelfBacked path := by
  rcases ready with ⟨grown, _, selfBacked⟩ | ⟨vacant, _⟩
  · exact ⟨grown, selfBacked⟩
  · obtain ⟨after, moved⟩ := rename_vacant laden.has.readBytes vacant
    exact absurd moved (failed after)

/-- What holds before each step of a replacement that nothing interrupts, which began on another
disk. -/
def Orderly (before : Disk) (path : Path) (bytes : ByteArray) (disk : Disk) : Stage → Prop
  | .makeParent => before = disk
  | .writeTemp => before.Grown disk (before.place path.parent)
  | .install temp | .dropTemp temp _ =>
    ∃ bare directory name, Laden bare disk temp path bytes directory name ∧
      before.Grown bare (before.place path.parent)
  | .dropStaleBackup temp =>
    ∃ bare directory name, Laden bare disk temp path bytes directory name ∧
      before.Grown bare (before.place path.parent) ∧ disk.Blocked path
  | .setAside temp =>
    ∃ bare directory name, Laden bare disk temp path bytes directory name ∧
      ToSetAside before bare disk path
  | .installAgain temp =>
    ∃ bare directory name, Laden bare disk temp path bytes directory name ∧
      HasSetAside before bare disk path
  | .putBack temp _ =>
    ∃ bare directory name, Laden bare disk temp path bytes directory name ∧
      before.Grown bare (before.place path.parent) ∧ disk.SelfBacked path
  | .dropBackup =>
    before.Replaced disk path bytes ∧ before.root.view (before.place path) = some .directory
  | .finished (.ok ()) => before.Replaced disk path bytes
  | .finished (.error _) => before.Grown disk (before.place path.parent)

theorem Orderly.goes {stage next : Stage} (orderly : Orderly before path bytes disk stage)
    (straight : path.Straight) (goes : Goes path bytes none disk stage after next) :
    Orderly before path bytes after next := by
  cases goes with
  | parentMade made | parentFailed made =>
      obtain rfl : before = disk := orderly
      have grown : before.Grown (before.makeDirs path.parent.route).2 (before.place path.parent) :=
        grown_of_makeDirs straight.parent_downward
      rw [made] at grown
      exact grown
  | parentRefused refused => cases refused
  | tempWritten written =>
      obtain ⟨bare, directory, name, laden, grown⟩ := Laden.of_writeFile straight written
      exact ⟨bare, directory, name, laden, orderly.trans (grown _)⟩
  | tempFailed _ => exact orderly
  | installed renamed =>
      obtain ⟨_, _, _, laden, grown⟩ := orderly
      obtain ⟨_, entry, names, notDirectory, rfl⟩ := laden.install straight renamed
      exact grown.replaced straight names notDirectory
  | blocked failed present =>
      obtain ⟨bare, directory, name, laden, grown⟩ := orderly
      have blocked := laden.blocked straight (Replacement.not_ok_of_attempt failed) present
      exact ⟨bare, directory, name, laden, grown, blocked⟩
  | notInstalled _ _ => exact orderly
  | staleDropped removed =>
      obtain ⟨bare, directory, name, laden, grown, blocked⟩ := orderly
      obtain ⟨bare, laden, blocked, cleared⟩ := laden.dropStaleBackup grown blocked removed
      exact ⟨bare, directory, name, laden, .inr cleared, blocked⟩
  | staleLeft _ =>
      obtain ⟨bare, directory, name, laden, grown, blocked⟩ := orderly
      exact ⟨bare, directory, name, laden, .inl grown, blocked⟩
  | aside renamed =>
      obtain ⟨_, directory, name, laden, ready⟩ := orderly
      obtain ⟨bare, laden, moved⟩ := ready.done laden straight renamed
      exact ⟨bare, directory, name, laden, moved⟩
  | notAside failed =>
      obtain ⟨bare, directory, name, laden, ready⟩ := orderly
      have grown := ready.refused straight (Replacement.not_ok_of_attempt failed)
      exact ⟨bare, directory, name, laden, grown⟩
  | installedAgain renamed =>
      obtain ⟨_, _, _, laden, ready⟩ := orderly
      exact ready.install laden straight renamed
  | blockedAgain failed =>
      obtain ⟨bare, directory, name, laden, ready⟩ := orderly
      have refused := ready.refused laden (Replacement.not_ok_of_attempt failed)
      exact ⟨bare, directory, name, laden, refused⟩
  | back renamed =>
      obtain ⟨bare, directory, name, laden, grown, selfBacked⟩ := orderly
      obtain rfl := selfBacked.putBack renamed
      exact ⟨bare, directory, name, laden, grown⟩
  | notBack _ =>
      obtain ⟨bare, directory, name, laden, grown, _⟩ := orderly
      exact ⟨bare, directory, name, laden, grown⟩
  | tempDropped removed =>
      obtain ⟨bare, _, _, laden, grown⟩ := orderly
      obtain rfl : bare = after := Except.ok.inj (laden.removeFile.symm.trans removed)
      exact grown
  | tempLeft failed =>
      obtain ⟨bare, _, _, laden, _⟩ := orderly
      exact absurd laden.removeFile (Replacement.not_ok_of_attempt failed bare)
  | backupDropped removed =>
      obtain ⟨replaced, wasDirectory⟩ := orderly
      exact absurd removed (replaced.removeFile_backup wasDirectory after)
  | backupLeft _ => exact orderly.1
  | stays => exact orderly

/-- What comes of a replacement.  One that succeeds puts the new bytes under the path, and sets
aside no more than a directory.  One that fails changes nothing, but may leave new directories on
the way to the path. -/
structure AllOrNothing (before : Disk) (path : Path) (bytes : ByteArray)
    (result : Except IoError Unit × Disk) : Prop where
  replaced : result.1 = .ok () → before.Replaced result.2 path bytes
  grown : result.1 ≠ .ok () → before.Grown result.2 (before.place path.parent)

theorem allOrNothing_of_straight (straight : path.Straight) (disk : Disk) (bytes : ByteArray) :
    disk.AllOrNothing path bytes (disk.replaceFile path bytes) := by
  obtain ⟨outcome, after, ended, orderly⟩ := replaceFile_ends (Orderly disk path bytes) disk path
    bytes rfl fun goes orderly => orderly.goes straight goes
  rw [ended]
  cases outcome with
  | ok => exact ⟨fun _ => orderly, fun failed => absurd rfl failed⟩
  | error reason => exact ⟨nofun, fun _ => orderly⟩

/-- A path that leads straight to a name is replaced as a whole or not at all.  Plain names with
slashes between them make up such a path. -/
theorem replaceFile_all_or_nothing (disk : Disk) (bytes : ByteArray) :
    (∀ path : Path, path.Straight →
      disk.AllOrNothing path bytes (disk.replaceFile path bytes)) ∧
    ∀ names : List String, names ≠ [] → (∀ name ∈ names, PlainName name) →
      let path : Path := ⟨"/".intercalate names⟩
      disk.AllOrNothing path bytes (disk.replaceFile path bytes) :=
  ⟨fun _ straight => allOrNothing_of_straight straight disk bytes, fun _ named plain =>
    allOrNothing_of_straight (Path.straight_joined named plain) disk bytes⟩

/-- A directory where a file is to go, and a file where the directory is to be set aside. -/
def obstructed : Disk where
  root := .dir [("save.bak", .file "stale".toUTF8),
    ("save.json", .dir [("notes", .file "old".toUTF8)])]
  cwd := []

theorem replaceFile_all_or_nothing_obstructed :
    let path : Path := ⟨"save.json"⟩
    let after := (obstructed.replaceFile path "new".toUTF8).2
    let nested : Path := ⟨"/".intercalate ["saves", "save.json"]⟩
    (path.Straight ∧ obstructed.Replaced after path "new".toUTF8 ∧
      after.root.view ["save.bak", "notes"] = some (.file "old".toUTF8)) ∧
    (∀ name ∈ ["saves", "save.json"], PlainName name) ∧
      obstructed.Replaced (obstructed.replaceFile nested "new".toUTF8).2 nested "new".toUTF8 := by
  have straight : Path.Straight ⟨"save.json"⟩ :=
    ⟨by decide +kernel, ⟨"save.json", by decide +kernel⟩, by decide +kernel⟩
  have plain : ∀ name ∈ ["saves", "save.json"], PlainName name := by
    simp only [List.forall_mem_cons]
    refine ⟨?_, ?_, nofun⟩ <;> constructor <;> decide +kernel
  obtain ⟨whole, joined⟩ := replaceFile_all_or_nothing obstructed "new".toUTF8
  exact ⟨⟨straight, (whole _ straight).replaced (by rfl), by rfl⟩, plain,
    (joined ["saves", "save.json"] nofun plain).replaced (by decide +kernel)⟩

end Disk

end Casefile
