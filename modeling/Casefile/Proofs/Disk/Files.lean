import Casefile.Proofs.Disk.Operations
import Casefile.Proofs.Disk.Spelling

namespace Casefile.Disk

/-!
Files, and what the operations on a disk do to them.

A path under which there is a file keeps it through every operation that is about another entry and
takes no directory away.
-/

variable {disk after : Disk} {path temp other : Path} {bytes others : ByteArray}
  {location directory otherDir : List String} {name otherName : String} {found : Node.Kind}

/-! Files that are changed leave the directories alone. -/

theorem not_below_of_directory {root : Node}
    (notDirectory : root.view (directory ++ [name]) ≠ some .directory)
    (isDirectory : root.view location = some .directory) : ¬ directory ++ [name] <+: location := by
  rintro ⟨rest, rfl⟩
  cases rest with
  | nil => exact notDirectory (by simpa using isDirectory)
  | cons first rest => exact notDirectory (Node.view_above isDirectory)

theorem unlink_within (present : (disk.unlink directory name).root.view location = some found) :
    disk.root.view location = some found := by
  by_cases below : directory ++ [name] <+: location
  · obtain ⟨rest, rfl⟩ := below
    have gone : (disk.unlink directory name).root.view (directory ++ name :: rest) = none :=
      Node.view_unlink_below rest
    rw [List.append_assoc, List.singleton_append, gone] at present
    cases present
  · exact (Node.view_unlink_apart below).symm.trans present

theorem unlink_keeps_absent (absent : disk.root.view location = none) :
    (disk.unlink directory name).root.view location = none := by
  cases there : (disk.unlink directory name).root.view location with
  | none => rfl
  | some found =>
      rw [unlink_within there] at absent
      cases absent

theorem unlink_keeps_directory
    (notDirectory : disk.root.view (directory ++ [name]) ≠ some .directory)
    (isDirectory : disk.root.view location = some .directory) :
    (disk.unlink directory name).root.view location = some .directory := by
  rw [← isDirectory]
  exact Node.view_unlink_apart (not_below_of_directory notDirectory isDirectory)

theorem link_keeps_directory {child : Node}
    (notDirectory : disk.root.view (directory ++ [name]) ≠ some .directory)
    (isDirectory : disk.root.view location = some .directory) :
    (disk.link directory name child).root.view location = some .directory := by
  rw [← isDirectory]
  exact Node.view_link_apart (not_below_of_directory notDirectory isDirectory)

theorem not_directory_of_file {root : Node} (isFile : root.view location = some (.file bytes)) :
    root.view location ≠ some .directory := by
  rw [isFile]
  exact nofun

theorem not_below_of_file {root : Node}
    (notDirectory : root.view (directory ++ [name]) ≠ some .directory)
    (isFile : root.view location = some (.file bytes)) (different : directory ++ [name] ≠ location) :
    ¬ directory ++ [name] <+: location := by
  rintro ⟨rest, rfl⟩
  cases rest with
  | nil => exact different (List.append_nil _).symm
  | cons first rest => exact notDirectory (Node.view_above isFile)

/-! A path under which there is a file. -/

structure HasFile (disk : Disk) (path : Path) (directory : List String) (name : String)
    (bytes : ByteArray) : Prop where
  names : disk.Names path.route directory name
  unslashed : path.route.slash = false
  stored : disk.root.view (directory ++ [name]) = some (.file bytes)

namespace HasFile

theorem node (has : disk.HasFile path directory name bytes) :
    disk.node path.route = .ok (.file bytes) :=
  has.names.node_iff.mpr ⟨Node.view_eq_file_iff.mp has.stored, by simp [has.unslashed]⟩

theorem readBytes (has : disk.HasFile path directory name bytes) :
    disk.readBytes path = .ok bytes := by
  simp [Disk.readBytes, has.node]

/-- Removing another file leaves a file. -/
theorem unlink (has : disk.HasFile path directory name bytes)
    (isFile : disk.root.view (otherDir ++ [otherName]) = some (.file others))
    (different : otherDir ++ [otherName] ≠ directory ++ [name]) :
    (disk.unlink otherDir otherName).HasFile path directory name bytes := by
  have notDirectory := not_directory_of_file isFile
  refine ⟨has.names.kept rfl fun _ => unlink_keeps_directory notDirectory, has.unslashed, ?_⟩
  rw [← has.stored]
  exact Node.view_unlink_apart (not_below_of_file notDirectory has.stored different)

/-- Another entry that was no directory can be filled or replaced. -/
theorem link {child : Node} (has : disk.HasFile path directory name bytes)
    (notDirectory : disk.root.view (otherDir ++ [otherName]) ≠ some .directory)
    (different : otherDir ++ [otherName] ≠ directory ++ [name]) :
    (disk.link otherDir otherName child).HasFile path directory name bytes := by
  refine ⟨has.names.kept rfl fun _ => link_keeps_directory notDirectory, has.unslashed, ?_⟩
  rw [← has.stored]
  exact Node.view_link_apart (not_below_of_file notDirectory has.stored different)

theorem makeDir {route : Route} (has : disk.HasFile path directory name bytes)
    (made : disk.makeDir route = .ok after) : after.HasFile path directory name bytes := by
  obtain ⟨newDir, newName, _, absent, rfl⟩ := makeDir_invert made
  refine has.link (by rw [absent]; exact nofun) ?_
  intro same
  rw [same, has.stored] at absent
  cases absent

end HasFile

theorem exists_steps_of_locate (located : disk.locate path.route = .ok location)
    (unslashed : path.route.slash = false) : ∃ steps last, path.route.steps = steps ++ [last] := by
  rcases List.eq_nil_or_concat path.route.steps with empty | ⟨steps, last, listed⟩
  · have absolute := (locate_iff.mp located).2.1 empty
    have nonempty : path.text.toList ≠ [] := by
      intro noText
      simp [Path.route, Path.isAbsolute, noText] at absolute
    obtain ⟨before, run, ends⟩ := Path.exists_endsIn nonempty unslashed
    have last := ends.getLast?_steps
    simp [empty] at last
  · exact ⟨steps, last, by rw [listed, List.concat_eq_append]⟩

theorem names_of_locate (located : disk.locate path.route = .ok location)
    (unslashed : path.route.slash = false)
    (last : path.route.steps.getLast? = some (.down name)) :
    ∃ directory, disk.Names path.route directory name ∧ location = directory ++ [name] := by
  obtain ⟨inRange, _, walked⟩ := locate_iff.mp located
  obtain ⟨steps, listed⟩ := List.getLast?_eq_some_iff.mp last
  rw [unslashed, if_neg Bool.false_ne_true, List.append_nil, listed, walk_append_iff] at walked
  obtain ⟨middle, walked, onward⟩ := walked
  obtain ⟨isDirectory, opened, arrived⟩ := walk_cons_iff.mp onward
  exact ⟨middle, ⟨(target_concat_iff listed).mpr ⟨inRange, middle, walked, isDirectory, rfl⟩,
    opened.1⟩, walk_nil_iff.mp arrived⟩

/-- Only entries are files: what is reached by dots, or with a slash at the end, is a directory. -/
theorem hasFile_of_readBytes (read : disk.readBytes path = .ok bytes) :
    ∃ directory name, disk.HasFile path directory name bytes := by
  have reached : disk.node path.route = .ok (.file bytes) := by
    cases found : disk.node path.route with
    | error reason => simp [readBytes, found] at read
    | ok node => cases node <;> simp_all [readBytes]
  obtain ⟨location, located, held⟩ := node_iff.mp reached
  have notDirectory := not_directory_of_file (Node.view_eq_file_iff.mpr held)
  obtain ⟨inRange, _, walked⟩ := locate_iff.mp located
  cases slash : path.route.slash with
  | true =>
      rw [slash, if_pos rfl, walk_append_iff] at walked
      obtain ⟨middle, _, onward⟩ := walked
      obtain ⟨isDirectory, _, arrived⟩ := walk_cons_iff.mp onward
      obtain rfl : location = middle := walk_nil_iff.mp arrived
      exact absurd isDirectory notDirectory
  | false =>
      obtain ⟨steps, last, listed⟩ := exists_steps_of_locate located slash
      rw [slash, if_neg Bool.false_ne_true, List.append_nil, listed, walk_append_iff] at walked
      obtain ⟨middle, walked, onward⟩ := walked
      obtain ⟨isDirectory, opened, arrived⟩ := walk_cons_iff.mp onward
      obtain rfl : location = last.from middle := walk_nil_iff.mp arrived
      cases last with
      | stay => exact absurd isDirectory notDirectory
      | up => exact absurd (Node.view_dropLast isDirectory) notDirectory
      | down name =>
          have last : path.route.steps.getLast? = some (.down name) := by
            rw [listed, List.getLast?_concat]
          obtain ⟨directory, names, same⟩ := names_of_locate located slash last
          exact ⟨directory, name, names, slash, Node.view_eq_file_iff.mpr (same ▸ held)⟩

theorem Names.hasFile (names : disk.Names path.route directory name)
    (unslashed : path.route.slash = false)
    (notDirectory : disk.root.view (directory ++ [name]) ≠ some .directory) :
    (disk.link directory name (.file bytes)).HasFile path directory name bytes :=
  ⟨names.kept rfl fun _ => link_keeps_directory notDirectory, unslashed,
    Node.view_link_below names.directory_exists []⟩

/-! Files after an operation about another path. -/

theorem readBytes_makeDirs (read : disk.readBytes path = .ok bytes) (route : Route) :
    (disk.makeDirs route).2.readBytes path = .ok bytes := by
  obtain ⟨directory, name, has⟩ := hasFile_of_readBytes read
  have kept : (disk.makeDirs route).2.HasFile path directory name bytes :=
    makeDirsAt_preserves (fun disk => disk.HasFile path directory name bytes) _ _ has
      fun _ has made => has.makeDir made
  exact kept.readBytes

theorem readBytes_writeFile (written : disk.writeFile path bytes = .ok after) :
    after.readBytes path = .ok bytes := by
  obtain ⟨directory, name, names, unslashed, notDirectory, rfl⟩ := writeFile_invert written
  exact (names.hasFile unslashed notDirectory).readBytes

theorem readBytes_writeFile_apart (written : disk.writeFile temp others = .ok after)
    (apart : temp.Apart path) (read : disk.readBytes path = .ok bytes) :
    after.readBytes path = .ok bytes := by
  obtain ⟨directory, name, has⟩ := hasFile_of_readBytes read
  obtain ⟨tempDir, tempName, names, _, notDirectory, rfl⟩ := writeFile_invert written
  exact (has.link notDirectory (apart.entry_ne names has.names)).readBytes

theorem readBytes_removeFile_apart (removed : disk.removeFile other = .ok after)
    (apart : other.Apart path) (read : disk.readBytes path = .ok bytes) :
    after.readBytes path = .ok bytes := by
  obtain ⟨directory, name, has⟩ := hasFile_of_readBytes read
  obtain ⟨otherDir, otherName, others, names, isFile, rfl⟩ := removeFile_invert removed
  exact (has.unlink isFile (apart.entry_ne names has.names)).readBytes

/-! Files that are moved. -/

section Moves

variable {fromDir toDir : List String} {fromName toName : String} {moved : Node}

theorem Moves.source_gone
    (moves : disk.Moves fromDir fromName toDir toName moved after) :
    after.root.view (fromDir ++ [fromName]) = none := by
  have apart : ¬ toDir ++ [toName] <+: fromDir ++ [fromName] := by
    intro below
    rcases List.prefix_concat_iff.mp below with same | above
    · exact moves.distinct same.symm
    · exact moves.notAbove above
  rw [moves.result]
  exact (Node.view_link_apart apart).trans (Node.view_unlink_below [])

theorem Moves.welcomes_file (moves : disk.Moves fromDir fromName toDir toName (.file bytes) after) :
    disk.root.view (toDir ++ [toName]) ≠ some .directory := by
  intro isDirectory
  obtain ⟨entries, listed⟩ := Node.view_eq_directory_iff.mp isDirectory
  have welcome := moves.welcome
  simp [listed, moveRefusal, Node.isDir] at welcome

theorem Moves.keeps_directory
    (moves : disk.Moves fromDir fromName toDir toName (.file bytes) after)
    (isFile : disk.root.view (fromDir ++ [fromName]) = some (.file bytes))
    (isDirectory : disk.root.view location = some .directory) :
    after.root.view location = some .directory := by
  rw [moves.result, ← unlink_keeps_directory (not_directory_of_file isFile) isDirectory]
  exact Node.view_link_apart (not_below_of_directory moves.welcomes_file isDirectory)

theorem HasFile.afterMove (has : disk.HasFile path directory name others)
    (moves : disk.Moves fromDir fromName toDir toName (.file bytes) after)
    (isFile : disk.root.view (fromDir ++ [fromName]) = some (.file bytes))
    (notMoved : fromDir ++ [fromName] ≠ directory ++ [name])
    (notReplaced : toDir ++ [toName] ≠ directory ++ [name]) :
    after.HasFile path directory name others := by
  rw [moves.result]
  exact (has.unlink isFile notMoved).link (fun there => moves.welcomes_file (unlink_within there))
    notReplaced

end Moves

theorem rename_file_invert (renamed : disk.rename temp path = .ok after)
    (names : disk.Names temp.route directory name)
    (isFile : disk.root.view (directory ++ [name]) = some (.file bytes)) :
    ∃ toDir toName, disk.Names path.route toDir toName ∧ path.route.slash = false ∧
      ((directory = toDir ∧ name = toName ∧ after = disk) ∨
        disk.Moves directory name toDir toName (.file bytes) after) := by
  obtain ⟨fromDir, fromName, toDir, toName, moved, fromNames, toNames, held, unslashed, result⟩ :=
    rename_invert renamed
  obtain ⟨rfl, rfl⟩ := names.unique fromNames rfl
  obtain rfl : moved = .file bytes :=
    Option.some.inj (held.symm.trans (Node.view_eq_file_iff.mp isFile))
  exact ⟨toDir, toName, toNames, unslashed rfl, result⟩

/-- A file can be moved to any entry that is no directory. -/
theorem HasFile.exists_rename {toDir : List String} {toName : String}
    (has : disk.HasFile temp directory name bytes)
    (names : disk.Names path.route toDir toName) (unslashed : path.route.slash = false)
    (notDirectory : disk.root.view (toDir ++ [toName]) ≠ some .directory) :
    ∃ after, disk.rename temp path = .ok after := by
  refine Disk.exists_rename has.names names (Node.view_eq_file_iff.mp has.stored)
    (fun _ => ⟨has.unslashed, unslashed⟩)
    (not_below_of_directory (not_directory_of_file has.stored) names.directory_exists)
    (not_below_of_directory notDirectory has.names.directory_exists) ?_
  cases there : disk.root.get? (toDir ++ [toName]) with
  | none => rfl
  | some node =>
      cases node with
      | file others => rfl
      | dir entries => exact absurd (Node.view_eq_directory_iff.mpr ⟨entries, there⟩) notDirectory

theorem rename_installs (renamed : disk.rename temp path = .ok after)
    (names : disk.Names temp.route directory name)
    (isFile : disk.root.view (directory ++ [name]) = some (.file bytes)) :
    ∃ toDir toName, disk.Names path.route toDir toName ∧
      after.HasFile path toDir toName bytes := by
  obtain ⟨toDir, toName, toNames, unslashed, result⟩ := rename_file_invert renamed names isFile
  refine ⟨toDir, toName, toNames, ?_⟩
  rcases result with ⟨rfl, rfl, rfl⟩ | moves
  · exact ⟨toNames, unslashed, isFile⟩
  · refine ⟨toNames.kept (rename_cwd renamed) fun _ => moves.keeps_directory isFile,
      unslashed, ?_⟩
    rw [moves.result]
    exact Node.view_link_below
      (unlink_keeps_directory (not_directory_of_file isFile) toNames.directory_exists) []

theorem readBytes_rename (renamed : disk.rename temp path = .ok after)
    (read : disk.readBytes temp = .ok bytes) : after.readBytes path = .ok bytes := by
  obtain ⟨directory, name, has⟩ := hasFile_of_readBytes read
  obtain ⟨toDir, toName, _, installed⟩ := rename_installs renamed has.names has.stored
  exact installed.readBytes

end Casefile.Disk
