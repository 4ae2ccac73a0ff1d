import Casefile.Proofs.Disk.Siblings

namespace Casefile

/-!
What operations leave alone, everywhere on a disk.

A file that is written or removed changes what is at one location.  A move changes what is at two,
and below them.  Making directories adds some on the way to the last of them.
-/

theorem Node.view_below_of_not_directory {root : Node} {location : List String}
    (notDirectory : root.view location ≠ some .directory) (name : String) (rest : List String) :
    root.view (location ++ name :: rest) = none := by
  cases present : root.view (location ++ name :: rest) with
  | none => rfl
  | some found => exact absurd (view_above present) notDirectory

namespace Disk

variable {before disk after : Disk} {path temp source destination : Path} {bytes : ByteArray}
  {location directory reached fromDir toDir : List String} {name fromName toName : String}
  {route : Route} {moved : Node}

/-! Files that are written or removed. -/

theorem view_link_file (isDirectory : disk.root.view directory = some .directory)
    (notDirectory : disk.root.view (directory ++ [name]) ≠ some .directory)
    (different : location ≠ directory ++ [name]) :
    (disk.link directory name (.file bytes)).root.view location = disk.root.view location := by
  by_cases below : directory ++ [name] <+: location
  · obtain ⟨rest, rfl⟩ := below
    cases rest with
    | nil => exact absurd (List.append_nil _) different
    | cons first rest =>
        rw [Node.view_below_of_not_directory notDirectory, List.append_assoc,
          List.singleton_append]
        exact Node.view_link_below isDirectory (first :: rest)
  · exact Node.view_link_apart below

theorem view_unlink_file
    (notDirectory : disk.root.view (directory ++ [name]) ≠ some .directory)
    (different : location ≠ directory ++ [name]) :
    (disk.unlink directory name).root.view location = disk.root.view location := by
  by_cases below : directory ++ [name] <+: location
  · obtain ⟨rest, rfl⟩ := below
    cases rest with
    | nil => exact absurd (List.append_nil _) different
    | cons first rest =>
        rw [Node.view_below_of_not_directory notDirectory, List.append_assoc,
          List.singleton_append]
        exact Node.view_unlink_below (first :: rest)
  · exact Node.view_unlink_apart below

/-- A file can be removed. -/
theorem HasFile.removeFile (has : disk.HasFile path directory name bytes) :
    disk.removeFile path = .ok (disk.unlink directory name) := by
  have held : disk.entry directory name = .ok (some (.file bytes)) :=
    entry_ok_iff.mpr ⟨has.names.short, Node.view_eq_file_iff.mp has.stored⟩
  simp [Disk.removeFile, has.names.targeted, held, has.unslashed]

/-! Nodes that are moved. -/

/-- A node has gone from one location to another, and nothing else has changed. -/
structure Carried (before after : Disk) (source destination : List String) : Prop where
  sameStart : after.cwd = before.cwd
  arrived : ∀ rest, after.root.view (destination ++ rest) = before.root.view (source ++ rest)
  gone : ∀ rest, after.root.view (source ++ rest) = none
  others : ∀ location, ¬ source <+: location → ¬ destination <+: location →
    after.root.view location = before.root.view location

theorem Moves.carried (moves : disk.Moves fromDir fromName toDir toName moved after)
    (held : disk.root.get? (fromDir ++ [fromName]) = some moved)
    (isDirectory : disk.root.view toDir = some .directory) :
    disk.Carried after (fromDir ++ [fromName]) (toDir ++ [toName]) := by
  have apart : ∀ rest, ¬ toDir ++ [toName] <+: fromDir ++ [fromName] ++ rest := by
    intro rest below
    rcases List.prefix_or_prefix_of_prefix below (List.prefix_append _ rest) with above | inside
    · rcases List.prefix_concat_iff.mp above with same | above
      · exact moves.distinct same.symm
      · exact moves.notAbove above
    · rcases List.prefix_concat_iff.mp inside with same | inside
      · exact moves.distinct same
      · exact moves.notInside inside
  have stays : (disk.unlink fromDir fromName).root.view toDir = some .directory := by
    rw [← isDirectory]
    exact Node.view_unlink_apart moves.notInside
  rw [moves.result]
  refine ⟨rfl, fun rest => ?_, fun rest => ?_, fun location notSource notDestination => ?_⟩
  · have source : disk.root.view (fromDir ++ [fromName] ++ rest) = moved.view rest := by
      rw [Node.view_append, held]
      rfl
    rw [source, List.append_assoc]
    exact Node.view_link_below stays rest
  · refine (Node.view_link_apart (apart rest)).trans ?_
    rw [List.append_assoc]
    exact Node.view_unlink_below rest
  · exact (Node.view_link_apart notDestination).trans (Node.view_unlink_apart notSource)

theorem Moves.view_of_file (moves : disk.Moves fromDir fromName toDir toName (.file bytes) after)
    (isFile : disk.root.view (fromDir ++ [fromName]) = some (.file bytes))
    (isDirectory : disk.root.view toDir = some .directory)
    (notSource : location ≠ fromDir ++ [fromName])
    (notDestination : location ≠ toDir ++ [toName]) :
    after.root.view location = disk.root.view location := by
  have notDirectory := not_directory_of_file isFile
  have stays := unlink_keeps_directory notDirectory isDirectory
  have welcome : (disk.unlink fromDir fromName).root.view (toDir ++ [toName]) ≠ some .directory :=
    fun there => moves.welcomes_file (unlink_within there)
  rw [moves.result, view_link_file stays welcome notDestination,
    view_unlink_file notDirectory notSource]

/-! Directories that are made. -/

/-- What is at a location is what was there, or a directory that was made on the way to another. -/
def Keeps (before after : Disk) (reached location : List String) : Prop :=
  after.root.view location = before.root.view location ∨
    before.root.view location = none ∧ after.root.view location = some .directory ∧
      location <+: reached

/-- Nothing has changed but that directories were made on the way to a location. -/
structure Grown (before after : Disk) (reached : List String) : Prop where
  sameStart : after.cwd = before.cwd
  keeps : ∀ location, before.Keeps after reached location

theorem Keeps.congr (keeps : before.Keeps disk reached location)
    (same : after.root.view location = disk.root.view location) :
    before.Keeps after reached location := by
  rwa [Keeps, same]

theorem Keeps.absent (keeps : before.Keeps after reached location)
    (absent : after.root.view location = none) : before.root.view location = none := by
  rcases keeps with same | ⟨fresh, _⟩
  · exact same.symm.trans absent
  · exact fresh

theorem Keeps.trans (first : before.Keeps disk reached location)
    (second : disk.Keeps after reached location) : before.Keeps after reached location := by
  rcases second with same | ⟨fresh, made, above⟩
  · exact first.congr same
  · exact .inr ⟨first.absent fresh, made, above⟩

theorem Grown.refl (disk : Disk) (reached : List String) : disk.Grown disk reached :=
  ⟨rfl, fun _ => .inl rfl⟩

theorem Grown.trans (first : before.Grown disk reached) (second : disk.Grown after reached) :
    before.Grown after reached :=
  ⟨second.sameStart.trans first.sameStart,
    fun location => (first.keeps location).trans (second.keeps location)⟩

theorem grown_of_makeDir (made : disk.makeDir route = .ok after)
    (onTheWay : route.location disk.cwd <+: reached) : disk.Grown after reached := by
  obtain ⟨directory, name, names, absent, rfl⟩ := makeDir_invert made
  rw [names.location_eq] at onTheWay
  refine ⟨rfl, fun location => ?_⟩
  by_cases below : directory ++ [name] <+: location
  · obtain ⟨rest, rfl⟩ := below
    have arrived : (disk.link directory name (.dir [])).root.view (directory ++ [name] ++ rest) =
        (Node.dir []).view rest := by
      rw [List.append_assoc]
      exact Node.view_link_below names.directory_exists rest
    cases rest with
    | nil =>
        rw [List.append_nil] at arrived ⊢
        exact .inr ⟨absent, arrived, onTheWay⟩
    | cons first rest =>
        have notDirectory : disk.root.view (directory ++ [name]) ≠ some .directory := by
          rw [absent]
          exact nofun
        left
        rw [arrived, Node.view_below_of_not_directory notDirectory]
        rfl
  · exact .inl (Node.view_link_apart below)

theorem grown_of_makeDirs (downward : Step.up ∉ route.steps) :
    disk.Grown (disk.makeDirs route).2 (route.location disk.cwd) := by
  refine makeDirsAt_preserves (disk.Grown · (route.location disk.cwd)) _ _ (Grown.refl _ _)
    fun {made after above} suffix grown another => ?_
  refine grown.trans (grown_of_makeDir another ?_)
  obtain ⟨rest, listed⟩ := List.reverse_prefix.mpr suffix
  rw [List.reverse_reverse] at listed
  rw [Route.location_eq, Route.location_eq, grown.sameStart, ← listed, List.foldl_append]
  exact foldl_from_downward (fun member => downward (listed ▸ List.mem_append_right _ member)) _

end Disk

end Casefile
