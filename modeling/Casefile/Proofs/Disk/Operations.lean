import Casefile.Proofs.Disk.Walk

namespace Casefile.Disk

variable {disk after : Disk} {route : Route} {path source destination : Path}
  {location directory : List String} {name : String} {bytes : ByteArray} {found moved : Node}

/-!
What the operations on a disk come to, in terms of the entries that their routes name.

An operation that succeeds is inverted once: which entry it was about, what was there, and which
change of the tree it made.  What readers find afterwards follows from the change alone.
-/

theorem locate_iff : disk.locate route = .ok location ↔
    route.overlong = false ∧ (route.steps = [] → route.absolute = true) ∧
      walk disk.root (disk.start route) (route.steps ++ if route.slash then [.stay] else []) =
        .ok location := by
  cases long : route.overlong <;> cases absolute : route.absolute <;> simp [locate, long, absolute]
  cases route.steps <;> simp

theorem node_iff : disk.node route = .ok found ↔
    ∃ location, disk.locate route = .ok location ∧ disk.root.get? location = some found := by
  cases located : disk.locate route with
  | error reason => simp [node, located]
  | ok location => cases held : disk.root.get? location <;> simp [node, located, held]

theorem pathExists_iff : disk.pathExists path = true ↔
    ∃ found, disk.node path.route = .ok found := by
  cases reached : disk.node path.route <;> simp [pathExists, reached]

theorem pathExists_of_readBytes (read : disk.readBytes path = .ok bytes) :
    disk.pathExists path = true := by
  cases reached : disk.node path.route with
  | error reason => simp [readBytes, reached] at read
  | ok found => exact pathExists_iff.mpr ⟨found, reached⟩

theorem walk_entry_iff {root : Node} (isDirectory : root.view directory = some .directory)
    (short : name.utf8ByteSize ≤ maxNameBytes) (slash : Bool) :
    walk root directory (.down name :: if slash then [.stay] else []) = .ok location ↔
      location = directory ++ [name] ∧ root.view location ≠ none ∧
        (slash = true → root.view location = some .directory) := by
  rw [walk_cons_iff]
  cases slash with
  | false =>
      rw [if_neg Bool.false_ne_true, walk_nil_iff]
      constructor
      · rintro ⟨_, ⟨_, present⟩, rfl⟩
        exact ⟨rfl, present, nofun⟩
      · rintro ⟨rfl, present, _⟩
        exact ⟨isDirectory, ⟨short, present⟩, rfl⟩
  | true =>
      rw [if_pos rfl, walk_cons_iff, walk_nil_iff]
      constructor
      · rintro ⟨_, ⟨_, present⟩, there, _, rfl⟩
        exact ⟨rfl, present, fun _ => there⟩
      · rintro ⟨rfl, present, there⟩
        exact ⟨isDirectory, ⟨short, present⟩, there rfl, trivial, rfl⟩

theorem Names.node_iff (names : disk.Names route directory name) :
    disk.node route = .ok found ↔
      disk.root.get? (directory ++ [name]) = some found ∧
        (route.slash = true → found.isDir = true) := by
  obtain ⟨steps, listed, inRange, walked, isDirectory⟩ := names.listed
  have located : ∀ location, disk.locate route = .ok location ↔
      location = directory ++ [name] ∧ disk.root.view location ≠ none ∧
        (route.slash = true → disk.root.view location = some .directory) := by
    intro location
    rw [locate_iff, listed, List.append_assoc, walk_append_iff,
      ← walk_entry_iff isDirectory names.short]
    constructor
    · rintro ⟨_, _, middle, first, onward⟩
      cases walk_unique walked first
      exact onward
    · intro onward
      exact ⟨inRange, by simp, directory, walked, onward⟩
  rw [Disk.node_iff]
  constructor
  · rintro ⟨location, reached, held⟩
    obtain ⟨rfl, _, slashed⟩ := (located location).mp reached
    refine ⟨held, fun slash => ?_⟩
    obtain ⟨entries, isDirectory⟩ := Node.view_eq_directory_iff.mp (slashed slash)
    cases held.symm.trans isDirectory
    rfl
  · rintro ⟨held, slashed⟩
    refine ⟨directory ++ [name], (located _).mpr ⟨rfl, ?_, fun slash => ?_⟩, held⟩
    · rw [ne_eq, Node.view_eq_none_iff, held]
      exact Option.some_ne_none _
    · cases found with
      | file bytes => cases slashed slash
      | dir entries => exact Node.view_eq_directory_iff.mpr ⟨entries, held⟩

/-- A path under which there is something leads to the entry that it names on another disk. -/
theorem Names.of_pathExists {other : Disk} (names : other.Names path.route directory name)
    (sameStart : disk.cwd = other.cwd) (there : disk.pathExists path = true) :
    disk.Names path.route directory name := by
  obtain ⟨steps, listed, inRange, walked, _⟩ := names.listed
  obtain ⟨found, reached⟩ := pathExists_iff.mp there
  obtain ⟨location, located, _⟩ := Disk.node_iff.mp reached
  obtain ⟨_, _, whole⟩ := locate_iff.mp located
  rw [listed, List.append_assoc, walk_append_iff] at whole
  obtain ⟨middle, first, onward⟩ := whole
  obtain ⟨isDirectory, _⟩ := walk_cons_iff.mp onward
  have start : disk.start path.route = other.start path.route := by simp [start, sameStart]
  have same : middle = directory := walk_unique walked (start ▸ first)
  subst middle
  exact ⟨(target_concat_iff listed).mpr ⟨inRange, directory, first, isDirectory, rfl⟩,
    names.short⟩

/-! Operations that succeed. -/

theorem entry_ok_iff {held : Option Node} : disk.entry directory name = .ok held ↔
    name.utf8ByteSize ≤ maxNameBytes ∧ disk.root.get? (directory ++ [name]) = held := by
  by_cases long : maxNameBytes < name.utf8ByteSize
  · simp [entry, long, Nat.not_le.mpr long]
  · simp [entry, long, Nat.not_lt.mp long]

theorem makeDir_invert (made : disk.makeDir route = .ok after) :
    ∃ directory name, disk.Names route directory name ∧
      disk.root.view (directory ++ [name]) = none ∧
      after = disk.link directory name (.dir []) := by
  cases targeted : disk.target route with
  | error reason => simp [makeDir, targeted] at made
  | ok target =>
      cases target with
      | dots here => simp [makeDir, targeted] at made
      | entry directory name =>
          cases entered : disk.entry directory name with
          | error reason => simp [makeDir, targeted, entered] at made
          | ok held =>
              cases held with
              | some child => simp [makeDir, targeted, entered] at made
              | none =>
                  obtain ⟨short, absent⟩ := entry_ok_iff.mp entered
                  simp only [makeDir, targeted, entered, Except.ok.injEq] at made
                  exact ⟨directory, name, ⟨targeted, short⟩, Node.view_eq_none_iff.mpr absent,
                    made.symm⟩

/-- What every making of a directory on the way preserves holds after all of them. -/
theorem makeDirsAt_preserves (holds : Disk → Prop) (absolute overlong : Bool)
    {steps : List Step} (begun : holds disk)
    (preserved : ∀ {disk after : Disk} {above : List Step}, above <:+ steps → holds disk →
      disk.makeDir ⟨absolute, above.reverse, false, overlong⟩ = .ok after → holds after) :
    holds (disk.makeDirsAt absolute overlong steps).2 := by
  induction steps with
  | nil => exact begun
  | cons step above ih =>
      have whole := List.suffix_refl (step :: above)
      have higher := ih fun suffix => preserved (suffix.trans (List.suffix_cons _ _))
      cases first : disk.makeDir ⟨absolute, (step :: above).reverse, false, overlong⟩ with
      | ok made => simpa only [makeDirsAt, first] using preserved whole begun first
      | error reason =>
          by_cases missing : reason = .notFound
          -- The directories above are made first, and this one is tried again.
          · subst missing
            generalize made : disk.makeDirsAt absolute overlong above = result at higher
            obtain ⟨outcome, middle⟩ := result
            cases outcome with
            | error reason => simpa only [makeDirsAt, first, made] using higher
            | ok =>
                cases again :
                  middle.makeDir ⟨absolute, (step :: above).reverse, false, overlong⟩ with
                | ok last =>
                    simpa only [makeDirsAt, first, made, again] using preserved whole higher again
                | error reason =>
                    simp only [makeDirsAt, first, made, again]
                    split <;> exact higher
          · simp only [makeDirsAt, first]
            split <;> exact begun

theorem writeFile_invert (written : disk.writeFile path bytes = .ok after) :
    ∃ directory name, disk.Names path.route directory name ∧ path.route.slash = false ∧
      disk.root.view (directory ++ [name]) ≠ some .directory ∧
      after = disk.link directory name (.file bytes) := by
  cases targeted : disk.target path.route with
  | error reason => simp [writeFile, targeted] at written
  | ok target =>
      cases target with
      | dots here => simp [writeFile, targeted] at written
      | entry directory name =>
          cases entered : disk.entry directory name with
          | error reason => simp [writeFile, targeted, entered] at written
          | ok held =>
              obtain ⟨short, there⟩ := entry_ok_iff.mp entered
              refine ⟨directory, name, ⟨targeted, short⟩, ?_⟩
              rcases held with _ | (_ | _) <;> cases slash : path.route.slash <;>
                simp [writeFile, targeted, entered, slash] at written
              all_goals exact ⟨rfl, by simp [Node.view, Node.kind, there], written.symm⟩

theorem removeFile_invert (removed : disk.removeFile path = .ok after) :
    ∃ directory name bytes, disk.Names path.route directory name ∧
      disk.root.view (directory ++ [name]) = some (.file bytes) ∧
      after = disk.unlink directory name := by
  cases targeted : disk.target path.route with
  | error reason => simp [removeFile, targeted] at removed
  | ok target =>
      cases target with
      | dots here => simp [removeFile, targeted] at removed
      | entry directory name =>
          cases entered : disk.entry directory name with
          | error reason => simp [removeFile, targeted, entered] at removed
          | ok held =>
              obtain ⟨short, there⟩ := entry_ok_iff.mp entered
              rcases held with _ | (bytes | entries)
              · simp [removeFile, targeted, entered] at removed
              · cases slash : path.route.slash <;>
                  simp [removeFile, targeted, entered, slash] at removed
                exact ⟨directory, name, bytes, ⟨targeted, short⟩,
                  Node.view_eq_file_iff.mpr there, removed.symm⟩
              · simp [removeFile, targeted, entered] at removed

/-- A node goes from one entry to another, which does not lie on the way to it nor below it. -/
structure Moves (disk : Disk) (fromDir : List String) (fromName : String) (toDir : List String)
    (toName : String) (moved : Node) (after : Disk) : Prop where
  distinct : fromDir ++ [fromName] ≠ toDir ++ [toName]
  notInside : ¬ fromDir ++ [fromName] <+: toDir
  notAbove : ¬ toDir ++ [toName] <+: fromDir
  welcome : moveRefusal moved (disk.root.get? (toDir ++ [toName])) = none
  result : after = (disk.unlink fromDir fromName).link toDir toName moved

theorem entries_of_rename (renamed : disk.rename source destination = .ok after) :
    ∃ fromDir fromName toDir toName,
      disk.target source.route = .ok (.entry fromDir fromName) ∧
      disk.target destination.route = .ok (.entry toDir toName) := by
  cases left : disk.target source.route with
  | error reason => simp [rename, left] at renamed
  | ok here =>
      cases right : disk.target destination.route with
      | error reason => simp [rename, left, right] at renamed
      | ok there =>
          cases here with
          | dots here => simp [rename, left, right] at renamed
          | entry fromDir fromName =>
              cases there with
              | dots here => simp [rename, left, right] at renamed
              | entry toDir toName => exact ⟨fromDir, fromName, toDir, toName, rfl, rfl⟩

theorem moves_of_rename {fromDir toDir : List String} {fromName toName : String}
    {replaced : Option Node} (left : disk.target source.route = .ok (.entry fromDir fromName))
    (right : disk.target destination.route = .ok (.entry toDir toName))
    (fromHeld : disk.entry fromDir fromName = .ok (some moved))
    (toHeld : disk.entry toDir toName = .ok replaced)
    (renamed : disk.rename source destination = .ok after) :
    (moved.isDir = false → destination.route.slash = false) ∧
      ((fromDir = toDir ∧ fromName = toName ∧ after = disk) ∨
        disk.Moves fromDir fromName toDir toName moved after) := by
  simp only [rename, left, right, fromHeld, toHeld] at renamed
  split at renamed
  · cases renamed
  next unslashed =>
    refine ⟨fun file => ?_, ?_⟩
    · simp only [file, Bool.not_false, Bool.true_and, Bool.or_eq_true, not_or,
        Bool.not_eq_true] at unslashed
      exact unslashed.2
    · split at renamed
      next same => exact .inl ⟨same.1, same.2, (Except.ok.inj renamed).symm⟩
      next different =>
        split at renamed
        · cases renamed
        next notInside =>
          split at renamed
          · cases renamed
          next notAbove =>
            split at renamed
            · cases renamed
            next welcome =>
              refine .inr ⟨fun same => different ?_, ?_, ?_, ?_, (Except.ok.inj renamed).symm⟩
              · obtain ⟨sameDir, sameName⟩ := List.append_inj' same rfl
                exact ⟨sameDir, by simpa using sameName⟩
              · simpa using notInside
              · simpa using notAbove
              · rw [(entry_ok_iff.mp toHeld).2]
                exact welcome

theorem rename_invert (renamed : disk.rename source destination = .ok after) :
    ∃ fromDir fromName toDir toName moved,
      disk.Names source.route fromDir fromName ∧ disk.Names destination.route toDir toName ∧
      disk.root.get? (fromDir ++ [fromName]) = some moved ∧
      (moved.isDir = false → destination.route.slash = false) ∧
      ((fromDir = toDir ∧ fromName = toName ∧ after = disk) ∨
        disk.Moves fromDir fromName toDir toName moved after) := by
  obtain ⟨fromDir, fromName, toDir, toName, left, right⟩ := entries_of_rename renamed
  cases fromHeld : disk.entry fromDir fromName with
  | error reason => simp [rename, left, right, fromHeld] at renamed
  | ok held =>
      cases held with
      | none => simp [rename, left, right, fromHeld] at renamed
      | some moved =>
          cases toHeld : disk.entry toDir toName with
          | error reason => simp [rename, left, right, fromHeld, toHeld] at renamed
          | ok replaced =>
              obtain ⟨fromShort, present⟩ := entry_ok_iff.mp fromHeld
              exact ⟨fromDir, fromName, toDir, toName, moved, ⟨left, fromShort⟩,
                ⟨right, (entry_ok_iff.mp toHeld).1⟩, present,
                moves_of_rename left right fromHeld toHeld renamed⟩

/-- Nothing refuses a move to a place that welcomes the node and does not lie on its way. -/
theorem exists_rename {fromDir toDir : List String} {fromName toName : String}
    (names : disk.Names source.route fromDir fromName)
    (others : disk.Names destination.route toDir toName)
    (held : disk.root.get? (fromDir ++ [fromName]) = some moved)
    (unslashed : moved.isDir = false →
      source.route.slash = false ∧ destination.route.slash = false)
    (notInside : ¬ fromDir ++ [fromName] <+: toDir) (notAbove : ¬ toDir ++ [toName] <+: fromDir)
    (welcome : moveRefusal moved (disk.root.get? (toDir ++ [toName])) = none) :
    ∃ after, disk.rename source destination = .ok after := by
  have fromHeld : disk.entry fromDir fromName = .ok (some moved) :=
    entry_ok_iff.mpr ⟨names.short, held⟩
  have toHeld : disk.entry toDir toName = .ok (disk.root.get? (toDir ++ [toName])) :=
    entry_ok_iff.mpr ⟨others.short, rfl⟩
  have plain : (!moved.isDir && (source.route.slash || destination.route.slash)) = false := by
    cases kind : moved.isDir with
    | true => rfl
    | false => simp [unslashed kind]
  simp only [rename, names.targeted, others.targeted, fromHeld, toHeld, plain, welcome,
    List.isPrefixOf_iff_prefix, notInside, notAbove, Bool.false_eq_true, if_false]
  split <;> exact ⟨_, rfl⟩

@[grind →] theorem rename_cwd (renamed : disk.rename source destination = .ok after) :
    after.cwd = disk.cwd := by
  obtain ⟨_, _, _, _, _, _, _, _, _, result⟩ := rename_invert renamed
  rcases result with ⟨_, _, rfl⟩ | moves
  · rfl
  · simp [moves.result]

end Casefile.Disk
