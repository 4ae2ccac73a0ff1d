import Casefile.Proofs.Disk.Walk
import Casefile.Proofs.Text.Runs

namespace Casefile

/-!
The last part of a path, as it is spelled.

A path that ends in a name, with no slash after it, has a backup that is spelled like it up to that
name.  The backup is therefore the path itself, or it does not end in the same name.
-/

namespace Path

variable {path : Path} {before run name extension : List Char}

/-- The spelling of a path ends in some characters that make up one whole part of it. -/
structure EndsIn (path : Path) (before run : List Char) : Prop where
  spelled : path.text.toList = before ++ run
  boundary : before = [] ∨ ∃ above, before = above ++ ['/']
  plain : ∀ c ∈ run, c ≠ '/'
  nonempty : run ≠ []

theorem EndsIn.steps_eq (ends : path.EndsIn before run) :
    path.route.steps = (Text.runs (· = '/') before).map Step.ofPart ++ [Step.ofPart run] := by
  have plain : ∀ c ∈ run, decide (c = '/') = false := by simpa using ends.plain
  have whole : Text.runs (· = '/') path.text.toList = Text.runs (· = '/') before ++ [run] := by
    rw [ends.spelled, Text.runs_append_of_ends, Text.runs_unseparated plain ends.nonempty]
    rcases ends.boundary with rfl | ⟨above, rfl⟩ <;> simp [Text.EndsApart]
  rw [route, whole, List.map_append, List.map_singleton]

theorem EndsIn.getLast?_steps (ends : path.EndsIn before run) :
    path.route.steps.getLast? = some (Step.ofPart run) := by
  rw [ends.steps_eq, List.getLast?_concat]

theorem EndsIn.isAbsolute_eq (ends : path.EndsIn before run) :
    path.isAbsolute = decide (before.head? = some '/') := by
  rw [isAbsolute, ends.spelled]
  cases before with
  | cons c rest => rfl
  | nil =>
      cases run with
      | nil => exact absurd rfl ends.nonempty
      | cons c rest => simp [ends.plain c (List.mem_cons_self ..)]

theorem of_ofPart_eq_down {entry : String} (down : Step.ofPart run = .down entry) :
    run = entry.toList ∧ run ≠ ['.'] ∧ run ≠ ['.', '.'] := by
  unfold Step.ofPart at down
  split at down
  · cases down
  next notDot =>
    split at down
    · cases down
    next notDots => exact ⟨by rw [← Step.down.inj down, String.toList_ofList], notDot, notDots⟩

theorem exists_last_part (cs : List Char) : ∃ before run, cs = before ++ run ∧
    (before = [] ∨ ∃ above, before = above ++ ['/']) ∧ ∀ c ∈ run, c ≠ '/' := by
  induction cs with
  | nil => exact ⟨[], [], rfl, .inl rfl, List.forall_mem_nil _⟩
  | cons c rest ih =>
      obtain ⟨before, run, rfl, rfl | ⟨above, rfl⟩, plain⟩ := ih
      · by_cases slash : c = '/'
        · exact ⟨[c], run, rfl, .inr ⟨[], by simp [slash]⟩, plain⟩
        · exact ⟨[], c :: run, rfl, .inl rfl, List.forall_mem_cons.mpr ⟨slash, plain⟩⟩
      · exact ⟨c :: (above ++ ['/']), run, rfl, .inr ⟨c :: above, rfl⟩, plain⟩

theorem exists_endsIn (nonempty : path.text.toList ≠ []) (unslashed : path.route.slash = false) :
    ∃ before run, path.EndsIn before run := by
  obtain ⟨before, run, spelled, boundary, plain⟩ := exists_last_part path.text.toList
  refine ⟨before, run, spelled, boundary, plain, ?_⟩
  rintro rfl
  rw [List.append_nil] at spelled
  rcases boundary with rfl | ⟨above, rfl⟩
  · exact nonempty spelled
  · simp [route, spelled] at unslashed

/-! The backup of a path that ends in a name. -/

theorem trimEnd_of_name (plain : ∀ c ∈ name, c ≠ '/') (nonempty : name ≠ []) (notDot : name ≠ ['.'])
    (rest : List Char) : trimEnd (name ++ rest) = name ++ rest := by
  cases name with
  | nil => exact absurd rfl nonempty
  | cons first others =>
      obtain ⟨notSlash, plainOthers⟩ := List.forall_mem_cons.mp plain
      cases others with
      | nil =>
          have other : first ≠ '.' := fun same => notDot (by rw [same])
          simp [trimEnd, notSlash, other]
      | cons second others =>
          have later := plainOthers second (List.mem_cons_self ..)
          simp [trimEnd, notSlash, later]

theorem EndsIn.trimEnd_eq (ends : path.EndsIn before run) (notDot : run ≠ ['.']) :
    trimEnd path.text.toList.reverse = run.reverse ++ before.reverse := by
  rw [ends.spelled, List.reverse_append]
  apply trimEnd_of_name
  · simpa using ends.plain
  · simpa using ends.nonempty
  · intro same
    exact notDot (by simpa using congrArg List.reverse same)

theorem EndsIn.splitName_eq (ends : path.EndsIn before run) (notDot : run ≠ ['.'])
    (notDots : run ≠ ['.', '.']) : path.splitName = some (before, run, []) := by
  have last : (run.reverse ++ before.reverse).takeWhile (· ≠ '/') = run.reverse := by
    rw [List.takeWhile_append_of_pos (by simpa using ends.plain)]
    rcases ends.boundary with rfl | ⟨above, rfl⟩ <;> simp
  unfold splitName
  dsimp only
  rw [ends.trimEnd_eq notDot, last, ends.spelled]
  simp [ends.nonempty, notDot, notDots, Nat.add_comm]

theorem mem_splitExtension {c : Char} (member : c ∈ (splitExtension name).1) : c ∈ name := by
  unfold splitExtension at member
  dsimp only at member
  split at member
  · exact member
  · exact List.mem_of_mem_take member

theorem extended_nil (name extension : List Char) :
    extended name [] extension = ['.', '.'] ∨
      extended name [] extension = (splitExtension name).1 ++ '.' :: extension := by
  unfold extended
  split
  · exact .inl rfl
  next stem _ _ split => exact .inr (by rw [split])

theorem EndsIn.backup (ends : path.EndsIn before run) (notDot : run ≠ ['.'])
    (notDots : run ≠ ['.', '.']) :
    path.backup.EndsIn before (extended run [] "bak".toList) where
  spelled := by simp [Path.backup, withExtension, ends.splitName_eq notDot notDots]
  boundary := ends.boundary
  plain := by
    rcases extended_nil run "bak".toList with dots | named
    · rw [dots]
      simp
    · have plainExtension : ∀ c ∈ '.' :: "bak".toList, c ≠ '/' := by simp
      rw [named]
      intro c member
      rcases List.mem_append.mp member with inStem | inExtension
      · exact ends.plain c (mem_splitExtension inStem)
      · exact plainExtension c inExtension
  nonempty := by
    rcases extended_nil run "bak".toList with dots | named
    · rw [dots]
      exact List.cons_ne_nil _ _
    · rw [named]
      exact List.append_ne_nil_of_right_ne_nil _ (List.cons_ne_nil _ _)

theorem endsIn_of_getLast? {entry : String} (unslashed : path.route.slash = false)
    (last : path.route.steps.getLast? = some (.down entry)) :
    ∃ before, path.EndsIn before entry.toList ∧ entry.toList ≠ ['.'] ∧
      entry.toList ≠ ['.', '.'] := by
  have nonempty : path.text.toList ≠ [] := by
    intro empty
    simp [route, empty, Text.runs, Text.pieces] at last
  obtain ⟨before, run, ends⟩ := exists_endsIn nonempty unslashed
  have part : Step.ofPart run = .down entry :=
    Option.some.inj (ends.getLast?_steps.symm.trans last)
  obtain ⟨rfl, notDot, notDots⟩ := of_ofPart_eq_down part
  exact ⟨before, ends, notDot, notDots⟩

/-! Paths that cannot lead to the same entry. -/

/-- The last name of a path, if it ends in one, is not the last name of another. -/
def Apart (path other : Path) : Prop :=
  ∀ entry, path.route.steps.getLast? = some (.down entry) →
    other.route.steps.getLast? ≠ some (.down entry)

theorem Apart.symm {other : Path} (apart : path.Apart other) : other.Apart path :=
  fun entry ends same => apart entry same ends

/-- A path is neither another one nor the backup of that one. -/
structure Beside (temp path : Path) : Prop where
  target : temp.Apart path
  backup : temp.Apart path.backup

theorem apart_backup (unslashed : path.route.slash = false) (different : path.backup ≠ path) :
    path.Apart path.backup := by
  intro entry last backupLast
  obtain ⟨before, ends, notDot, notDots⟩ := endsIn_of_getLast? unslashed last
  have backupEnds := ends.backup notDot notDots
  have part : Step.ofPart (extended entry.toList [] "bak".toList) = .down entry :=
    Option.some.inj (backupEnds.getLast?_steps.symm.trans backupLast)
  have sameText : path.backup.text = path.text := by
    rw [← String.toList_inj, backupEnds.spelled, (of_ofPart_eq_down part).1, ends.spelled]
  exact different (congrArg Path.mk sameText)

end Path

namespace Disk

theorem Names.getLast?_steps {disk : Disk} {route : Route} {directory : List String}
    {name : String} (names : disk.Names route directory name) :
    route.steps.getLast? = some (.down name) := by
  obtain ⟨steps, listed, _⟩ := names.listed
  rw [listed, List.getLast?_concat]

end Disk

theorem Path.Apart.entry_ne {disk after : Disk} {path other : Path}
    {directory otherDir : List String} {name otherName : String} (apart : path.Apart other)
    (names : disk.Names path.route directory name)
    (otherNames : after.Names other.route otherDir otherName) :
    directory ++ [name] ≠ otherDir ++ [otherName] := by
  intro same
  obtain ⟨_, sameName⟩ := List.append_inj' same rfl
  obtain rfl : name = otherName := List.singleton_inj.mp sameName
  exact apart name names.getLast?_steps otherNames.getLast?_steps

end Casefile
