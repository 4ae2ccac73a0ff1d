import Casefile.Proofs.Disk.Spelling

namespace Casefile

/-!
The temporary file of a replacement bears a name that nothing near it bears.
-/

namespace PlainName

variable {name : String}

theorem relative (plain : PlainName name) : (Path.mk name).isAbsolute = false := by
  refine decide_eq_false fun slash => plain.unslashed ?_
  exact List.mem_of_head? slash

theorem apart (plain : PlainName name) : ∀ c ∈ name.toList, c ≠ '/' := fun _ member slash =>
  plain.unslashed (slash ▸ member)

theorem toList_ne_nil (plain : PlainName name) : name.toList ≠ [] := by
  simpa using plain.nonempty

theorem steps (plain : PlainName name) :
    (Text.runs (· = '/') name.toList).map Step.ofPart = [.down name] := by
  have apart : ∀ c ∈ name.toList, decide (c = '/') = false := by simpa using plain.apart
  rw [Text.runs_unseparated apart plain.toList_ne_nil, List.map_singleton, plain.ofPart]

theorem join_endsIn (plain : PlainName name) (base : Path) :
    ∃ before, (base.join ⟨name⟩).EndsIn before name.toList ∧
      (before = base.text.toList ∨ base.text.toList ≠ [] ∧ before = base.text.toList ++ ['/']) := by
  have endsIn : ∀ before, (base.join ⟨name⟩).text.toList = before ++ name.toList →
      (before = [] ∨ ∃ above, before = above ++ ['/']) →
      (base.join ⟨name⟩).EndsIn before name.toList := fun _ spelled boundary =>
    ⟨spelled, boundary, plain.apart, plain.toList_ne_nil⟩
  by_cases empty : base.text = ""
  · exact ⟨[], endsIn _ (by simp [Path.join, plain.relative, empty]) (.inl rfl),
      .inl (by simp [empty])⟩
  · by_cases slash : base.text.toList.getLast? = some '/'
    · obtain ⟨above, spelled⟩ := List.getLast?_eq_some_iff.mp slash
      exact ⟨above ++ ['/'],
        endsIn _ (by simp [Path.join, plain.relative, spelled]) (.inr ⟨above, rfl⟩),
        .inl spelled.symm⟩
    · exact ⟨base.text.toList ++ ['/'],
        endsIn _ (by simp [Path.join, plain.relative, empty, slash]) (.inr ⟨_, rfl⟩),
        .inr ⟨by simpa using empty, rfl⟩⟩

/-- A name that is put at the end of a path is one more step of the way. -/
theorem route_join (plain : PlainName name) (base : Path) :
    (base.join ⟨name⟩).route.absolute = base.route.absolute ∧
    (base.join ⟨name⟩).route.steps = base.route.steps ++ [.down name] ∧
    ((base.join ⟨name⟩).route.overlong = false → base.route.overlong = false) := by
  obtain ⟨before, ends, spelled⟩ := plain.join_endsIn base
  refine ⟨?_, ?_, fun inRange => ?_⟩
  · rw [Path.route, ends.isAbsolute_eq]
    rcases spelled with rfl | ⟨more, rfl⟩
    · rfl
    · cases cs : base.text.toList with
      | nil => exact absurd cs more
      | cons c rest => simp [Path.route, Path.isAbsolute, cs]
  · have closed := @Text.runs_append (· = '/') '/' (by decide) base.text.toList []
    have cut : Text.runs (· = '/') before = Text.runs (· = '/') base.text.toList := by
      rcases spelled with rfl | ⟨_, rfl⟩
      · rfl
      · rw [closed]
        simp [Text.runs, Text.pieces]
    rw [ends.steps_eq, cut, plain.ofPart]
    rfl
  · have longer : ∃ rest, (base.join ⟨name⟩).text = base.text ++ rest := by
      rcases spelled with rfl | ⟨_, rfl⟩
      · exact ⟨name, by rw [← String.toList_inj, ends.spelled, String.toList_append]⟩
      · exact ⟨"/" ++ name, by rw [← String.toList_inj, ends.spelled]; simp⟩
    obtain ⟨rest, spelled⟩ := longer
    simp only [Path.route, spelled, String.utf8ByteSize_append, decide_eq_false_iff_not]
      at inRange ⊢
    omega

end PlainName

theorem Route.mem_names_of_getLast? {route : Route} {name : String}
    (last : route.steps.getLast? = some (.down name)) : name ∈ route.names :=
  List.mem_filterMap.mpr ⟨.down name, List.mem_of_getLast? last, rfl⟩

namespace Disk

variable {disk : Disk} {path : Path} {name : String}

/-- A name under which the temporary path leads on from the parent, and that is not in use near. -/
structure TempNamed (disk : Disk) (path : Path) (name : String) : Prop where
  absolute : (disk.tempPath path).route.absolute = path.parent.route.absolute
  steps : (disk.tempPath path).route.steps = path.parent.route.steps ++ [.down name]
  inRange : (disk.tempPath path).route.overlong = false → path.parent.route.overlong = false
  notListed : name ∉ disk.namesIn path.parent.route
  notTarget : name ∉ path.route.names
  notBackup : name ∉ path.backup.route.names

theorem exists_tempNamed (disk : Disk) (path : Path) : ∃ name, disk.TempNamed path name := by
  let near := disk.namesNear path
  obtain ⟨absolute, steps, inRange⟩ := (disk.tempNames.plain near).route_join path.parent
  have unused := disk.tempNames.unused near
  simp only [near, namesNear, List.mem_append, not_or] at unused
  exact ⟨_, absolute, steps, inRange, unused.1.1, unused.1.2, unused.2⟩

theorem TempNamed.getLast?_steps (named : disk.TempNamed path name) :
    (disk.tempPath path).route.steps.getLast? = some (.down name) := by
  rw [named.steps, List.getLast?_concat]

theorem tempPath_beside (disk : Disk) (path : Path) : (disk.tempPath path).Beside path := by
  obtain ⟨name, named⟩ := disk.exists_tempNamed path
  have only : ∀ entry, (disk.tempPath path).route.steps.getLast? = some (.down entry) →
      entry = name := fun entry last => by simpa [named.getLast?_steps] using last.symm
  refine ⟨fun entry tempLast same => named.notTarget ?_,
    fun entry tempLast same => named.notBackup ?_⟩
  · exact only entry tempLast ▸ Route.mem_names_of_getLast? same
  · exact only entry tempLast ▸ Route.mem_names_of_getLast? same

theorem not_mem_backup_of_names {other : Disk} {directory : List String}
    (names : other.Names (disk.tempPath path).route directory name) :
    name ∉ path.backup.route.names := by
  obtain ⟨fresh, named⟩ := disk.exists_tempNamed path
  obtain rfl : name = fresh := by simpa [named.getLast?_steps] using names.getLast?_steps.symm
  exact named.notBackup

end Disk

end Casefile
