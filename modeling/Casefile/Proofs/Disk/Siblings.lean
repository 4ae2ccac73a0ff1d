import Casefile.Disk.Change
import Casefile.Proofs.Disk.Files
import Casefile.Proofs.Disk.TempName
import Mathlib.Data.List.Basic

namespace Casefile

/-!
What lies beside a file.

The backup of a path and its temporary file are entries of the directory that the path names, which
is also where the parent of the path leads.
-/

namespace Path

variable {path : Path} {before run : List Char}

theorem trimEnd_suffix (cs : List Char) : trimEnd cs <:+ cs := by
  fun_induction trimEnd cs with
  | case1 rest ih => exact ih.trans (List.suffix_cons _ _)
  | case2 rest ih => exact (ih.trans (List.suffix_cons _ _)).trans (List.suffix_cons _ _)
  | case3 cs => exact List.suffix_refl _

/-- What is trimmed off the end of a path has no parts but lone dots. -/
theorem runs_trimEnd (cs : List Char) : ∃ dots, Text.runs (· = '/') cs.reverse =
    Text.runs (· = '/') (trimEnd cs).reverse ++ List.replicate dots ['.'] := by
  have slash : decide ('/' = '/') = true := by decide
  fun_induction trimEnd cs with
  | case1 rest ih =>
      obtain ⟨dots, cut⟩ := ih
      have closed := @Text.runs_append (· = '/') '/' slash rest.reverse []
      exact ⟨dots, by rw [List.reverse_cons, closed, cut]; simp [Text.runs, Text.pieces]⟩
  | case2 rest ih =>
      obtain ⟨dots, cut⟩ := ih
      have closed := @Text.runs_append (· = '/') '/' slash rest.reverse ['.']
      refine ⟨dots + 1, ?_⟩
      rw [List.reverse_cons, List.reverse_cons, List.append_assoc, List.singleton_append, closed,
        cut, List.replicate_succ', List.append_assoc]
      rfl
  | case3 cs => exact ⟨0, by simp⟩

theorem trimEnd_unslashed (cs : List Char) : (trimEnd cs).head? ≠ some '/' := by
  fun_induction trimEnd cs with
  | case1 rest ih => exact ih
  | case2 rest ih => exact ih
  | case3 cs notSlash _ =>
      intro slash
      obtain ⟨rest, rfl⟩ := List.head?_eq_some_iff.mp slash
      exact notSlash rest rfl

theorem EndsIn.parent_cases (ends : path.EndsIn before run) (notDot : run ≠ ['.']) :
    (trimEnd before.reverse = [] ∧ path.parent = if path.isAbsolute then ⟨"/"⟩ else ⟨"."⟩) ∨
      (trimEnd before.reverse ≠ [] ∧
        path.parent = ⟨String.ofList (trimEnd before.reverse).reverse⟩) := by
  have rest : (run.reverse ++ before.reverse).dropWhile (· ≠ '/') = before.reverse := by
    rw [List.dropWhile_append_of_pos (by simpa using ends.plain)]
    rcases ends.boundary with rfl | ⟨above, rfl⟩ <;> simp
  rw [parent, ends.trimEnd_eq notDot, rest]
  cases trimEnd before.reverse with
  | nil => exact .inl ⟨rfl, rfl⟩
  | cons c above => exact .inr ⟨List.cons_ne_nil _ _, rfl⟩

theorem EndsIn.parent_goings (ends : path.EndsIn before run) (notDot : run ≠ ['.']) :
    path.parent.route.steps.filter (· ≠ .stay) =
      ((Text.runs (· = '/') before).map Step.ofPart).filter (· ≠ .stay) := by
  obtain ⟨dots, cut⟩ := runs_trimEnd before.reverse
  have stays : ((List.replicate dots ['.']).map Step.ofPart).filter (· ≠ .stay) = [] := by
    simp [Step.ofPart]
  rw [List.reverse_reverse] at cut
  rw [cut, List.map_append, List.filter_append, stays, List.append_nil]
  rcases ends.parent_cases notDot with ⟨trimmed, parent⟩ | ⟨_, parent⟩
  · rw [parent, trimmed]
    split <;> decide +kernel
  · simp [parent, route]

theorem EndsIn.parent_isAbsolute (ends : path.EndsIn before run) (notDot : run ≠ ['.']) :
    path.parent.isAbsolute = path.isAbsolute := by
  rcases ends.parent_cases notDot with ⟨_, parent⟩ | ⟨more, parent⟩
  · rw [parent]
    cases path.isAbsolute <;> decide
  · obtain ⟨dropped, spelled⟩ := trimEnd_suffix before.reverse
    have same : before = (trimEnd before.reverse).reverse ++ dropped.reverse := by
      rw [← List.reverse_append, spelled, List.reverse_reverse]
    have head : before.head? = (trimEnd before.reverse).reverse.head? := by
      obtain ⟨c, rest, above⟩ := List.exists_cons_of_ne_nil (List.reverse_ne_nil_iff.mpr more)
      have first := congrArg List.head? same
      simpa [above] using first
    rw [ends.isAbsolute_eq, head, isAbsolute, parent, String.toList_ofList]

theorem EndsIn.parent_rooted (ends : path.EndsIn before run) (notDot : run ≠ ['.'])
    (still : path.parent.route.steps = []) : path.parent.route.absolute = true := by
  rcases ends.parent_cases notDot with ⟨_, parent⟩ | ⟨more, parent⟩
  · rw [parent] at still ⊢
    cases absolute : path.isAbsolute with
    | true => decide
    | false =>
        rw [absolute] at still
        exact absurd still (by decide +kernel)
  · have unslashed : path.parent.route.slash = false := by
      have last := trimEnd_unslashed before.reverse
      simpa [parent, route] using last
    have nonempty : path.parent.text.toList ≠ [] := by simpa [parent] using more
    obtain ⟨above, last, parentEnds⟩ := exists_endsIn nonempty unslashed
    rw [parentEnds.steps_eq] at still
    simp at still

end Path

namespace Step

theorem foldl_from_goings (steps : List Step) (location : List String) :
    (steps.filter (· ≠ .stay)).foldl Step.from location = steps.foldl Step.from location := by
  induction steps generalizing location with
  | nil => rfl
  | cons step steps ih =>
      cases step with
      | stay => exact ih location
      | up => exact ih location.dropLast
      | down name => exact ih (location ++ [name])

end Step

theorem Route.location_eq (route : Route) (cwd : List String) :
    route.location cwd = route.steps.foldl Step.from (if route.absolute then [] else cwd) := by
  refine List.foldl_ext _ _ _ fun location step _ => ?_
  cases step <;> rfl

/-- Where a path leads if every directory on the way exists. -/
def Disk.place (disk : Disk) (path : Path) : List String := path.route.location disk.cwd

/-- A path leads down to a name and never up on the way, as one of plain names does. -/
structure Path.Straight (path : Path) : Prop where
  unslashed : path.route.slash = false
  named : ∃ name, path.route.steps.getLast? = some (.down name)
  downward : Step.up ∉ path.route.steps

theorem Path.getLast?_joined {names : List (List Char)} (named : names ≠ [])
    (plain : ∀ name ∈ names, name ≠ [] ∧ '/' ∉ name) :
    ∃ last, (['/'].intercalate names).getLast? = some last ∧ last ≠ '/' := by
  match names with
  | [] => exact absurd rfl named
  | [name] =>
      obtain ⟨nonempty, unslashed⟩ := plain name (List.mem_cons_self ..)
      rw [List.intercalate_singleton]
      refine ⟨name.getLast nonempty, List.getLast?_eq_some_getLast nonempty, fun slash => ?_⟩
      exact unslashed (slash ▸ List.getLast_mem nonempty)
  | first :: second :: rest =>
      obtain ⟨last, ends, notSlash⟩ := @Path.getLast?_joined (second :: rest) (List.cons_ne_nil _ _)
        fun name member => plain name (List.mem_cons_of_mem _ member)
      refine ⟨last, ?_, notSlash⟩
      rw [List.intercalate_cons_cons, List.getLast?_append, ends]
      rfl

/-- Names with slashes between them lead straight to the last one. -/
theorem Path.straight_joined {names : List String} (named : names ≠ [])
    (plain : ∀ name ∈ names, PlainName name) : Path.Straight ⟨"/".intercalate names⟩ := by
  have spelled : ("/".intercalate names).toList = ['/'].intercalate (names.map String.toList) :=
    String.toList_intercalate
  have one : ∀ name ∈ names,
      (Text.runs (· = '/') name.toList).map Step.ofPart = [Step.down name] :=
    fun name member => (plain name member).steps
  have steps : (Path.route ⟨"/".intercalate names⟩).steps = names.map Step.down := by
    simp only [Path.route, spelled]
    rw [Text.runs_joined (by decide), List.map_flatMap, List.flatMap_map, List.flatMap_def,
      List.map_congr_left one, ← List.flatMap_def, ← List.map_eq_flatMap]
  have plainTexts : ∀ text ∈ names.map String.toList, text ≠ [] ∧ '/' ∉ text := by
    intro text member
    obtain ⟨name, listed, rfl⟩ := List.mem_map.mp member
    exact ⟨(plain name listed).toList_ne_nil, (plain name listed).unslashed⟩
  refine ⟨?_, ⟨names.getLast named, ?_⟩, ?_⟩
  · obtain ⟨last, ends, notSlash⟩ := Path.getLast?_joined (by simpa using named) plainTexts
    simp [Path.route, spelled, ends, notSlash]
  · rw [steps, List.getLast?_map, List.getLast?_eq_some_getLast named]
    rfl
  · simp [steps]

namespace Disk

variable {root other : Node} {disk after : Disk} {location reached directory : List String}
  {steps : List Step} {route : Route} {path : Path} {name : String}

theorem Names.location_eq (names : disk.Names route directory name) :
    route.location disk.cwd = directory ++ [name] := by
  obtain ⟨steps, listed, _, walked, _⟩ := names.listed
  rw [Route.location_eq, listed, List.foldl_append, eq_foldl_of_walk walked]
  rfl

theorem Names.place_eq (names : disk.Names path.route directory name) :
    disk.place path = directory ++ [name] := names.location_eq

theorem place_congr (sameStart : disk.cwd = after.cwd) (path : Path) :
    disk.place path = after.place path := by
  rw [place, place, sameStart]

/-! Ways that never go up. -/

theorem foldl_from_downward (downward : Step.up ∉ steps) (location : List String) :
    location <+: steps.foldl Step.from location := by
  induction steps generalizing location with
  | nil => exact List.prefix_refl _
  | cons step steps ih =>
      have onward := ih (fun member => downward (List.mem_cons_of_mem _ member))
      cases step with
      | stay => exact onward location
      | up => exact absurd (List.mem_cons_self ..) downward
      | down name => exact (List.prefix_append _ _).trans (onward _)

/-- The way to an entry that never goes up stays open while the directories above it stay. -/
theorem Names.kept_downward (names : disk.Names route directory name)
    (downward : Step.up ∉ route.steps) (sameStart : after.cwd = disk.cwd)
    (kept : ∀ above, above <+: directory → disk.root.view above = some .directory →
      after.root.view above = some .directory) : after.Names route directory name := by
  refine names.rewalked sameStart (fun listed walked => ?_)
    (kept _ (List.prefix_refl _) names.directory_exists)
  refine walk_along (fun front back split => kept _ ?_) walked names.directory_exists
  rw [eq_foldl_of_walk walked, split, List.foldl_append]
  refine foldl_from_downward (fun member => downward ?_) _
  rw [listed, split]
  exact List.mem_append_left _ (List.mem_append_right _ member)

end Disk

/-! Entries beside the entry of a path. -/

section Beside

variable {disk after : Disk} {path : Path} {before run : List Char} {directory : List String}
  {name : String} {cwd : List String}

theorem Path.EndsIn.directory_eq (ends : path.EndsIn before run)
    (names : disk.Names path.route directory name) :
    directory = ((Text.runs (· = '/') before).map Step.ofPart).foldl Step.from
      (if before.head? = some '/' then [] else disk.cwd) := by
  obtain ⟨steps, listed, _, walked, _⟩ := names.listed
  obtain ⟨same, _⟩ := List.append_inj' (listed.symm.trans ends.steps_eq) rfl
  have absolute : path.route.absolute = decide (before.head? = some '/') := ends.isAbsolute_eq
  rw [Disk.eq_foldl_of_walk walked, same, Disk.start, absolute]
  simp

theorem Path.EndsIn.parent_location (ends : path.EndsIn before run) (notDot : run ≠ ['.']) :
    path.parent.route.location cwd =
      ((Text.runs (· = '/') before).map Step.ofPart).foldl Step.from
        (if before.head? = some '/' then [] else cwd) := by
  have absolute : path.parent.route.absolute = decide (before.head? = some '/') := by
    rw [Path.route, ends.parent_isAbsolute notDot, ends.isAbsolute_eq]
  rw [Route.location_eq, ← Step.foldl_from_goings, ends.parent_goings notDot,
    Step.foldl_from_goings, absolute]
  simp

namespace Path.Straight

theorem endsIn (straight : path.Straight) : ∃ before name, path.EndsIn before name.toList ∧
    name.toList ≠ ['.'] ∧ name.toList ≠ ['.', '.'] ∧
    path.route.steps.getLast? = some (.down name) := by
  obtain ⟨name, last⟩ := straight.named
  obtain ⟨before, ends, notDot, notDots⟩ := endsIn_of_getLast? straight.unslashed last
  exact ⟨before, name, ends, notDot, notDots, last⟩

/-- The parent of a path leads to where the path has its entry. -/
theorem directory_eq (straight : path.Straight) (names : disk.Names path.route directory name) :
    directory = disk.place path.parent := by
  obtain ⟨before, _, ends, notDot, _, _⟩ := straight.endsIn
  rw [Disk.place, ends.parent_location notDot, ← ends.directory_eq names]

/-- The backup of a path has its entry there, too. -/
theorem backup_directory_eq (straight : path.Straight)
    (names : disk.Names path.backup.route directory name) :
    directory = disk.place path.parent := by
  obtain ⟨before, _, ends, notDot, notDots, _⟩ := straight.endsIn
  rw [Disk.place, ends.parent_location notDot, ← (ends.backup notDot notDots).directory_eq names]

theorem parent_downward (straight : path.Straight) : Step.up ∉ path.parent.route.steps := by
  obtain ⟨before, _, ends, notDot, _, _⟩ := straight.endsIn
  intro member
  have going : Step.up ∈ path.parent.route.steps.filter (· ≠ .stay) := by simp [member]
  rw [ends.parent_goings notDot] at going
  refine straight.downward ?_
  rw [ends.steps_eq]
  exact List.mem_append_left _ ((List.mem_filter.mp going).1)

end Path.Straight

theorem Disk.node_of_walk {route : Route} {entries : List (String × Node)}
    (inRange : route.overlong = false) (rooted : route.steps = [] → route.absolute = true)
    (walked : walk disk.root (disk.start route) route.steps = .ok directory)
    (listed : disk.root.get? directory = some (.dir entries)) :
    disk.node route = .ok (.dir entries) := by
  have isDirectory : disk.root.view directory = some .directory :=
    Node.view_eq_directory_iff.mpr ⟨entries, listed⟩
  refine node_iff.mpr ⟨directory, locate_iff.mpr ⟨inRange, rooted, ?_⟩, listed⟩
  refine walk_append_iff.mpr ⟨directory, walked, ?_⟩
  cases route.slash with
  | false => exact walk_nil_iff.mpr rfl
  | true => exact walk_cons_iff.mpr ⟨isDirectory, trivial, walk_nil_iff.mpr rfl⟩

namespace Disk

variable {tempDir : List String}

/-- The temporary file comes beside the path, under a name that nothing had. -/
theorem fresh_of_names (straight : path.Straight)
    (names : disk.Names (disk.tempPath path).route tempDir name) :
    tempDir = disk.place path.parent ∧ disk.root.view (tempDir ++ [name]) = none := by
  obtain ⟨fresh, named⟩ := disk.exists_tempNamed path
  obtain ⟨above, listed, inRange, walked, isDirectory⟩ := names.listed
  obtain ⟨sameSteps, sameName⟩ := List.append_inj' (listed.symm.trans named.steps) rfl
  obtain rfl : name = fresh := by simpa using sameName
  rw [sameSteps] at walked
  have start : disk.start (disk.tempPath path).route = disk.start path.parent.route := by
    simp [start, named.absolute]
  rw [start] at walked
  constructor
  · rw [place, Route.location_eq]
    exact eq_foldl_of_walk walked
  · obtain ⟨entries, held⟩ := Node.view_eq_directory_iff.mp isDirectory
    obtain ⟨before, _, ends, notDot, _, _⟩ := straight.endsIn
    have reached := node_of_walk (named.inRange inRange) (ends.parent_rooted notDot) walked held
    have unused := named.notListed
    rw [namesIn, reached] at unused
    rw [Node.view_eq_none_iff, Node.get?_entry held]
    exact Table.seek_eq_none fun entry member same =>
      unused (List.mem_map.mpr ⟨entry, member, same⟩)

theorem tempPath_downward (straight : path.Straight) :
    Step.up ∉ (disk.tempPath path).route.steps := by
  obtain ⟨name, named⟩ := disk.exists_tempNamed path
  rw [named.steps]
  simp [straight.parent_downward]

end Disk

end Beside

end Casefile
