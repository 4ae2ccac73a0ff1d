import Casefile.Disk.Replacement
import Casefile.Proofs.Disk.View

namespace Casefile

/-!
Where routes lead.

The way of a route through a tree is decided by its spelling; the tree only decides whether the way
is open.  It stays open when directories stay directories, so an entry that a route names is the
same before and after an operation that leaves the directories alone.
-/

/-- What a step needs besides a directory to start from. -/
def Step.Open (root : Node) (location : List String) : Step → Prop
  | .stay | .up => True
  | .down name => name.utf8ByteSize ≤ maxNameBytes ∧ root.view (location ++ [name]) ≠ none

def Step.from (location : List String) : Step → List String
  | .stay => location
  | .up => location.dropLast
  | .down name => location ++ [name]

def Step.target (location : List String) : Step → Target
  | .stay | .up => .dots location
  | .down name => .entry location name

namespace Disk

variable {root other : Node} {disk after : Disk} {location reached directory fromDir toDir : List String}
  {step : Step} {steps rest : List Step} {route : Route} {path : Path} {name : String}

theorem walk_cons_iff : walk root location (step :: rest) = .ok reached ↔
    root.view location = some .directory ∧ step.Open root location ∧
      walk root (step.from location) rest = .ok reached := by
  cases found : root.get? location with
  | none => simp [walk, found, Node.view]
  | some node =>
      cases node with
      | file bytes => simp [walk, found, Node.view, Node.kind]
      | dir entries =>
          cases step with
          | stay => simp [walk, found, Node.view, Node.kind, Step.Open, Step.from]
          | up => simp [walk, found, Node.view, Node.kind, Step.Open, Step.from]
          | down name =>
              have entry := Node.get?_entry found name
              by_cases long : maxNameBytes < name.utf8ByteSize
              · simp [walk, found, long, Step.Open, Nat.not_le.mpr long]
              · have short := Nat.not_lt.mp long
                cases sought : Table.seek name entries with
                | none => simp [walk, found, long, sought, Step.Open, Node.view, entry]
                | some child =>
                    simp [walk, found, long, short, sought, Step.Open, Step.from, Node.view,
                      Node.kind, entry]

theorem walk_nil_iff : walk root location [] = .ok reached ↔ reached = location := by
  simp [walk, eq_comm]

theorem walk_append (root : Node) (location : List String) (steps rest : List Step) :
    walk root location (steps ++ rest) = (walk root location steps).bind (walk root · rest) := by
  induction steps generalizing location with
  | nil => rfl
  | cons step steps ih =>
      rw [List.cons_append, walk, walk]
      cases root.get? location with
      | none => rfl
      | some node =>
          cases node with
          | file bytes => rfl
          | dir entries =>
              cases step with
              | stay => exact ih _
              | up => exact ih _
              | down name =>
                  by_cases long : maxNameBytes < name.utf8ByteSize
                  · simp only [if_pos long]
                    rfl
                  · simp only [if_neg long]
                    cases Table.seek name entries with
                    | none => rfl
                    | some child => exact ih _

theorem walk_append_iff : walk root location (steps ++ rest) = .ok reached ↔
    ∃ middle, walk root location steps = .ok middle ∧ walk root middle rest = .ok reached := by
  rw [walk_append]
  cases walked : walk root location steps <;> simp [Except.bind]

/-- Where a way leads is decided by its steps alone. -/
theorem eq_foldl_of_walk (walked : walk root location steps = .ok reached) :
    reached = steps.foldl Step.from location := by
  induction steps generalizing location with
  | nil => exact (Except.ok.inj walked).symm
  | cons step steps ih => exact ih (walk_cons_iff.mp walked).2.2

theorem walk_unique {second : List String} (first : walk root location steps = .ok reached)
    (again : walk other location steps = .ok second) : second = reached :=
  (eq_foldl_of_walk again).trans (eq_foldl_of_walk first).symm

theorem walk_start_directory (walked : walk root location steps = .ok reached)
    (directory : root.view reached = some .directory) : root.view location = some .directory := by
  cases steps with
  | nil => exact Except.ok.inj walked ▸ directory
  | cons step steps => exact (walk_cons_iff.mp walked).1

/-- A way to a directory stays open while the directories on the way stay directories. -/
theorem walk_along
    (kept : ∀ front back, steps = front ++ back →
      root.view (front.foldl Step.from location) = some .directory →
      other.view (front.foldl Step.from location) = some .directory)
    (walked : walk root location steps = .ok reached)
    (directory : root.view reached = some .directory) :
    walk other location steps = .ok reached := by
  induction steps generalizing location with
  | nil => exact walked
  | cons step steps ih =>
      obtain ⟨here, opened, onward⟩ := walk_cons_iff.mp walked
      have later := ih (fun front back split => kept (step :: front) back (congrArg _ split)) onward
      refine walk_cons_iff.mpr ⟨kept [] _ rfl here, ?_, later⟩
      cases step with
      | stay => trivial
      | up => trivial
      | down name =>
          have entered : other.view (location ++ [name]) = some .directory :=
            kept [.down name] steps rfl (walk_start_directory onward directory)
          exact ⟨opened.1, by rw [entered]; exact nofun⟩

theorem walk_to_directory
    (kept : ∀ location, root.view location = some .directory →
      other.view location = some .directory)
    (walked : walk root location steps = .ok reached)
    (directory : root.view reached = some .directory) :
    walk other location steps = .ok reached :=
  walk_along (fun _ _ _ => kept _) walked directory

/-! Entries that routes name. -/

theorem target_concat_iff {found : Target} {last : Step} (listed : route.steps = steps ++ [last]) :
    disk.target route = .ok found ↔
      route.overlong = false ∧ ∃ here, walk disk.root (disk.start route) steps = .ok here ∧
        disk.root.view here = some .directory ∧ found = last.target here := by
  cases long : route.overlong with
  | true => simp [target, long]
  | false =>
      cases walked : walk disk.root (disk.start route) steps with
      | error reason => simp [target, long, listed, walked]
      | ok here =>
          cases there : disk.root.get? here with
          | none => simp [target, long, listed, walked, there, Node.view]
          | some node =>
              cases node with
              | file bytes => simp [target, long, listed, walked, there, Node.view, Node.kind]
              | dir entries =>
                  cases last <;>
                    simp [target, long, listed, walked, there, Node.view, Node.kind,
                      Step.target, eq_comm]

/-- A route names an entry of a directory, under a name that can be looked for. -/
structure Names (disk : Disk) (route : Route) (directory : List String) (name : String) :
    Prop where
  targeted : disk.target route = .ok (.entry directory name)
  short : name.utf8ByteSize ≤ maxNameBytes

namespace Names

theorem listed (names : disk.Names route directory name) :
    ∃ steps, route.steps = steps ++ [.down name] ∧ route.overlong = false ∧
      walk disk.root (disk.start route) steps = .ok directory ∧
      disk.root.view directory = some .directory := by
  rcases List.eq_nil_or_concat route.steps with empty | ⟨steps, last, listed⟩
  · have targeted := names.targeted
    cases long : route.overlong <;> cases absolute : route.absolute <;>
      simp [target, long, empty, absolute] at targeted
  · rw [List.concat_eq_append] at listed
    obtain ⟨inRange, here, walked, isDirectory, same⟩ :=
      (target_concat_iff listed).mp names.targeted
    cases last with
    | stay => cases same
    | up => cases same
    | down last =>
        cases same
        exact ⟨steps, listed, inRange, walked, isDirectory⟩

theorem directory_exists (names : disk.Names route directory name) :
    disk.root.view directory = some .directory := by
  obtain ⟨_, _, _, _, isDirectory⟩ := names.listed
  exact isDirectory

theorem unique {otherName : String} (names : disk.Names route directory name)
    (again : after.Names route fromDir otherName) (sameStart : after.cwd = disk.cwd) :
    fromDir = directory ∧ otherName = name := by
  obtain ⟨steps, listed, _, walked, _⟩ := names.listed
  obtain ⟨others, relisted, _, rewalked, _⟩ := again.listed
  obtain ⟨sameSteps, sameLast⟩ := List.append_inj' (relisted.symm.trans listed) rfl
  have start : after.start route = disk.start route := by simp [start, sameStart]
  rw [sameSteps, start] at rewalked
  have sameName : otherName = name := by simpa using sameLast
  exact ⟨walk_unique walked rewalked, sameName⟩

theorem mem_names (names : disk.Names route directory name) : name ∈ route.names := by
  obtain ⟨steps, listed, _⟩ := names.listed
  exact List.mem_filterMap.mpr ⟨.down name, by simp [listed], rfl⟩

/-- An entry is named as before where the way to its directory is still open. -/
theorem rewalked (names : disk.Names route directory name) (sameStart : after.cwd = disk.cwd)
    (again : ∀ {steps}, route.steps = steps ++ [.down name] →
      walk disk.root (disk.start route) steps = .ok directory →
      walk after.root (disk.start route) steps = .ok directory)
    (isDirectory : after.root.view directory = some .directory) :
    after.Names route directory name := by
  obtain ⟨steps, listed, inRange, walked, _⟩ := names.listed
  have start : after.start route = disk.start route := by simp [start, sameStart]
  have rewalked := again listed walked
  rw [← start] at rewalked
  exact ⟨(target_concat_iff listed).mpr ⟨inRange, directory, rewalked, isDirectory, rfl⟩,
    names.short⟩

theorem kept (names : disk.Names route directory name) (sameStart : after.cwd = disk.cwd)
    (directories : ∀ location, disk.root.view location = some .directory →
      after.root.view location = some .directory) :
    after.Names route directory name :=
  names.rewalked sameStart
    (fun _ walked => walk_to_directory directories walked names.directory_exists)
    (directories _ names.directory_exists)

end Names

end Disk

end Casefile
