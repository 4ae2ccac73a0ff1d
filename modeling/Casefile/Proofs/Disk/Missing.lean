import Casefile.Proofs.Disk.Operations

namespace Casefile.Disk

/-!
Paths under which nothing is found.

That nothing is found, and not that something else is in the way, is kept by whatever takes entries
away and leaves the directories alone.
-/

variable {root other : Node} {disk after : Disk} {location reached directory : List String}
  {steps : List Step} {route : Route} {path : Path} {name : String}

/-- A way that does not find what it leads to does not find it on a disk with no more entries. -/
theorem walk_keeps_notFound
    (directories : ∀ location, root.view location = some .directory →
      other.view location = some .directory)
    (absent : ∀ location, root.view location = none → other.view location = none)
    (missing : walk root location steps = .error .notFound) :
    walk other location steps = .error .notFound := by
  induction steps generalizing location with
  | nil => cases missing
  | cons step steps ih =>
      cases found : root.get? location with
      | none =>
          have gone := Node.view_eq_none_iff.mp (absent _ (Node.view_eq_none_iff.mpr found))
          simp [walk, gone]
      | some node =>
          cases node with
          | file bytes => simp [walk, found] at missing
          | dir entries =>
              obtain ⟨others, kept⟩ := Node.view_eq_directory_iff.mp
                (directories _ (Node.view_eq_directory_iff.mpr ⟨entries, found⟩))
              cases step with
              | stay =>
                  simp only [walk, found, kept] at missing ⊢
                  exact ih missing
              | up =>
                  simp only [walk, found, kept] at missing ⊢
                  exact ih missing
              | down name =>
                  by_cases long : maxNameBytes < name.utf8ByteSize
                  · simp [walk, found, long] at missing
                  · simp only [walk, found, kept, if_neg long] at missing ⊢
                    cases sought : Table.seek name others with
                    | none => rfl
                    | some child =>
                        cases before : Table.seek name entries with
                        | none =>
                            have gone := absent (location ++ [name])
                              (by rw [Node.view_eq_none_iff, Node.get?_entry found, before])
                            rw [Node.view_eq_none_iff, Node.get?_entry kept, sought] at gone
                            cases gone
                        | some child =>
                            simp only [before] at missing
                            exact ih missing

theorem walk_reaches (walked : walk root location steps = .ok reached)
    (begun : steps = [] → root.view location ≠ none) : root.view reached ≠ none := by
  induction steps generalizing location with
  | nil =>
      cases walked
      exact begun rfl
  | cons step steps ih =>
      obtain ⟨isDirectory, opened, onward⟩ := walk_cons_iff.mp walked
      refine ih onward fun _ => ?_
      cases step with
      | stay =>
          rw [Step.from, isDirectory]
          exact Option.some_ne_none _
      | up =>
          rw [Step.from, Node.view_dropLast isDirectory]
          exact Option.some_ne_none _
      | down name => exact opened.2

theorem node_notFound_iff :
    disk.node route = .error .notFound ↔ disk.locate route = .error .notFound := by
  cases located : disk.locate route with
  | error reason => simp [node, located]
  | ok location =>
      obtain ⟨_, rooted, walked⟩ := locate_iff.mp located
      have present : disk.root.view location ≠ none := by
        refine walk_reaches walked fun empty => ?_
        have absolute := rooted (List.append_eq_nil_iff.mp empty).1
        simp [start, absolute, Node.view, Node.get?]
      obtain ⟨kind, there⟩ := Option.ne_none_iff_exists'.mp present
      obtain ⟨held, listed, _⟩ := Option.map_eq_some_iff.mp there
      simp [node, located, listed]

theorem locate_notFound_iff : disk.locate route = .error .notFound ↔
    route.overlong = false ∧ (route.steps = [] ∧ route.absolute = false ∨
      walk disk.root (disk.start route) (route.steps ++ if route.slash then [.stay] else []) =
        .error .notFound) := by
  cases long : route.overlong <;> cases absolute : route.absolute <;>
    cases listed : route.steps <;> simp [locate, long, absolute, listed]

/-- What is not found is not found after files were removed. -/
theorem node_keeps_notFound (sameStart : after.cwd = disk.cwd)
    (directories : ∀ location, disk.root.view location = some .directory →
      after.root.view location = some .directory)
    (absent : ∀ location, disk.root.view location = none → after.root.view location = none)
    (missing : disk.node route = .error .notFound) : after.node route = .error .notFound := by
  rw [node_notFound_iff, locate_notFound_iff] at missing ⊢
  have start : after.start route = disk.start route := by simp [start, sameStart]
  rw [start]
  exact ⟨missing.1, missing.2.imp_right (walk_keeps_notFound directories absent)⟩

theorem node_of_target_notFound (missing : disk.target route = .error .notFound) :
    disk.node route = .error .notFound := by
  rw [node_notFound_iff, locate_notFound_iff]
  cases long : route.overlong with
  | true => simp [target, long] at missing
  | false =>
      refine ⟨rfl, ?_⟩
      rcases List.eq_nil_or_concat route.steps with empty | ⟨steps, last, listed⟩
      · cases absolute : route.absolute with
        | true => simp [target, long, empty, absolute] at missing
        | false => exact .inl ⟨empty, rfl⟩
      · right
        rw [listed, List.concat_eq_append, List.append_assoc, walk_append]
        cases walked : walk disk.root (disk.start route) steps with
        | error reason => simpa [target, long, listed, walked, Except.bind] using missing
        | ok here =>
            cases held : disk.root.get? here with
            | none => simp [Except.bind, walk, held]
            | some node =>
                cases node with
                | file bytes => simp [target, long, listed, walked, held] at missing
                | dir entries =>
                    cases last <;> simp [target, long, listed, walked, held] at missing

theorem Names.node_absent (names : disk.Names route directory name)
    (absent : disk.root.view (directory ++ [name]) = none) :
    disk.node route = .error .notFound := by
  obtain ⟨steps, listed, inRange, walked, isDirectory⟩ := names.listed
  obtain ⟨entries, held⟩ := Node.view_eq_directory_iff.mp isDirectory
  have unlisted : Table.seek name entries = none := by
    rw [← Node.get?_entry held, ← Node.view_eq_none_iff, absent]
  rw [node_notFound_iff, locate_notFound_iff]
  refine ⟨inRange, .inr ?_⟩
  rw [listed, List.append_assoc, walk_append, walked]
  simp [Except.bind, walk, held, unlisted, Nat.not_lt.mpr names.short]

theorem node_of_removeFile_notFound (missing : disk.removeFile path = .error .notFound) :
    disk.node path.route = .error .notFound := by
  cases targeted : disk.target path.route with
  | error reason =>
      refine node_of_target_notFound (targeted.trans ?_)
      simpa [removeFile, targeted] using missing
  | ok target =>
      cases target with
      | dots here => simp [removeFile, targeted] at missing
      | entry directory name =>
          cases entered : disk.entry directory name with
          | error reason =>
              by_cases long : maxNameBytes < name.utf8ByteSize
              · simp [removeFile, targeted, entry, long] at missing
              · simp [entry, long] at entered
          | ok held =>
              obtain ⟨short, there⟩ := entry_ok_iff.mp entered
              rcases held with _ | (bytes | entries)
              · exact Names.node_absent ⟨targeted, short⟩ (Node.view_eq_none_iff.mpr there)
              · cases slash : path.route.slash <;>
                  simp [removeFile, targeted, entered, slash] at missing
              · simp [removeFile, targeted, entered] at missing

end Casefile.Disk
