import Casefile.Disk.Tree

namespace Casefile.Node

/-!
What is found at each location of a tree.

Two trees with the same `view` differ at most in the order of their entries.  Entering a node in a
directory, or taking one out, changes the view below that one entry and nowhere else.
-/

inductive Kind where
  | directory
  | file (bytes : ByteArray)

variable {root child : Node} {directory location rest : List String} {name other : String}
  {found : Kind}

def kind : Node → Kind
  | .dir _ => .directory
  | .file bytes => .file bytes

def view (root : Node) (location : List String) : Option Kind := (root.get? location).map kind

theorem get?_append (above rest : List String) :
    root.get? (above ++ rest) = (root.get? above).bind (·.get? rest) := by
  induction above generalizing root with
  | nil => rfl
  | cons first above ih =>
      cases entered : root.child? first with
      | none => simp [get?, entered]
      | some child => simp [get?, entered, ih]

theorem view_append (above rest : List String) :
    root.view (above ++ rest) = (root.get? above).bind (·.view rest) := by
  rw [view, get?_append]
  cases root.get? above <;> rfl

theorem view_eq_directory_iff :
    root.view location = some .directory ↔ ∃ entries, root.get? location = some (.dir entries) := by
  cases found : root.get? location with
  | none => simp [view, found]
  | some node => cases node <;> simp [view, found, kind]

theorem view_eq_file_iff {bytes : ByteArray} :
    root.view location = some (.file bytes) ↔ root.get? location = some (.file bytes) := by
  cases found : root.get? location with
  | none => simp [view, found]
  | some node => cases node <;> simp [view, found, kind]

theorem view_eq_none_iff : root.view location = none ↔ root.get? location = none := by
  simp [view]

theorem get?_entry {entries : List (String × Node)}
    (listed : root.get? directory = some (.dir entries)) (name : String) :
    root.get? (directory ++ [name]) = Table.seek name entries := by
  rw [get?_append, listed]
  cases sought : Table.seek name entries <;> simp [get?, child?, sought]

theorem view_above (present : root.view (location ++ name :: rest) = some found) :
    root.view location = some .directory := by
  rw [view_append] at present
  rw [view_eq_directory_iff]
  cases above : root.get? location with
  | none => simp [above] at present
  | some node =>
      cases node with
      | dir entries => exact ⟨entries, rfl⟩
      | file bytes => simp [above, view, get?, child?] at present

theorem view_dropLast (isDirectory : root.view location = some .directory) :
    root.view location.dropLast = some .directory := by
  rcases List.eq_nil_or_concat location with rfl | ⟨above, last, rfl⟩
  · exact isDirectory
  · rw [List.concat_eq_append] at isDirectory ⊢
    rw [List.dropLast_concat]
    exact view_above isDirectory

theorem listed_of_view_below (present : root.view (location ++ name :: rest) = some found) :
    ∃ entry entries, root.get? location = some (.dir (entry :: entries)) := by
  obtain ⟨entries, listed⟩ := view_eq_directory_iff.mp (view_above present)
  cases entries with
  | nil =>
      rw [view_append, listed] at present
      simp [view, get?, child?, Table.seek] at present
  | cons entry entries => exact ⟨entry, entries, listed⟩

/-! Changing one directory. -/

theorem get?_alter (change : Node → Node) :
    (root.alter change directory).get? directory = (root.get? directory).map change := by
  induction directory generalizing root with
  | nil => rfl
  | cons first directory ih =>
      cases root with
      | file bytes => rfl
      | dir entries =>
          cases sought : Table.seek first entries with
          | none => simp [alter, get?, child?, sought]
          | some child => simp [alter, get?, child?, sought, Table.seek_put_self, ih]

theorem view_alter_of_not_below {change : Node → Node}
    (sameKind : ∀ node, (change node).kind = node.kind)
    (apart : ∀ name rest, location ≠ directory ++ name :: rest) :
    (root.alter change directory).view location = root.view location := by
  induction directory generalizing root location with
  | nil =>
      cases location with
      | nil => simp [alter, view, get?, sameKind]
      | cons first rest => exact absurd rfl (apart first rest)
  | cons first directory ih =>
      cases root with
      | file bytes => rfl
      | dir entries =>
          cases sought : Table.seek first entries with
          | none => simp [alter, sought]
          | some child =>
              cases location with
              | nil => simp [alter, sought, view, get?, kind]
              | cons second location =>
                  by_cases same : second = first
                  · subst second
                    have below : (child.alter change directory).view location =
                        child.view location :=
                      ih fun name rest same => apart name rest (congrArg (first :: ·) same)
                    simpa [alter, sought, view, get?, child?, Table.seek_put_self] using below
                  · simp [alter, sought, view, get?, child?, Table.seek_put_of_ne _ same]

theorem kind_withChild (node : Node) : (withChild name child node).kind = node.kind := by
  cases node <;> rfl

theorem kind_withoutChild (node : Node) : (withoutChild name node).kind = node.kind := by
  cases node <;> rfl

theorem seek_without_self (name : String) (entries : List (String × Node)) :
    Table.seek name (entries.filter (·.1 ≠ name)) = none :=
  Table.seek_eq_none fun _ member => by simpa [Named.name] using (List.mem_filter.mp member).2

theorem seek_without_of_ne (different : other ≠ name) (entries : List (String × Node)) :
    Table.seek other (entries.filter (·.1 ≠ name)) = Table.seek other entries := by
  induction entries with
  | nil => rfl
  | cons entry entries ih =>
      by_cases same : entry.1 = name
      · simpa [same, Table.seek, Named.name, Ne.symm different] using ih
      · by_cases sought : entry.1 = other
        · simp [sought, different, Table.seek, Named.name]
        · simpa [same, sought, Table.seek, Named.name] using ih

theorem view_link_below (listed : root.view directory = some .directory) (rest : List String) :
    (root.link directory name child).view (directory ++ name :: rest) = child.view rest := by
  obtain ⟨entries, listed⟩ := view_eq_directory_iff.mp listed
  rw [view_append, link, get?_alter, listed]
  simp [withChild, view, get?, child?, Table.seek_put_self]

theorem view_unlink_below (rest : List String) :
    (root.unlink directory name).view (directory ++ name :: rest) = none := by
  rw [view_append, unlink, get?_alter]
  cases root.get? directory with
  | none => rfl
  | some node =>
      cases node with
      | file bytes => rfl
      | dir entries =>
          simp only [Option.map_some, Option.bind_some, withoutChild, view, get?, child?,
            seek_without_self, Option.bind_none, Option.map_none]

theorem view_link_apart (apart : ¬ directory ++ [name] <+: location) :
    (root.link directory name child).view location = root.view location := by
  by_cases below : ∃ other rest, location = directory ++ other :: rest
  · obtain ⟨other, rest, rfl⟩ := below
    have different : other ≠ name := fun same => apart ⟨rest, by simp [same]⟩
    rw [view_append, view_append, link, get?_alter]
    cases root.get? directory with
    | none => rfl
    | some node =>
        cases node with
        | file bytes => rfl
        | dir entries =>
            simp [withChild, view, get?, child?, Table.seek_put_of_ne _ different]
  · exact view_alter_of_not_below kind_withChild fun other rest same => below ⟨other, rest, same⟩

theorem view_unlink_apart (apart : ¬ directory ++ [name] <+: location) :
    (root.unlink directory name).view location = root.view location := by
  by_cases below : ∃ other rest, location = directory ++ other :: rest
  · obtain ⟨other, rest, rfl⟩ := below
    have different : other ≠ name := fun same => apart ⟨rest, by simp [same]⟩
    rw [view_append, view_append, unlink, get?_alter]
    cases root.get? directory with
    | none => rfl
    | some node =>
        cases node with
        | file bytes => rfl
        | dir entries =>
            simp only [Option.map_some, Option.bind_some, withoutChild, view, get?, child?,
              seek_without_of_ne different]
  · exact view_alter_of_not_below kind_withoutChild
      fun other rest same => below ⟨other, rest, same⟩

end Casefile.Node
