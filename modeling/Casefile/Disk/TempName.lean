import Casefile.Disk.Path
import Casefile.Text.Decimal

namespace Casefile

/-!
The names of temporary files.

A temporary file gets a name that nothing near it bears.  Which one it gets is left open: a disk
comes with a way to draw such names, and `TempNames.counted` is one that always finds some.
-/

/-- A name that leads one step down, to an entry of a directory. -/
structure PlainName (name : String) : Prop where
  nonempty : name ≠ ""
  unslashed : '/' ∉ name.toList
  notDot : name ≠ "."
  notDots : name ≠ ".."

theorem PlainName.ofPart {name : String} (plain : PlainName name) :
    Step.ofPart name.toList = .down name := by
  rw [Step.ofPart, if_neg (by simpa [← String.toList_inj] using plain.notDot),
    if_neg (by simpa [← String.toList_inj] using plain.notDots), String.ofList_toList]

/-- A way to draw a name, given those that are in use. -/
structure TempNames where
  draw : List String → String
  plain : ∀ used, PlainName (draw used)
  unused : ∀ used, draw used ∉ used

namespace TempNames

def numbered (n : Nat) : String := ".tmp" ++ Text.decimal n

theorem toList_numbered (n : Nat) :
    (numbered n).toList = '.' :: 't' :: 'm' :: 'p' :: Nat.toDigits 10 n := by
  simp [numbered, Text.decimal]

theorem numbered_unslashed (n : Nat) : '/' ∉ (numbered n).toList := by
  intro slash
  have digit : '/' ∈ Nat.toDigits 10 n := by simpa [toList_numbered] using slash
  exact absurd (Nat.isDigit_of_mem_toDigits (by decide) (by decide) digit) (by decide)

theorem plain_numbered (n : Nat) : PlainName (numbered n) := by
  refine ⟨?_, numbered_unslashed n, ?_, ?_⟩ <;> simp [← String.toList_inj, toList_numbered]

theorem numbered_injective {m n : Nat} (same : numbered m = numbered n) : m = n := by
  have lists := congrArg String.toList same
  rw [toList_numbered, toList_numbered] at lists
  have digits : Nat.toDigits 10 m = Nat.toDigits 10 n := by simpa using lists
  exact Text.decimal_injective (congrArg String.ofList digits)

/-- The numbered names that are tried, one more than there are names in use. -/
def tried (used : List String) : List String := (List.range (used.length + 1)).map numbered

def firstUnused (used : List String) : String :=
  ((tried used).find? (!used.contains ·)).getD (numbered 0)

theorem exists_unused (used : List String) : ∃ name ∈ tried used, name ∉ used := by
  refine Classical.byContradiction fun none => ?_
  have inUse : tried used ⊆ used := fun name member =>
    Classical.byContradiction fun free => none ⟨name, member, free⟩
  have distinct : (tried used).Nodup :=
    List.Pairwise.map numbered (fun _ _ different same => different (numbered_injective same))
      List.nodup_range
  have fits := distinct.length_le_of_subset inUse
  simp only [tried, List.length_map, List.length_range] at fits
  omega

theorem firstUnused_mem (used : List String) :
    firstUnused used ∈ tried used ∧ firstUnused used ∉ used := by
  obtain ⟨name, member, free⟩ := exists_unused used
  cases found : (tried used).find? (!used.contains ·) with
  | none =>
      have inUse : name ∈ used := by simpa using List.find?_eq_none.mp found name member
      exact absurd inUse free
  | some first =>
      rw [firstUnused, found]
      exact ⟨List.mem_of_find?_eq_some found, by simpa using List.find?_some found⟩

/-- The first of the numbered names that is not in use. -/
def counted : TempNames where
  draw := firstUnused
  plain used := by
    obtain ⟨n, _, same⟩ := List.mem_map.mp (firstUnused_mem used).1
    exact same ▸ plain_numbered n
  unused used := (firstUnused_mem used).2

end TempNames

end Casefile
