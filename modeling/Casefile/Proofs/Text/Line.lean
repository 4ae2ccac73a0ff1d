import Casefile.Proofs.Save.Vault
import Casefile.Text.Line

namespace Casefile.Text

/-!
Lines can be read one after another, because what is cut off at a mark is cut the same way again.
And the lines of a text can be found among its bytes: in UTF-8 a line feed is never part of another
character.
-/

section Marks

variable {α : Type} [DecidableEq α] {mark item : α} {front items : List α}

theorem cutAfter_mark (mark : α) (items : List α) :
    cutAfter mark (mark :: items) = [mark] :: cutAfter mark items := by
  rw [cutAfter, if_pos rfl]

/-- Items without the mark are the start of the first piece. -/
theorem cutAfter_append (unmarked : mark ∉ front) (nonempty : front ≠ []) (items : List α) :
    cutAfter mark (front ++ items) =
      match cutAfter mark items with
      | [] => [front]
      | first :: others => (front ++ first) :: others := by
  induction front with
  | nil => exact absurd rfl nonempty
  | cons item front ih =>
      obtain ⟨other, later⟩ := not_or.mp (mt List.mem_cons.mpr unmarked)
      rw [List.cons_append, cutAfter, if_neg (Ne.symm other)]
      cases front with
      | nil => rfl
      | cons second front =>
          rw [ih later (List.cons_ne_nil second front)]
          cases cutAfter mark items <;> rfl

theorem cutAfter_unmarked (unmarked : mark ∉ items) (nonempty : items ≠ []) :
    cutAfter mark items = [items] := by
  have alone := cutAfter_append unmarked nonempty []
  rwa [List.append_nil] at alone

theorem cutAfter_marked (unmarked : mark ∉ front) (items : List α) :
    cutAfter mark (front ++ mark :: items) = (front ++ [mark]) :: cutAfter mark items := by
  cases front with
  | nil => exact cutAfter_mark mark items
  | cons item front =>
      rw [cutAfter_append unmarked (List.cons_ne_nil item front), cutAfter_mark]

/-- Items are none, one piece, or a piece that ends with the mark and others. -/
theorem cutAfter_cases (mark : α) (items : List α) :
    items = [] ∨ (items ≠ [] ∧ mark ∉ items) ∨
      ∃ front rest, mark ∉ front ∧ items = front ++ mark :: rest := by
  by_cases marked : mark ∈ items
  · obtain ⟨front, rest, same, unmarked⟩ := List.eq_append_cons_of_mem marked
    exact .inr (.inr ⟨front, rest, unmarked, same⟩)
  · by_cases empty : items = []
    · exact .inl empty
    · exact .inr (.inl ⟨empty, marked⟩)

theorem flatten_cutAfter (mark : α) (items : List α) : (cutAfter mark items).flatten = items := by
  induction items with
  | nil => rfl
  | cons item items ih =>
      rw [cutAfter]
      split
      · rw [List.flatten_cons, ih]
        rfl
      · split
        next none =>
          rw [none] at ih
          rw [← ih]
          rfl
        next some =>
          rw [some] at ih
          rw [← ih]
          rfl

/-- The first pieces, put together, are cut into the same pieces. -/
theorem cutAfter_take (mark : α) (items : List α) (count : Nat) :
    cutAfter mark ((cutAfter mark items).take count).flatten =
      (cutAfter mark items).take count := by
  induction count generalizing items with
  | zero => rfl
  | succ count ih =>
      rcases cutAfter_cases mark items with
        rfl | ⟨nonempty, unmarked⟩ | ⟨front, rest, unmarked, rfl⟩
      · rfl
      · have alone := cutAfter_unmarked unmarked nonempty
        rw [alone, List.take_succ_cons, List.take_nil, List.flatten_singleton, alone]
      · rw [cutAfter_marked unmarked, List.take_succ_cons, List.flatten_cons, List.append_assoc,
          List.singleton_append, cutAfter_marked unmarked, ih]

/-- The later pieces, put together, are cut into the same pieces. -/
theorem cutAfter_drop (mark : α) (items : List α) (count : Nat) :
    cutAfter mark ((cutAfter mark items).drop count).flatten =
      (cutAfter mark items).drop count := by
  induction count generalizing items with
  | zero => rw [List.drop_zero, flatten_cutAfter]
  | succ count ih =>
      rcases cutAfter_cases mark items with
        rfl | ⟨nonempty, unmarked⟩ | ⟨front, rest, unmarked, rfl⟩
      · rfl
      · rw [cutAfter_unmarked unmarked nonempty, List.drop_succ_cons, List.drop_nil]
        rfl
      · rw [cutAfter_marked unmarked, List.drop_succ_cons, ih]

end Marks

/-! ## Bytes of a text -/

variable {c mark : Char} {byte : UInt8} {cs : List Char}

/-- A byte of a character is the character itself, or not in the range of ASCII. -/
theorem toNat_of_mem_encoded (member : byte ∈ String.utf8EncodeChar c) :
    byte.toNat = c.toNat ∨ 128 ≤ byte.toNat := by
  have high {n base : Nat} (low : 128 ≤ base) (bounded : n + base < 256) :
      128 ≤ (UInt8.ofNat (n + base)).toNat := by
    rw [UInt8.toNat_ofNat', Nat.mod_eq_of_lt bounded]
    omega
  unfold String.utf8EncodeChar at member
  dsimp only at member
  split at member
  next short =>
    rw [List.mem_singleton] at member
    rw [member, UInt8.toNat_ofNat', Nat.mod_eq_of_lt (by omega)]
    exact .inl rfl
  next =>
    -- The first byte of a longer character is at least 192, and the ones after it at least 128.
    right
    split at member
    · simp only [List.mem_cons, List.not_mem_nil, or_false] at member
      rcases member with rfl | rfl <;> exact high (by omega) (by omega)
    · split at member <;>
        simp only [List.mem_cons, List.not_mem_nil, or_false] at member <;>
        rcases member with rfl | rfl | rfl | rfl <;> exact high (by omega) (by omega)

/-- The byte stands for the character, and for no part of another one. -/
structure Stands (byte : UInt8) (mark : Char) : Prop where
  alone : String.utf8EncodeChar mark = [byte]
  nowhere : ∀ c, c ≠ mark → byte ∉ String.utf8EncodeChar c

theorem stands_of_ascii (ascii : byte.toNat < 128) (same : byte.toNat = mark.toNat)
    (alone : String.utf8EncodeChar mark = [byte]) : Stands byte mark := by
  refine ⟨alone, fun c other member => ?_⟩
  rcases toNat_of_mem_encoded member with equal | high
  · exact other (Char.toNat_inj.mp (equal.symm.trans same))
  · omega

theorem stands_lineFeed : Stands 10 '\n' := stands_of_ascii (by decide) rfl (by decide)

theorem stands_carriageReturn : Stands 13 '\r' := stands_of_ascii (by decide) rfl (by decide)

def encoded (cs : List Char) : List UInt8 := cs.flatMap String.utf8EncodeChar

theorem encoded_append (first second : List Char) :
    encoded (first ++ second) = encoded first ++ encoded second := List.flatMap_append

theorem encoded_singleton (c : Char) : encoded [c] = String.utf8EncodeChar c :=
  List.flatMap_singleton ..

theorem cutAfter_encoded (stands : Stands byte mark) (cs : List Char) :
    cutAfter byte (encoded cs) = (cutAfter mark cs).map encoded := by
  induction cs with
  | nil => rfl
  | cons c cs ih =>
      have whole : encoded (c :: cs) = String.utf8EncodeChar c ++ encoded cs := List.flatMap_cons
      by_cases same : c = mark
      · rw [whole, same, stands.alone, List.singleton_append, cutAfter_mark, cutAfter_mark, ih,
          List.map_cons, encoded_singleton, stands.alone]
      · rw [whole, cutAfter_append (stands.nowhere c same) String.utf8EncodeChar_ne_nil, ih,
          cutAfter, if_neg same]
        cases cutAfter mark cs with
        | nil => rw [List.map_nil, List.map_singleton, encoded_singleton]
        | cons first others => rfl

theorem getLast?_encoded (stands : Stands byte mark) (cs : List Char) :
    (encoded cs).getLast? = some byte ↔ cs.getLast? = some mark := by
  rcases List.eq_nil_or_concat cs with rfl | ⟨before, c, rfl⟩
  · exact ⟨nofun, nofun⟩
  · rw [List.concat_eq_append, encoded_append, encoded_singleton, List.getLast?_concat,
      List.getLast?_append, List.getLast?_eq_some_getLast String.utf8EncodeChar_ne_nil,
      Option.some_or, ← List.getLast?_eq_some_getLast, Option.some.injEq]
    constructor
    · intro last
      exact Decidable.byContradiction fun other =>
        stands.nowhere c other (List.mem_of_getLast? last)
    · rintro rfl
      rw [stands.alone, List.getLast?_singleton]

theorem dropLast_encoded (stands : Stands byte mark) (last : cs.getLast? = some mark) :
    (encoded cs).dropLast = encoded cs.dropLast := by
  obtain ⟨before, rfl⟩ := List.getLast?_eq_some_iff.mp last
  rw [encoded_append, encoded_singleton, stands.alone, List.dropLast_concat, List.dropLast_concat]

theorem withoutEnd_encoded (line : List Char) :
    withoutEnd 10 13 (encoded line) = encoded (withoutEnd '\n' '\r' line) := by
  unfold withoutEnd
  by_cases fed : line.getLast? = some '\n'
  · rw [if_pos ((getLast?_encoded stands_lineFeed line).mpr fed), if_pos fed,
      dropLast_encoded stands_lineFeed fed]
    by_cases returned : line.dropLast.getLast? = some '\r'
    · rw [if_pos ((getLast?_encoded stands_carriageReturn _).mpr returned), if_pos returned,
        dropLast_encoded stands_carriageReturn returned]
    · rw [if_neg (mt (getLast?_encoded stands_carriageReturn _).mp returned), if_neg returned]
  · rw [if_neg (mt (getLast?_encoded stands_lineFeed line).mp fed), if_neg fed]

/-- The lines of the bytes of a text are the lines of the text. -/
theorem linesOf_utf8 (text : String) :
    linesOf text.toUTF8.data.toList = (lines text).map some := by
  have bytes (cs : List Char) : (String.ofList cs).toUTF8.data.toList = encoded cs := by
    rw [String.toUTF8_eq_toByteArray, String.toByteArray_ofList, List.utf8Encode,
      List.toList_data_toByteArray]
    rfl
  have reads (cs : List Char) : lineText (encoded cs) =
      some (String.ofList (withoutEnd '\n' '\r' cs)) := by
    rw [lineText, withoutEnd_encoded, ← bytes, Array.toArray_toList]
    exact Disk.fromUTF8?_toUTF8 _
  have whole := bytes text.toList
  rw [String.ofList_toList] at whole
  rw [whole, linesOf, cutLines, cutAfter_encoded stands_lineFeed, lines, List.map_map, List.map_map]
  exact List.map_congr_left fun cs _ => reads cs

/-- What is left after some lines are read is bytes, and their lines are the later ones. -/
theorem exists_left (bytes : List UInt8) (count : Nat) :
    ∃ taken left, bytes = taken ++ left ∧ cutLines taken = (cutLines bytes).take count ∧
      linesOf left = (linesOf bytes).drop count := by
  refine ⟨((cutLines bytes).take count).flatten, ((cutLines bytes).drop count).flatten, ?_, ?_, ?_⟩
  · rw [← List.flatten_append, List.take_append_drop]
    exact (flatten_cutAfter 10 bytes).symm
  · exact cutAfter_take 10 bytes count
  · have later : cutLines ((cutLines bytes).drop count).flatten = (cutLines bytes).drop count :=
      cutAfter_drop 10 bytes count
    rw [linesOf, later, List.map_drop, ← linesOf]

end Casefile.Text
