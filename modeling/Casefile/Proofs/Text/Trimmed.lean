import Casefile.Text.Blank
import Mathlib.Data.List.TakeWhile

namespace Casefile.Text

/-!
Trimming takes nothing but blanks from the ends of a text, and all of them.
-/

variable {cs blanks : List Char} {c : Char}

/-- No blank at either end. -/
structure Trimmed (cs : List Char) : Prop where
  first : ∀ c ∈ cs.head?, isBlank c = false
  last : ∀ c ∈ cs.getLast?, isBlank c = false

instance (cs : List Char) : Decidable (Trimmed cs) :=
  decidable_of_iff
    (cs.head?.all (!isBlank ·) = true ∧ cs.getLast?.all (!isBlank ·) = true)
    ⟨fun ⟨first, last⟩ => ⟨by simpa [Option.all_eq_true] using first,
        by simpa [Option.all_eq_true] using last⟩,
      fun ⟨first, last⟩ => ⟨by simpa [Option.all_eq_true] using first,
        by simpa [Option.all_eq_true] using last⟩⟩

theorem dropWhile_isBlank (first : ∀ c ∈ cs.head?, isBlank c = false) :
    cs.dropWhile isBlank = cs := by
  cases cs with
  | nil => rfl
  | cons c rest => exact List.dropWhile_cons_of_neg (by simp [first c rfl])

theorem Trimmed.trimChars (trimmed : Trimmed cs) : trimChars cs = cs := by
  have back : cs.reverse.dropWhile isBlank = cs.reverse :=
    dropWhile_isBlank (by simpa [List.head?_reverse] using trimmed.last)
  rw [Text.trimChars, dropWhile_isBlank trimmed.first, back, List.reverse_reverse]

theorem head?_dropWhile_isBlank (cs : List Char) :
    ∀ c ∈ (cs.dropWhile isBlank).head?, isBlank c = false := by
  intro c first
  have stops := List.head?_dropWhile_not isBlank cs
  rw [Option.mem_def.mp first] at stops
  exact stops

theorem trimmed_trimChars (cs : List Char) : Trimmed (Text.trimChars cs) := by
  rw [Text.trimChars]
  refine ⟨fun c first => ?_, fun c last => ?_⟩
  · -- What is left of the start when the end is trimmed is a first part of it.
    rw [List.head?_reverse] at first
    obtain ⟨blanks, whole⟩ := List.dropWhile_suffix isBlank (l := (cs.dropWhile isBlank).reverse)
    have ends : (cs.dropWhile isBlank).reverse.getLast? = some c := by
      rw [← whole, List.getLast?_append, Option.mem_def.mp first, Option.some_or]
    rw [List.getLast?_reverse] at ends
    exact head?_dropWhile_isBlank cs c ends
  · rw [List.getLast?_reverse] at last
    exact head?_dropWhile_isBlank _ c last

theorem trimmed_trim (text : String) : Trimmed (trim text).toList := by
  rw [trim, String.toList_ofList]
  exact trimmed_trimChars text.toList

theorem Trimmed.trim {text : String} (trimmed : Trimmed text.toList) : Text.trim text = text := by
  rw [Text.trim, trimmed.trimChars, String.ofList_toList]

theorem trimChars_append (blank : ∀ c ∈ blanks, isBlank c = true) (cs : List Char) :
    Text.trimChars (blanks ++ cs) = Text.trimChars cs := by
  rw [Text.trimChars, List.dropWhile_append_of_pos blank, ← Text.trimChars]

theorem trimChars_cons (blank : isBlank c = true) (cs : List Char) :
    Text.trimChars (c :: cs) = Text.trimChars cs :=
  trimChars_append (List.forall_mem_singleton.mpr blank) cs

theorem trimChars_eq_nil_iff : Text.trimChars cs = [] ↔ ∀ c ∈ cs, isBlank c = true := by
  constructor
  · intro empty c member
    have later : ∀ d ∈ cs.dropWhile isBlank, isBlank d = true := by
      simpa [Text.trimChars, List.dropWhile_eq_nil_iff] using empty
    rw [← List.takeWhile_append_dropWhile (p := isBlank) (l := cs)] at member
    rcases List.mem_append.mp member with early | late
    · exact List.mem_takeWhile_imp early
    · exact later c late
  · intro blank
    rw [Text.trimChars, List.dropWhile_eq_nil_iff.mpr blank]
    rfl

theorem mem_of_mem_trimChars (member : c ∈ Text.trimChars cs) : c ∈ cs := by
  rw [Text.trimChars, List.mem_reverse] at member
  have late := List.mem_reverse.mp ((List.dropWhile_suffix isBlank).subset member)
  exact (List.dropWhile_suffix isBlank).subset late

/-- A text that blanks do not break. -/
def Unbroken (text : String) : Prop := text ≠ "" ∧ ∀ c ∈ text.toList, isBlank c = false

instance (text : String) : Decidable (Unbroken text) :=
  decidable_of_iff (text ≠ "" ∧ text.toList.all (!isBlank ·) = true) (by simp [Unbroken])

/-- Texts without blanks, with a space between any two. -/
theorem trimmed_joined {texts : List (List Char)} (nonempty : ∀ text ∈ texts, text ≠ [])
    (unblank : ∀ text ∈ texts, ∀ c ∈ text, isBlank c = false) (some : texts ≠ []) :
    [' '].intercalate texts ≠ [] ∧ Trimmed ([' '].intercalate texts) ∧
      ∀ c ∈ [' '].intercalate texts, isBlank c = true → c = ' ' := by
  -- A text is followed by a space only where another text follows, so two are looked at together.
  match texts with
  | [] => exact absurd rfl some
  | [text] =>
      have plain := unblank text (List.mem_singleton_self _)
      rw [List.intercalate_singleton]
      refine ⟨nonempty text (List.mem_singleton_self _),
        ⟨fun c first => plain c (List.mem_of_head? first),
          fun c last => plain c (List.mem_of_getLast? last)⟩, fun c member blank => ?_⟩
      rw [plain c member] at blank
      cases blank
  | text :: next :: rest =>
      obtain ⟨more, trimmed, spaces⟩ := trimmed_joined
        (fun text member => nonempty text (List.mem_cons_of_mem _ member))
        (fun text member => unblank text (List.mem_cons_of_mem _ member))
        (List.cons_ne_nil next rest)
      have here := nonempty text (List.mem_cons_self ..)
      have plain := unblank text (List.mem_cons_self ..)
      rw [List.intercalate_cons_cons, List.append_assoc, List.singleton_append]
      refine ⟨by simp [here], ⟨fun c first => ?_, fun c last => ?_⟩, fun c member blank => ?_⟩
      · have inText : c ∈ text.head? := by
          cases text with
          | nil => exact absurd rfl here
          | cons first others => exact first
        exact plain c (List.mem_of_head? inText)
      · rw [List.getLast?_append, List.getLast?_cons_of_ne_nil more,
          List.getLast?_eq_some_getLast more, Option.some_or] at last
        rw [← List.getLast?_eq_some_getLast more] at last
        exact trimmed.last c last
      · rcases List.mem_append.mp member with inText | inRest
        · rw [plain c inText] at blank
          cases blank
        · rcases List.mem_cons.mp inRest with rfl | later
          · rfl
          · exact spaces c later blank

end Casefile.Text
