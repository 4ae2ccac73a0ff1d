import Casefile.Text.Blank

namespace Casefile.Text

/-!
A text is cut at each of its separators, and what is on both sides of one is cut on its own.  So the
runs of a text are the stretches without separators that nothing but separators adjoins.
-/

variable {isSeparator : Char → Bool} {separator : Char} {run cs : List Char}

theorem pieces_ne_nil (cs : List Char) : pieces isSeparator cs ≠ [] := by
  cases cs with
  | nil => exact List.cons_ne_nil _ _
  | cons c rest =>
      unfold pieces
      split
      · exact List.cons_ne_nil _ _
      · split <;> exact List.cons_ne_nil _ _

theorem pieces_unseparated (plain : ∀ c ∈ run, isSeparator c = false) :
    pieces isSeparator run = [run] := by
  induction run with
  | nil => rfl
  | cons c run ih =>
      have rest := ih fun other member => plain other (List.mem_cons_of_mem _ member)
      simp [pieces, rest, plain c (List.mem_cons_self ..)]

theorem pieces_append (separates : isSeparator separator = true) (before after : List Char) :
    pieces isSeparator (before ++ separator :: after) =
      pieces isSeparator before ++ pieces isSeparator after := by
  induction before with
  | nil =>
      cases rest : pieces isSeparator after with
      | nil => exact absurd rest (pieces_ne_nil after)
      | cons piece others => simp [pieces, rest, separates]
  | cons c before ih =>
      rw [List.cons_append]
      cases first : pieces isSeparator before with
      | nil => exact absurd first (pieces_ne_nil before)
      | cons piece others =>
          rw [first] at ih
          simp only [pieces, first, ih, List.cons_append]
          split <;> rfl

theorem runs_append (separates : isSeparator separator = true) (before after : List Char) :
    runs isSeparator (before ++ separator :: after) =
      runs isSeparator before ++ runs isSeparator after := by
  rw [runs, pieces_append separates, List.filter_append, runs, runs]

theorem runs_unseparated (plain : ∀ c ∈ run, isSeparator c = false) (nonempty : run ≠ []) :
    runs isSeparator run = [run] := by
  simp [runs, pieces_unseparated plain, nonempty]

/-- Texts with a separator between any two are cut on their own. -/
theorem runs_joined (separates : isSeparator separator = true) (texts : List (List Char)) :
    runs isSeparator ([separator].intercalate texts) = texts.flatMap (runs isSeparator) := by
  match texts with
  | [] => rfl
  | [text] => simp
  | first :: second :: rest =>
      rw [List.intercalate_cons_cons, List.append_assoc, List.singleton_append,
        runs_append separates, runs_joined separates (second :: rest)]
      rfl

/-- No character but a separator adjoins what comes after the text. -/
def EndsApart (isSeparator : Char → Bool) (before : List Char) : Prop :=
  ∀ c ∈ before.getLast?, isSeparator c = true

/-- No character but a separator adjoins what comes before the text. -/
def StartsApart (isSeparator : Char → Bool) (after : List Char) : Prop :=
  ∀ c ∈ after.head?, isSeparator c = true

instance (before : List Char) : Decidable (EndsApart isSeparator before) :=
  decidable_of_iff (before.getLast?.all isSeparator = true) (by
    simp [EndsApart, Option.all_eq_true])

instance (after : List Char) : Decidable (StartsApart isSeparator after) :=
  decidable_of_iff (after.head?.all isSeparator = true) (by
    simp [StartsApart, Option.all_eq_true])

theorem runs_append_of_ends {before : List Char} (ends : EndsApart isSeparator before)
    (cs : List Char) :
    runs isSeparator (before ++ cs) = runs isSeparator before ++ runs isSeparator cs := by
  rcases List.eq_nil_or_concat before with rfl | ⟨rest, separator, rfl⟩
  · rfl
  · have separates : isSeparator separator = true := ends separator (by simp)
    have alone := runs_append separates rest []
    rw [List.concat_eq_append, List.append_assoc, List.singleton_append, runs_append separates,
      alone]
    simp [runs, pieces]

theorem runs_append_of_starts {after : List Char} (starts : StartsApart isSeparator after)
    (cs : List Char) :
    runs isSeparator (cs ++ after) = runs isSeparator cs ++ runs isSeparator after := by
  cases after with
  | nil => simp [runs, pieces]
  | cons separator rest =>
      have separates : isSeparator separator = true := starts separator rfl
      have alone := runs_append separates [] rest
      rw [List.nil_append] at alone
      rw [runs_append separates, alone]
      simp [runs, pieces]

/-- A stretch of the text without separators, as long as it can be. -/
structure IsRun (isSeparator : Char → Bool) (cs run : List Char) : Prop where
  nonempty : run ≠ []
  plain : ∀ c ∈ run, isSeparator c = false
  apart : ∃ before after, cs = before ++ run ++ after ∧
    EndsApart isSeparator before ∧ StartsApart isSeparator after

theorem runs_apart {before after : List Char} (plain : ∀ c ∈ run, isSeparator c = false)
    (nonempty : run ≠ []) (ends : EndsApart isSeparator before)
    (starts : StartsApart isSeparator after) :
    runs isSeparator (before ++ run ++ after) =
      runs isSeparator before ++ run :: runs isSeparator after := by
  rw [runs_append_of_starts starts, runs_append_of_ends ends, runs_unseparated plain nonempty,
    List.append_assoc, List.singleton_append]

theorem plain_of_mem_pieces (member : run ∈ pieces isSeparator cs) :
    ∀ c ∈ run, isSeparator c = false := by
  induction cs generalizing run with
  | nil =>
      have empty : run = [] := by simpa [pieces] using member
      simp [empty]
  | cons c cs ih =>
      cases rest : pieces isSeparator cs with
      | nil => exact absurd rest (pieces_ne_nil cs)
      | cons piece others =>
          rw [rest] at ih
          simp only [pieces, rest] at member
          split at member
          next =>
            rcases List.mem_cons.mp member with rfl | later
            · exact List.forall_mem_nil _
            · exact ih later
          next here =>
            rcases List.mem_cons.mp member with rfl | later
            · exact List.forall_mem_cons.mpr
                ⟨by simpa using here, ih (List.mem_cons_self ..)⟩
            · exact ih (List.mem_cons_of_mem _ later)

/-- A run is not empty and holds no separator. -/
theorem mem_runs (member : run ∈ runs isSeparator cs) :
    run ≠ [] ∧ ∀ c ∈ run, isSeparator c = false := by
  obtain ⟨piece, nonempty⟩ := List.mem_filter.mp member
  exact ⟨by simpa using nonempty, plain_of_mem_pieces piece⟩

/-- Cut at any separator, a text has a run on one side of it, and there the run lies apart. -/
theorem apart_of_mem_runs {cs : List Char} (member : run ∈ runs isSeparator cs) :
    ∃ before after, cs = before ++ run ++ after ∧
      EndsApart isSeparator before ∧ StartsApart isSeparator after := by
  by_cases separated : ∃ separator ∈ cs, isSeparator separator = true
  · obtain ⟨separator, inside, separates⟩ := separated
    obtain ⟨first, second, rfl⟩ := List.append_of_mem inside
    rw [runs_append separates] at member
    rcases List.mem_append.mp member with early | late
    · obtain ⟨before, after, rfl, ends, starts⟩ := apart_of_mem_runs early
      refine ⟨before, after ++ separator :: second, by simp, ends, fun c head => ?_⟩
      cases after with
      | nil =>
          obtain rfl : separator = c := by simpa using head
          exact separates
      | cons d after => exact starts c head
    · obtain ⟨before, after, rfl, ends, starts⟩ := apart_of_mem_runs late
      refine ⟨first ++ separator :: before, after, by simp, fun c last => ?_, starts⟩
      rcases List.eq_nil_or_concat before with rfl | ⟨rest, d, rfl⟩
      · obtain rfl : separator = c := by simpa using last
        exact separates
      · rw [List.concat_eq_append, ← List.cons_append, ← List.append_assoc,
          List.getLast?_concat] at last
        exact ends c (by simpa using last)
  · have plain : ∀ c ∈ cs, isSeparator c = false := by
      simpa using separated
    have whole : run = cs := by
      rw [runs, pieces_unseparated plain] at member
      exact List.mem_singleton.mp (List.mem_filter.mp member).1
    exact ⟨[], [], by simp [whole], by simp [EndsApart], by simp [StartsApart]⟩
termination_by cs.length

theorem mem_runs_iff : run ∈ runs isSeparator cs ↔ IsRun isSeparator cs run := by
  constructor
  · intro member
    obtain ⟨nonempty, plain⟩ := mem_runs member
    exact ⟨nonempty, plain, apart_of_mem_runs member⟩
  · rintro ⟨nonempty, plain, before, after, rfl, ends, starts⟩
    rw [runs_apart plain nonempty ends starts]
    exact List.mem_append_right _ (List.mem_cons_self ..)

end Casefile.Text
