import Casefile.Proofs.Game.Keywords
import Casefile.Proofs.Text.Sigma

namespace Casefile.Words

/-!
A keyword that is written in a message as a whole word.

It is one of the words of the message in the form that it has in its place.  That is the form that
the keyword has alone, and the message mentions it, unless what is around the word sways a capital
sigma.
-/

variable {word before after : String}

theorem runs_around (isWord : IsWord word)
    (ends : Text.EndsApart (!Text.isWord ·) before.toList)
    (starts : Text.StartsApart (!Text.isWord ·) after.toList) :
    Text.runs (!Text.isWord ·) (Text.lowerChars (before ++ word ++ after).toList) =
      Text.runs (!Text.isWord ·)
          (Text.lowerBetween [] before.toList (word.toList ++ after.toList)) ++
        Text.lowerBetween before.toList.reverse word.toList after.toList ::
        Text.runs (!Text.isWord ·)
          (Text.lowerBetween (word.toList.reverse ++ before.toList.reverse) after.toList []) := by
  have plain := Text.isWord_lowerBetween isWord.2 before.toList.reverse after.toList
  have nonempty : word.toList ≠ [] := by simpa using isWord.1
  rw [Text.lowerChars, Text.lowerAfter_eq_between, String.toList_append, String.toList_append,
    Text.lowerBetween_append, Text.lowerBetween_append, List.append_nil, List.append_nil,
    Text.runs_apart (by simpa using plain) (Text.lowerBetween_ne_nil nonempty _ _)
      (Text.endsApart_lowerBetween ends _ _)]
  · simp
  · exact Text.startsApart_lowerBetween starts _ _

/-- The word, in lower case, stands in what is before it or after it in the message. -/
def StandsBeside (before word after : String) : Prop :=
  Text.IsRun (!Text.isWord ·)
    (Text.lowerBetween [] before.toList (word.toList ++ after.toList))
    (Text.lowerChars word.toList) ∨
  Text.IsRun (!Text.isWord ·)
    (Text.lowerBetween (word.toList.reverse ++ before.toList.reverse) after.toList [])
    (Text.lowerChars word.toList)

theorem mentions_around_iff (isWord : IsWord word)
    (ends : Text.EndsApart (!Text.isWord ·) before.toList)
    (starts : Text.StartsApart (!Text.isWord ·) after.toList) :
    (ofMessage (before ++ word ++ after)).mentionsAny [word] = true ↔
      ¬ Text.Sways before.toList word.toList after.toList ∨ StandsBeside before word after := by
  rw [mentionsAny, List.any_cons, List.any_nil, Bool.or_false, mentions_iff,
    runs_around isWord ends starts, List.mem_append, List.mem_cons, or_left_comm,
    Text.mem_runs_iff, Text.mem_runs_iff, ← Text.lowerBetween_eq_lowerChars_iff, StandsBeside,
    eq_comm]

/-- A keyword that is written in a message as a whole word is mentioned, if nothing around it sways
a capital sigma of it.  Where something does, the keyword is not read there, and it is mentioned
only if it stands elsewhere in the message too. -/
theorem whole_word_found (isWord : IsWord word)
    (ends : Text.EndsApart (!Text.isWord ·) before.toList)
    (starts : Text.StartsApart (!Text.isWord ·) after.toList) :
    (¬ Text.Sways before.toList word.toList after.toList →
      (ofMessage (before ++ word ++ after)).mentionsAny [word] = true) ∧
    (Text.Sways before.toList word.toList after.toList →
      ((ofMessage (before ++ word ++ after)).mentionsAny [word] = true ↔
        StandsBeside before word after)) := by
  have found := mentions_around_iff isWord ends starts
  constructor
  · intro unswayed
    exact found.mpr (.inl unswayed)
  · intro sways
    rw [found]
    simp [sways]

theorem whole_word_found_after_article :
    IsWord "ΟΔΟΣ" ∧ Text.EndsApart (!Text.isWord ·) "l'".toList ∧
    Text.StartsApart (!Text.isWord ·) "...".toList ∧
    ¬ Text.Sways "l'".toList "ΟΔΟΣ".toList "...".toList ∧
    (ofMessage ("l'" ++ "ΟΔΟΣ" ++ "...")).mentionsAny ["ΟΔΟΣ"] = true := by
  have isWord : IsWord "ΟΔΟΣ" := by decide +kernel
  have ends : Text.EndsApart (!Text.isWord ·) "l'".toList := by decide +kernel
  have starts : Text.StartsApart (!Text.isWord ·) "...".toList := by decide +kernel
  have unswayed : ¬ Text.Sways "l'".toList "ΟΔΟΣ".toList "...".toList := by decide +kernel
  exact ⟨isWord, ends, starts, unswayed, (whole_word_found isWord ends starts).1 unswayed⟩

/-- A full stop hides no letter after it, so before one the last sigma of a word is no final one. -/
theorem whole_word_missed :
    IsWord "ΟΔΟΣ" ∧ Text.EndsApart (!Text.isWord ·) "".toList ∧
    Text.StartsApart (!Text.isWord ·) ".ΑΘΗΝΑ".toList ∧
    (ofMessage ("" ++ "ΟΔΟΣ" ++ ".ΑΘΗΝΑ")).mentionsAny ["ΟΔΟΣ"] = false := by decide +kernel

end Casefile.Words
