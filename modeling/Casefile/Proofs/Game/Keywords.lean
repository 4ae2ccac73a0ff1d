import Casefile.Game.Keywords
import Casefile.Proofs.Data.Table
import Casefile.Proofs.Text.LowerCase
import Casefile.Proofs.Text.Runs

namespace Casefile

/-!
The words of a message, and which keywords it can mention.

The words are those that stand as a whole in the lower case of the message, and a keyword is
mentioned when it is, in lower case, one of them.  So a keyword that is no single word is never
mentioned, and a message that is made of keywords with spaces between them mentions them all.
-/

namespace Words

/-- A text that can be a word of a message: some word characters and nothing else. -/
def IsWord (text : String) : Prop :=
  text ≠ "" ∧ ∀ c ∈ text.toList, Text.isWord c = true

instance (text : String) : Decidable (IsWord text) :=
  decidable_of_iff (text ≠ "" ∧ text.toList.all Text.isWord = true)
    (and_congr_right' List.all_eq_true)

theorem contains_ofList (words : List String) (word : String) :
    (ofList words).contains word = true ↔ word ∈ words := by
  simp [ofList, Table.contains_ofList]

theorem mentions_iff (message keyword : String) :
    (ofMessage message).mentions keyword = true ↔
      Text.lowerChars keyword.toList ∈
        Text.runs (!Text.isWord ·) (Text.lowerChars message.toList) := by
  rw [mentions, ofMessage, contains_ofList, Text.lower]
  simp only [List.mem_map, String.ofList_inj, exists_eq_right]

/-- What is mentioned is a single word. -/
theorem isWord_of_mentions {message keyword : String}
    (mentioned : (ofMessage message).mentions keyword = true) : IsWord (Text.lower keyword) := by
  obtain ⟨nonempty, plain⟩ := Text.mem_runs ((mentions_iff message keyword).mp mentioned)
  constructor
  · simpa [Text.lower] using nonempty
  · simpa [Text.lower] using plain

/-- The word stands in the text, and no word character adjoins it there. -/
def StandsIn (word text : String) : Prop :=
  Text.IsRun (!Text.isWord ·) text.toList word.toList

theorem contains_ofMessage_iff (message word : String) :
    (ofMessage message).contains word = true ↔ StandsIn word (Text.lower message) := by
  rw [ofMessage, contains_ofList, StandsIn, ← Text.mem_runs_iff, Text.lower, String.toList_ofList]
  constructor
  · rintro listed
    obtain ⟨run, member, rfl⟩ := List.mem_map.mp listed
    rwa [String.toList_ofList]
  · intro member
    exact List.mem_map.mpr ⟨word.toList, member, String.ofList_toList⟩

/-- The words of a message are those of its lower case that stand there as a whole.  A message
mentions a keyword when the lower case of the keyword is one of them, which is never so for a
keyword whose lower case is no word. -/
theorem words_are_maximal (message : String) :
    (∀ word, (ofMessage message).contains word = true ↔ StandsIn word (Text.lower message)) ∧
    (∀ keywords, (ofMessage message).mentionsAny keywords = true ↔
      ∃ keyword ∈ keywords, StandsIn (Text.lower keyword) (Text.lower message)) ∧
    (∀ keywords, (ofMessage message).mentionsAll keywords = true ↔
      ∀ keyword ∈ keywords, StandsIn (Text.lower keyword) (Text.lower message)) ∧
    (∀ keyword, Text.lower keyword = "" ∨
        (∃ c ∈ (Text.lower keyword).toList, Text.isWord c = false) →
      (ofMessage message).mentions keyword = false) := by
  have words := contains_ofMessage_iff message
  refine ⟨words, fun keywords => ?_, fun keywords => ?_, fun keyword unsayable => ?_⟩
  · simp only [mentionsAny, List.any_eq_true, mentions, words]
  · simp only [mentionsAll, List.all_eq_true, mentions, words]
  · refine Bool.eq_false_iff.mpr fun mentioned => ?_
    obtain ⟨nonempty, plain⟩ := isWord_of_mentions mentioned
    rcases unsayable with empty | ⟨c, member, noWord⟩
    · exact nonempty empty
    · simp [plain c member] at noWord

theorem words_are_maximal_alibi :
    StandsIn "alibi" (Text.lower "Un ALIBI, o due?") ∧
    (ofMessage "Nel centro storico").mentions "centro storico" = false :=
  ⟨((words_are_maximal _).1 _).mp (by decide +kernel),
    (words_are_maximal _).2.2.2 _ (.inr ⟨' ', by decide, Text.not_isWord_of_blank (by decide)⟩)⟩

/-- A message of texts with spaces between them is cut as each of the texts is. -/
theorem runs_joined (texts : List String) :
    Text.runs (!Text.isWord ·) (Text.lowerChars (" ".intercalate texts).toList) =
      texts.flatMap fun text => Text.runs (!Text.isWord ·) (Text.lowerChars text.toList) := by
  have apart : Text.isWord ' ' = false := Text.not_isWord_of_blank (by decide)
  have spelled : (" ".intercalate texts).toList = [' '].intercalate (texts.map String.toList) :=
    String.toList_intercalate
  have cut := @Text.runs_joined (!Text.isWord ·) ' ' (by simp [apart])
  rw [spelled, Text.lowerChars_joined, cut, List.map_map, List.flatMap_map]
  rfl

theorem contains_joined_iff (texts : List String) (word : String) :
    (ofMessage (" ".intercalate texts)).contains word = true ↔
      ∃ text ∈ texts, (ofMessage text).contains word = true := by
  simp only [ofMessage, contains_ofList, runs_joined, List.map_flatMap, List.mem_flatMap]

theorem mentions_joined_iff (texts : List String) (keyword : String) :
    (ofMessage (" ".intercalate texts)).mentions keyword = true ↔
      ∃ text ∈ texts, (ofMessage text).mentions keyword = true :=
  contains_joined_iff texts (Text.lower keyword)

theorem mentionsAll_joined {keywords : List String}
    (words : ∀ keyword ∈ keywords, IsWord (Text.lower keyword)) :
    (ofMessage (" ".intercalate keywords)).mentionsAll keywords = true := by
  refine List.all_eq_true.mpr fun keyword member => ?_
  obtain ⟨nonempty, plain⟩ := words keyword member
  rw [mentions_joined_iff]
  refine ⟨keyword, member, (mentions_iff keyword keyword).mpr ?_⟩
  rw [Text.runs_unseparated (by simpa [Text.lower] using plain)
    (by simpa [Text.lower] using nonempty)]
  exact List.mem_singleton_self _

end Words

end Casefile
