import Casefile.Proofs.Game.Edits

namespace Casefile

/-!
The key of a puzzle tells its contact and its turn: the turn is what follows the last underscore.

So two puzzles have two keys, also where the name of a contact looks like a key itself, and what is
done to the record of one of them is not seen in the record of the other.
-/

theorem Turn.no_underscore (turn : Turn) : ∀ c ∈ turn.text.toList, c ≠ '_' := by
  rintro c member rfl
  exact absurd (turn.isDigit_text '_' member) (by decide)

theorem Turn.text_injective {turn other : Turn} (same : turn.text = other.text) : turn = other := by
  have numbers : turn.number = other.number := UInt32.toNat.inj (Text.decimal_injective same)
  cases turn
  cases other
  exact congrArg Turn.mk numbers

namespace StatusKey

/-- What stands before the last underscore of a key, and what stands after it. -/
def parts (key : StatusKey) : List Char × List Char :=
  let backward := key.text.toList.reverse
  ((backward.dropWhile (· ≠ '_')).tail.reverse, (backward.takeWhile (· ≠ '_')).reverse)

theorem parts_of (contact : ContactId) (turn : Turn) :
    (StatusKey.of contact turn).parts = (contact.text.toList, turn.text.toList) := by
  have backward : (StatusKey.of contact turn).text.toList.reverse =
      turn.text.toList.reverse ++ '_' :: contact.text.toList.reverse := by
    simp [StatusKey.of]
  have plain : ∀ c ∈ turn.text.toList.reverse, decide (c ≠ '_') = true := by
    simpa using turn.no_underscore
  rw [parts, backward, List.takeWhile_append_of_pos plain, List.dropWhile_append_of_pos plain]
  simp

theorem parts_of_eq {contact other : ContactId} {turn another : Turn}
    (same : StatusKey.of contact turn = StatusKey.of other another) :
    contact = other ∧ turn = another := by
  have parts := congrArg StatusKey.parts same
  rw [parts_of, parts_of] at parts
  obtain ⟨contacts, turns⟩ := Prod.mk.inj parts
  constructor
  · cases contact
    cases other
    exact congrArg ContactId.mk (String.toList_injective contacts)
  · exact Turn.text_injective (String.toList_injective turns)

/-- Keys never collide.  Two keys are the same for the same contact and the same turn alone, and a
change of the record of one puzzle leaves the records of all others as they are. -/
theorem never_collide (contact other : ContactId) (turn another : Turn) :
    (StatusKey.of contact turn = .of other another ↔ contact = other ∧ turn = another) ∧
    ∀ (state : GameState) (change : Progress → Progress),
      (state.revise (.of contact turn) change).progress? (.of other another) =
        if other = contact ∧ another = turn then
          some (change (state.progressOf (.of contact turn)))
        else state.progress? (.of other another) := by
  refine ⟨⟨parts_of_eq, ?_⟩, fun state change => ?_⟩
  · rintro ⟨rfl, rfl⟩
    rfl
  · rw [GameState.progress?_revise]
    by_cases here : other = contact ∧ another = turn
    · obtain ⟨rfl, rfl⟩ := here
      rw [if_pos rfl, if_pos ⟨rfl, rfl⟩]
    · rw [if_neg fun same => here (parts_of_eq same), if_neg here]

end StatusKey

end Casefile
