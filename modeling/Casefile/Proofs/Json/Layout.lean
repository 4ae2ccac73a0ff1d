import Casefile.Proofs.Json.Lexing

namespace Casefile

@[elab_as_elim]
theorem Json.nestedInduction {motive : Json → Prop} (null : motive .null)
    (bool : ∀ value, motive (.bool value)) (int : ∀ value, motive (.int value))
    (real : ∀ spelling, motive (.real spelling)) (text : ∀ literal, motive (.text literal))
    (array : ∀ items, (∀ item ∈ items, motive item) → motive (.array items))
    (object : ∀ members, (∀ member ∈ members, motive member.2) → motive (.object members))
    (value : Json) : motive value := by
  refine @Json.rec motive (fun items => ∀ item ∈ items, motive item)
    (fun members => ∀ member ∈ members, motive member.2) (fun member => motive member.2)
    null bool int real text array object ?_ ?_ ?_ ?_ ?_ value
  · exact fun _ member => nomatch member
  · exact fun _ _ first others => List.forall_mem_cons.mpr ⟨first, others⟩
  · exact fun _ member => nomatch member
  · exact fun _ _ first others => List.forall_mem_cons.mpr ⟨first, others⟩
  · exact fun _ _ inner => inner

namespace Json

/-!
The tokens of a value and the blanks between them.

`tokens` does not depend on the blanks, and a text that puts any blanks in front of them is cut
into just these tokens: every whole number in a value is followed by a comma or a bracket.
-/

def itemTokens (items : List Json) : List Token := items.flatMap fun item => .comma :: item.tokens

def memberTokens (members : List (Literal × Json)) : List Token :=
  members.flatMap fun member => .comma :: .text member.1 :: .colon :: member.2.tokens

theorem itemTokens_cons (item : Json) (items : List Json) :
    itemTokens (item :: items) = .comma :: (item.tokens ++ itemTokens items) := rfl

theorem memberTokens_cons (member : Literal × Json) (members : List (Literal × Json)) :
    memberTokens (member :: members) =
      .comma :: .text member.1 :: .colon :: (member.2.tokens ++ memberTokens members) := rfl

theorem map_spacedItems {items : List Json}
    (each : ∀ item ∈ items, ∀ depth gap, (spaced depth gap item).map (·.2) = item.tokens)
    (depth : Nat) : (spacedItems depth items).map (·.2) = itemTokens items := by
  induction items with
  | nil => rfl
  | cons item items ih =>
      simp only [spacedItems, itemTokens_cons, List.map_cons, List.map_append,
        each item (by simp), ih fun other member => each other (by simp [member])]

theorem map_spacedMembers {members : List (Literal × Json)}
    (each : ∀ member ∈ members, ∀ depth gap,
      (spaced depth gap member.2).map (·.2) = member.2.tokens)
    (depth : Nat) : (spacedMembers depth members).map (·.2) = memberTokens members := by
  induction members with
  | nil => rfl
  | cons member members ih =>
      simp only [spacedMembers, memberTokens_cons, List.map_cons, List.map_append,
        each member (by simp), ih fun other inside => each other (by simp [inside])]

theorem map_spaced (value : Json) :
    ∀ depth gap, (spaced depth gap value).map (·.2) = value.tokens := by
  induction value using nestedInduction with
  | null | bool | int | real | text => intros; rfl
  | array items ih =>
      intro depth gap
      cases items with
      | nil => rfl
      | cons item items =>
          have rest := map_spacedItems fun other member => ih other (List.mem_cons_of_mem _ member)
          rw [tokens]
          simp only [spaced, List.map_cons, List.map_append, rest, ih item (by simp)]
  | object members ih =>
      intro depth gap
      cases members with
      | nil => rfl
      | cons member members =>
          have rest := map_spacedMembers fun other inside => ih other (List.mem_cons_of_mem _ inside)
          rw [tokens]
          simp only [spaced, List.map_cons, List.map_append, rest, ih member (by simp)]

theorem tokens_array_cons (item : Json) (items : List Json) :
    (Json.array (item :: items)).tokens =
      .openArray :: (item.tokens ++ (itemTokens items ++ [.closeArray])) := by
  rw [tokens]
  simp only [spaced, List.map_cons, List.map_append, map_spaced,
    map_spacedItems fun item _ => map_spaced item, List.map_nil]

theorem tokens_object_cons (member : Literal × Json) (members : List (Literal × Json)) :
    (Json.object (member :: members)).tokens =
      .openObject :: .text member.1 :: .colon
        :: (member.2.tokens ++ (memberTokens members ++ [.closeObject])) := by
  rw [tokens]
  simp only [spaced, List.map_cons, List.map_append, map_spaced,
    map_spacedMembers fun member _ => map_spaced member.2, List.map_nil]

/-! A token after a whole number must be one that no number goes on with. -/

/-- Whether a token can follow a value that is inside another one. -/
def Token.EndsValue : Token → Prop
  | .comma | .closeArray | .closeObject => True
  | _ => False

/-- Every whole number is followed by a token that ends a value, or by nothing. -/
def Separated : List Token → Prop
  | [] | [_] => True
  | first :: second :: rest => (first.IsInt → second.EndsValue) ∧ Separated (second :: rest)

theorem separated_cons {token : Token} (notInt : ¬ token.IsInt) {rest : List Token}
    (separated : Separated rest) : Separated (token :: rest) := by
  cases rest with
  | nil => trivial
  | cons => exact ⟨fun isInt => absurd isInt notInt, separated⟩

theorem separated_int (value : Int) {rest : List Token}
    (ends : ∀ token ∈ rest.head?, token.EndsValue) (separated : Separated rest) :
    Separated (.int value :: rest) := by
  cases rest with
  | nil => trivial
  | cons token _ => exact ⟨fun _ => ends token rfl, separated⟩

theorem separated_itemTokens {items : List Json} (rest : List Token)
    (each : ∀ item ∈ items, ∀ rest, (∀ token ∈ rest.head?, token.EndsValue) →
      Separated rest → Separated (item.tokens ++ rest))
    (ends : ∀ token ∈ rest.head?, token.EndsValue) (separated : Separated rest) :
    Separated (itemTokens items ++ rest) ∧
      ∀ token ∈ (itemTokens items ++ rest).head?, token.EndsValue := by
  induction items with
  | nil => exact ⟨separated, ends⟩
  | cons item items ih =>
      obtain ⟨others, follow⟩ := ih fun other member => each other (by simp [member])
      simp only [itemTokens_cons, List.cons_append, List.append_assoc]
      refine ⟨separated_cons id (each item (by simp) _ follow others), ?_⟩
      rintro _ ⟨⟩
      trivial

theorem separated_memberTokens {members : List (Literal × Json)} (rest : List Token)
    (each : ∀ member ∈ members, ∀ rest, (∀ token ∈ rest.head?, token.EndsValue) →
      Separated rest → Separated (member.2.tokens ++ rest))
    (ends : ∀ token ∈ rest.head?, token.EndsValue) (separated : Separated rest) :
    Separated (memberTokens members ++ rest) ∧
      ∀ token ∈ (memberTokens members ++ rest).head?, token.EndsValue := by
  induction members with
  | nil => exact ⟨separated, ends⟩
  | cons member members ih =>
      obtain ⟨others, follow⟩ := ih fun other inside => each other (by simp [inside])
      simp only [memberTokens_cons, List.cons_append, List.append_assoc]
      refine ⟨separated_cons id (separated_cons id (separated_cons id
        (each member (by simp) _ follow others))), ?_⟩
      rintro _ ⟨⟩
      trivial

theorem separated_tokens (value : Json) : ∀ rest : List Token,
    (∀ token ∈ rest.head?, token.EndsValue) → Separated rest →
      Separated (value.tokens ++ rest) := by
  induction value using nestedInduction with
  | null | bool | real | text => exact fun _ _ separated => separated_cons id separated
  | int value => exact fun _ ends separated => separated_int value ends separated
  | array items ih =>
      intro rest ends separated
      cases items with
      | nil => exact separated_cons id (separated_cons id separated)
      | cons item items =>
          have closing : Separated (.closeArray :: rest) := separated_cons id separated
          obtain ⟨others, follow⟩ := separated_itemTokens (.closeArray :: rest)
            (fun other member => ih other (List.mem_cons_of_mem _ member))
            (by rintro _ ⟨⟩; trivial) closing
          rw [tokens_array_cons]
          simp only [List.cons_append, List.append_assoc, List.nil_append]
          exact separated_cons id (ih item (by simp) _ follow others)
  | object members ih =>
      intro rest ends separated
      cases members with
      | nil => exact separated_cons id (separated_cons id separated)
      | cons member members =>
          have closing : Separated (.closeObject :: rest) := separated_cons id separated
          obtain ⟨others, follow⟩ := separated_memberTokens (.closeObject :: rest)
            (fun other inside => ih other (List.mem_cons_of_mem _ inside))
            (by rintro _ ⟨⟩; trivial) closing
          rw [tokens_object_cons]
          simp only [List.cons_append, List.append_assoc, List.nil_append]
          exact separated_cons id (separated_cons id (separated_cons id
            (ih member (by simp) _ follow others)))

/-! A layout puts blanks in front of each token. -/

def BlankGap (piece : Spaced) : Prop := ∀ c ∈ piece.1, isGap c

def layout (written : List Spaced) : List Char :=
  written.flatMap fun (gap, token) => gap ++ token.spelling

theorem EndsNumber.after_gap {gap rest : List Char} (blank : ∀ c ∈ gap, isGap c)
    (ends : EndsNumber rest) : EndsNumber (gap ++ rest) := by
  intro c first
  cases gap with
  | nil => exact ends c first
  | cons start gap =>
      cases first
      have isBlank := blank c List.mem_cons_self
      simp only [isGap, Bool.or_eq_true, decide_eq_true_eq] at isBlank
      rcases isBlank with ((rfl | rfl) | rfl) | rfl <;> decide

theorem layout_endsNumber {written : List Spaced}
    (blank : ∀ piece ∈ written, BlankGap piece)
    (ends : ∀ token ∈ (written.map (·.2)).head?, token.EndsValue) :
    EndsNumber (layout written) := by
  cases written with
  | nil => exact fun _ first => nomatch first
  | cons piece rest =>
      have closes := ends piece.2 rfl
      have spelled : EndsNumber (piece.2.spelling ++ layout rest) := by
        intro c first
        cases token : piece.2 with
        | comma | closeArray | closeObject =>
            rw [token] at first
            cases first
            decide
        | _ =>
            rw [token] at closes
            exact closes.elim
      rw [layout, List.flatMap_cons, List.append_assoc]
      exact spelled.after_gap (blank piece List.mem_cons_self)

/-- A layout is cut into its tokens, whatever blanks it has. -/
theorem lex_layout {written : List Spaced}
    (blank : ∀ piece ∈ written, BlankGap piece)
    (writable : ∀ piece ∈ written, piece.2.Writable) (separated : Separated (written.map (·.2))) :
    lex (layout written) = some (written.map (·.2)) := by
  induction written with
  | nil => rw [layout, List.flatMap_nil, lex]; rfl
  | cons piece rest ih =>
      have blankRest : ∀ other ∈ rest, BlankGap other :=
        fun other member => blank other (List.mem_cons_of_mem _ member)
      have remaining : Separated (rest.map (·.2)) ∧
          (piece.2.IsInt → ∀ token ∈ (rest.map (·.2)).head?, token.EndsValue) := by
        cases rest with
        | nil => exact ⟨trivial, fun _ => by simp⟩
        | cons second rest => exact ⟨separated.2, fun isInt => by
            rintro _ ⟨⟩
            exact separated.1 isInt⟩
      have read := lex_token (blank piece (by simp)) (writable piece (by simp))
        fun isInt => layout_endsNumber blankRest (remaining.2 isInt)
      have others := ih blankRest (fun other member => writable other (by simp [member]))
        remaining.1
      rw [others] at read
      exact read

/-! The gaps of an indented text are blanks. -/

theorem blank_nothing (token : Token) : BlankGap ([], token) :=
  fun _ inside => absurd inside List.not_mem_nil

theorem blank_newline (depth : Nat) : ∀ c ∈ newline depth, isGap c := by
  intro c member
  rcases List.mem_cons.mp member with rfl | space
  · rfl
  · obtain ⟨_, rfl⟩ := List.mem_replicate.mp space
    rfl

theorem blank_spacedItems {items : List Json} {depth : Nat}
    (each : ∀ item ∈ items, ∀ piece ∈ spaced depth (newline depth) item, BlankGap piece) :
    ∀ piece ∈ spacedItems depth items, BlankGap piece := by
  induction items with
  | nil => exact fun _ member => nomatch member
  | cons item items ih =>
      intro piece member
      simp only [spacedItems, List.mem_cons, List.mem_append] at member
      rcases member with rfl | inItem | inRest
      · exact blank_nothing _
      · exact each item (by simp) piece inItem
      · exact ih (fun other later => each other (by simp [later])) piece inRest

theorem blank_spacedMembers {members : List (Literal × Json)} {depth : Nat}
    (each : ∀ member ∈ members, ∀ piece ∈ spaced depth [' '] member.2, BlankGap piece) :
    ∀ piece ∈ spacedMembers depth members, BlankGap piece := by
  induction members with
  | nil => exact fun _ member => nomatch member
  | cons first members ih =>
      intro piece member
      simp only [spacedMembers, List.mem_cons, List.mem_append] at member
      rcases member with rfl | rfl | rfl | inValue | inRest
      · exact blank_nothing _
      · exact blank_newline depth
      · exact blank_nothing _
      · exact each first (by simp) piece inValue
      · exact ih (fun other later => each other (by simp [later])) piece inRest

theorem blank_spaced (value : Json) : ∀ depth gap, (∀ c ∈ gap, isGap c) →
    ∀ piece ∈ spaced depth gap value, BlankGap piece := by
  induction value using nestedInduction with
  | null | bool | int | real | text =>
      intro depth gap blank piece member
      rw [List.mem_singleton.mp member]
      exact blank
  | array items ih =>
      intro depth gap blank piece member
      cases items with
      | nil =>
          rcases List.mem_cons.mp member with rfl | closing
          · exact blank
          · rw [List.mem_singleton.mp closing]
            exact blank_nothing _
      | cons item items =>
          simp only [spaced, List.mem_cons, List.mem_append, List.not_mem_nil, or_false] at member
          rcases member with rfl | inItem | inRest | rfl
          · exact blank
          · exact ih item (by simp) _ _ (blank_newline _) piece inItem
          · exact blank_spacedItems
              (fun other later => ih other (by simp [later]) _ _ (blank_newline _)) piece inRest
          · exact blank_newline depth
  | object members ih =>
      intro depth gap blank piece member
      cases members with
      | nil =>
          rcases List.mem_cons.mp member with rfl | closing
          · exact blank
          · rw [List.mem_singleton.mp closing]
            exact blank_nothing _
      | cons first members =>
          have space : ∀ c ∈ [' '], isGap c := by
            intro c member
            rw [List.mem_singleton.mp member]
            rfl
          simp only [spaced, List.mem_cons, List.mem_append, List.not_mem_nil, or_false] at member
          rcases member with rfl | rfl | rfl | inValue | inRest | rfl
          · exact blank
          · exact blank_newline (depth + 1)
          · exact blank_nothing _
          · exact ih first (by simp) _ _ space piece inValue
          · exact blank_spacedMembers
              (fun other later => ih other (by simp [later]) _ _ space) piece inRest
          · exact blank_newline depth

end Json

end Casefile
