import Casefile.Settings.Division
import Mathlib.Data.List.TakeWhile

namespace Casefile.Template

/-!
A template is divided in one way only, and it is expanded part by part.
-/

variable {cs name rest text : List Char} {c : Char} {part : Part} {parts : List Part}

theorem spelled_cons (part : Part) (parts : List Part) :
    spelled (part :: parts) = part.spelling ++ spelled parts := List.flatMap_cons

/-! What `cut` makes of the start of a text. -/

theorem cut_plain (plain : ¬ opening <+: c :: cs) : cut (c :: cs) = .plain c :: cut cs := by
  rw [cut]
  rintro rest rfl rfl
  exact plain ⟨rest, rfl⟩

theorem ne_brace_of_unclosed (unclosed : '}' ∉ cs) : ∀ c ∈ cs, decide (c ≠ '}') = true :=
  fun _ member => decide_eq_true fun same => unclosed (same ▸ member)

theorem cut_closed (unclosed : '}' ∉ name) (cs : List Char) :
    cut (opening ++ (name ++ '}' :: cs)) = .hole name :: cut cs := by
  have inside := ne_brace_of_unclosed unclosed
  have after : (name ++ '}' :: cs).dropWhile (· ≠ '}') = '}' :: cs := by
    rw [List.dropWhile_append_of_pos inside]
    rfl
  have before : (name ++ '}' :: cs).takeWhile (· ≠ '}') = name := by
    rw [List.takeWhile_append_of_pos inside]
    simp
  rw [opening, List.cons_append, List.singleton_append, cut]
  split
  next none => cases none.symm.trans after
  next found =>
    obtain ⟨rfl, rfl⟩ := List.cons.inj (found.symm.trans after)
    rw [before]

theorem cut_unclosed (unclosed : '}' ∉ rest) : cut (opening ++ rest) = [.unclosed rest] := by
  have none : rest.dropWhile (· ≠ '}') = [] :=
    List.dropWhile_eq_nil_iff.mpr (ne_brace_of_unclosed unclosed)
  rw [opening, List.cons_append, List.singleton_append, cut]
  split
  next => rfl
  next found => cases found.symm.trans none

theorem cut_literal {after : List Char}
    (inside : ∀ late, late <:+ text → late ≠ [] → ¬ opening <+: late ++ after) :
    cut (text ++ after) = text.map .plain ++ cut after := by
  induction text with
  | nil => rfl
  | cons c text ih =>
      have plain : ¬ opening <+: c :: (text ++ after) :=
        inside (c :: text) (List.suffix_refl _) (List.cons_ne_nil c text)
      rw [List.cons_append, cut_plain plain, ih fun late within =>
        inside late (within.trans (List.suffix_cons c text))]
      rfl

theorem cut_of_fit (fit : AllFit parts) : cut (spelled parts) = parts.flatMap Part.pieces := by
  induction parts with
  | nil => rw [spelled, List.flatMap_nil, cut, List.flatMap_nil]
  | cons part after ih =>
      obtain ⟨fits, rest⟩ := fit
      rw [spelled_cons, List.flatMap_cons, ← ih rest]
      cases part with
      | literal text => exact cut_literal fits.2.2
      | named name =>
          rw [Part.spelling, List.append_assoc, List.append_assoc]
          exact cut_closed fits.2 (spelled after)
      | nameless =>
          rw [Part.spelling, List.append_assoc]
          exact cut_closed List.not_mem_nil (spelled after)
      | unclosed rest =>
          obtain ⟨unclosed, rfl⟩ := fits
          simpa [Part.spelling, Part.pieces, spelled, cut] using cut_unclosed unclosed

/-! The parts that pieces make. -/

theorem gather_plain (c : Char) (pieces : List Piece) :
    spelled (gather (.plain c :: pieces)) = c :: spelled (gather pieces) := by
  rw [gather]
  split
  next made => rw [made, spelled_cons, spelled_cons]; rfl
  next => rw [spelled_cons]; rfl

/-- A character that starts no opening goes before a division, into its first literal if it has one
there. -/
theorem AllFit.gather_plain {pieces : List Piece} (fit : AllFit (gather pieces))
    (plain : ¬ opening <+: c :: spelled (gather pieces)) :
    AllFit (gather (.plain c :: pieces)) := by
  rw [gather]
  split
  next text later made =>
    rw [made] at fit plain
    obtain ⟨⟨_, apart, inside⟩, rest⟩ := fit
    refine ⟨⟨List.cons_ne_nil c text, apart, fun late within nonempty => ?_⟩, rest⟩
    rcases List.suffix_cons_iff.mp within with rfl | shorter
    · exact plain
    · exact inside late shorter nonempty
  next others notLiteral =>
    refine ⟨⟨List.cons_ne_nil c [], fun follower first => ?_, fun late within nonempty => ?_⟩, fit⟩
    · cases follower with
      | literal text =>
          obtain ⟨later, made⟩ := List.head?_eq_some_iff.mp first
          exact (notLiteral text later made).elim
      | named _ | nameless | unclosed _ => rfl
    · rcases List.suffix_cons_iff.mp within with rfl | shorter
      · exact plain
      · exact absurd (List.suffix_nil.mp shorter) nonempty

/-- A name goes on until the first brace that closes it. -/
theorem takeWhile_of_closed {brace : Char} {after : List Char}
    (found : rest.dropWhile (· ≠ '}') = brace :: after) :
    '}' ∉ rest.takeWhile (· ≠ '}') ∧ rest.takeWhile (· ≠ '}') ++ '}' :: after = rest := by
  have closes : brace = '}' := by
    have stops := List.head?_dropWhile_not (· ≠ '}') rest
    rw [found] at stops
    simpa using stops
  subst closes
  constructor
  · intro member
    simpa using List.mem_takeWhile_imp member
  · rw [← found, List.takeWhile_append_dropWhile]

theorem divides_gather (cs : List Char) : Divides cs (gather (cut cs)) := by
  fun_induction cut cs with
  | case1 => exact ⟨rfl, trivial⟩
  | case2 rest none =>
      have unclosed : '}' ∉ rest := fun member => by
        simpa using List.dropWhile_eq_nil_iff.mp none '}' member
      exact ⟨by simp [gather, spelled, Part.spelling, opening], ⟨unclosed, rfl⟩, trivial⟩
  | case3 rest brace after found ih =>
      obtain ⟨unclosed, halves⟩ := takeWhile_of_closed found
      generalize rest.takeWhile (· ≠ '}') = name at unclosed halves ⊢
      subst halves
      cases name with
      | nil =>
          refine ⟨?_, trivial, ih.fit⟩
          simp [gather, spelled_cons, Part.spelling, opening, ih.whole]
      | cons c name =>
          refine ⟨?_, ⟨List.cons_ne_nil c name, unclosed⟩, ih.fit⟩
          simp [gather, spelled_cons, Part.spelling, opening, ih.whole]
  | case4 c rest plain ih =>
      refine ⟨by rw [Template.gather_plain, ih.whole], ih.fit.gather_plain ?_⟩
      rw [ih.whole]
      rintro ⟨later, same⟩
      cases same
      exact plain _ rfl rfl

theorem gather_literal {pieces : List Piece} (nonempty : text ≠ [])
    (apart : ∀ part ∈ (gather pieces).head?, part.isLiteral = false) :
    gather (text.map .plain ++ pieces) = .literal text :: gather pieces := by
  induction text with
  | nil => exact absurd rfl nonempty
  | cons c text ih =>
      rw [List.map_cons, List.cons_append, gather]
      cases text with
      | nil =>
          rw [List.map_nil, List.nil_append]
          split
          next first later made => cases apart (.literal first) (by rw [made]; rfl)
          next => rfl
      | cons d text => rw [ih (List.cons_ne_nil d text)]

theorem gather_pieces (fit : AllFit parts) : gather (parts.flatMap Part.pieces) = parts := by
  induction parts with
  | nil => rfl
  | cons part after ih =>
      obtain ⟨fits, rest⟩ := fit
      have made := ih rest
      rw [List.flatMap_cons]
      cases part with
      | literal text =>
          obtain ⟨nonempty, apart, _⟩ := fits
          rw [Part.pieces, gather_literal nonempty (made.symm ▸ apart), made]
      | named name =>
          cases name with
          | nil => exact absurd rfl fits.1
          | cons c name => exact congrArg (Part.named (c :: name) :: ·) made
      | nameless => exact congrArg (Part.nameless :: ·) made
      | unclosed rest => exact congrArg (Part.unclosed rest :: ·) made

theorem Divides.eq_gather (divides : Divides cs parts) : parts = gather (cut cs) := by
  rw [← divides.whole, cut_of_fit divides.fit, gather_pieces divides.fit]

/-! What parts are expanded to. -/

theorem value_pieces (valueOf : String → Option String) {after : List Part}
    (fits : part.Fits after) :
    part.pieces.flatMap (Piece.value valueOf) = part.value valueOf := by
  cases part with
  | literal text =>
      have kept : ∀ c, Piece.value valueOf (.plain c) = [c] := fun _ => rfl
      simp only [Part.pieces, List.flatMap_map, kept, List.flatMap_singleton']
      rfl
  | named name =>
      cases name with
      | nil => exact absurd rfl fits.1
      | cons c name =>
          rw [Part.pieces, List.flatMap_singleton, Piece.value, Part.value]
          cases valueOf (String.ofList (c :: name)) <;> rfl
  | nameless => rfl
  | unclosed rest => rw [Part.pieces, List.flatMap_singleton]; rfl

theorem value_flatMap_pieces (valueOf : String → Option String) (fit : AllFit parts) :
    (parts.flatMap Part.pieces).flatMap (Piece.value valueOf) =
      parts.flatMap (Part.value valueOf) := by
  induction parts with
  | nil => rfl
  | cons part after ih =>
      obtain ⟨fits, rest⟩ := fit
      rw [List.flatMap_cons, List.flatMap_append, value_pieces valueOf fits, ih rest,
        List.flatMap_cons]

theorem Divides.expand {template : String} (divides : Divides template.toList parts)
    (valueOf : String → Option String) :
    expand valueOf template = String.ofList (parts.flatMap (Part.value valueOf)) := by
  rw [Template.expand, ← divides.whole, cut_of_fit divides.fit,
    value_flatMap_pieces valueOf divides.fit]

theorem spelling_ne_nil {after : List Part} (fits : part.Fits after) : part.spelling ≠ [] := by
  cases part with
  | literal text => exact fits.1
  | named _ | nameless | unclosed _ => exact List.cons_ne_nil _ _

theorem Divides.length_le (divides : Divides cs parts) : parts.length ≤ cs.length := by
  obtain ⟨rfl, fit⟩ := divides
  induction parts with
  | nil => exact Nat.zero_le _
  | cons part after ih =>
      obtain ⟨fits, rest⟩ := fit
      have some := List.length_pos_iff.mpr (spelling_ne_nil fits)
      have later := ih rest
      rw [spelled_cons, List.length_append, List.length_cons]
      omega

theorem divides_literal (nonempty : cs ≠ []) (plain : ¬ opening <:+: cs) :
    Divides cs [.literal cs] := by
  have alone : spelled [.literal cs] = cs := List.flatMap_singleton ..
  refine ⟨alone, ⟨nonempty, nofun, fun late within _ opens => ?_⟩, trivial⟩
  rw [spelled, List.flatMap_nil, List.append_nil] at opens
  exact plain (opens.isInfix.trans within.isInfix)

/-- A template has one division, which no variable has a part in.  To expand the template is to put
the value of each part in its place, whatever the values hold, so that a template without an opening
stays as it is; and every part takes up some of the template, so that there is an end to them. -/
theorem expanded_in_one_pass (template : String) :
    ∃ parts, Divides template.toList parts ∧
      (∀ others, Divides template.toList others → others = parts) ∧
      parts.length ≤ template.length ∧
      (∀ valueOf, expand valueOf template =
        String.ofList (parts.flatMap (Part.value valueOf))) ∧
      (¬ opening <:+: template.toList → ∀ valueOf, expand valueOf template = template) := by
  have divides := divides_gather template.toList
  refine ⟨_, divides, fun _ other => other.eq_gather, divides.length_le, divides.expand,
    fun plain valueOf => ?_⟩
  by_cases empty : template.toList = []
  · have none : Divides template.toList [] := ⟨empty.symm, trivial⟩
    rw [none.expand, List.flatMap_nil, ← empty, String.ofList_toList]
  · rw [(divides_literal empty plain).expand, List.flatMap_singleton, Part.value, Part.spelling,
      String.ofList_toList]
    rintro name ⟨⟩

/-- A name with an opening inside, a value that looks like a placeholder, a placeholder without a
name, and an end with two openings. -/
theorem expanded_in_one_pass_nested :
    let template := "$$\x7ba$\x7b\x7d$\x7b\x7d-$\x7bb$\x7bc"
    let valueOf (name : String) := if name = "a$\x7b" then some "$\x7bb\x7d" else none
    Divides template.toList [.literal ['$'], .named ['a', '$', '{'], .nameless, .literal ['-'],
      .unclosed ['b', '$', '{', 'c']] ∧
    expand valueOf template = "$$\x7bb\x7d$\x7b\x7d-$\x7bb$\x7bc" := by
  intro template valueOf
  have made : gather (cut template.toList) = [.literal ['$'], .named ['a', '$', '{'], .nameless,
      .literal ['-'], .unclosed ['b', '$', '{', 'c']] := by decide +kernel
  have divides := made ▸ divides_gather template.toList
  obtain ⟨parts, _, unique, _, expands, _⟩ := expanded_in_one_pass template
  refine ⟨divides, ?_⟩
  rw [expands, ← unique _ divides]
  decide +kernel

end Casefile.Template
