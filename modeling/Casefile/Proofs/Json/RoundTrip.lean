import Casefile.Json.Reader
import Casefile.Proofs.Json.Layout

namespace Casefile.Json

/-!
JSON text read back.

The reader takes the tokens of a value, wherever it stands, for that value.  A value without
fractions and without literals that have no text is therefore what its compact and its indented
text read as.
-/

theorem run_cons {reading next : Reading} {token : Token} (stepped : step reading token = some next)
    (rest : List Token) : run reading (token :: rest) = run next rest := by
  simp only [run, stepped]

/-- The tokens of a value, where a value is expected, give the value to what is open around it. -/
def Reads (value : Json) : Prop :=
  ∀ (frames : List Frame) (rest : List Token),
    run (.value frames) (value.tokens ++ rest) = run (complete value frames) rest

theorem run_itemTokens {items : List Json} (each : ∀ item ∈ items, Reads item)
    (done : List Json) (frames : List Frame) (rest : List Token) :
    run (.separator (.array done) frames) (itemTokens items ++ .closeArray :: rest) =
      run (complete (.array (done.reverse ++ items)) frames) rest := by
  induction items generalizing done with
  | nil =>
      rw [List.append_nil]
      exact run_cons rfl rest
  | cons item items ih =>
      have read := each item (by simp) (.array done :: frames)
        (itemTokens items ++ .closeArray :: rest)
      have others := ih (fun other member => each other (by simp [member])) (item :: done)
      simp only [itemTokens_cons, List.cons_append, List.append_assoc]
      rw [run_cons rfl, read, complete]
      simpa using others

theorem run_memberTokens {members : List (Literal × Json)}
    (each : ∀ member ∈ members, Reads member.2) (done : List (Literal × Json))
    (frames : List Frame) (rest : List Token) :
    run (.separator (.object done) frames) (memberTokens members ++ .closeObject :: rest) =
      run (complete (.object (done.reverse ++ members)) frames) rest := by
  induction members generalizing done with
  | nil =>
      rw [List.append_nil]
      exact run_cons rfl rest
  | cons member members ih =>
      have read := each member (by simp) (.member done member.1 :: frames)
        (memberTokens members ++ .closeObject :: rest)
      have others := ih (fun other inside => each other (by simp [inside])) (member :: done)
      simp only [memberTokens_cons, List.cons_append, List.append_assoc]
      rw [run_cons rfl, run_cons rfl, run_cons rfl, read, complete]
      simpa using others

/-- No value starts with a closing bracket, so the first item of an array is read as any other. -/
theorem run_firstItem (item : Json) (frames : List Frame) (rest : List Token) :
    run (.firstItem frames) (item.tokens ++ rest) =
      run (.value (.array [] :: frames)) (item.tokens ++ rest) := by
  cases item with
  | null | bool | int | real | text => rfl
  | array items =>
      cases items with
      | nil => rfl
      | cons item items => rw [tokens_array_cons]; rfl
  | object members =>
      cases members with
      | nil => rfl
      | cons member members => rw [tokens_object_cons]; rfl

theorem reads (value : Json) : Reads value := by
  induction value using nestedInduction with
  | null | bool | int | real | text => exact fun _ _ => rfl
  | array items ih =>
      intro frames rest
      cases items with
      | nil => rfl
      | cons item items =>
          have others := run_itemTokens
            (fun other member => ih other (List.mem_cons_of_mem _ member)) [item] frames rest
          rw [tokens_array_cons]
          simp only [List.cons_append, List.append_assoc, List.nil_append]
          rw [run_cons rfl, run_firstItem, ih item (by simp), complete]
          exact others
  | object members ih =>
      intro frames rest
      cases members with
      | nil => rfl
      | cons member members =>
          have others := run_memberTokens
            (fun other inside => ih other (List.mem_cons_of_mem _ inside)) [member] frames rest
          rw [tokens_object_cons]
          simp only [List.cons_append, List.append_assoc, List.nil_append]
          rw [run_cons rfl, run_cons rfl, run_cons rfl, ih member (by simp), complete]
          exact others

theorem assemble_tokens (value : Json) : assemble value.tokens = some value := by
  have read := reads value [] []
  rw [List.append_nil] at read
  simp only [assemble, read, complete, run]

def Writable (value : Json) : Prop := ∀ token ∈ value.tokens, token.Writable

theorem separated_all (value : Json) : Separated value.tokens := by
  have separated := separated_tokens value [] (fun _ first => nomatch first) trivial
  rwa [List.append_nil] at separated

theorem readChars_layout {value : Json} (writable : value.Writable) {written : List Spaced}
    (same : written.map (·.2) = value.tokens) (blank : ∀ piece ∈ written, BlankGap piece) :
    readChars (layout written) = some value := by
  have cut : lex (layout written) = some (written.map (·.2)) := by
    apply lex_layout blank
    · exact fun piece member =>
        writable piece.2 (same ▸ List.mem_map_of_mem (f := (·.2)) member)
    · exact same ▸ separated_all value
  rw [readChars, cut, same]
  exact assemble_tokens value

theorem read_compact {value : Json} (writable : value.Writable) :
    read value.compact = some value := by
  have characters : value.compactChars = layout (value.tokens.map fun token => ([], token)) := by
    rw [layout, List.flatMap_map]
    rfl
  rw [read, compact, String.toList_ofList, characters]
  refine readChars_layout writable (by rw [List.map_map]; exact List.map_id _) ?_
  intro piece member
  obtain ⟨token, _, rfl⟩ := List.mem_map.mp member
  exact blank_nothing token

theorem read_pretty {value : Json} (writable : value.Writable) :
    read value.pretty = some value := by
  rw [read, pretty, String.toList_ofList]
  exact readChars_layout writable rfl
    (blank_spaced value 0 [] fun _ inside => nomatch inside)

end Casefile.Json
