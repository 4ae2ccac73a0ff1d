import Casefile.Proofs.Json.RoundTrip

namespace Casefile.Json

/-!
Tokens that can be put together are those of the value that they make.

What is still open tells which tokens have been read: each step of the reader adds its own token.
-/

/-- The items of an array that is still open, the last one first, each with the comma after it. -/
def openItems (items : List Json) : List Token :=
  items.reverse.flatMap fun item => item.tokens ++ [.comma]

def openMembers (members : List (Literal × Json)) : List Token :=
  members.reverse.flatMap fun member => .text member.1 :: .colon :: (member.2.tokens ++ [.comma])

theorem openItems_cons (item : Json) (items : List Json) :
    openItems (item :: items) = openItems items ++ (item.tokens ++ [.comma]) := by
  simp [openItems]

theorem openMembers_cons (key : Literal) (value : Json) (members : List (Literal × Json)) :
    openMembers ((key, value) :: members) =
      openMembers members ++ .text key :: .colon :: (value.tokens ++ [.comma]) := by
  simp [openMembers]

theorem tokens_itemTokens_concat (first last : Json) (items : List Json) :
    first.tokens ++ itemTokens (items ++ [last]) =
      (first :: items).flatMap (fun item => item.tokens ++ [.comma]) ++ last.tokens := by
  induction items generalizing first with
  | nil => simp [itemTokens]
  | cons second items ih =>
      rw [List.cons_append, itemTokens_cons, ih, List.flatMap_cons]
      simp

theorem tokens_array (item : Json) (items : List Json) :
    (Json.array (item :: items).reverse).tokens =
      .openArray :: (openItems items ++ (item.tokens ++ [.closeArray])) := by
  rw [List.reverse_cons, openItems]
  cases items.reverse with
  | nil => rw [List.nil_append, tokens_array_cons]; rfl
  | cons first items =>
      rw [List.cons_append, tokens_array_cons, ← List.append_assoc, tokens_itemTokens_concat,
        List.append_assoc]

theorem tokens_memberTokens_concat (first last : Literal × Json) (members : List (Literal × Json)) :
    .text first.1 :: .colon :: (first.2.tokens ++ memberTokens (members ++ [last])) =
      (first :: members).flatMap
          (fun member => Token.text member.1 :: .colon :: (member.2.tokens ++ [.comma])) ++
        .text last.1 :: .colon :: last.2.tokens := by
  induction members generalizing first with
  | nil => simp [memberTokens]
  | cons second members ih =>
      rw [List.cons_append, memberTokens_cons, ih, List.flatMap_cons]
      simp

theorem tokens_object (key : Literal) (value : Json) (members : List (Literal × Json)) :
    (Json.object ((key, value) :: members).reverse).tokens =
      .openObject :: (openMembers members ++
        .text key :: .colon :: (value.tokens ++ [.closeObject])) := by
  rw [List.reverse_cons, openMembers]
  cases members.reverse with
  | nil => rw [List.nil_append, tokens_object_cons]; rfl
  | cons first members =>
      have joined := tokens_memberTokens_concat first (key, value) members
      rw [List.cons_append, tokens_object_cons, ← List.append_assoc, ← List.cons_append,
        ← List.cons_append, joined]
      simp

/-- The tokens that come before a value, inside of what is open around it. -/
inductive Leads : List Frame → List Token → Prop where
  | top : Leads [] []
  | item {frames : List Frame} {tokens : List Token} {items : List Json}
    (outer : Leads frames tokens) :
    Leads (.array items :: frames) (tokens ++ .openArray :: openItems items)
  | member {frames : List Frame} {tokens : List Token} {members : List (Literal × Json)}
    {key : Literal} (outer : Leads frames tokens) :
    Leads (.member members key :: frames)
      (tokens ++ .openObject :: (openMembers members ++ [.text key, .colon]))

/-- The tokens by which a reading is reached. -/
inductive Reached : Reading → List Token → Prop where
  | value {frames : List Frame} {tokens : List Token} (outer : Leads frames tokens) :
    Reached (.value frames) tokens
  | firstItem {frames : List Frame} {tokens : List Token} (outer : Leads frames tokens) :
    Reached (.firstItem frames) (tokens ++ [.openArray])
  | firstKey {frames : List Frame} {tokens : List Token} (outer : Leads frames tokens) :
    Reached (.firstKey frames) (tokens ++ [.openObject])
  | key {frames : List Frame} {tokens : List Token} {members : List (Literal × Json)}
    (outer : Leads frames tokens) :
    Reached (.key members frames) (tokens ++ .openObject :: openMembers members)
  | colon {frames : List Frame} {tokens : List Token} {members : List (Literal × Json)}
    {key : Literal} (outer : Leads frames tokens) :
    Reached (.colon members key frames)
      (tokens ++ .openObject :: (openMembers members ++ [.text key]))
  | item {frames : List Frame} {tokens : List Token} {items : List Json} {item : Json}
    (outer : Leads frames tokens) :
    Reached (.separator (.array (item :: items)) frames)
      (tokens ++ .openArray :: (openItems items ++ item.tokens))
  | member {frames : List Frame} {tokens : List Token} {members : List (Literal × Json)}
    {key : Literal} {value : Json} (outer : Leads frames tokens) :
    Reached (.separator (.object ((key, value) :: members)) frames)
      (tokens ++ .openObject :: (openMembers members ++ .text key :: .colon :: value.tokens))
  | done {value : Json} : Reached (.done value) value.tokens

variable {frames : List Frame} {tokens more : List Token} {token : Token}
  {reading next final : Reading}

theorem Leads.complete (leads : Leads frames tokens) (value : Json) :
    Reached (complete value frames) (tokens ++ value.tokens) := by
  cases leads with
  | top => exact .done
  | item outer =>
      rw [List.append_assoc]
      exact .item outer
  | member outer =>
      rw [List.append_assoc, List.cons_append, List.append_assoc]
      exact .member outer

theorem Leads.startValue (leads : Leads frames tokens)
    (started : startValue frames token = some next) : Reached next (tokens ++ [token]) := by
  cases token with
  | openArray => cases started; exact .firstItem leads
  | openObject => cases started; exact .firstKey leads
  | null => cases started; exact leads.complete .null
  | bool value => cases started; exact leads.complete (.bool value)
  | int value => cases started; exact leads.complete (.int value)
  | real spelling => cases started; exact leads.complete (.real spelling)
  | text literal => cases started; exact leads.complete (.text literal)
  | closeArray | closeObject | comma | colon => cases started

theorem Reached.step (reached : Reached reading tokens)
    (stepped : step reading token = some next) : Reached next (tokens ++ [token]) := by
  cases reached with
  | value outer => exact outer.startValue stepped
  | @firstItem frames tokens outer =>
      have opened : Leads (.array [] :: frames) (tokens ++ [.openArray]) := outer.item
      cases token with
      | closeArray =>
          cases stepped
          rw [List.append_assoc]
          exact outer.complete (.array [])
      | _ => exact opened.startValue stepped
  | firstKey outer =>
      cases token with
      | closeObject =>
          cases stepped
          rw [List.append_assoc]
          exact outer.complete (.object [])
      | text key =>
          cases stepped
          rw [List.append_assoc]
          exact .colon outer
      | _ => cases stepped
  | key outer =>
      cases token with
      | text key =>
          cases stepped
          rw [List.append_assoc]
          exact .colon outer
      | _ => cases stepped
  | colon outer =>
      cases token with
      | colon =>
          cases stepped
          rw [List.append_assoc, List.cons_append, List.append_assoc]
          exact .value outer.member
      | _ => cases stepped
  | item outer =>
      cases token with
      | comma =>
          cases stepped
          simp only [List.append_assoc, List.cons_append, ← openItems_cons]
          exact .value outer.item
      | closeArray =>
          cases stepped
          simp only [List.append_assoc, List.cons_append, ← tokens_array]
          exact outer.complete _
      | _ => cases stepped
  | member outer =>
      cases token with
      | comma =>
          cases stepped
          simp only [List.append_assoc, List.cons_append, ← openMembers_cons]
          exact .key outer
      | closeObject =>
          cases stepped
          simp only [List.append_assoc, List.cons_append, ← tokens_object]
          exact outer.complete _
      | _ => cases stepped
  | done => cases stepped

theorem Reached.run (reached : Reached reading tokens)
    (ran : run reading more = some final) : Reached final (tokens ++ more) := by
  induction more generalizing reading tokens with
  | nil =>
      cases ran
      rwa [List.append_nil]
  | cons token more ih =>
      cases stepped : Json.step reading token with
      | none => simp [Json.run, stepped] at ran
      | some next =>
          rw [run_cons stepped] at ran
          rw [List.append_cons]
          exact ih (reached.step stepped) ran

theorem tokens_of_assemble {value : Json} (assembled : assemble tokens = some value) :
    tokens = value.tokens := by
  unfold assemble at assembled
  split at assembled
  next result ran =>
    cases assembled
    have reached := (Reached.value .top).run ran
    rw [List.nil_append] at reached
    cases reached
    rfl
  next => cases assembled

end Casefile.Json
