import Casefile.Game.Form
import Casefile.Proofs.Json.Spelling
import Casefile.Proofs.Wire.Authored
import Casefile.Proofs.Wire.Form

namespace Casefile

open Json (defaulted_alike ifPresent_alike required_alike)

/-!
How a text is presented makes no difference to what is loaded from it.

Every record that is authored or saved keeps to its form.  So whatever is changed in a text that
can be loaded, one change of presentation after the other and at any depth, and however its tokens
are set apart, the same is loaded.
-/

instance : Keeps Notice Notice.form :=
  .ofRecord (by decide) (fun _ => rfl) fun _ _ alike => by
    obtain _ | ⟨enabled, _ | ⟨contact, _ | ⟨message, ⟨⟩⟩⟩⟩ := alike
    refine Carries.bind (defaulted_alike false rfl enabled) fun _ => ?_
    refine Carries.bind (ifPresent_alike contact) fun _ => ?_
    exact Carries.bind (ifPresent_alike message) fun _ => .refl _

instance : Keeps Reply Reply.form :=
  .ofRecord (by decide) (fun _ => rfl) fun _ _ alike => by
    obtain _ | ⟨text, _ | ⟨nextTurn, _ | ⟨mediaId, _ | ⟨evidence, _ | ⟨messageId, _ | ⟨notice,
      ⟨⟩⟩⟩⟩⟩⟩⟩ := alike
    refine Carries.bind (defaulted_alike "" rfl text) fun _ => ?_
    refine Carries.bind (ifPresent_alike nextTurn) fun _ => ?_
    refine Carries.bind (ifPresent_alike mediaId) fun _ => ?_
    refine Carries.bind (ifPresent_alike evidence) fun _ => ?_
    refine Carries.bind (ifPresent_alike messageId) fun _ => ?_
    exact Carries.bind (ifPresent_alike notice) fun _ => .refl _

instance : Keeps Solution Solution.form :=
  .ofRecord (by decide) (fun _ => rfl) fun _ _ alike => by
    obtain _ | ⟨keywords, _ | ⟨reply, ⟨⟩⟩⟩ := alike
    refine Carries.bind (defaulted_alike [] rfl keywords) fun _ => ?_
    exact Carries.bind (defaulted_alike ({} : Reply) rfl reply) fun _ => .refl _

instance : Keeps Hint Hint.form :=
  .ofRecord (by decide) (fun _ => rfl) fun _ _ alike => by
    obtain _ | ⟨keywords, _ | ⟨response, ⟨⟩⟩⟩ := alike
    refine Carries.bind (defaulted_alike [] rfl keywords) fun _ => ?_
    exact Carries.bind (defaulted_alike "" rfl response) fun _ => .refl _

instance : Keeps Puzzle Puzzle.form :=
  .ofRecord (by decide) (fun _ => rfl) fun _ _ alike => by
    obtain _ | ⟨turn, _ | ⟨preQuestion, _ | ⟨solution, _ | ⟨hints, _ | ⟨fallbacks, _ |
      ⟨penaltyResponses, _ | ⟨maxAttempts, _ | ⟨penaltySeconds, _ | ⟨notice, ⟨⟩⟩⟩⟩⟩⟩⟩⟩⟩⟩ :=
      alike
    refine Carries.bind (required_alike turn) fun _ => ?_
    refine Carries.bind (ifPresent_alike preQuestion) fun _ => ?_
    refine Carries.bind (defaulted_alike ({} : Solution) rfl solution) fun _ => ?_
    refine Carries.bind (defaulted_alike [] rfl hints) fun _ => ?_
    refine Carries.bind (defaulted_alike [] rfl fallbacks) fun _ => ?_
    refine Carries.bind (defaulted_alike [] rfl penaltyResponses) fun _ => ?_
    refine Carries.bind (defaulted_alike defaultAttempts rfl maxAttempts) fun _ => ?_
    refine Carries.bind (defaulted_alike defaultPenalty rfl penaltySeconds) fun _ => ?_
    exact Carries.bind (ifPresent_alike notice) fun _ => .refl _

instance : Keeps Bundle Bundle.form :=
  .ofRecord (by decide) (fun _ => rfl) fun _ _ alike => by
    obtain _ | ⟨puzzles, ⟨⟩⟩ := alike
    exact Carries.bind (defaulted_alike [] rfl puzzles) fun _ => .refl _

instance : Keeps Contact Contact.form :=
  .ofRecord (by decide) (fun _ => rfl) fun _ _ alike => by
    obtain _ | ⟨id, _ | ⟨file, _ | ⟨name, _ | ⟨avatar, _ | ⟨description, _ | ⟨visibleAt,
      ⟨⟩⟩⟩⟩⟩⟩⟩ := alike
    refine Carries.bind (required_alike id) fun _ => ?_
    refine Carries.bind (required_alike file) fun _ => ?_
    refine Carries.bind (defaulted_alike "" rfl name) fun _ => ?_
    refine Carries.bind (defaulted_alike "" rfl avatar) fun _ => ?_
    refine Carries.bind (defaulted_alike "" rfl description) fun _ => ?_
    exact Carries.bind (defaulted_alike Turn.first rfl visibleAt) fun _ => .refl _

instance : Keeps Media Media.form :=
  .ofRecord (by decide) (fun _ => rfl) fun _ _ alike => by
    obtain _ | ⟨kind, _ | ⟨source, _ | ⟨alt, ⟨⟩⟩⟩⟩ := alike
    refine Carries.bind (required_alike kind) fun _ => ?_
    refine Carries.bind (required_alike source) fun _ => ?_
    exact Carries.bind (ifPresent_alike alt) fun _ => .refl _

instance : Keeps Message Message.form :=
  .ofRecord (by decide) (fun _ => rfl) fun _ _ alike => by
    obtain _ | ⟨id, _ | ⟨content, _ | ⟨sender, _ | ⟨sentAt, _ | ⟨media, _ | ⟨isRead, ⟨⟩⟩⟩⟩⟩⟩⟩
      := alike
    refine Carries.bind (required_alike id) fun _ => ?_
    refine Carries.bind (required_alike content) fun _ => ?_
    refine Carries.bind (required_alike sender) fun _ => ?_
    refine Carries.bind (required_alike sentAt) fun _ => ?_
    refine Carries.bind (ifPresent_alike media) fun _ => ?_
    exact Carries.bind (ifPresent_alike isRead) fun _ => .refl _

instance : Keeps Progress Progress.form :=
  .ofRecord (by decide) (fun _ => rfl) fun _ _ alike => by
    obtain _ | ⟨failedAttempts, _ | ⟨lockedUntil, _ | ⟨preQuestionShown, ⟨⟩⟩⟩⟩ := alike
    refine Carries.bind (defaulted_alike 0 rfl failedAttempts) fun _ => ?_
    refine Carries.bind (ifPresent_alike lockedUntil) fun _ => ?_
    exact Carries.bind (defaulted_alike false rfl preQuestionShown) fun _ => .refl _

instance : Keeps GameState GameState.form :=
  .ofRecord (by decide) (fun _ => rfl) fun _ _ alike => by
    obtain _ | ⟨turn, _ | ⟨chats, _ | ⟨progress, ⟨⟩⟩⟩⟩ := alike
    refine Carries.bind (defaulted_alike Turn.first rfl turn) fun _ => ?_
    refine Carries.bind (defaulted_alike ∅ rfl chats) fun _ => ?_
    exact Carries.bind (defaulted_alike ∅ rfl progress) fun _ => .refl _

theorem Wire.read_of_spells {α : Type} [Wire α] {text : String} {written : Json}
    (spells : Json.Spells text written) : (Wire.read text : Option α) = Wire.decode written := by
  rw [Wire.read, Json.read_eq_some_iff.mpr spells, Option.bind_some]

theorem Keeps.immaterial {α : Type} [Wire α] {form : Json.Form} [Keeps α form] :
    Wire.Immaterial α form := by
  intro text value loaded
  obtain ⟨written, readText, -⟩ := Option.bind_eq_some_iff.mp loaded
  refine ⟨⟨written, Json.read_eq_some_iff.mp readText⟩, ?_⟩
  rintro other ⟨old, new, spellsOld, changes, spellsNew⟩
  rw [Wire.read_of_spells spellsOld] at loaded
  rw [Wire.read_of_spells spellsNew]
  clear readText spellsOld spellsNew
  induction changes with
  | refl => exact loaded
  | tail _ change ih => exact Keeps.carries change value ih

/-! A save from which a field is missing. -/

namespace Json

variable {members : List (Literal × Json)} {name other : String}

theorem slot_without : slot (without name members) name = some none := by
  rw [slot_eq_some_iff, without, List.filter_filter]
  simp

theorem slot_without_of_ne (different : other ≠ name) :
    slot (without name members) other = slot members other := by
  have untouched (member : Literal × Json) :
      (decide (member.1 = some other) && decide (member.1 ≠ some name)) =
        decide (member.1 = some other) := by
    by_cases named : member.1 = some other <;> simp [named, different]
  rw [slot, without, List.filter_filter]
  simp only [untouched]
  rfl

theorem all_without (named : members.all (·.1.isSome)) :
    (without name members).all (·.1.isSome) :=
  List.all_eq_true.mpr fun member kept =>
    List.all_eq_true.mp named member (List.mem_filter.mp kept).1

end Json

namespace GameState

variable {members : List (Json.Literal × Json)} {state : GameState}

theorem decode_object_iff :
    Wire.decode (.object members) = some state ↔
      members.all (·.1.isSome) ∧
      (Json.slot members "currentGlobalTurn").bind (Json.defaulted Turn.first) = some state.turn ∧
      (Json.slot members "chatHistories").bind (Json.defaulted ∅) = some state.chats ∧
      (Json.slot members "puzzleStatus").bind (Json.defaulted ∅) = some state.progress := by
  by_cases named : members.all (·.1.isSome)
  · cases state
    simp only [Wire.decode, Json.slots, List.mapM_cons, List.mapM_nil, named, if_true,
      true_and]
    generalize Json.slot members "currentGlobalTurn" = turn
    generalize Json.slot members "chatHistories" = chats
    generalize Json.slot members "puzzleStatus" = progress
    cases turn <;> cases chats <;> cases progress <;> simp [Option.bind_eq_some_iff]
  · simp [Wire.decode, Json.slots, named]

theorem decode_without_progress (decoded : Wire.decode (.object members) = some state) :
    Wire.decode (.object (Json.without "puzzleStatus" members)) =
      some { state with progress := ∅ } := by
  obtain ⟨named, turn, chats, -⟩ := decode_object_iff.mp decoded
  refine decode_object_iff.mpr ⟨Json.all_without named, ?_, ?_, ?_⟩
  · rwa [Json.slot_without_of_ne (by decide)]
  · rwa [Json.slot_without_of_ne (by decide)]
  · rw [Json.slot_without]
    rfl

theorem decode_without_chats (decoded : Wire.decode (.object members) = some state) :
    Wire.decode (.object (Json.without "chatHistories" members)) =
      some { state with chats := ∅ } := by
  obtain ⟨named, turn, -, progress⟩ := decode_object_iff.mp decoded
  refine decode_object_iff.mpr ⟨Json.all_without named, ?_, ?_, ?_⟩
  · rwa [Json.slot_without_of_ne (by decide)]
  · rw [Json.slot_without]
    rfl
  · rwa [Json.slot_without_of_ne (by decide)]

end GameState

/-- However a text is presented, the same is loaded from it, and a save in which the records or
the chats are missing loads as if there were none. -/
theorem Wire.presentation_immaterial :
    (Immaterial Puzzle Puzzle.form ∧ Immaterial Bundle Bundle.form ∧
      Immaterial Solution Solution.form ∧ Immaterial Reply Reply.form ∧
      Immaterial Hint Hint.form ∧ Immaterial Notice Notice.form ∧
      Immaterial Contact Contact.form ∧ Immaterial Message Message.form ∧
      Immaterial Media Media.form ∧ Immaterial Progress Progress.form ∧
      Immaterial GameState GameState.form) ∧
    ∀ (text older : String) (members : List (Json.Literal × Json)) (state : GameState),
      Json.Spells text (.object members) → Wire.read text = some state →
      (Json.Spells older (.object (Json.without "puzzleStatus" members)) →
        Wire.read older = some { state with progress := ∅ }) ∧
      (Json.Spells older (.object (Json.without "chatHistories" members)) →
        Wire.read older = some { state with chats := ∅ }) ∧
      (Json.Spells older
          (.object (Json.without "chatHistories" (Json.without "puzzleStatus" members))) →
        Wire.read older = some { state with chats := ∅, progress := ∅ }) := by
  refine ⟨⟨Keeps.immaterial, Keeps.immaterial, Keeps.immaterial, Keeps.immaterial,
    Keeps.immaterial, Keeps.immaterial, Keeps.immaterial, Keeps.immaterial, Keeps.immaterial,
    Keeps.immaterial, Keeps.immaterial⟩, ?_⟩
  intro text older members state spells loaded
  rw [read_of_spells spells] at loaded
  have withoutProgress := GameState.decode_without_progress loaded
  refine ⟨fun spellsOlder => ?_, fun spellsOlder => ?_, fun spellsOlder => ?_⟩ <;>
    rw [read_of_spells spellsOlder]
  · exact withoutProgress
  · exact GameState.decode_without_chats loaded
  · exact GameState.decode_without_chats withoutProgress

/-- A puzzle of which only the turn is given, changed in three ways. -/
theorem Puzzle.rewrites_of_sparse :
    Relation.ReflTransGen Puzzle.form.Change (.object [(some "turnId", .nat 2)])
      (.object [(some "color", .array []), (some "maxAttempts", .nat 3), (some "turnId", .nat 2),
        (some "preQuestion", .null)]) := by
  have spellAttempts : Puzzle.form.Change (.object [(some "turnId", .nat 2)])
      (.object [(some "maxAttempts", .nat 3), (some "turnId", .nat 2)]) :=
    @Json.Form.Change.spellOut _ ⟨"maxAttempts", .defaulted (.nat 3), .plain⟩ _
      (List.mem_of_getElem? (i := 6) rfl) rfl [] _ (by simp)
  have addColor : Puzzle.form.Change
      (.object [(some "maxAttempts", .nat 3), (some "turnId", .nat 2)])
      (.object [(some "color", .array []), (some "maxAttempts", .nat 3),
        (some "turnId", .nat 2)]) :=
    .addUnknown (by decide) [] _ _
  have spellQuestion : Puzzle.form.Change
      (.object [(some "color", .array []), (some "maxAttempts", .nat 3), (some "turnId", .nat 2)])
      (.object [(some "color", .array []), (some "maxAttempts", .nat 3), (some "turnId", .nat 2),
        (some "preQuestion", .null)]) :=
    @Json.Form.Change.spellOut _ ⟨"preQuestion", .optional, .plain⟩ _
      (List.mem_of_getElem? (i := 1) rfl) rfl
      [(some "color", .array []), (some "maxAttempts", .nat 3), (some "turnId", .nat 2)] []
      (by simp)
  exact ((Relation.ReflTransGen.single spellAttempts).tail addColor).tail spellQuestion

set_option maxRecDepth 4000 in
/-- A puzzle of which only the turn is given, and a save from before there were records. -/
theorem Wire.presentation_immaterial_of_sparse :
    let sparse := "\x7b\"turnId\":2\x7d"
    let spelledOut :=
      " \x7b \"color\" : [] , \"maxAttempts\":3,\n\"turnId\":2,\"preQuestion\":null \x7d "
    let save := "\x7b\"currentGlobalTurn\":2,\"puzzleStatus\":\x7b\"a|2\":\x7b\x7d\x7d\x7d"
    let older := "\x7b \"currentGlobalTurn\" : 2 \x7d"
    (Puzzle.form.Rewrite sparse spelledOut ∧
      Wire.read spelledOut = some ({ turn := ⟨2⟩ } : Puzzle)) ∧
    (∃ state : GameState, Wire.read save = some state ∧ state.progress ≠ ∅ ∧
      Wire.read older = some { state with progress := ∅ }) := by
  intro sparse spelledOut save older
  have readSparse : Json.read sparse = some (.object [(some "turnId", .nat 2)]) :=
    Json.read_of_lex (by decide +kernel)
  have readSpelledOut : Json.read spelledOut = some (.object [(some "color", .array []),
      (some "maxAttempts", .nat 3), (some "turnId", .nat 2), (some "preQuestion", .null)]) :=
    Json.read_of_lex (by decide +kernel)
  have readSave : Json.read save = some (.object [(some "currentGlobalTurn", .nat 2),
      (some "puzzleStatus", .object [(some "a|2", .object [])])]) :=
    Json.read_of_lex (by decide +kernel)
  have readOlder : Json.read older = some (.object [(some "currentGlobalTurn", .nat 2)]) :=
    Json.read_of_lex (by decide +kernel)
  obtain ⟨⟨puzzles, -⟩, saves⟩ := presentation_immaterial
  have rewrites : Puzzle.form.Rewrite sparse spelledOut :=
    ⟨_, _, Json.read_eq_some_iff.mp readSparse, Puzzle.rewrites_of_sparse,
      Json.read_eq_some_iff.mp readSpelledOut⟩
  have loaded : Wire.read sparse = some ({ turn := ⟨2⟩ } : Puzzle) := by
    rw [Wire.read, readSparse]
    rfl
  refine ⟨⟨rewrites, (puzzles sparse _ loaded).2 _ rewrites⟩, ?_⟩
  have loadedSave : Wire.read save = some ({
      turn := ⟨2⟩
      progress := Table.ofList [(Named.ofName "a|2", {})] } : GameState) := by
    rw [Wire.read, readSave]
    rfl
  exact ⟨_, loadedSave, by decide, (saves _ _ _ _ (Json.read_eq_some_iff.mp readSave) loadedSave).1
    (Json.read_eq_some_iff.mp readOlder)⟩

end Casefile
