import Casefile.LockScreen
import Casefile.Proofs.Text.Line
import Casefile.Proofs.Text.Trimmed

namespace Casefile.LockScreen

/-!
The lock screen opens at the first line that is its code, blanks around it aside, if that is among
the lines that may be tried, and hears no line after it.
-/

variable {settings : Settings} {code line : String} {left : Nat}

@[simp] theorem run_cons (settings : Settings) (left : Nat) (line : Option String)
    (rest : List (Option String)) :
    run settings (.asking left) (line :: rest) =
      let passage := run settings (hear settings left line).1 rest
      { passage with shown := (hear settings left line).2 ++ passage.shown } := rfl

@[simp] theorem run_opened (settings : Settings) (lines : List (Option String)) :
    run settings .opened lines = { ending := .opened, shown := "", rest := lines } := by
  cases lines <;> rfl

@[simp] theorem run_shut (settings : Settings) (reason : LockError) (lines : List (Option String)) :
    run settings (.shut reason) lines =
      { ending := .shut reason, shown := "", rest := lines } := by
  cases lines <;> rfl

@[simp] theorem start_unlocked (unlocked : settings.lockCode = none) :
    start settings = (.opened, "") := by
  rw [start, unlocked]

@[simp] theorem start_locked (locked : settings.lockCode = some code) :
    start settings = (.asking attempts, prompt) := by
  rw [start, locked]

theorem unlock_unlocked (unlocked : settings.lockCode = none) (lines : List (Option String)) :
    unlock settings lines = { ending := .opened, shown := "", rest := lines } := by
  simp [unlock, unlocked]

/-- A passage from the prompt for a line on. -/
def ask (settings : Settings) (left : Nat) (lines : List (Option String)) : Passage :=
  let passage := run settings (.asking left) lines
  { passage with shown := prompt ++ passage.shown }

theorem unlock_locked (locked : settings.lockCode = some code) (lines : List (Option String)) :
    unlock settings lines = ask settings attempts lines := by
  simp [unlock, ask, locked]

/-! What each line does. -/

theorem unlocks_iff (locked : settings.lockCode = some code) :
    settings.unlocks line = true ↔ Text.trim line = code := by
  rw [Settings.unlocks, locked, decide_eq_true_iff, eq_comm]

theorem ask_end (settings : Settings) (left : Nat) :
    ask settings left [] = { ending := .shut .wrongCode, shown := prompt, rest := [] } := by
  rw [ask, run]
  rfl

theorem ask_hit (locked : settings.lockCode = some code) (hits : Text.trim line = code)
    (left : Nat) (rest : List (Option String)) :
    ask settings left (some line :: rest) = { ending := .opened, shown := prompt, rest } := by
  have opens : hear settings left (some line) = (.opened, "") := by
    rw [hear, if_pos ((unlocks_iff locked).mpr hits)]
  simp [ask, opens]

/-- A prompt, and the answer to a wrong line. -/
def round : String := prompt ++ wrongText

theorem ask_last_miss (locked : settings.lockCode = some code) (misses : Text.trim line ≠ code)
    (rest : List (Option String)) :
    ask settings 1 (some line :: rest) =
      { ending := .shut .wrongCode, shown := round, rest } := by
  have shuts : hear settings 1 (some line) = (.shut .wrongCode, wrongText) := by
    rw [hear, if_neg (mt (unlocks_iff locked).mp misses), if_pos (Nat.le_refl 1)]
  simp [ask, shuts, round]

theorem ask_miss (locked : settings.lockCode = some code) (misses : Text.trim line ≠ code)
    (more : 0 < left) (rest : List (Option String)) :
    ask settings (left + 1) (some line :: rest) =
      let passage := ask settings left rest
      { passage with shown := round ++ passage.shown } := by
  have asks : hear settings (left + 1) (some line) = (.asking left, wrongText ++ prompt) := by
    rw [hear, if_neg (mt (unlocks_iff locked).mp misses), if_neg (by omega), Nat.add_sub_cancel]
  simp [ask, asks, round, String.append_assoc]

/-! What several lines do. -/

@[simp] def rounds : Nat → String
  | 0 => ""
  | count + 1 => round ++ rounds count

variable {lines wrong : List String}

theorem ask_opens (locked : settings.lockCode = some code) (few : wrong.length < left)
    (misses : ∀ other ∈ wrong, Text.trim other ≠ code) (hits : Text.trim line = code)
    (rest : List (Option String)) :
    ask settings left (wrong.map some ++ some line :: rest) =
      { ending := .opened, shown := rounds wrong.length ++ prompt, rest } := by
  induction wrong generalizing left with
  | nil => simp [ask_hit locked hits]
  | cons other wrong ih =>
      obtain ⟨first, later⟩ := List.forall_mem_cons.mp misses
      rw [List.length_cons] at few
      obtain ⟨left, rfl⟩ := Nat.exists_eq_add_one_of_ne_zero (Nat.ne_zero_of_lt few)
      rw [List.map_cons, List.cons_append, ask_miss locked first (by omega), ih (by omega) later]
      simp [String.append_assoc]

theorem ask_shuts (locked : settings.lockCode = some code) (more : 0 < left)
    (misses : ∀ other ∈ lines.take left, Text.trim other ≠ code) :
    ask settings left (lines.map some) =
      { ending := .shut .wrongCode
        shown := rounds (min left lines.length) ++ if lines.length < left then prompt else ""
        rest := (lines.drop left).map some } := by
  induction lines generalizing left with
  | nil => simp [ask_end, more]
  | cons line lines ih =>
      obtain ⟨left, rfl⟩ := Nat.exists_eq_add_one_of_ne_zero (Nat.ne_zero_of_lt more)
      rw [List.take_succ_cons] at misses
      obtain ⟨first, later⟩ := List.forall_mem_cons.mp misses
      rw [List.map_cons, List.length_cons, List.drop_succ_cons, Nat.add_min_add_right]
      cases left with
      | zero => simp [ask_last_miss locked first]
      | succ left =>
          rw [ask_miss locked first (Nat.succ_pos left), ih (Nat.succ_pos left) later]
          simp [String.append_assoc]

/-- Some line that may be tried is the code, blanks around it aside, and then there is a first one;
or none is. -/
theorem first_hit_or_misses (code : String) (lines : List String) (left : Nat) :
    (∃ wrong line after, lines = wrong ++ line :: after ∧ line ∈ lines.take left ∧
      wrong.length < left ∧ (∀ other ∈ wrong, Text.trim other ≠ code) ∧ Text.trim line = code) ∨
    ∀ line ∈ lines.take left, Text.trim line ≠ code := by
  cases found : (lines.take left).find? (Text.trim · = code) with
  | none => exact .inr (by simpa using List.find?_eq_none.mp found)
  | some line =>
      obtain ⟨hits, wrong, after, split, misses⟩ := List.find?_eq_some_iff_append.mp found
      refine .inl ⟨wrong, line, after ++ lines.drop left, ?_, List.mem_of_find?_eq_some found, ?_,
        by simpa using misses, by simpa using hits⟩
      · rw [← List.cons_append, ← List.append_assoc, ← split, List.take_append_drop]
      · have short := congrArg List.length split
        rw [List.length_take, List.length_append, List.length_cons] at short
        omega

theorem ask_ending_iff (locked : settings.lockCode = some code) (more : 0 < left)
    (lines : List String) :
    (ask settings left (lines.map some)).ending = .opened ↔
      ∃ line ∈ lines.take left, Text.trim line = code := by
  rcases first_hit_or_misses code lines left with
    ⟨wrong, line, after, rfl, member, few, misses, hits⟩ | misses
  · rw [List.map_append, List.map_cons, ask_opens locked few misses hits]
    exact ⟨fun _ => ⟨line, member, hits⟩, fun _ => rfl⟩
  · rw [ask_shuts locked more misses]
    exact ⟨nofun, fun ⟨line, member, hits⟩ => absurd hits (misses line member)⟩

/-- The screen took some lines of an input, and left all the bytes after them. -/
def Passage.Takes (passage : Passage) (bytes : List UInt8) (count : Nat) : Prop :=
  ∃ taken left, bytes = taken ++ left ∧
    Text.cutLines taken = (Text.cutLines bytes).take count ∧ passage.rest = Text.linesOf left

theorem Passage.takes_of_rest {passage : Passage} {bytes : List UInt8} {count : Nat}
    (rest : passage.rest = (Text.linesOf bytes).drop count) : passage.Takes bytes count := by
  obtain ⟨taken, left, whole, isTaken, later⟩ := Text.exists_left bytes count
  exact ⟨taken, left, whole, isTaken, rest.trans later.symm⟩

/-- A code that is typed in time opens the screen if no blank is at either end of it; otherwise
nothing that can be typed opens the screen. -/
theorem opens_iff_trimmed (locked : settings.lockCode = some code) :
    (∀ input : String, code ∈ (Text.lines input).take attempts →
      ((unlock settings (Text.linesOf input.toUTF8.data.toList)).ending = .opened ↔
        Text.Trimmed code.toList)) ∧
    (¬ Text.Trimmed code.toList → ∀ input : String,
      (unlock settings (Text.linesOf input.toUTF8.data.toList)).ending = .shut .wrongCode) := by
  have trimmed {line : String} (hits : Text.trim line = code) : Text.Trimmed code.toList :=
    hits ▸ Text.trimmed_trim line
  constructor
  · intro input typed
    rw [Text.linesOf_utf8, unlock_locked locked, ask_ending_iff locked (by decide)]
    exact ⟨fun ⟨_, _, hits⟩ => trimmed hits, fun isTrimmed => ⟨code, typed, isTrimmed.trim⟩⟩
  · intro blank input
    have misses : ∀ line ∈ (Text.lines input).take attempts, Text.trim line ≠ code :=
      fun _ _ hits => blank (trimmed hits)
    rw [Text.linesOf_utf8, unlock_locked locked, ask_shuts locked (by decide) misses]

/-- A code that is typed after a wrong line. -/
theorem opens_iff_trimmed_second_try :
    let settings : Settings := { lockCode? := some "1234" }
    settings.lockCode = some "1234" ∧
    "1234" ∈ (Text.lines "0000\n1234\n").take attempts ∧
    (unlock settings (Text.linesOf "0000\n1234\n".toUTF8.data.toList)).ending = .opened := by
  intro settings
  have typed : "1234" ∈ (Text.lines "0000\n1234\n").take attempts := by decide +kernel
  have locked : settings.lockCode = some "1234" := by decide +kernel
  exact ⟨locked, typed, ((opens_iff_trimmed locked).1 _ typed).mpr (by decide +kernel)⟩

/-- A code with a space before it does not open the screen when it is typed. -/
theorem padded_code_refused :
    let settings : Settings := { lockCode? := some " 1234" }
    settings.lockCode = some " 1234" ∧ (∀ c ∈ " 1234".toList, c ≠ '\n' ∧ c ≠ '\r') ∧
    (Text.lines " 1234\n").head? = some " 1234" ∧
    (unlock settings (Text.linesOf " 1234\n".toUTF8.data.toList)).ending = .shut .wrongCode := by
  exact ⟨by decide +kernel, by simp, by decide +kernel, by decide +kernel⟩

end Casefile.LockScreen
