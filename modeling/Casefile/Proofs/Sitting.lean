import Casefile.Proofs.LockScreen
import Casefile.Sitting

namespace Casefile.Sitting

/-!
A sitting is its title, then the lock screen, and then the chat on the lines that the screen left.
-/

/-- Handle the lines that are left, unless the sitting is over; something was shown before. -/
def goOn (left : List (Instant × Option String)) (entered : Sitting × String) :
    Sitting × String :=
  if entered.1.goesOn then
    let (last, more) := entered.1.hearAll left
    (last, entered.2 ++ more)
  else entered

variable {arrived : Sitting}

theorem run_eq_goOn (surroundings : Surroundings) (lines : List (Instant × Option String)) :
    run surroundings lines = goOn lines (start surroundings) := rfl

theorem hearAll_cons (sitting : Sitting) (now : Instant) (line : Option String)
    (rest : List (Instant × Option String)) :
    sitting.hearAll ((now, line) :: rest) = goOn rest (sitting.hear now line) := rfl

theorem goOn_append (left : List (Instant × Option String)) (shown : String)
    (entered : Sitting × String) :
    goOn left (entered.1, shown ++ entered.2) =
      ((goOn left entered).1, shown ++ (goOn left entered).2) := by
  unfold goOn
  dsimp only
  split
  · rw [String.append_assoc]
  · rfl

theorem goOn_locked (left : List (Instant × Option String)) (tries : Nat) :
    goOn left (arrived.enter (.asking tries)) =
      ({ arrived with scene := .locked tries } : Sitting).hearAll left := by
  simp only [enter, goOn, goesOn, if_true, String.empty_append]

theorem enter_locked (idle : arrived.disk = arrived.surroundings.disk) (left : Nat)
    (ending : LockScreen) :
    ({ arrived with scene := .locked left } : Sitting).enter ending = arrived.enter ending := by
  have concluded (failure? : Option SittingError) :
      ({ arrived with scene := .locked left } : Sitting).conclude failure? =
        arrived.conclude failure? := by
    rw [conclude, conclude, idle]
    rfl
  cases ending with
  | asking _ => rfl
  | shut reason => exact congrArg (·, "") (concluded _)
  | opened =>
      unfold enter begin
      dsimp only
      cases Story.load arrived.surroundings.disk
          (arrived.settings.storyPath arrived.surroundings.valueOf) with
      | error reason => exact congrArg (·, "") (concluded _)
      | ok story => rfl

theorem hear_locked (idle : arrived.disk = arrived.surroundings.disk) (left : Nat) (now : Instant)
    (line : Option String) :
    let (screen, shown) := LockScreen.hear arrived.settings left line
    ({ arrived with scene := .locked left } : Sitting).hear now line =
      ((arrived.enter screen).1, shown ++ (arrived.enter screen).2) := by
  dsimp only
  rw [← enter_locked idle left]
  rfl

/-- The lines of a sitting at the lock screen are heard by the screen until it has ended, and those
that are left after that. -/
theorem hearAll_locked (idle : arrived.disk = arrived.surroundings.disk) (left : Nat)
    (lines : List (Instant × Option String)) :
    let passage := LockScreen.run arrived.settings (.asking left) (lines.map (·.2))
    ∃ heard rest, lines = heard ++ rest ∧ rest.map (·.2) = passage.rest ∧
      ({ arrived with scene := .locked left } : Sitting).hearAll lines =
        let (last, shown) := goOn rest (arrived.enter passage.ending)
        (last, passage.shown ++ shown) := by
  induction lines generalizing left with
  | nil =>
      refine ⟨[], [], rfl, rfl, ?_⟩
      have closed := congrArg Prod.fst (enter_locked idle left (LockScreen.asking left).close)
      exact congrArg (·, "") closed
  | cons line lines ih =>
      obtain ⟨now, text⟩ := line
      have heard := hear_locked idle left now text
      rw [List.map_cons, LockScreen.run_cons, hearAll_cons]
      generalize LockScreen.hear arrived.settings left text = hearing at heard ⊢
      obtain ⟨screen, shown⟩ := hearing
      rw [heard, goOn_append]
      cases screen with
      | asking fewer =>
          obtain ⟨heard, rest, split, isLeft, later⟩ := ih fewer
          refine ⟨(now, text) :: heard, rest, congrArg ((now, text) :: ·) split, isLeft, ?_⟩
          simp only [goOn_locked, later, String.append_assoc]
      | opened =>
          rw [LockScreen.run_opened]
          exact ⟨[(now, text)], lines, rfl, rfl, by simp only [String.append_empty]⟩
      | shut reason =>
          rw [LockScreen.run_shut]
          exact ⟨[(now, text)], lines, rfl, rfl, by simp only [String.append_empty]⟩

theorem disk_arrive (surroundings : Surroundings) :
    (arrive surroundings).disk = (arrive surroundings).surroundings.disk := by
  have scene : (arrive surroundings).scene = .over none := rfl
  rw [disk, scene]

/-- A passage through the lock screen is that of a sitting: what it shows comes after the title, and
the sitting goes on with the lines that it leaves. -/
def Passes (surroundings : Surroundings) (lines : List (Instant × Option String))
    (passage : LockScreen.Passage) : Prop :=
  ∃ heard left, lines = heard ++ left ∧ left.map (·.2) = passage.rest ∧
    run surroundings lines =
      let arrived := arrive surroundings
      let (last, shown) := goOn left (arrived.enter passage.ending)
      (last, titleLine arrived.settings ++ passage.shown ++ shown)

theorem passes_unlock (surroundings : Surroundings) (lines : List (Instant × Option String)) :
    Passes surroundings lines
      (LockScreen.unlock (arrive surroundings).settings (lines.map (·.2))) := by
  have idle := disk_arrive surroundings
  unfold Passes
  rw [run_eq_goOn, start]
  generalize arrive surroundings = arrived at idle ⊢
  simp only [goOn_append]
  cases locked : arrived.settings.lockCode with
  | none =>
      rw [LockScreen.unlock_unlocked locked, LockScreen.start_unlocked locked]
      exact ⟨[], lines, rfl, rfl, rfl⟩
  | some code =>
      rw [LockScreen.unlock_locked locked, LockScreen.start_locked locked]
      obtain ⟨heard, left, split, isLeft, later⟩ :=
        hearAll_locked idle LockScreen.attempts lines
      refine ⟨heard, left, split, isLeft, ?_⟩
      simp only [goOn_locked, later, LockScreen.ask, String.append_assoc]

open LockScreen (attempts prompt rounds unlock)

/-- Without a code the lock screen shows nothing and takes no line.  With a code it opens exactly if
one of the lines that may be tried is the code, blanks around it aside.  It takes the lines up to
the first such line, or those that may be tried, and leaves every byte after them; it shows a prompt
for each line that it takes, an answer after each wrong one, and one more prompt if the input ends
too early.  A sitting goes on with what it leaves. -/
theorem lock_screen_takes_what_it_needs (settings : Settings) (input : String) :
    let bytes := input.toUTF8.data.toList
    let lines := Text.lines input
    let passage := unlock settings (Text.linesOf bytes)
    (settings.lockCode = none →
      passage = { ending := .opened, shown := "", rest := Text.linesOf bytes }) ∧
    (∀ code, settings.lockCode = some code →
      (passage.ending = .opened ↔ ∃ line ∈ lines.take attempts, Text.trim line = code) ∧
      (∀ wrong line after, lines = wrong ++ line :: after → wrong.length < attempts →
        (∀ other ∈ wrong, Text.trim other ≠ code) → Text.trim line = code →
        passage.ending = .opened ∧ passage.shown = rounds wrong.length ++ prompt ∧
          passage.Takes bytes (wrong.length + 1)) ∧
      (passage.ending ≠ .opened →
        passage.ending = .shut .wrongCode ∧
          passage.shown = rounds (min attempts lines.length) ++
            (if lines.length < attempts then prompt else "") ∧
          passage.Takes bytes (min attempts lines.length))) ∧
    ∀ surroundings timed, (arrive surroundings).settings = settings →
      timed.map (·.2) = Text.linesOf bytes → Passes surroundings timed passage := by
  intro bytes lines passage
  have text : Text.linesOf bytes = lines.map some := Text.linesOf_utf8 input
  refine ⟨fun unlocked => LockScreen.unlock_unlocked unlocked _, fun code locked => ?_, ?_⟩
  · have asked : passage = LockScreen.ask settings attempts (lines.map some) :=
      (LockScreen.unlock_locked locked _).trans (congrArg _ text)
    have opens := LockScreen.ask_ending_iff locked (by decide : 0 < attempts) lines
    rw [← asked] at opens
    refine ⟨opens, fun wrong line after split few misses hits => ?_, fun stays => ?_⟩
    · rw [split, List.map_append, List.map_cons,
        LockScreen.ask_opens locked few misses hits] at asked
      refine ⟨by rw [asked], by rw [asked], LockScreen.Passage.takes_of_rest ?_⟩
      rw [asked, text, split, List.append_cons, List.map_append, List.drop_left' (by simp)]
    · have misses : ∀ line ∈ lines.take attempts, Text.trim line ≠ code :=
        fun line member hits => stays (opens.mpr ⟨line, member, hits⟩)
      rw [LockScreen.ask_shuts locked (by decide) misses] at asked
      refine ⟨by rw [asked], by rw [asked], LockScreen.Passage.takes_of_rest ?_⟩
      rw [asked, text, ← List.map_drop]
      rcases Nat.le_total attempts lines.length with enough | few
      · rw [Nat.min_eq_left enough]
      · rw [Nat.min_eq_right few, List.drop_of_length_le few, List.drop_length]
  · rintro surroundings timed rfl same
    have passes := passes_unlock surroundings timed
    rwa [same] at passes

/-- The code, with blanks around it, is typed after a wrong line; what follows is for the chat. -/
theorem lock_screen_takes_what_it_needs_second_try :
    let settings : Settings := { lockCode? := some "1234" }
    let bytes := "0000\n 1234 \r\n/help\n".toUTF8.data.toList
    let passage := unlock settings (Text.linesOf bytes)
    passage.ending = .opened ∧
    passage.shown = "Codice: Codice errato.\nCodice: " ∧ passage.Takes bytes 2 := by
  intro settings bytes passage
  have locked : settings.lockCode = some "1234" := by decide +kernel
  obtain ⟨_, taken, _⟩ := lock_screen_takes_what_it_needs settings "0000\n 1234 \r\n/help\n"
  have second := (taken "1234" locked).2.1 ["0000"] " 1234 " ["/help"] (by decide +kernel)
    (by decide) (by decide +kernel) (by decide +kernel)
  exact ⟨second.1, second.2.1.trans (by decide +kernel), second.2.2⟩

end Casefile.Sitting
