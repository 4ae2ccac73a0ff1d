import Casefile.Game.Picker

namespace Casefile

/-!
A pick is in range, and a series of picks goes round the sequence.

A pick with something to choose from takes the next entry of the sequence.  The others, and texts
without options, take none, so that they can be left out of a series without a difference to what
comes after it.
-/

/-- A text that may be chosen: one of the options, or the default where there are none. -/
def Choosable (options : List String) (default text : String) : Prop :=
  if options = [] then text = default else text ∈ options

/-- What a picker is asked for: a number below `choices`, or a text. -/
inductive Draw where
  | number (choices : Nat)
  | text (options : List String) (default : String)
  deriving DecidableEq

namespace Draw

def choices : Draw → Nat
  | .number choices => choices
  | .text options _ => options.length

/-- There is something to choose from. -/
def offers (draw : Draw) : Bool := decide (0 < draw.choices)

end Draw

namespace Picker

def after (picker : Picker) : Draw → Picker
  | .number choices => (picker.pick choices).2
  | .text options default => (picker.pickText options default).2

def afterAll (picker : Picker) (draws : List Draw) : Picker := draws.foldl after picker

variable {picker : Picker} {draw : Draw} {choices : Nat}

/-! What one pick gives, and the picker after it. -/

theorem pick_none (picker : Picker) : picker.pick 0 = (0, picker) := by
  rw [pick, if_pos (by simp)]

theorem pick_of_empty (empty : picker.sequence = []) (choices : Nat) :
    picker.pick choices = (0, picker) := by
  rw [pick, if_pos (by simp [empty])]

theorem pick_of_entries (entries : 0 < picker.sequence.length) (any : 0 < choices) :
    picker.pick choices =
      (picker.sequence.get ⟨picker.made % picker.sequence.length, Nat.mod_lt _ entries⟩ % choices,
        { picker with made := picker.made + 1 }) := by
  have inRange := Nat.mod_lt picker.made entries
  have goes : ¬ (picker.sequence.isEmpty || choices == 0) = true := by
    simpa [List.length_pos_iff.mp entries] using Nat.ne_of_gt any
  rw [pick, if_neg goes, List.getElem?_eq_getElem inRange]
  rfl

theorem pick_lt (picker : Picker) {choices : Nat} (any : 0 < choices) :
    (picker.pick choices).1 < choices := by
  unfold pick
  split
  · exact any
  · exact Nat.mod_lt _ any

/-- The index of a text is picked; it is the index of an option. -/
theorem pickText_eq (picker : Picker) {options : List String} (some : options ≠ [])
    (default : String) :
    picker.pickText options default =
      (options.get ⟨(picker.pick options.length).1,
          picker.pick_lt (List.length_pos_iff.mpr some)⟩,
        (picker.pick options.length).2) := by
  cases options with
  | nil => exact absurd rfl some
  | cons option others =>
      have inRange : (picker.pick (others.length + 1)).1 < (option :: others).length :=
        picker.pick_lt (Nat.succ_pos others.length)
      simp only [pickText, List.getElem?_eq_getElem inRange, Option.getD_some]
      rfl

theorem choosable_pickText (picker : Picker) (options : List String) (default : String) :
    Choosable options default (picker.pickText options default).1 := by
  by_cases none : options = []
  · subst none
    rfl
  · rw [Choosable, if_neg none, picker.pickText_eq none]
    exact List.get_mem _ _

/-! What a series of picks leaves behind. -/

theorem after_eq (picker : Picker) (draw : Draw) :
    picker.after draw = (picker.pick draw.choices).2 := by
  cases draw with
  | number choices => rfl
  | text options default =>
      by_cases none : options = []
      · subst none
        rw [Draw.choices, List.length_nil, pick_none]
        rfl
      · rw [after, picker.pickText_eq none]
        rfl

theorem after_of_idle (idle : draw.offers = false) : picker.after draw = picker := by
  have none : draw.choices = 0 := by simpa [Draw.offers] using idle
  rw [after_eq, none, pick_none]

theorem after_of_offer (entries : 0 < picker.sequence.length) (offer : draw.offers = true) :
    picker.after draw = { picker with made := picker.made + 1 } := by
  rw [after_eq, pick_of_entries entries (of_decide_eq_true offer)]

theorem afterAll_cons (picker : Picker) (draw : Draw) (draws : List Draw) :
    picker.afterAll (draw :: draws) = (picker.after draw).afterAll draws := rfl

theorem afterAll_filter (picker : Picker) (draws : List Draw) :
    picker.afterAll (draws.filter Draw.offers) = picker.afterAll draws := by
  induction draws generalizing picker with
  | nil => rfl
  | cons draw draws ih =>
      cases offer : draw.offers with
      | false =>
          rw [List.filter_cons_of_neg (by simp [offer]), ih, afterAll_cons, after_of_idle offer]
      | true => rw [List.filter_cons_of_pos offer, afterAll_cons, ih, afterAll_cons]

theorem afterAll_of_empty (empty : picker.sequence = []) (draws : List Draw) :
    picker.afterAll draws = picker := by
  induction draws with
  | nil => rfl
  | cons draw draws ih => rw [afterAll_cons, after_eq, pick_of_empty empty, ih]

/-- A series takes as many entries as it has draws with something to choose from. -/
theorem afterAll_of_entries (picker : Picker) (entries : 0 < picker.sequence.length)
    (draws : List Draw) :
    picker.afterAll draws =
      { picker with made := picker.made + draws.countP Draw.offers } := by
  induction draws generalizing picker with
  | nil => rfl
  | cons draw draws ih =>
      cases offer : draw.offers with
      | false =>
          rw [afterAll_cons, after_of_idle offer, ih picker entries,
            List.countP_cons_of_neg (by simp [offer])]
      | true =>
          have later := ih { picker with made := picker.made + 1 } entries
          rw [afterAll_cons, after_of_offer entries offer, later, List.countP_cons_of_pos offer,
            Nat.add_right_comm, Nat.add_assoc]

/-- Picks go round the sequence.  After any series of draws, a number is picked below the number of
choices, so that a text is always one of its options; the entry that it comes from is told by how
many draws there were before it with something to choose from.  The other draws change nothing, and
leaving them out of the series makes no difference.  Without a sequence each pick is zero. -/
theorem goes_round (sequence : List Nat) (before : List Draw) :
    let picker := ({ sequence } : Picker).afterAll before
    let earlier := before.countP Draw.offers
    (∀ choices, 0 < choices → (picker.pick choices).1 < choices ∧
      ∀ entries : 0 < sequence.length, (picker.pick choices).1 =
        sequence.get ⟨earlier % sequence.length, Nat.mod_lt _ entries⟩ % choices) ∧
    (∀ options default, options ≠ [] →
      ∃ inRange : (picker.pick options.length).1 < options.length,
        picker.pickText options default =
          (options.get ⟨(picker.pick options.length).1, inRange⟩,
            (picker.pick options.length).2)) ∧
    picker.pick 0 = (0, picker) ∧
    (∀ default, picker.pickText [] default = (default, picker)) ∧
    ({ sequence } : Picker).afterAll (before.filter Draw.offers) = picker ∧
    (sequence = [] → ∀ choices, picker.pick choices = (0, picker)) := by
  intro picker earlier
  refine ⟨fun choices any => ⟨picker.pick_lt any, fun entries => ?_⟩,
    fun options default some => ?_, picker.pick_none, fun default => rfl,
    afterAll_filter _ before, fun empty choices => ?_⟩
  · have gone : picker = { sequence, made := 0 + earlier } :=
      afterAll_of_entries { sequence } entries before
    rw [gone, pick_of_entries entries any]
    simp only [Nat.zero_add]
  · exact ⟨picker.pick_lt (List.length_pos_iff.mpr some), picker.pickText_eq some default⟩
  · have still : picker = { sequence } := afterAll_of_empty empty before
    exact pick_of_empty (by rw [still]; exact empty) choices

/-- Two draws of this series have nothing to choose from, so that what follows it goes back to the
first entry, which is larger than the number of choices. -/
theorem goes_round_past_idle :
    let before : List Draw :=
      [.number 4, .text [] "Wrong.", .text ["No.", "Riprova."] "Wrong.", .number 0]
    let picker := ({ sequence := [7, 2] } : Picker).afterAll before
    (picker.pick 3).1 = 1 ∧
      (picker.pickText ["Forse.", "Quasi.", "Mai."] "Wrong.").1 = "Quasi." := by
  intro before picker
  obtain ⟨picks, texts, _⟩ := goes_round [7, 2] before
  have picked : (picker.pick 3).1 = 1 := ((picks 3 (by decide)).2 (by decide)).trans (by decide)
  obtain ⟨inRange, chosen⟩ := texts ["Forse.", "Quasi.", "Mai."] "Wrong." (by decide)
  have second : (⟨(picker.pick 3).1, inRange⟩ : Fin 3) = 1 := Fin.ext picked
  exact ⟨picked, (congrArg Prod.fst chosen).trans (congrArg _ second)⟩

end Picker

end Casefile
