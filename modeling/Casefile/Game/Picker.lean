namespace Casefile

/-!
The choice among variants of a text.

A picker goes round a sequence of numbers and reduces each to the number of choices.  Where there is
nothing to choose from it stands still.
-/

/-- A sequence of choices, and how many of them were made. -/
structure Picker where
  sequence : List Nat
  /-- Choices are counted without end; that a counter of 64 bits ends at `2 ^ 64` is left out. -/
  made : Nat := 0
  deriving DecidableEq

namespace Picker

def first : Picker := { sequence := [0] }

/-- Choose a number below `choices`; with no choice or no sequence it is zero. -/
def pick (picker : Picker) (choices : Nat) : Nat × Picker :=
  if picker.sequence.isEmpty || choices == 0 then (0, picker)
  else
    ((picker.sequence[picker.made % picker.sequence.length]?).getD 0 % choices,
      { picker with made := picker.made + 1 })

def pickText (picker : Picker) (options : List String) (default : String) : String × Picker :=
  match options with
  | [] => (default, picker)
  | option :: others =>
    let (index, picker) := picker.pick (others.length + 1)
    (((option :: others)[index]?).getD default, picker)

end Picker

end Casefile
