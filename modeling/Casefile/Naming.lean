import Casefile.Json.Record
import Casefile.Text.Decimal

namespace Casefile

/-!
What contacts, messages, turns and the records of puzzles are called.
-/

structure ContactId where
  text : String
  deriving DecidableEq

structure MessageId where
  text : String
  deriving DecidableEq

structure StatusKey where
  text : String
  deriving DecidableEq

structure Turn where
  number : UInt32
  deriving DecidableEq

instance : Named ContactId := ⟨ContactId.text, ContactId.mk, fun _ => rfl, fun _ => rfl⟩

instance : Named StatusKey := ⟨StatusKey.text, StatusKey.mk, fun _ => rfl, fun _ => rfl⟩

instance : Wire ContactId where
  encode id := Wire.encode id.text
  decode value := (Wire.decode value).map ContactId.mk

instance : Wire MessageId where
  encode id := Wire.encode id.text
  decode value := (Wire.decode value).map MessageId.mk

instance : Wire Turn where
  encode turn := Wire.encode turn.number
  decode value := (Wire.decode value).map Turn.mk

namespace Turn

instance : LE Turn := ⟨fun a b => a.number ≤ b.number⟩

instance : LT Turn := ⟨fun a b => a.number < b.number⟩

instance (a b : Turn) : Decidable (a ≤ b) := inferInstanceAs (Decidable (a.number ≤ b.number))

instance (a b : Turn) : Decidable (a < b) := inferInstanceAs (Decidable (a.number < b.number))

def first : Turn := ⟨1⟩

def last : Turn := ⟨0xFFFFFFFF⟩

/-- The turn after another; nothing comes after the last one. -/
def next (turn : Turn) : Turn := if turn = last then last else ⟨turn.number + 1⟩

def text (turn : Turn) : String := Text.decimal turn.number.toNat

theorem isDigit_text (turn : Turn) : ∀ c ∈ turn.text.toList, c.isDigit = true := by
  intro c member
  have listed : c ∈ Nat.toDigits 10 turn.number.toNat := by
    simpa [text, Text.decimal] using member
  exact Nat.isDigit_of_mem_toDigits (by decide) (by decide) listed

end Turn

def StatusKey.of (contact : ContactId) (turn : Turn) : StatusKey :=
  ⟨contact.text ++ "_" ++ turn.text⟩

end Casefile
