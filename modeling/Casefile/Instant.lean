import Casefile.Json.Record

namespace Casefile

/-!
Points in time, in milliseconds, over the range of 64-bit numbers.

A deadline that would lie past the end of the range lies at its end (`Instant.after`).  A clock that
is wound past an end goes on at the other one (`Instant.wind`).
-/

/-- A point in time, in milliseconds. -/
structure Instant where
  millis : Int64
  deriving DecidableEq

namespace Instant

instance : LE Instant := ⟨fun a b => a.millis ≤ b.millis⟩

instance : LT Instant := ⟨fun a b => a.millis < b.millis⟩

instance (a b : Instant) : Decidable (a ≤ b) := inferInstanceAs (Decidable (a.millis ≤ b.millis))

instance (a b : Instant) : Decidable (a < b) := inferInstanceAs (Decidable (a.millis < b.millis))

instance : Wire Instant where
  encode instant := Wire.encode instant.millis
  decode value := (Wire.decode value).map Instant.mk

/-- The instant some milliseconds later, or the nearest one in range. -/
def after (instant : Instant) (span : Int64) : Instant :=
  ⟨Int64.ofIntClamp (instant.millis.toInt + span.toInt)⟩

def wind (instant : Instant) (span : Int64) : Instant := ⟨instant.millis + span⟩

end Instant

end Casefile
