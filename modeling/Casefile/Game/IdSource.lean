import Casefile.Naming

namespace Casefile

/-!
Fresh names for messages.

A source is a sequence of names of which some were drawn.  `IdSource.ofSeed` makes names of the form
of random identifiers: 32 hexadecimal digits in five groups, with the marks of a random one.
-/

structure IdSource where
  name : Nat → MessageId
  drawn : Nat := 0

namespace IdSource

def draw (source : IdSource) : MessageId × IdSource :=
  (source.name source.drawn, { source with drawn := source.drawn + 1 })

def hexDigits (n count : Nat) : List Char :=
  (List.range count).reverse.map fun place => Nat.digitChar (n >>> (4 * place) % 16)

def randomId (bits : Nat) : MessageId :=
  ⟨String.ofList (
    hexDigits (bits >>> 88) 8 ++ '-' :: (hexDigits (bits >>> 72) 4 ++
    '-' :: '4' :: (hexDigits (bits >>> 60) 3 ++
    '-' :: Nat.digitChar (8 + bits >>> 124 % 4) :: (hexDigits (bits >>> 48) 3 ++
    '-' :: hexDigits bits 12))))⟩

/-- The step from the random bits of one name to those of the next. -/
def stride : Nat := 0x9E3779B97F4A7C15F39CC0605CEDC835

def ofSeed (seed : Nat) : IdSource := { name := fun n => randomId (seed + n * stride) }

end IdSource

end Casefile
