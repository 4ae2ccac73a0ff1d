namespace Casefile

/-!
Values of a settings file.

Tables and arrays remember what made them, because that decides whether later lines may add to
them.  Of a number with a fraction only its range matters, and of a date nothing but that it is one.
-/

namespace Toml

/-- What made a table. -/
inductive TableOrigin where
  /-- A header of its own. -/
  | header
  /-- The header of a table inside it. -/
  | implied
  | dotted
  | braces
  deriving DecidableEq

inductive ArrayOrigin where
  | headers
  | brackets
  deriving DecidableEq

end Toml

inductive Toml where
  | text (value : String)
  | bool (value : Bool)
  | int (value : Int)
  | real (inRange : Bool)
  | moment
  | array (origin : Toml.ArrayOrigin) (items : List Toml)
  | table (origin : Toml.TableOrigin) (entries : List (String × Toml))

namespace Toml

def find? (key : String) (entries : List (String × Toml)) : Option Toml := entries.lookup key

/-- Entries in which the value of a key is replaced, or added at the end. -/
def put (key : String) (value : Toml) : List (String × Toml) → List (String × Toml)
  | [] => [(key, value)]
  | entry :: rest => if entry.1 = key then (key, value) :: rest else entry :: put key value rest

def leastInt : Int := -0x80000000000000000000000000000000

def greatestInt : Int := 0xFFFFFFFFFFFFFFFFFFFFFFFFFFFFFFFF

mutual

def readable : Toml → Bool
  | .text _ | .bool _ | .moment => true
  | .int value => decide (leastInt ≤ value ∧ value ≤ greatestInt)
  | .real inRange => inRange
  | .array _ items => readableItems items
  | .table _ entries => readableEntries entries

def readableItems : List Toml → Bool
  | [] => true
  | item :: rest => item.readable && readableItems rest

def readableEntries : List (String × Toml) → Bool
  | [] => true
  | (_, value) :: rest => value.readable && readableEntries rest

end

end Toml

end Casefile
