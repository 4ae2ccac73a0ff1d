import Casefile.Toml.Value

namespace Casefile.Toml

/-!
How the lines of a settings file build a table.

A key is set once, and a table is defined in one place: by one header, by keys with dots that follow
one header, or between braces.  A header may define a table that the headers of inner tables have
already brought about.
-/

/-- Whether a way of keys may go on into a table: keys with dots stay out of tables with a header,
and nothing enters a table between braces. -/
def TableOrigin.admits (dotted : Bool) : TableOrigin → Bool
  | .braces => false
  | .header => !dotted
  | .implied | .dotted => true

/-- Change the table at the end of a way of keys.  Tables that are missing on the way are created;
in an array with headers the way goes on into the last element. -/
def reach (dotted : Bool) (change : Toml → Option Toml) : List String → Toml → Option Toml
  | [], goal => change goal
  | key :: keys, .table origin entries =>
    let entered : Option Toml :=
      match find? key entries with
      | none => reach dotted change keys (.table (if dotted then .dotted else .implied) [])
      | some (.table inner more) =>
        if inner.admits dotted then reach dotted change keys (.table inner more) else none
      | some (.array .headers items) =>
        match items.getLast? with
        | none => none
        | some last => (reach dotted change keys last).map fun last =>
          .array .headers (items.dropLast ++ [last])
      | some _ => none
    entered.map fun child => .table origin (put key child entries)
  | _ :: _, _ => none

def define (key : String) (value : Toml) : Toml → Option Toml
  | .table origin entries =>
    match find? key entries with
    | some _ => none
    | none => some (.table origin (put key value entries))
  | _ => none

def defineDotted (key : String) (value : Toml) : Toml → Option Toml
  | .table .dotted entries => define key value (.table .dotted entries)
  | _ => none

def assign (way : List String) (key : String) (value base : Toml) : Option Toml :=
  if way.isEmpty then define key value base
  else reach true (defineDotted key value) way base

def openTable (key : String) : Toml → Option Toml
  | .table origin entries =>
    match find? key entries with
    | none => some (.table origin (put key (.table .header []) entries))
    | some (.table .implied inner) =>
      some (.table origin (put key (.table .header inner) entries))
    | some _ => none
  | _ => none

def openElement (key : String) : Toml → Option Toml
  | .table origin entries =>
    match find? key entries with
    | none => some (.table origin (put key (.array .headers [.table .header []]) entries))
    | some (.array .headers items) =>
      some (.table origin (put key (.array .headers (items ++ [.table .header []])) entries))
    | some _ => none
  | _ => none

/-- The tables read so far, and the keys that lead to the one that the last header opened. -/
structure Document where
  root : Toml := .table .header []
  place : List String := []

def Document.assign (document : Document) (way : List String) (key : String) (value : Toml) :
    Option Document :=
  (reach false (Toml.assign way key value) document.place document.root).map fun root =>
    { document with root }

def Document.head (document : Document) (element : Bool) (way : List String) (key : String) :
    Option Document :=
  (reach false (if element then openElement key else openTable key) way document.root).map fun root =>
    { root, place := way ++ [key] }

end Casefile.Toml
