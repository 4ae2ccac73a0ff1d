import Casefile.Puzzle.Wire

namespace Casefile

open Json (present record)

/-!
What a line of the player comes to.
-/

structure Solved where
  text : String
  nextTurn : Turn
  mediaId? : Option String := none
  evidence? : Option String := none
  messageId? : Option String := none
  delivery? : Option Delivery := none
  deriving DecidableEq

inductive Outcome where
  | invalid
  | contactNotFound
  | puzzleNotFound
  | preQuestion (text : String)
  | locked (text : String)
  | success (solved : Solved)
  | hint (text : String)
  | fail (text : String)
  | configError (text : String)
  deriving DecidableEq

namespace Outcome

def invalidText : String := "Formato errato. Usa T\x7bn\x7d: \x7bparola chiave\x7d"

def contactNotFoundText : String := "Contatto non trovato"

def puzzleNotFoundText : String := "Nessun enigma per questo turno"

/-- What the contact says when the announcement of a solved puzzle lacks a part. -/
def incompleteNoticeText : String := "Configurazione notifica incompleta"

def text : Outcome → String
  | .invalid => invalidText
  | .contactNotFound => contactNotFoundText
  | .puzzleNotFound => puzzleNotFoundText
  | .success solved => solved.text
  | .preQuestion text | .locked text | .hint text | .fail text | .configError text => text

def label : Outcome → String
  | .invalid => "invalid"
  | .contactNotFound => "contact_not_found"
  | .puzzleNotFound => "puzzle_not_found"
  | .preQuestion _ => "pre_question"
  | .locked _ => "locked"
  | .success _ => "success"
  | .hint _ => "hint"
  | .fail _ => "fail"
  | .configError _ => "config_error"

def isSuccess : Outcome → Bool
  | .success _ => true
  | _ => false

def delivery? : Outcome → Option Delivery
  | .success solved => solved.delivery?
  | _ => none

def deliveryJson (delivery : Delivery) : Json := record [
  ("contact", some (Wire.encode delivery.contact)),
  ("message", some (Wire.encode delivery.message))]

def toJson : Outcome → Json
  | .invalid => record [("status", some (.string "invalid"))]
  | .contactNotFound => record [("status", some (.string "contactNotFound"))]
  | .puzzleNotFound => record [("status", some (.string "puzzleNotFound"))]
  | .preQuestion text => saying "preQuestion" text
  | .locked text => saying "locked" text
  | .hint text => saying "hint" text
  | .fail text => saying "fail" text
  | .configError text => saying "configError" text
  | .success solved => record [
    ("status", some (.string "success")),
    ("text", some (Wire.encode solved.text)),
    ("nextTurn", some (Wire.encode solved.nextTurn)),
    ("mediaId", present solved.mediaId?),
    ("evidenceText", present solved.evidence?),
    ("messageId", present solved.messageId?),
    ("notification", solved.delivery?.map deliveryJson)]
where
  saying (status text : String) : Json :=
    record [("status", some (.string status)), ("text", some (.string text))]

end Outcome

end Casefile
