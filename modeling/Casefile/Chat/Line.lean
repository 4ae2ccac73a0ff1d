import Casefile.Naming
import Casefile.Text.Blank

namespace Casefile

/-!
What the player types: a command after a slash, or something to say.
-/

inductive ChatCommand where
  | switch (contact : ContactId)
  | contacts
  | history
  | reset
  | help
  | quit
  | say (text : String)
  deriving DecidableEq

inductive ChatError where
  | missingContact
  | unknown (name : String)
  deriving DecidableEq

def ChatError.message : ChatError → String
  | .missingContact => "usage: /contact <id>"
  | .unknown name => "unknown command /" ++ name ++ " (try /help)"

namespace ChatCommand

def lowerLatin (text : String) : String := String.ofList (text.toList.map Char.toLower)

def ofName (name : String) (arguments : List String) : Except ChatError ChatCommand :=
  match name with
  | "contact" | "c" =>
    match arguments with
    | id :: _ => .ok (.switch ⟨id⟩)
    | [] => .error .missingContact
  | "contacts" | "ls" => .ok .contacts
  | "history" => .ok .history
  | "reset" => .ok .reset
  | "help" | "?" => .ok .help
  | "quit" | "q" | "exit" => .ok .quit
  | name => .error (.unknown name)

/-- What a line asks for; a blank line asks for nothing. -/
def parse (line : String) : Except ChatError (Option ChatCommand) :=
  match Text.trimChars line.toList with
  | [] => .ok none
  | '/' :: rest =>
    match Text.words (String.ofList rest) with
    | [] => (ofName "" []).map some
    | name :: arguments => (ofName (lowerLatin name) arguments).map some
  | said => .ok (some (.say (String.ofList said)))

end ChatCommand

end Casefile
