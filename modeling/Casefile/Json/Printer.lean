import Casefile.Json.Lexer

namespace Casefile.Json

/-!
JSON values as text.

A value is written token by token: `compact` puts nothing between the tokens, `pretty` puts line
breaks and two blanks per level, and a blank after each colon.  Literals are written as themselves
except quotes, backslashes and control characters.
-/

def hexDigit (n : Nat) : Char := Nat.digitChar n

def escape (c : Char) : List Char :=
  if c = '"' then ['\\', '"']
  else if c = '\\' then ['\\', '\\']
  else if c = '\x08' then ['\\', 'b']
  else if c = '\x0c' then ['\\', 'f']
  else if c = '\n' then ['\\', 'n']
  else if c = '\r' then ['\\', 'r']
  else if c = '\t' then ['\\', 't']
  else if c.toNat < 0x20 then ['\\', 'u', '0', '0', hexDigit (c.toNat / 16), hexDigit (c.toNat % 16)]
  else [c]

def quoted (cs : List Char) : List Char := '"' :: cs.flatMap escape ++ ['"']

def decimal : Int → List Char
  | .ofNat n => Nat.toDigits 10 n
  | .negSucc n => '-' :: Nat.toDigits 10 (n + 1)

/-- The text of a token.  A literal without a text is written as a lone high half. -/
def Token.spelling : Token → List Char
  | .openArray => ['[']
  | .closeArray => [']']
  | .openObject => ['{']
  | .closeObject => ['}']
  | .comma => [',']
  | .colon => [':']
  | .null => ['n', 'u', 'l', 'l']
  | .bool true => ['t', 'r', 'u', 'e']
  | .bool false => ['f', 'a', 'l', 's', 'e']
  | .int value => decimal value
  | .real spelling => spelling
  | .text (some content) => quoted content.toList
  | .text none => ['"', '\\', 'u', 'd', '8', '0', '0', '"']

def newline (depth : Nat) : List Char := '\n' :: List.replicate (2 * depth) ' '

abbrev Spaced := List Char × Token

mutual

/-- The tokens of a value, each with the blanks that `pretty` puts in front of it. -/
def spaced (depth : Nat) (gap : List Char) : Json → List Spaced
  | .null => [(gap, .null)]
  | .bool value => [(gap, .bool value)]
  | .int value => [(gap, .int value)]
  | .real spelling => [(gap, .real spelling)]
  | .text literal => [(gap, .text literal)]
  | .array [] => [(gap, .openArray), ([], .closeArray)]
  | .array (item :: items) =>
    (gap, .openArray) :: (spaced (depth + 1) (newline (depth + 1)) item
      ++ (spacedItems (depth + 1) items ++ [(newline depth, .closeArray)]))
  | .object [] => [(gap, .openObject), ([], .closeObject)]
  | .object ((key, value) :: members) =>
    (gap, .openObject) :: (newline (depth + 1), .text key) :: ([], .colon)
      :: (spaced (depth + 1) [' '] value
      ++ (spacedMembers (depth + 1) members ++ [(newline depth, .closeObject)]))

def spacedItems (depth : Nat) : List Json → List Spaced
  | [] => []
  | item :: items =>
    ([], .comma) :: (spaced depth (newline depth) item ++ spacedItems depth items)

def spacedMembers (depth : Nat) : List (Literal × Json) → List Spaced
  | [] => []
  | (key, value) :: members =>
    ([], .comma) :: (newline depth, .text key) :: ([], .colon)
      :: (spaced depth [' '] value ++ spacedMembers depth members)

end

def tokens (value : Json) : List Token := (spaced 0 [] value).map (·.2)

def compactChars (value : Json) : List Char := value.tokens.flatMap Token.spelling

def prettyChars (value : Json) : List Char :=
  (spaced 0 [] value).flatMap fun (gap, token) => gap ++ token.spelling

def compact (value : Json) : String := String.ofList value.compactChars

def pretty (value : Json) : String := String.ofList value.prettyChars

end Casefile.Json
