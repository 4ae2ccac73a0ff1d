import Casefile.Chat.Loop

namespace Casefile

/-!
A run of a chat, line by line.
-/

/-- A line that is typed in a chat. -/
structure Typed where
  chat : Chat
  now : Instant
  line : String

namespace Typed

def step (typed : Typed) : ChatStep := typed.chat.handle typed.now typed.line

/-- What the line itself does, before toasts are printed. -/
def obeyed (typed : Typed) : ChatStep := typed.chat.obey typed.now typed.line

/-- The toasts that are printed after the line. -/
def toasts (typed : Typed) : List Toast := (typed.obeyed.chat.session.look typed.now).1

end Typed

namespace Chat

/-- The lines that are handled, each in the chat in which it is typed. -/
def handled (chat : Chat) : List (Instant × Option String) → List Typed
  | [] => []
  | (_, none) :: _ => []
  | (now, some line) :: rest =>
    let typed : Typed := { chat, now, line }
    typed :: if typed.step.goesOn then typed.step.chat.handled rest else []

/-- The chats from line to line: the first one, and the one after each line that is handled.  Every
prompt is given in one of them. -/
def chats (chat : Chat) (lines : List (Instant × Option String)) : List Chat :=
  chat :: (chat.handled lines).map (·.step.chat)

/-- The lines that are handled in several runs, each of them with the session that the one before
left. -/
def handledInRuns (session : Session) : List (List (Instant × Option String)) → List Typed
  | [] => []
  | lines :: rest =>
    (start session).handled lines ++ handledInRuns (run session lines).chat.session rest

end Chat

end Casefile
