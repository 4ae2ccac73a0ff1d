import Casefile.Chat.Line
import Casefile.Game.Session

namespace Casefile

/-!
The chat at a terminal.

After each line the toasts that show are printed and taken away, and then the prompt for the next
line, unless the player left.
-/

namespace Outcome

def extraLine (label : String) : Option String → String
  | some content => "\n  " ++ label ++ " " ++ content
  | none => ""

def rendered : Outcome → String
  | .success solved =>
    solved.text ++ extraLine "[prova]" solved.evidence? ++ extraLine "[allegato]" solved.mediaId?
  | outcome => outcome.text

end Outcome

structure Chat where
  session : Session
  active? : Option ContactId

/-- The chat after a line, what it printed, and whether it goes on. -/
structure ChatStep where
  chat : Chat
  shown : String
  goesOn : Bool := true

namespace Chat

def helpText : String :=
  "/contact <id>  switch chat\n" ++
  "/contacts      list contacts\n" ++
  "/history       show the current chat\n" ++
  "/reset         start over\n" ++
  "/quit          leave\n" ++
  "T<n>: <answer> answer the puzzle for turn n\n"

def resetText : String := "Partita azzerata.\n"

/-- A chat with the first contact that has appeared. -/
def start (session : Session) : Chat :=
  { session, active? := session.visibleContacts.head?.map (·.id) }

def prompt (chat : Chat) : String :=
  match chat.active? with
  | some contact => "[" ++ contact.text ++ "] > "
  | none => "> "

def padded (width : Nat) (text : String) : String :=
  text ++ String.ofList (List.replicate (width - text.length) ' ')

def contactLine (chat : Chat) (contact : ContactId) (unread : Nat) : String :=
  let name := match chat.session.story.contact? contact with
    | some listed => listed.name
    | none => contact.text
  (if chat.active? = some contact then "*" else " ") ++ " " ++ padded 8 contact.text ++ " " ++
    name ++ " (" ++ Text.decimal unread ++ ")\n"

def messageLine (contact : ContactId) (message : Message) : String :=
  let author := match message.sender with
    | .user => "tu"
    | .contact => contact.text
  "  " ++ author ++ ": " ++ message.content ++ "\n"

def toastLine (toast : Toast) : String :=
  match toast.contact? with
  | some contact => "[!] " ++ contact.text ++ ": " ++ toast.text ++ "\n"
  | none => "[!] " ++ toast.text ++ "\n"

/-- Print the messages of the active contact, which are read from now on. -/
def showHistory (chat : Chat) : ChatStep :=
  match chat.active? with
  | none => { chat, shown := "" }
  | some contact =>
    let (messages, session) := chat.session.openChat contact
    { chat := { chat with session }, shown := String.join (messages.map (messageLine contact)) }

def say (chat : Chat) (now : Instant) (text : String) : ChatStep :=
  match chat.active? with
  | none => { chat, shown := Outcome.contactNotFound.text ++ "\n" }
  | some contact =>
    let (outcome, session) := chat.session.submit now contact text
    { chat := { chat with session }, shown := contact.text ++ ": " ++ outcome.rendered ++ "\n" }

def switch (chat : Chat) (contact : ContactId) : ChatStep :=
  if chat.session.story.hasContact contact then
    let step := showHistory { chat with active? := some contact }
    { step with shown := "-> " ++ contact.text ++ "\n" ++ step.shown }
  else { chat, shown := Outcome.contactNotFound.text ++ "\n" }

def execute (chat : Chat) (now : Instant) : ChatCommand → ChatStep
  | .quit => { chat, shown := "", goesOn := false }
  | .help => { chat, shown := helpText }
  | .contacts =>
    { chat
      shown := String.join (chat.session.unreadCounts.map fun (contact, unread) =>
        chat.contactLine contact unread) }
  | .switch contact => chat.switch contact
  | .history => chat.showHistory
  | .reset => { chat := { chat with session := chat.session.reset }, shown := resetText }
  | .say text => chat.say now text

/-- Print the toasts that show, and take them away. -/
def flushToasts (chat : Chat) (now : Instant) : ChatStep :=
  let (toasts, session) := chat.session.look now
  let session := toasts.foldl (fun session toast => (session.dismiss toast.id).2) session
  { chat := { chat with session }, shown := String.join (toasts.map toastLine) }

def obey (chat : Chat) (now : Instant) (line : String) : ChatStep :=
  match ChatCommand.parse line with
  | .ok none => { chat, shown := "" }
  | .ok (some command) => chat.execute now command
  | .error mistake => { chat, shown := mistake.message ++ "\n" }

def handle (chat : Chat) (now : Instant) (line : String) : ChatStep :=
  let obeyed := chat.obey now line
  let flushed := obeyed.chat.flushToasts now
  { chat := flushed.chat
    shown := obeyed.shown ++ flushed.shown ++ if obeyed.goesOn then flushed.chat.prompt else ""
    goesOn := obeyed.goesOn }

structure Transcript where
  chat : Chat
  shown : String
  failure? : Option IoError := none

/-- Handle lines, each at its time, until the player leaves or a line has no text. -/
def handleAll (chat : Chat) : List (Instant × Option String) → Transcript
  | [] => { chat, shown := "" }
  | (_, none) :: _ => { chat, shown := "", failure? := some .invalidText }
  | (now, some line) :: rest =>
    let step := chat.handle now line
    if step.goesOn then
      let more := step.chat.handleAll rest
      { more with shown := step.shown ++ more.shown }
    else { chat := step.chat, shown := step.shown }

def run (session : Session) (lines : List (Instant × Option String)) : Transcript :=
  let chat := start session
  let transcript := chat.handleAll lines
  { transcript with shown := chat.prompt ++ transcript.shown }

end Chat

end Casefile
