import Casefile.Game.Conversation
import Casefile.Proofs.Game.Record

namespace Casefile

/-!
What a line leaves in the chats.

A line to a contact that can be played leaves two messages in the contact's chat, both read: what
the player said and what it came to.  A delivery leaves an unread one in the chat that it is meant
for.  So the messages of a run that were read alternate, and the unread ones are the deliveries.
-/

namespace GameState

variable {state : GameState}

@[simp] theorem performAll_append (state : GameState) (first second : List Edit) :
    state.performAll (first ++ second) = (state.performAll first).performAll second :=
  List.foldl_append

theorem find?_reviseChat (state : GameState) (contact chat : ContactId)
    (change : List Message → List Message) :
    (state.reviseChat contact change).chats.find? chat =
      if chat = contact then some (change (state.messages contact)) else state.chats.find? chat :=
  Table.find?_insert contact chat _

theorem messages_congr {other : GameState} (same : other.chats = state.chats) (chat : ContactId) :
    other.messages chat = state.messages chat := by rw [messages, same, messages]

end GameState

namespace Story

variable {story : Story} {contact : ContactId}

theorem resolve_chats (story : Story) (picker : Picker) (state before : GameState)
    (now : Instant) (contact : ContactId) (line : String) :
    (before.performAll (story.resolve picker state now contact line).edits).chats =
      before.chats := by
  rcases story.resolve_cases picker state now contact line with
    ⟨command, puzzle, parsed, has⟩ | ⟨outcome, _, resolved⟩
  · rw [Story.resolve_puzzle parsed has]
    exact (GameState.frame_of_ruling before (Puzzle.receive_ruling ..)).1
  · rw [resolved]
    rfl

theorem resolve_unknown (unknown : story.hasContact contact = false) (picker : Picker)
    (state : GameState) (now : Instant) (line : String) :
    ∃ outcome, (outcome = .invalid ∨ outcome = .contactNotFound) ∧
      story.resolve picker state now contact line = { outcome, edits := [], picker } := by
  have missing : story.bundle? contact = none := Option.isNone_iff_eq_none.mp (by
    simpa [hasContact, Table.contains, bundle?] using unknown)
  cases parsed : Command.parse line with
  | none => exact ⟨.invalid, .inl rfl, by simp only [resolve, parsed]⟩
  | some command => exact ⟨.contactNotFound, .inr rfl, by simp only [resolve, parsed, missing]⟩

theorem delivers_of_delivery {outcome : Outcome} {delivery : Delivery}
    (delivered : outcome.delivery? = some delivery) (chat : ContactId) :
    story.delivers outcome chat =
      if chat = delivery.contact ∧ story.hasContact delivery.contact = true then some delivery
      else none := by
  rw [delivers, delivered]
  by_cases same : chat = delivery.contact
  · subst same
    cases story.hasContact delivery.contact <;> simp [Option.filter]
  · simp [Option.filter, same, Ne.symm same]

end Story

/-- A message as it is filed: who said what and when, and whether it counts as read. -/
structure Message.Records (message : Message) (sender : Sender) (content : String) (now : Instant)
    (read : Bool) : Prop where
  sender : message.sender = sender
  content : message.content = content
  sentAt : message.sentAt = now
  read : message.read? = some read

theorem Message.Records.awaitsReading {message : Message} {sender : Sender} {content : String}
    {now : Instant} {read : Bool} (records : message.Records sender content now read) :
    message.awaitsReading = (sender = .contact && !read) := by
  simp [Message.awaitsReading, isRead, records.sender, records.read]

/-- Messages among which the unread ones are deliveries, and the others alternate between the player
and a contact. -/
structure Dialogue (messages : List Message) (deliveries : List Delivery) : Prop where
  unread : (messages.filter Message.awaitsReading).map (·.content) = deliveries.map (·.message)
  read : ∃ exchanges, (messages.filter (!·.awaitsReading)).map (·.sender) =
    (List.replicate exchanges [Sender.user, .contact]).flatten

namespace Dialogue

variable {now : Instant} {asked answered : Message} {question answer : String}
  {first second : List Message} {before after : List Delivery} {announced : Delivery → Message}

theorem nil : Dialogue [] [] := ⟨rfl, 0, rfl⟩

theorem append (earlier : Dialogue first before) (later : Dialogue second after) :
    Dialogue (first ++ second) (before ++ after) := by
  obtain ⟨exchanges, read⟩ := earlier.read
  obtain ⟨others, readLater⟩ := later.read
  constructor
  · rw [List.filter_append, List.map_append, earlier.unread, later.unread, List.map_append]
  · refine ⟨exchanges + others, ?_⟩
    rw [List.filter_append, List.map_append, read, readLater, ← List.replicate_append_replicate,
      List.flatten_append]

theorem exchange (isAsked : asked.Records .user question now true)
    (isAnswered : answered.Records .contact answer now true) : Dialogue [asked, answered] [] := by
  have heard : asked.awaitsReading = false := isAsked.awaitsReading
  have seen : answered.awaitsReading = false := isAnswered.awaitsReading
  constructor
  · simp [heard, seen]
  · exact ⟨1, by simp [heard, seen, isAsked.sender, isAnswered.sender]⟩

theorem deliver
    (isAnnounced : ∀ delivery, (announced delivery).Records .contact delivery.message now false)
    (delivery? : Option Delivery) :
    Dialogue (delivery?.map announced).toList delivery?.toList := by
  cases delivery? with
  | none => exact nil
  | some delivery =>
      have awaited : (announced delivery).awaitsReading = true :=
        (isAnnounced delivery).awaitsReading
      constructor
      · simp [awaited, (isAnnounced delivery).content]
      · exact ⟨0, by simp [awaited]⟩

end Dialogue

namespace Session

variable {session : Session} {now : Instant} {contact chat : ContactId} {line : String}

theorem find?_say (session : Session) (ids : IdSource) (contact chat : ContactId)
    (message : MessageId → Message) (state : GameState) :
    (state.performAll (session.say ids contact message).1).chats.find? chat =
      if chat = contact ∧ session.story.hasContact contact = true then
        some (state.messages chat ++ [(message ids.draw.1).filed])
      else state.chats.find? chat := by
  cases known : session.story.hasContact contact with
  | false => simp [say, known, GameState.performAll]
  | true =>
      have performed : state.performAll (session.say ids contact message).1 =
          state.reviseChat contact (· ++ [(message ids.draw.1).filed]) := by
        simp only [say, known, if_true]
        rfl
      rw [performed, GameState.find?_reviseChat]
      by_cases same : chat = contact <;> simp [same]

theorem messages_say (session : Session) (ids : IdSource) (contact chat : ContactId)
    (message : MessageId → Message) (state : GameState) :
    (state.performAll (session.say ids contact message).1).messages chat =
      state.messages chat ++
        if chat = contact ∧ session.story.hasContact contact = true then
          [(message ids.draw.1).filed]
        else [] := by
  rw [GameState.messages, find?_say]
  split
  · rfl
  · rw [List.append_nil]
    rfl

@[simp] theorem turn_say (session : Session) (ids : IdSource) (contact : ContactId)
    (message : MessageId → Message) (state : GameState) :
    (state.performAll (session.say ids contact message).1).turn = state.turn := by
  unfold say
  split <;> rfl

/-- The edits that announce what an outcome delivers. -/
def announce (session : Session) (ids : IdSource) (now : Instant) : Option Delivery → List Edit
  | none => []
  | some delivery =>
    (session.say ids delivery.contact
      fun id => (compose id delivery.message .contact now).unread).1

theorem exchange_outcome (session : Session) (now : Instant) (contact : ContactId)
    (line : String) : (session.exchange now contact line).outcome =
      (session.story.resolve session.picker session.store.state now contact line).outcome := by
  unfold exchange
  dsimp only
  split <;> rfl

theorem exchange_request (session : Session) (now : Instant) (contact : ContactId)
    (line : String) : (session.exchange now contact line).request? =
      (session.exchange now contact line).outcome.delivery?.map session.toastFor := by
  rw [exchange_outcome]
  unfold exchange
  dsimp only
  split
  next undelivered => rw [undelivered]; rfl
  next delivery delivered => rw [delivered]; rfl

theorem exchange_edits (session : Session) (now : Instant) (contact : ContactId)
    (line : String) :
    let verdict := session.story.resolve session.picker session.store.state now contact line
    let asked := session.say session.ids contact (compose · line .user now)
    let answered := session.say asked.2 contact (compose · verdict.outcome.text .contact now)
    (session.exchange now contact line).edits = asked.1 ++ verdict.edits ++ answered.1 ++
      session.announce answered.2 now verdict.outcome.delivery? := by
  unfold exchange
  dsimp only
  split
  next undelivered => rw [undelivered]; exact (List.append_nil _).symm
  next delivery delivered => rw [delivered]; rfl

theorem records_asked (id : MessageId) (line : String) (now : Instant) :
    (compose id line .user now).filed.Records .user line now true := ⟨rfl, rfl, rfl, rfl⟩

theorem records_answered (id : MessageId) (text : String) (now : Instant) :
    (compose id text .contact now).filed.Records .contact text now true := ⟨rfl, rfl, rfl, rfl⟩

theorem records_announced (id : MessageId) (text : String) (now : Instant) :
    (compose id text .contact now).unread.filed.Records .contact text now false :=
  ⟨rfl, rfl, rfl, rfl⟩

theorem find?_announce {outcome : Outcome} (ids : IdSource) (now : Instant) (state : GameState)
    (undelivered : session.story.delivers outcome chat = none) :
    (state.performAll (session.announce ids now outcome.delivery?)).chats.find? chat =
      state.chats.find? chat := by
  cases delivered : outcome.delivery? with
  | none => rfl
  | some delivery =>
      rw [Story.delivers_of_delivery delivered] at undelivered
      rw [announce, find?_say, if_neg fun meant => by simp [meant] at undelivered]

theorem messages_announce (session : Session) (ids : IdSource) (now : Instant) (outcome : Outcome)
    (state : GameState) (chat : ContactId) :
    (state.performAll (session.announce ids now outcome.delivery?)).messages chat =
      state.messages chat ++ ((session.story.delivers outcome chat).map fun delivery =>
        (compose ids.draw.1 delivery.message .contact now).unread.filed).toList := by
  cases delivered : outcome.delivery? with
  | none => simp [announce, Story.delivers, delivered, GameState.performAll]
  | some delivery =>
      rw [announce, messages_say, Story.delivers_of_delivery delivered]
      split <;> rfl

@[simp] theorem turn_announce (session : Session) (ids : IdSource) (now : Instant)
    (delivery? : Option Delivery) (state : GameState) :
    (state.performAll (session.announce ids now delivery?)).turn = state.turn := by
  cases delivery? with
  | none => rfl
  | some delivery => exact session.turn_say ..

@[simp] theorem state_submit (session : Session) (now : Instant) (contact : ContactId)
    (line : String) :
    (session.submit now contact line).2.store.state =
      session.store.state.performAll (session.exchange now contact line).edits :=
  Store.state_commitAll _ _

/-- The messages that a line leaves in any chat. -/
theorem messages_submit (session : Session) (now : Instant) (contact : ContactId)
    (line : String) :
    let answer := session.submit now contact line
    ∃ (asked answered : Message) (announced : Delivery → Message),
      asked.Records .user line now true ∧ answered.Records .contact answer.1.text now true ∧
      (∀ delivery, (announced delivery).Records .contact delivery.message now false) ∧
      ∀ chat, answer.2.store.state.messages chat = session.store.state.messages chat ++
        (if chat = contact ∧ session.story.hasContact contact = true then [asked, answered]
          else []) ++
        ((session.story.delivers answer.1 chat).map announced).toList := by
  intro answer
  have outcome : answer.1 = _ := session.exchange_outcome now contact line
  let later := (session.say session.ids contact (compose · line .user now)).2
  let last := (session.say later contact (compose · answer.1.text .contact now)).2
  refine ⟨(compose session.ids.draw.1 line .user now).filed,
    (compose later.draw.1 answer.1.text .contact now).filed,
    fun delivery => (compose last.draw.1 delivery.message .contact now).unread.filed,
    records_asked .., records_answered .., fun delivery => records_announced .., fun chat => ?_⟩
  -- The puzzle's own edits stand between the question and the answer, and touch no chat.
  rw [state_submit, exchange_edits]
  simp only [GameState.performAll_append]
  rw [← outcome, messages_announce, messages_say,
    GameState.messages_congr (Story.resolve_chats ..), messages_say]
  split <;> simp [later, last]

theorem find?_submit (other : chat ≠ contact)
    (undelivered : session.story.delivers (session.submit now contact line).1 chat = none) :
    (session.submit now contact line).2.store.state.chats.find? chat =
      session.store.state.chats.find? chat := by
  have outcome : (session.submit now contact line).1 = _ :=
    session.exchange_outcome now contact line
  rw [outcome] at undelivered
  have elsewhere : ¬ (chat = contact ∧ session.story.hasContact contact = true) :=
    fun same => other same.1
  simp only [state_submit, exchange_edits, GameState.performAll_append]
  rw [find?_announce _ _ _ undelivered, find?_say, if_neg elsewhere, Story.resolve_chats,
    find?_say, if_neg elsewhere]

theorem submit_unknown (unknown : session.story.hasContact contact = false) :
    let answer := session.submit now contact line
    (answer.1 = .invalid ∨ answer.1 = .contactNotFound) ∧ answer.2.store = session.store ∧
      answer.2.notifier = session.notifier := by
  obtain ⟨outcome, unanswered, resolved⟩ := Story.resolve_unknown unknown session.picker
    session.store.state now line
  have silent : outcome.delivery? = none := by rcases unanswered with rfl | rfl <;> rfl
  have outcomes : (session.exchange now contact line).outcome = outcome := by
    rw [exchange_outcome, resolved]
  have edits : (session.exchange now contact line).edits = [] := by
    rw [exchange_edits]
    simp [say, unknown, resolved, silent, announce]
  have request : (session.exchange now contact line).request? = none := by
    rw [exchange_request, outcomes, silent]
    rfl
  intro answer
  refine ⟨?_, ?_, ?_⟩
  · rw [show answer.1 = outcome from outcomes]
    exact unanswered
  · exact congrArg session.store.commitAll edits
  · exact congrArg (notify session.notifier now) request

/-- The toasts that a delivery queues. -/
theorem queue_submit {toasts : Toasts} (screen : session.notifier = .screen toasts) :
    let answer := session.submit now contact line
    ∃ later queued, answer.2.notifier = .screen later ∧ later.queue = toasts.queue ++ queued ∧
      queued.map (fun toast => (toast.text, toast.contact?)) =
        (answer.1.delivery?.map fun delivery =>
          (delivery.message, some delivery.contact)).toList := by
  intro answer
  have notified : answer.2.notifier =
      notify session.notifier now (answer.1.delivery?.map session.toastFor) :=
    congrArg (notify session.notifier now) (session.exchange_request now contact line)
  rw [notified, screen]
  cases answer.1.delivery? with
  | none => exact ⟨toasts, [], rfl, (List.append_nil _).symm, rfl⟩
  | some delivery => exact ⟨_, _, rfl, rfl, rfl⟩

theorem messages_sendAll (session : Session) (lines : List Submission) (chat : ContactId) :
    ∃ added, (session.sendAll lines).store.state.messages chat =
        session.store.state.messages chat ++ added ∧
      Dialogue added (session.deliveries chat lines) := by
  induction lines generalizing session with
  | nil => exact ⟨[], (List.append_nil _).symm, .nil⟩
  | cons line lines ih =>
      obtain ⟨asked, answered, announced, isAsked, isAnswered, isAnnounced, first⟩ :=
        session.messages_submit line.sentAt line.contact line.text
      obtain ⟨added, rest, later⟩ := ih (session.send line).2
      have exchange : Dialogue (if chat = line.contact ∧
          session.story.hasContact line.contact = true then [asked, answered] else []) [] := by
        split
        · exact .exchange isAsked isAnswered
        · exact .nil
      have delivered := Dialogue.deliver isAnnounced
        (session.story.delivers (session.send line).1 chat)
      refine ⟨_, ?_, (exchange.append delivered).append later⟩
      calc (session.sendAll (line :: lines)).store.state.messages chat
          = (session.send line).2.store.state.messages chat ++ added := rest
        _ = _ := by
            rw [show (session.send line).2.store.state.messages chat = _ from first chat]
            simp only [List.append_assoc]
            rfl

/-- What a line leaves behind in the chats and on the screen. -/
structure Leaves (session : Session) (now : Instant) (contact : ContactId) (line : String)
    (outcome : Outcome) (after : Session) : Prop where
  unknown : session.story.hasContact contact = false →
    (outcome = .invalid ∨ outcome = .contactNotFound) ∧
      after.store.state = session.store.state ∧ after.notifier = session.notifier
  chats : session.story.hasContact contact = true →
    ∃ (asked answered : Message) (announced : Delivery → Message),
      asked.Records .user line now true ∧ answered.Records .contact outcome.text now true ∧
      (∀ delivery, (announced delivery).Records .contact delivery.message now false) ∧
      ∀ chat, after.store.state.messages chat = session.store.state.messages chat ++
        (if chat = contact then [asked, answered] else []) ++
        ((session.story.delivers outcome chat).map announced).toList
  others : ∀ chat, chat ≠ contact → session.story.delivers outcome chat = none →
    after.store.state.chats.find? chat = session.store.state.chats.find? chat
  toasts : ∀ toasts, session.notifier = .screen toasts →
    ∃ later queued, after.notifier = .screen later ∧ later.queue = toasts.queue ++ queued ∧
      queued.map (fun toast => (toast.text, toast.contact?)) =
        (outcome.delivery?.map fun delivery => (delivery.message, some delivery.contact)).toList

/-- The transcript law.  A line to a contact that can be played leaves what was said and what it
came to in the contact's chat, and what it delivers, if anything, unread in one chat and on the
screen; nothing else in the chats changes.  In a game that begins without chats, the unread messages are
therefore the deliveries, and without them each chat goes back and forth between the player and the
contact. -/
theorem transcript_law (session : Session) (now : Instant) (contact : ContactId) (line : String) :
    session.Leaves now contact line (session.submit now contact line).1
      (session.submit now contact line).2 ∧
    (session.store.state.chats = ∅ → ∀ lines chat,
      Dialogue ((session.sendAll lines).store.state.messages chat)
        (session.deliveries chat lines)) := by
  refine ⟨⟨?_, ?_, ?_, ?_⟩, ?_⟩
  · intro unknown
    obtain ⟨outcome, store, notifier⟩ := @submit_unknown session now contact line unknown
    exact ⟨outcome, congrArg Store.state store, notifier⟩
  · intro known
    simpa only [known, and_true] using session.messages_submit now contact line
  · exact fun chat other undelivered => find?_submit other undelivered
  · exact fun toasts screen => queue_submit screen
  · intro fresh lines chat
    obtain ⟨added, messages, dialogue⟩ := session.messages_sendAll lines chat
    have silent : session.store.state.messages chat = [] := by
      rw [GameState.messages, fresh]
      rfl
    rw [messages, silent]
    exact dialogue

def announcedPuzzle : Puzzle where
  turn := ⟨1⟩
  solution := { keywords := ["garage"], reply := { text := "Bravo." } }
  notice? := some { enabled := true, contact? := some ⟨"c2"⟩, message? := some "Devo parlarti." }

def informedSession : Session where
  story := (({} : Story).withBundle ⟨"c1"⟩ { puzzles := [announcedPuzzle] }).withBundle ⟨"c2"⟩ {}
  store := .resume (.memory {})
  picker := .first
  notifier := .screen { defaultTtl := 4000 }
  ids := .ofSeed 0

/-- A right answer that is announced in a chat in which nothing was said yet. -/
theorem transcript_law_announced :
    let session := informedSession
    let state := session.store.state
    let answer := session.submit ⟨0⟩ ⟨"c1"⟩ "T1: il garage"
    let lines := [{ sentAt := ⟨0⟩, contact := ⟨"c1"⟩, text := "T1: garage" }]
    (session.story.hasContact ⟨"ghost"⟩ = false ∧
      (session.submit ⟨0⟩ ⟨"ghost"⟩ "T1: garage").2.store.state = state) ∧
    (session.story.hasContact ⟨"c1"⟩ = true ∧ ∃ announced,
      answer.2.store.state.messages ⟨"c2"⟩ = [announced] ∧
        announced.Records .contact "Devo parlarti." ⟨0⟩ false) ∧
    (session.story.delivers answer.1 ⟨"c3"⟩ = none ∧
      answer.2.store.state.chats.find? ⟨"c3"⟩ = state.chats.find? ⟨"c3"⟩) ∧
    (∃ later queued, answer.2.notifier = .screen later ∧ later.queue = queued ∧
      queued.map (fun toast => (toast.text, toast.contact?)) =
        [("Devo parlarti.", some ⟨"c2"⟩)]) ∧
    state.chats = ∅ ∧
      Dialogue ((session.sendAll lines).store.state.messages ⟨"c2"⟩)
        (session.deliveries ⟨"c2"⟩ lines) := by
  intro session state answer lines
  have ghost : session.story.hasContact ⟨"ghost"⟩ = false := by decide +kernel
  have known : session.story.hasContact ⟨"c1"⟩ = true := by decide +kernel
  have fresh : state.chats = ∅ := by decide +kernel
  have delivered : answer.1.delivery? = some ⟨⟨"c2"⟩, "Devo parlarti."⟩ := by decide +kernel
  have heard : session.story.delivers answer.1 ⟨"c2"⟩ = some ⟨⟨"c2"⟩, "Devo parlarti."⟩ := by
    decide +kernel
  have elsewhere : session.story.delivers answer.1 ⟨"c3"⟩ = none := by decide +kernel
  obtain ⟨unheard, _⟩ := transcript_law session ⟨0⟩ ⟨"ghost"⟩ "T1: garage"
  have law := transcript_law session ⟨0⟩ ⟨"c1"⟩ "T1: il garage"
  have leaves : session.Leaves ⟨0⟩ ⟨"c1"⟩ "T1: il garage" answer.1 answer.2 := law.1
  obtain ⟨asked, answered, announced, _, _, isAnnounced, messages⟩ := leaves.chats known
  have inChat := messages ⟨"c2"⟩
  rw [heard] at inChat
  obtain ⟨later, queued, screen, queue, texts⟩ := leaves.toasts _ rfl
  rw [delivered] at texts
  have unmoved : answer.2.store.state.chats.find? ⟨"c3"⟩ = state.chats.find? ⟨"c3"⟩ :=
    leaves.others ⟨"c3"⟩ (by decide +kernel) elsewhere
  exact ⟨⟨ghost, (unheard.unknown ghost).2.1⟩, ⟨known, announced _, inChat, isAnnounced _⟩,
    ⟨elsewhere, unmoved⟩, ⟨later, queued, screen, queue, texts⟩, fresh, law.2 fresh lines ⟨"c2"⟩⟩

end Session

end Casefile
