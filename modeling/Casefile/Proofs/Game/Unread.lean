import Casefile.Game.Activity
import Casefile.Proofs.Game.Transcript
import Casefile.Proofs.Save.Ledger
import Mathlib.Data.List.Forall2
import Mathlib.Data.List.Induction

namespace Casefile

/-!
The unread messages of a chat are the deliveries that were not looked at.

Each activity either leaves nothing unread in a chat or adds what it delivers there, and a restart
finds the chats as they were left.  What the player says is read from the beginning.
-/

namespace Message

variable {message : Message}

/-- The same message, if it is a contact's perhaps marked as read. -/
def SameButRead (before after : Message) : Prop :=
  after = before ∨ before.sender = .contact ∧ after = { before with read? := some true }

def OwnIsRead (message : Message) : Prop :=
  message.sender = .user → message.read? = some true

theorem Records.ownIsRead {sender : Sender} {content : String} {now : Instant} {read : Bool}
    (records : message.Records sender content now read) (fits : sender = .user → read = true) :
    message.OwnIsRead := by
  intro isUser
  rw [records.read, fits (records.sender ▸ isUser)]

theorem seen_eq_self (read : message.awaitsReading = false) : message.seen = message := by
  simp [seen, read]

theorem awaitsReading_seen (message : Message) : message.seen.awaitsReading = false := by
  cases awaits : message.awaitsReading with
  | true =>
      rw [seen, if_pos awaits]
      simp [awaitsReading, isRead]
  | false => rw [seen_eq_self awaits, awaits]

theorem sameButRead_seen (message : Message) : message.SameButRead message.seen := by
  cases awaits : message.awaitsReading with
  | true =>
      have isContact : message.sender = .contact := by
        simp only [awaitsReading, Bool.and_eq_true, decide_eq_true_eq] at awaits
        exact awaits.1
      exact .inr ⟨isContact, by simp [seen, awaits]⟩
  | false => exact .inl (seen_eq_self awaits)

theorem sender_seen (message : Message) : message.seen.sender = message.sender := by
  rcases message.sameButRead_seen with same | ⟨_, marked⟩
  · rw [same]
  · rw [marked]

theorem OwnIsRead.seen (own : message.OwnIsRead) : message.seen.OwnIsRead := by
  intro isUser
  rw [sender_seen] at isUser
  rw [seen_eq_self (by simp [awaitsReading, isUser]), own isUser]

end Message

namespace GameState

variable {state : GameState} {chat opened : ContactId}

/-- Everything that the player said is marked as read. -/
def OwnAreRead (state : GameState) : Prop :=
  ∀ chat, ∀ message ∈ state.messages chat, message.OwnIsRead

theorem messages_of_chats_empty (silent : state.chats = ∅) (chat : ContactId) :
    state.messages chat = [] := by
  rw [messages, silent]
  rfl

theorem perform_markRead_of_read (read : state.unreadCount opened = 0) :
    (Edit.markRead opened).perform state = state := by
  simp [Edit.perform, Edit.applies, read]

theorem perform_markRead_of_unread (unread : state.unreadCount opened ≠ 0) :
    (Edit.markRead opened).perform state = state.reviseChat opened (·.map Message.seen) := by
  simp [Edit.perform, Edit.applies, Edit.apply, unread]

@[simp] theorem find?_markRead (state : GameState) (opened chat : ContactId) :
    ((Edit.markRead opened).perform state).chats.find? chat =
      if chat = opened then (state.chats.find? opened).map (·.map Message.seen)
      else state.chats.find? chat := by
  by_cases read : state.unreadCount opened = 0
  · rw [perform_markRead_of_read read]
    split
    next same =>
      subst same
      cases kept : state.chats.find? chat with
      | none => rfl
      | some messages =>
          rw [unreadCount, GameState.messages, kept, Option.getD_some, List.countP_eq_zero] at read
          rw [Option.map_some, List.map_congr_left fun message member =>
            Message.seen_eq_self (Bool.eq_false_iff.mpr (read message member)), List.map_id']
    next => rfl
  · rw [perform_markRead_of_unread read, find?_reviseChat]
    split
    next same =>
      cases kept : state.chats.find? opened with
      | none => simp [unreadCount, messages, kept] at read
      | some messages => rw [GameState.messages, kept]; rfl
    next => rfl

@[simp] theorem messages_markRead (state : GameState) (opened chat : ContactId) :
    ((Edit.markRead opened).perform state).messages chat =
      if chat = opened then (state.messages opened).map Message.seen else state.messages chat := by
  rw [messages, find?_markRead]
  split
  · rw [messages]
    cases state.chats.find? opened <;> rfl
  · rfl

@[simp] theorem turn_markRead (state : GameState) (opened : ContactId) :
    ((Edit.markRead opened).perform state).turn = state.turn := by
  unfold Edit.perform
  split <;> rfl

@[simp] theorem progress_markRead (state : GameState) (opened : ContactId) :
    ((Edit.markRead opened).perform state).progress = state.progress := by
  unfold Edit.perform
  split <;> rfl

@[simp] theorem unreadCount_markRead (state : GameState) (opened chat : ContactId) :
    ((Edit.markRead opened).perform state).unreadCount chat =
      if chat = opened then 0 else state.unreadCount chat := by
  rw [unreadCount, messages_markRead]
  split
  · rw [List.countP_map, List.countP_eq_zero]
    exact fun message _ => Bool.eq_false_iff.mp message.awaitsReading_seen
  · rfl

theorem OwnAreRead.markRead (own : state.OwnAreRead) (opened : ContactId) :
    ((Edit.markRead opened).perform state).OwnAreRead := by
  intro chat
  rw [messages_markRead]
  split
  · exact List.forall_mem_map.mpr fun message member => (own opened message member).seen
  · exact own chat

end GameState

namespace Session

variable {session : Session} {activity : Activity} {activities : List Activity}
  {chat opened : ContactId}

/-! What an activity leaves of a durable store. -/

theorem durable_act (durable : session.store.Durable)
    (accepted : ∀ attempt ∈ session.attempts activity, attempt.accepted = true) :
    (session.act activity).store.Durable := by
  cases activity with
  | send line => exact Store.durable_commitAll durable accepted
  | openChat opened => exact @Store.durable_commitAll _ [.markRead opened] durable accepted
  | look now => exact durable
  | reset =>
      have cleared : session.store.vault.clear.1.isOk = true := accepted _ List.mem_cons_self
      exact Store.durable_reset durable (Store.eq_ok_of_isOk cleared)
  | reopen picker notifier ids => exact Store.durable_resume _

theorem works_act (works : session.store.Works) (activity : Activity) :
    (session.act activity).store.Works ∧
      ∀ attempt ∈ session.attempts activity, attempt.accepted = true := by
  cases activity with
  | send line => exact works.commitAll _
  | openChat opened => exact works.serve (.markRead opened)
  | look now => exact ⟨works, List.forall_mem_nil _⟩
  | reset => exact works.serve .reset
  | reopen picker notifier ids =>
      obtain ⟨slot, inMemory, unfailing⟩ := works
      refine ⟨?_, List.forall_mem_nil _⟩
      show (Store.resume session.store.vault).Works
      rw [inMemory]
      exact Store.works_resume unfailing

/-- A slot in memory that works accepts everything. -/
theorem accepted_of_works (works : session.store.Works) (activities : List Activity) :
    ∀ attempt ∈ session.ledger activities, attempt.accepted = true := by
  induction activities generalizing session with
  | nil => exact List.forall_mem_nil _
  | cons activity activities ih =>
      obtain ⟨still, accepted⟩ := works_act works activity
      exact List.forall_mem_append.mpr ⟨accepted, ih still⟩

/-! What is unread after an activity. -/

theorem unreadCount_send (session : Session) (line : Submission) (chat : ContactId) :
    (session.send line).2.store.state.unreadCount chat = session.store.state.unreadCount chat +
      (session.story.delivers (session.send line).1 chat).toList.length := by
  obtain ⟨asked, answered, announced, isAsked, isAnswered, isAnnounced, messages⟩ :=
    session.messages_submit line.sentAt line.contact line.text
  have heard : asked.awaitsReading = false := isAsked.awaitsReading
  have told : answered.awaitsReading = false := isAnswered.awaitsReading
  have awaited : ∀ delivery, (announced delivery).awaitsReading = true :=
    fun delivery => (isAnnounced delivery).awaitsReading
  have exchanged : (if chat = line.contact ∧ session.story.hasContact line.contact = true then
      [asked, answered] else []).countP Message.awaitsReading = 0 := by
    split <;> simp [heard, told]
  have delivered (delivery? : Option Delivery) :
      (delivery?.map announced).toList.countP Message.awaitsReading = delivery?.toList.length := by
    cases delivery? <;> simp [awaited]
  have after : (session.send line).2.store.state.messages chat = _ := messages chat
  rw [GameState.unreadCount, after, List.countP_append, List.countP_append, exchanged, delivered]
  rfl

@[simp] theorem state_openChat (session : Session) (opened : ContactId) :
    (session.openChat opened).2.store.state =
      (Edit.markRead opened).perform session.store.state :=
  Store.state_commit _ _

theorem store_reopen (durable : session.store.Durable) (picker : Picker) (notifier : Notifier)
    (ids : IdSource) : (session.reopen picker notifier ids).store = session.store := durable

theorem unreadCount_act (durable : session.store.Durable) (activity : Activity)
    (chat : ContactId) :
    (session.act activity).store.state.unreadCount chat =
      if activity.clears chat then 0
      else session.store.state.unreadCount chat +
        (session.delivered? chat activity).toList.length := by
  cases activity with
  | send line => exact session.unreadCount_send line chat
  | openChat opened =>
      simp [act, Activity.clears, delivered?, eq_comm]
  | look now => rfl
  | reset => rfl
  | reopen picker notifier ids =>
      rw [act, store_reopen durable]
      rfl

theorem ownAreRead_send (own : session.store.state.OwnAreRead) (line : Submission) :
    (session.send line).2.store.state.OwnAreRead := by
  obtain ⟨asked, answered, announced, isAsked, isAnswered, isAnnounced, messages⟩ :=
    session.messages_submit line.sentAt line.contact line.text
  intro chat
  have after : (session.send line).2.store.state.messages chat = _ := messages chat
  rw [after, List.forall_mem_append, List.forall_mem_append]
  refine ⟨⟨own chat, ?_⟩, ?_⟩
  · split
    · exact List.forall_mem_cons.mpr ⟨isAsked.ownIsRead fun _ => rfl,
        List.forall_mem_singleton.mpr (isAnswered.ownIsRead fun _ => rfl)⟩
    · exact List.forall_mem_nil _
  · intro message delivered
    obtain ⟨delivery, _, rfl⟩ := Option.map_eq_some_iff.mp (Option.mem_toList.mp delivered)
    exact (isAnnounced delivery).ownIsRead nofun

theorem ownAreRead_act (durable : session.store.Durable) (own : session.store.state.OwnAreRead)
    (activity : Activity) : (session.act activity).store.state.OwnAreRead := by
  cases activity with
  | send line => exact ownAreRead_send own line
  | openChat opened =>
      simpa [act] using own.markRead opened
  | look now => exact own
  | reset => exact fun chat => List.forall_mem_nil _
  | reopen picker notifier ids =>
      rw [act, store_reopen durable]
      exact own

/-! A run. -/

theorem history_concat (session : Session) (activities : List Activity) (activity : Activity) :
    session.history (activities ++ [activity]) =
      session.history activities ++ [(session.actAll activities, activity)] := by
  induction activities generalizing session with
  | nil => rfl
  | cons first rest ih =>
      rw [List.cons_append, history, ih, history, List.cons_append]
      rfl

theorem ledger_concat (session : Session) (activities : List Activity) (activity : Activity) :
    session.ledger (activities ++ [activity]) =
      session.ledger activities ++ (session.actAll activities).attempts activity := by
  induction activities generalizing session with
  | nil => exact List.append_nil _
  | cons first rest ih =>
      rw [List.cons_append, ledger, ih, ledger, List.append_assoc]
      rfl

theorem actAll_concat (session : Session) (activities : List Activity) (activity : Activity) :
    session.actAll (activities ++ [activity]) = (session.actAll activities).act activity := by
  simp [actAll]

theorem deliveredSince_concat (session : Session) (chat : ContactId)
    (activities : List Activity) (activity : Activity) :
    session.deliveredSince chat (activities ++ [activity]) =
      if activity.clears chat then []
      else ((session.actAll activities).delivered? chat activity).toList ++
        session.deliveredSince chat activities := by
  unfold deliveredSince
  rw [history_concat, List.reverse_append, List.reverse_singleton, List.singleton_append]
  cases clears : activity.clears chat with
  | true => simp [clears]
  | false =>
      cases delivered : (session.actAll activities).delivered? chat activity <;>
        simp [clears, delivered]

/-- What every activity keeps true while its attempts are accepted, a run keeps true. -/
theorem actAll_kept (Kept : Session → Prop)
    (step : ∀ {session : Session} {activity : Activity}, Kept session →
      (∀ attempt ∈ session.attempts activity, attempt.accepted = true) →
      Kept (session.act activity))
    (accepted : ∀ attempt ∈ session.ledger activities, attempt.accepted = true)
    (kept : Kept session) : Kept (session.actAll activities) := by
  induction activities generalizing session with
  | nil => exact kept
  | cons activity activities ih =>
      obtain ⟨first, rest⟩ := List.forall_mem_append.mp accepted
      exact ih rest (step kept first)

theorem durable_actAll (durable : session.store.Durable)
    (accepted : ∀ attempt ∈ session.ledger activities, attempt.accepted = true) :
    (session.actAll activities).store.Durable :=
  actAll_kept (·.store.Durable) durable_act accepted durable

theorem ownAreRead_actAll (durable : session.store.Durable)
    (accepted : ∀ attempt ∈ session.ledger activities, attempt.accepted = true)
    (own : session.store.state.OwnAreRead) :
    (session.actAll activities).store.state.OwnAreRead := by
  -- A restart finds what was said before only in a durable store, so both are kept together.
  have kept := actAll_kept (fun session => session.store.Durable ∧ session.store.state.OwnAreRead)
    (fun {_ activity} sound accepted =>
      ⟨durable_act sound.1 accepted, ownAreRead_act sound.1 sound.2 activity⟩)
    accepted ⟨durable, own⟩
  exact kept.2

theorem unreadCount_actAll (durable : session.store.Durable)
    (accepted : ∀ attempt ∈ session.ledger activities, attempt.accepted = true)
    (silent : session.store.state.chats = ∅) (chat : ContactId) :
    (session.actAll activities).store.state.unreadCount chat =
      (session.deliveredSince chat activities).length := by
  -- What is unread depends on the last time that the chat was opened, so the run grows at its end.
  induction activities using List.reverseRecOn with
  | nil =>
      rw [actAll, List.foldl_nil, GameState.unreadCount, GameState.messages_of_chats_empty silent]
      rfl
  | append_singleton earlier activity ih =>
      rw [ledger_concat, List.forall_mem_append] at accepted
      have durableThen := durable_actAll durable accepted.1
      rw [actAll_concat, deliveredSince_concat, unreadCount_act durableThen, ih accepted.1]
      split
      · rfl
      · rw [List.length_append, Nat.add_comm]

/-- What opening a chat does: it marks messages of the contact as read, and nothing else.  Once they
are, it does nothing and saves nothing. -/
structure Opens (session : Session) (opened : ContactId) (after : Session) : Prop where
  read : after.store.state.unreadCount opened = 0
  messages : List.Forall₂ Message.SameButRead (session.store.state.messages opened)
    (after.store.state.messages opened)
  kept : after.store.state.chats.contains opened = session.store.state.chats.contains opened
  others : ∀ chat, chat ≠ opened →
    after.store.state.chats.find? chat = session.store.state.chats.find? chat
  turn : after.store.state.turn = session.store.state.turn
  progress : after.store.state.progress = session.store.state.progress
  frame : { after with store := session.store } = session
  again : after.openChat opened = (after.store.state.messages opened, after)
  saves : after.attempts (.openChat opened) = []

theorem opens_openChat (session : Session) (opened : ContactId) :
    session.Opens opened (session.openChat opened).2 := by
  have read : (session.openChat opened).2.store.state.unreadCount opened = 0 := by
    simp
  have nothing : (Edit.markRead opened).applies (session.openChat opened).2.store.state ≠ true := by
    simp [Edit.applies]
  constructor
  case read => exact read
  case messages =>
    rw [state_openChat, GameState.messages_markRead, if_pos rfl, List.forall₂_map_right_iff]
    exact List.forall₂_same.mpr fun message _ => message.sameButRead_seen
  case kept =>
    simp [Table.contains]
  case others =>
    intro chat other
    simp [other]
  case turn => simp
  case progress => simp
  case frame => rfl
  case again =>
    have idle : (session.openChat opened).2.store.commit (.markRead opened) =
        (session.openChat opened).2.store := if_neg nothing
    rw [openChat.eq_def (session.openChat opened).2, idle]
  case saves => exact if_neg nothing

/-- Unread accounting.  While every save and removal succeeds, restarts included, the unread
messages of a chat are the deliveries to it since it was last opened or the game was started over; a
line adds what it delivers and nothing else.  Opening a chat leaves nothing unread in it and changes
nothing but that, and what the player says is never unread. -/
theorem unread_accounted {vault : Vault} (begun : session.store = .resume vault)
    (fresh : session.store.state.chats = ∅)
    (accepted : ∀ attempt ∈ session.ledger activities, attempt.accepted = true) :
    let later := session.actAll activities
    (∀ chat, later.store.state.unreadCount chat =
      (session.deliveredSince chat activities).length) ∧
    (∀ line chat, (later.send line).2.store.state.unreadCount chat =
      later.store.state.unreadCount chat +
        (later.story.delivers (later.send line).1 chat).toList.length) ∧
    (∀ chat, later.Opens chat (later.openChat chat).2) ∧
    ∀ chat, ∀ message ∈ later.store.state.messages chat,
      message.sender = .user → message.read? = some true := by
  intro later
  have durable : session.store.Durable := begun ▸ Store.durable_resume vault
  have own : session.store.state.OwnAreRead := by
    intro chat
    rw [GameState.messages_of_chats_empty fresh]
    exact List.forall_mem_nil _
  exact ⟨unreadCount_actAll durable accepted fresh, later.unreadCount_send, later.opens_openChat,
    ownAreRead_actAll durable accepted own⟩

/-- A delivery that was looked at, and a second one that waits through a restart. -/
theorem unread_accounted_after_restart :
    let session := informedSession
    let answer := { sentAt := ⟨0⟩, contact := ⟨"c1"⟩, text := "T1: garage" }
    let activities := [.send answer, .openChat ⟨"c2"⟩, .send answer,
      .reopen .first .silent (.ofSeed 1), .openChat ⟨"c1"⟩]
    session.store.state.chats = ∅ ∧
      (∀ attempt ∈ session.ledger activities, attempt.accepted = true) ∧
      (session.deliveredSince ⟨"c2"⟩ activities).length = 1 ∧
      (session.actAll activities).store.state.unreadCount ⟨"c2"⟩ = 1 := by
  intro session answer activities
  have begun : session.store = .resume (.memory {}) := rfl
  have fresh : session.store.state.chats = ∅ := by decide +kernel
  have works : session.store.Works := Store.works_resume rfl
  have accepted := accepted_of_works works activities
  have delivered : (session.deliveredSince ⟨"c2"⟩ activities).length = 1 := by decide +kernel
  refine ⟨fresh, accepted, delivered, ?_⟩
  rw [(unread_accounted begun fresh accepted).1, delivered]

end Session

end Casefile
