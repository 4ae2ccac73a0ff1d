import Casefile.Game.Interruption
import Casefile.Proofs.Game.Course
import Casefile.Proofs.Game.Independence

namespace Casefile

/-!
The edits of a line.

A line files messages and has edits made for its puzzle (`Edit.MadeBy`).  Those that file touch the
chats alone, and the others everything but the chats, so that either can be told without the other.
The order is that of `Session.Sends`: the question, the puzzle's edits, the answer, and what is
delivered.
-/

/-- Whether an edit files a message. -/
def Edit.isFiling : Edit → Bool
  | .addMessage _ _ => true
  | _ => false

/-- The message that an edit files in a chat. -/
def Edit.filed? (chat : ContactId) : Edit → Option Message
  | .addMessage contact message => if contact = chat then some message.filed else none
  | _ => none

/-- An edit that a line makes: it files a message, or it is made for the puzzle of the line. -/
inductive Edit.MadeBy (line : Submission) (edit : Edit) : Prop where
  | filing (contact : ContactId) (message : Message) (files : edit = .addMessage contact message)
  | ruling (key : StatusKey) (addressed : line.Addresses key) (made : edit.MadeFor key)

/-- How the game goes on while a line is dealt with. -/
structure GameState.Advances (line : Submission) (earlier later : GameState) : Prop where
  chats : ∀ chat, earlier.messages chat <+: later.messages chat
  turn : earlier.turn ≤ later.turn
  records : ∀ key, ¬ line.Addresses key → later.progress? key = earlier.progress? key

/-- A state apart from its chats. -/
def GameState.withoutChats (state : GameState) : GameState := { state with chats := ∅ }

namespace Edit

variable {edit : Edit} {key : StatusKey} {line : Submission} {state : GameState}

theorem MadeFor.isFiling_eq_false (made : edit.MadeFor key) : edit.isFiling = false := by
  cases edit with
  | addMessage contact message =>
      cases made with
      | turn turn advances => cases advances
      | record change revises =>
          -- In an empty state a message would be filed, while no revision touches the chats.
          have chats := congrArg (·.chats.find? contact) (revises {})
          have filed : ((addMessage contact message).perform {}).chats.find? contact =
              some ([] ++ [message.filed]) := Table.find?_insert_self ..
          rw [filed] at chats
          cases chats
  | _ => rfl

theorem filed?_of_not_filing (plain : edit.isFiling = false) (chat : ContactId) :
    edit.filed? chat = none := by
  cases edit with
  | addMessage => cases plain
  | _ => rfl

theorem filed?_addMessage {contact chat : ContactId} {message filed : Message} :
    (addMessage contact message).filed? chat = some filed ↔
      contact = chat ∧ message.filed = filed := by
  rw [filed?, Option.ite_none_right_eq_some, Option.some.injEq]

theorem filter_of_filing {edits : List Edit}
    (filing : ∀ edit ∈ edits, ∃ contact message, edit = .addMessage contact message) :
    edits.filter (!·.isFiling) = [] := by
  refine List.filter_eq_nil_iff.mpr fun edit member => ?_
  obtain ⟨contact, message, rfl⟩ := filing edit member
  exact Bool.false_ne_true

theorem MadeFor.chats_perform (made : edit.MadeFor key) (state : GameState) :
    (edit.perform state).chats = state.chats := by
  cases made with
  | record change revises => rw [revises]; rfl
  | turn turn advances => rw [advances, perform_advance]

theorem MadeFor.withoutChats_perform (made : edit.MadeFor key) (state : GameState) :
    (edit.perform state).withoutChats = edit.perform state.withoutChats := by
  cases made with
  | record change revises => rw [revises, revises]; rfl
  | turn turn advances => rw [advances, perform_advance, perform_advance]; rfl

theorem MadeFor.turn_le_perform (made : edit.MadeFor key) (state : GameState) :
    state.turn ≤ (edit.perform state).turn := by
  cases made with
  | record change revises => rw [revises]; exact state.turn.le_refl
  | turn turn advances =>
      rw [advances, perform_advance, ← Turn.later_eq_max]
      exact (state.turn.isGreatest_later turn).2 List.mem_cons_self

theorem messages_addMessage (state : GameState) (contact chat : ContactId) (message : Message) :
    ((addMessage contact message).perform state).messages chat =
      state.messages chat ++ ((addMessage contact message).filed? chat).toList := by
  have filed : ((addMessage contact message).perform state).chats.find? chat =
      if chat = contact then some (state.messages contact ++ [message.filed])
      else state.chats.find? chat :=
    GameState.find?_reviseChat state contact chat (· ++ [message.filed])
  rw [GameState.messages, filed, filed?]
  by_cases same : chat = contact
  · subst same
    simp
  · simp [same, Ne.symm same, GameState.messages]

theorem MadeBy.messages_perform (made : edit.MadeBy line) (state : GameState)
    (chat : ContactId) :
    (edit.perform state).messages chat = state.messages chat ++ (edit.filed? chat).toList := by
  cases made with
  | filing contact message files =>
      subst files
      exact messages_addMessage ..
  | ruling key addressed made =>
      rw [filed?_of_not_filing made.isFiling_eq_false,
        GameState.messages_congr (made.chats_perform state)]
      exact (List.append_nil _).symm

theorem MadeBy.withoutChats_perform (made : edit.MadeBy line) (state : GameState) :
    (edit.perform state).withoutChats =
      if edit.isFiling then state.withoutChats else edit.perform state.withoutChats := by
  cases made with
  | filing contact message files =>
      subst files
      rfl
  | ruling key addressed made =>
      rw [made.isFiling_eq_false, made.withoutChats_perform]
      rfl

/-- What one edit of a line keeps. -/
theorem MadeBy.advances (made : edit.MadeBy line) (state : GameState) :
    state.Advances line (edit.perform state) where
  chats chat := ⟨_, (made.messages_perform state chat).symm⟩
  turn := by
    cases made with
    | filing contact message files => subst files; exact state.turn.le_refl
    | ruling key addressed made => exact made.turn_le_perform state
  records other elsewhere := by
    cases made with
    | filing contact message files => subst files; rfl
    | ruling key addressed made =>
        exact GameState.progress?_perform_of_ne made fun same => elsewhere (same ▸ addressed)

end Edit

namespace GameState

variable {line : Submission} {state earlier later last : GameState} {edits made : List Edit}

theorem Advances.refl (line : Submission) (state : GameState) : state.Advances line state :=
  ⟨fun _ => List.prefix_rfl, state.turn.le_refl, fun _ _ => rfl⟩

theorem Advances.trans (before : earlier.Advances line later) (after : later.Advances line last) :
    earlier.Advances line last where
  chats chat := (before.chats chat).trans (after.chats chat)
  turn := Turn.le_trans before.turn after.turn
  records key elsewhere := (after.records key elsewhere).trans (before.records key elsewhere)

theorem advances_performAll (made : ∀ edit ∈ edits, edit.MadeBy line) (state : GameState) :
    state.Advances line (state.performAll edits) := by
  induction edits generalizing state with
  | nil => exact .refl line state
  | cons edit edits ih =>
      obtain ⟨first, rest⟩ := List.forall_mem_cons.mp made
      exact (first.advances state).trans (ih rest _)

theorem saidSince_performAll (made : ∀ edit ∈ edits, edit.MadeBy line) (state : GameState)
    (chat : ContactId) :
    (state.performAll edits).saidSince state chat = edits.filterMap (Edit.filed? chat) := by
  have messages : (state.performAll edits).messages chat =
      state.messages chat ++ edits.filterMap (Edit.filed? chat) := by
    induction edits generalizing state with
    | nil => exact (List.append_nil _).symm
    | cons edit edits ih =>
        obtain ⟨first, rest⟩ := List.forall_mem_cons.mp made
        have next : (state.performAll (edit :: edits)).messages chat = _ :=
          ih rest (edit.perform state)
        rw [next, first.messages_perform, List.append_assoc, List.filterMap_cons]
        cases edit.filed? chat <;> rfl
  rw [saidSince, messages, List.drop_left]

theorem withoutChats_performAll (made : ∀ edit ∈ edits, edit.MadeBy line) (state : GameState) :
    (state.performAll edits).withoutChats =
      state.withoutChats.performAll (edits.filter (!·.isFiling)) := by
  induction edits generalizing state with
  | nil => rfl
  | cons edit edits ih =>
      obtain ⟨first, rest⟩ := List.forall_mem_cons.mp made
      have next : (state.performAll (edit :: edits)).withoutChats = _ :=
        ih rest (edit.perform state)
      rw [next, first.withoutChats_perform, List.filter_cons]
      cases edit.isFiling <;> rfl

end GameState

namespace Session

variable {session : Session} {line : Submission} {made asked answered announced : List Edit}

/-- The edits that a line makes for its puzzle. -/
def rulingEdits (session : Session) (line : Submission) : List Edit :=
  (session.story.resolve session.picker session.store.state line.sentAt line.contact
    line.text).edits

theorem madeBy_rulingEdits (session : Session) (line : Submission) :
    ∀ edit ∈ session.rulingEdits line, ∃ key, line.Addresses key ∧ edit.MadeFor key := by
  intro edit member
  cases parsed : Command.parse line.text with
  | none =>
      have unedited : session.rulingEdits line = [] := by
        simp only [rulingEdits, Story.resolve, parsed]
      rw [unedited] at member
      cases member
  | some command =>
      exact ⟨.of line.contact command.turn, ⟨command, parsed, rfl⟩,
        (session.play line.sentAt).edits_madeFor parsed edit member⟩

theorem mem_say {edit : Edit} {ids : IdSource} {contact : ContactId}
    {message : MessageId → Message} :
    edit ∈ (session.say ids contact message).1 ↔ session.story.hasContact contact = true ∧
      edit = .addMessage contact (message ids.draw.1) := by
  cases known : session.story.hasContact contact <;> simp [say, known]

theorem mem_announce {edit : Edit} {ids : IdSource} {now : Instant} {delivery? : Option Delivery}
    (member : edit ∈ session.announce ids now delivery?) :
    ∃ contact message, edit = .addMessage contact message := by
  cases delivery? with
  | none => cases member
  | some delivery => exact ⟨_, _, (mem_say.mp member).2⟩

/-- The parts of what a line does, in their order: the question is filed, the puzzle's edits are
made, the answer is filed, and what is delivered is filed. -/
structure Sends (session : Session) (line : Submission) (asked answered announced : List Edit) :
    Prop where
  edits : session.edits line = asked ++ session.rulingEdits line ++ answered ++ announced
  asks : ∀ edit ∈ asked, ∃ message, edit = .addMessage line.contact message ∧
    message.filed.Records .user line.text line.sentAt true
  answers : ∀ edit ∈ answered, ∃ message, edit = .addMessage line.contact message ∧
    message.filed.Records .contact (session.send line).1.text line.sentAt true
  answersKnown : session.story.hasContact line.contact = true → answered ≠ []
  announces : ∀ edit ∈ announced, ∃ contact message, edit = .addMessage contact message

theorem exists_sends (session : Session) (line : Submission) :
    ∃ asked answered announced, session.Sends line asked answered announced := by
  have outcome : (session.send line).1 = _ := session.exchange_outcome ..
  refine ⟨_, _, _, session.exchange_edits line.sentAt line.contact line.text, ?_, ?_, ?_,
    fun edit member => mem_announce member⟩
  · exact fun edit member => ⟨_, (mem_say.mp member).2, records_asked ..⟩
  · rw [outcome]
    exact fun edit member => ⟨_, (mem_say.mp member).2, records_answered ..⟩
  · exact fun known => List.ne_nil_of_mem (mem_say.mpr ⟨known, rfl⟩)

theorem plain_rulingEdits (session : Session) (line : Submission) :
    ∀ edit ∈ session.rulingEdits line, edit.isFiling = false := by
  intro edit member
  obtain ⟨key, _, made⟩ := session.madeBy_rulingEdits line edit member
  exact made.isFiling_eq_false

theorem filter_rulingEdits (session : Session) (line : Submission) :
    (session.rulingEdits line).filter (!·.isFiling) = session.rulingEdits line :=
  List.filter_eq_self.mpr fun edit member => by simp [session.plain_rulingEdits line edit member]

namespace Sends

theorem asksFile (sends : session.Sends line asked answered announced) :
    ∀ edit ∈ asked, ∃ contact message, edit = .addMessage contact message := by
  intro edit member
  obtain ⟨message, files, _⟩ := sends.asks edit member
  exact ⟨_, message, files⟩

theorem answersFile (sends : session.Sends line asked answered announced) :
    ∀ edit ∈ answered, ∃ contact message, edit = .addMessage contact message := by
  intro edit member
  obtain ⟨message, files, _⟩ := sends.answers edit member
  exact ⟨_, message, files⟩

/-- What does not file a message is made for the puzzle. -/
theorem filter_edits (sends : session.Sends line asked answered announced) :
    (session.edits line).filter (!·.isFiling) = session.rulingEdits line := by
  simp only [sends.edits, List.filter_append, session.filter_rulingEdits,
    Edit.filter_of_filing sends.asksFile, Edit.filter_of_filing sends.answersFile,
    Edit.filter_of_filing sends.announces, List.nil_append, List.append_nil]

theorem madeBy (sends : session.Sends line asked answered announced) :
    ∀ edit ∈ session.edits line, edit.MadeBy line := by
  have filing (edits : List Edit)
      (files : ∀ edit ∈ edits, ∃ contact message, edit = .addMessage contact message) :
      ∀ edit ∈ edits, edit.MadeBy line := by
    intro edit member
    obtain ⟨contact, message, same⟩ := files edit member
    exact .filing contact message same
  have ruling : ∀ edit ∈ session.rulingEdits line, edit.MadeBy line := by
    intro edit member
    obtain ⟨key, addressed, made⟩ := session.madeBy_rulingEdits line edit member
    exact .ruling key addressed made
  rw [sends.edits]
  simp only [List.forall_mem_append]
  exact ⟨⟨⟨filing asked sends.asksFile, ruling⟩, filing answered sends.answersFile⟩,
    filing announced sends.announces⟩

theorem user_of_asked (sends : session.Sends line asked answered announced) {chat : ContactId}
    {message : Message}
    (found : message ∈ (asked ++ session.rulingEdits line).filterMap (Edit.filed? chat)) :
    message.sender = .user := by
  obtain ⟨edit, member, files⟩ := List.mem_filterMap.mp found
  rcases List.mem_append.mp member with isAsked | isRuling
  · obtain ⟨question, rfl, asks⟩ := sends.asks edit isAsked
    obtain ⟨_, rfl⟩ := Edit.filed?_addMessage.mp files
    exact asks.sender
  · rw [Edit.filed?_of_not_filing (session.plain_rulingEdits line edit isRuling)] at files
    cases files

/-- Where a message of a contact is found, the puzzle's edits were made before. -/
theorem ruled_of_told (sends : session.Sends line asked answered announced)
    (early : made <+: session.edits line) {chat : ContactId} {message : Message}
    (found : message ∈ made.filterMap (Edit.filed? chat)) (told : message.sender = .contact) :
    asked ++ session.rulingEdits line <+: made := by
  have part : asked ++ session.rulingEdits line <+: session.edits line := by
    rw [sends.edits, List.append_assoc]
    exact List.prefix_append ..
  rcases List.prefix_or_prefix_of_prefix part early with before | after
  · exact before
  · have asks := sends.user_of_asked ((after.filterMap _).subset found)
    cases asks.symm.trans told

/-- Where an unread message of a contact is found, the answer was filed before. -/
theorem answered_of_unread (sends : session.Sends line asked answered announced)
    (early : made <+: session.edits line) {chat : ContactId} {message : Message}
    (found : message ∈ made.filterMap (Edit.filed? chat)) (told : message.sender = .contact)
    (unread : message.read? = some false) :
    asked ++ session.rulingEdits line ++ answered <+: made := by
  have part : asked ++ session.rulingEdits line ++ answered <+: session.edits line := by
    rw [sends.edits]
    exact List.prefix_append ..
  rcases List.prefix_or_prefix_of_prefix part early with before | after
  · exact before
  · have filed := (after.filterMap (Edit.filed? chat)).subset found
    rw [List.filterMap_append, List.mem_append] at filed
    rcases filed with isAsked | isAnswered
    · cases (sends.user_of_asked isAsked).symm.trans told
    · obtain ⟨edit, member, files⟩ := List.mem_filterMap.mp isAnswered
      obtain ⟨answer, rfl, answers⟩ := sends.answers edit member
      obtain ⟨_, rfl⟩ := Edit.filed?_addMessage.mp files
      cases answers.read.symm.trans unread

/-- What some first edits of a line do apart from the chats, some first edits of the puzzle do. -/
theorem withoutChats_of_early (sends : session.Sends line asked answered announced)
    (early : made <+: session.edits line) (state : GameState) :
    ∃ ruled, ruled <+: session.rulingEdits line ∧
      (state.performAll made).withoutChats = (state.performAll ruled).withoutChats ∧
      (asked ++ session.rulingEdits line <+: made → ruled = session.rulingEdits line) := by
  have madeBy : ∀ edit ∈ made, edit.MadeBy line := fun edit member =>
    sends.madeBy edit (early.subset member)
  have kept : made.filter (!·.isFiling) <+: session.rulingEdits line := by
    rw [← sends.filter_edits]
    exact early.filter _
  refine ⟨_, kept, ?_, fun before => ?_⟩
  · have keptBy : ∀ edit ∈ made.filter (!·.isFiling), edit.MadeBy line := fun edit member =>
      madeBy edit (List.mem_of_mem_filter member)
    rw [GameState.withoutChats_performAll madeBy, GameState.withoutChats_performAll keptBy,
      List.filter_filter]
    simp only [Bool.and_self]
  · -- The puzzle's edits are all among the first ones, which hold no others, so they are the same.
    have ruling : (asked ++ session.rulingEdits line).filter (!·.isFiling) =
        session.rulingEdits line := by
      rw [List.filter_append, Edit.filter_of_filing sends.asksFile, List.nil_append]
      exact session.filter_rulingEdits line
    have all := before.filter (!·.isFiling)
    rw [ruling] at all
    exact kept.sublist.antisymm all.sublist

end Sends

end Session

end Casefile
