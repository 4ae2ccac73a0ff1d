import Casefile.Proofs.Chat.Run
import Casefile.Proofs.Game.Independence
import Casefile.Proofs.Game.Transcript
import Casefile.Proofs.Story.Load

namespace Casefile

/-!
The active chat exists.

A chat begins with someone whom the story lists, and goes over to no one who cannot be played.  So
what is said in it is always answered.
-/

theorem Puzzle.receive_ne_contactNotFound (puzzle : Puzzle) (key : StatusKey) (progress : Progress)
    (now : Instant) (picker : Picker) (message : String) :
    (puzzle.receive key progress now picker message).outcome ≠ .contactNotFound := by
  have ruling := puzzle.receive_ruling key progress now picker message
  generalize puzzle.receive key progress now picker message = verdict at ruling
  cases ruling with
  | solved =>
      rcases puzzle.solvedOutcome_cases with ⟨solved, success⟩ | ⟨reason, incomplete⟩
      · simp [success]
      · simp [incomplete]
  | asked | barred | hinted | failed | escalated => simp

namespace Story

/-- A line to someone who can be played does not miss the contact. -/
theorem resolve_ne_contactNotFound {story : Story} {contact : ContactId}
    (known : story.hasContact contact = true) (picker : Picker)
    (state : GameState) (now : Instant) (line : String) :
    (story.resolve picker state now contact line).outcome ≠ .contactNotFound := by
  cases parsed : Command.parse line with
  | none =>
      simp [resolve, parsed]
  | some command =>
      cases has : story.puzzle? contact command.turn with
      | none =>
          simp [resolve_no_puzzle parsed has, known]
      | some puzzle =>
          rw [resolve_puzzle parsed has]
          exact Puzzle.receive_ne_contactNotFound _ _ _ _ _ _

end Story

namespace Chat

variable {chat after : Chat} {now : Instant} {line : String}

/-- Whether the active chat, if there is one, is with someone who can be played. -/
def Attended (chat : Chat) : Prop :=
  ∀ contact ∈ chat.active?, chat.session.story.hasContact contact = true

theorem attended_start {session : Session} (playable : session.story.ListsPlayable) :
    (start session).Attended := by
  intro contact active
  obtain ⟨first, isFirst, rfl⟩ := Option.map_eq_some_iff.mp active
  exact playable first (List.mem_filter.mp (List.mem_of_head? isFirst)).1

theorem story_of_obeys (obeys : chat.Obeys now after) :
    after.session.story = chat.session.story := by
  cases obeys <;> rfl

@[simp] theorem story_handle (chat : Chat) (now : Instant) (line : String) :
    (chat.handle now line).chat.session.story = chat.session.story := by
  have flushed := chat_flushToasts (chat.obey now line).chat now
  rw [← story_of_obeys (chat.obey_obeys now line)]
  exact congrArg (·.session.story) flushed

@[simp] theorem active_handle (chat : Chat) (now : Instant) (line : String) :
    (chat.handle now line).chat.active? = (chat.obey now line).chat.active? := by
  have flushed := chat_flushToasts (chat.obey now line).chat now
  exact congrArg (·.active?) flushed

theorem Attended.handle (attended : chat.Attended) (now : Instant) (line : String) :
    (chat.handle now line).chat.Attended := by
  rw [Attended, active_handle, story_handle]
  have obeys := chat.obey_obeys now line
  generalize (chat.obey now line).chat = after at obeys
  cases obeys with
  | opened contact known =>
      rintro _ ⟨⟩
      rcases known with active | known
      · exact attended contact active
      · exact known
  | idle | said | startedOver => exact attended

theorem isSome_handle (chat : Chat) (now : Instant) (line : String)
    (active : chat.active?.isSome = true) :
    (chat.handle now line).chat.active?.isSome = true := by
  rw [active_handle]
  have obeys := chat.obey_obeys now line
  generalize (chat.obey now line).chat = after at obeys
  cases obeys with
  | opened => rfl
  | idle | said | startedOver => exact active

theorem attended_chats (attended : chat.Attended) (lines : List (Instant × Option String)) :
    ∀ later ∈ chat.chats lines, later.Attended :=
  kept_chats (fun _ now line attended => attended.handle now line) attended lines

/-- Once there is an active chat there is one for the rest of the run. -/
theorem active_chats (chat : Chat) (lines : List (Instant × Option String)) :
    (chat.chats lines).Pairwise fun earlier later =>
      earlier.active?.isSome = true → later.active?.isSome = true := by
  induction lines generalizing chat with
  | nil => exact List.pairwise_singleton ..
  | cons entry rest ih =>
      obtain ⟨now, _ | line⟩ := entry
      · exact List.pairwise_singleton ..
      by_cases goesOn : (chat.handle now line).goesOn
      · rw [chats, handled_goesOn goesOn]
        refine .cons (fun later isLater active => ?_) (ih (chat.handle now line).chat)
        exact kept_chats isSome_handle (isSome_handle chat now line active) rest later isLater
      · rw [chats, handled_stops goesOn]
        exact List.pairwise_pair.mpr (isSome_handle chat now line)

@[simp] theorem store_handle (chat : Chat) (now : Instant) (line : String) :
    (chat.handle now line).chat.session.store = (chat.obey now line).chat.session.store := by
  have flushed := chat_flushToasts (chat.obey now line).chat now
  exact congrArg (·.session.store) flushed

end Chat

/-- What is said to a contact comes to an outcome that the contact answers with, and the two stand
in the contact's chat. -/
structure Typed.Answered (typed : Typed) (contact : ContactId) (text : String)
    (outcome : Outcome) : Prop where
  reached : outcome ≠ .contactNotFound
  printed : typed.obeyed.shown = contact.text ++ ": " ++ outcome.rendered ++ "\n"
  filed : ∃ (asked answered : Message) (announced : Delivery → Message),
    asked.Records .user text typed.now true ∧
    answered.Records .contact outcome.text typed.now true ∧
    (∀ delivery, (announced delivery).Records .contact delivery.message typed.now false) ∧
    typed.step.chat.session.store.state.messages contact =
      typed.chat.session.store.state.messages contact ++ [asked, answered] ++
        ((typed.chat.session.story.delivers outcome contact).map announced).toList

namespace Chat

theorem answered_of_say {typed : Typed} {contact : ContactId} {text : String}
    (spoken : ChatCommand.parse typed.line = .ok (some (.say text)))
    (active : typed.chat.active? = some contact)
    (known : typed.chat.session.story.hasContact contact = true) :
    typed.Answered contact text (typed.chat.session.submit typed.now contact text).1 := by
  have obeyed : typed.obeyed = typed.chat.say typed.now text := by
    rw [Typed.obeyed, obey, spoken]
    rfl
  have store : typed.step.chat.session.store =
      (typed.chat.session.submit typed.now contact text).2.store := by
    rw [Typed.step, store_handle, ← Typed.obeyed, obeyed, say_of_active active]
  obtain ⟨asked, answered, announced, isAsked, isAnswered, isAnnounced, messages⟩ :=
    typed.chat.session.messages_submit typed.now contact text
  refine ⟨?_, ?_, asked, answered, announced, isAsked, isAnswered, isAnnounced, ?_⟩
  · have outcome : (typed.chat.session.submit typed.now contact text).1 = _ :=
      typed.chat.session.exchange_outcome typed.now contact text
    rw [outcome]
    exact Story.resolve_ne_contactNotFound known _ _ _ _
  · simp [obeyed, say, active]
  · rw [store, messages contact, if_pos ⟨rfl, known⟩]

theorem not_goesOn_of_quit (quits : ChatCommand.parse line = .ok (some .quit)) (chat : Chat)
    (now : Instant) : ¬ (chat.handle now line).goesOn = true := by
  simp [handle, obey, quits, execute]

/-- Nothing is done with the lines after a line with which the player leaves. -/
theorem handleAll_quit (quits : ChatCommand.parse line = .ok (some .quit)) (chat : Chat)
    (before : List (Instant × Option String)) (now : Instant)
    (after : List (Instant × Option String)) :
    chat.handleAll (before ++ (now, some line) :: after) =
      chat.handleAll (before ++ [(now, some line)]) := by
  induction before generalizing chat with
  | nil =>
      have stops := not_goesOn_of_quit quits chat now
      simp only [List.nil_append, handleAll, if_neg stops]
  | cons entry before ih =>
      obtain ⟨earlier, _ | first⟩ := entry
      · rfl
      simp only [List.cons_append, handleAll, ih]

/-- In a chat about a story that was loaded, with whatever was put in later, the active contact can
be played, and from the moment there is one, there is one until the end.  What is said to it is
answered.  Lines after the player left do nothing. -/
theorem active_exists {disk : Disk} {directory : Path} {loaded : Story}
    (isLoaded : Story.load disk directory = .ok loaded) (bundles : List (ContactId × Bundle))
    {session : Session} (plays : session.story = loaded.withBundles bundles)
    (lines : List (Instant × Option String)) :
    let chats := (start session).chats lines
    (run session lines).chat ∈ chats ∧
    (∀ chat ∈ chats, ∀ contact ∈ chat.active?, chat.session.story.hasContact contact = true) ∧
    (chats.Pairwise fun earlier later =>
      earlier.active?.isSome = true → later.active?.isSome = true) ∧
    (∀ typed ∈ (start session).handled lines, ∀ text contact,
      ChatCommand.parse typed.line = .ok (some (.say text)) →
      typed.chat.active? = some contact →
      typed.Answered contact text (typed.chat.session.submit typed.now contact text).1) ∧
    (∀ before now line after, ChatCommand.parse line = .ok (some .quit) →
      run session (before ++ (now, some line) :: after) =
        run session (before ++ [(now, some line)])) := by
  intro chats
  have playable : session.story.ListsPlayable := by
    rw [plays]
    exact (Story.listsPlayable_of_load isLoaded).withBundles bundles
  have attended : ∀ chat ∈ chats, chat.Attended :=
    attended_chats (attended_start playable) lines
  refine ⟨handleAll_mem_chats .., attended, active_chats .., ?_, ?_⟩
  · intro typed handled text contact spoken active
    have known := attended typed.chat (mem_chats_of_handled handled) contact active
    exact answered_of_say spoken active known
  · intro before now line after quits
    rw [run, run, handleAll_quit quits]

def lena : Contact := { id := ⟨"lena"⟩, file := "a" }

def smallDisk : Disk where
  root := .dir [("contacts", .dir [("a", .file "\x7b\x7d".toUTF8)]),
    ("registry.json", .file "[\x7b\"id\":\"lena\",\"file\":\"a\"\x7d]".toUTF8)]
  cwd := []

theorem load_smallDisk : Story.load smallDisk ⟨"/"⟩ = .ok (({} : Story).enlist lena {}) := by
  have listing : Json.read "[\x7b\"id\":\"lena\",\"file\":\"a\"\x7d]" =
      some (.array [.object [(some "id", .string "lena"), (some "file", .string "a")]]) := by cbv
  have bundle : Json.read "\x7b\x7d" = some (.object []) := by cbv
  have contacts : Story.readFile smallDisk (Story.registryPath ⟨"/"⟩) = .ok [lena] :=
    Story.readFile_of_readBytes rfl (by rw [Wire.read, listing]; rfl)
  have puzzles : Story.readFile smallDisk (Story.bundlePath ⟨"/"⟩ lena) = .ok ({} : Bundle) :=
    Story.readFile_of_readBytes rfl (by rw [Wire.read, bundle]; rfl)
  rw [Story.load_of_registry contacts, Story.loadContacts_cons, puzzles]
  rfl

/-- Someone who is listed is talked to, and then someone whose bundle was put in later. -/
theorem active_exists_lena :
    let loaded := ({} : Story).enlist lena {}
    let session : Session := {
      story := loaded.withBundles [(⟨"ugo"⟩, {})], store := .resume (.memory {})
      picker := .first, notifier := .silent, ids := .ofSeed 0 }
    let lines := [(⟨0⟩, some "ciao"), (⟨1⟩, some "/c ugo"), (⟨2⟩, some "/quit")]
    let unread := [(⟨3⟩, some "/reset")]
    (∃ typed ∈ (start session).handled lines, typed.chat.active? = some ⟨"lena"⟩ ∧
      typed.Answered ⟨"lena"⟩ "ciao" .invalid) ∧
    (run session lines).chat.active? = some ⟨"ugo"⟩ ∧
    run session (lines ++ unread) = run session lines := by
  intro loaded session lines unread
  obtain ⟨_, _, _, answered, quit⟩ :=
    @active_exists _ _ _ load_smallDisk [(⟨"ugo"⟩, {})] session rfl lines
  have first : ({ chat := start session, now := ⟨0⟩, line := "ciao" } : Typed) ∈
      (start session).handled lines := List.mem_cons_self
  have spoken : ChatCommand.parse "ciao" = .ok (some (.say "ciao")) := by rfl
  have active : (start session).active? = some ⟨"lena"⟩ := by rfl
  have outcome : (session.submit ⟨0⟩ ⟨"lena"⟩ "ciao").1 = .invalid := by rfl
  have isAnswered := answered _ first "ciao" ⟨"lena"⟩ spoken active
  have quits : ChatCommand.parse "/quit" = .ok (some .quit) := by rfl
  exact ⟨⟨_, first, active, outcome ▸ isAnswered⟩, by rfl,
    quit (lines.take 2) ⟨2⟩ "/quit" unread quits⟩

end Chat

end Casefile
