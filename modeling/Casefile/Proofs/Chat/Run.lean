import Casefile.Chat.Run

namespace Casefile

/-!
What a line can do to a chat, and what a whole run is made of.

`Chat.Obeys` lists what a line can do; the toasts that are printed after it concern the screen
alone.  A run prints what its lines print, and what each line keeps holds from line to line.
-/

namespace Chat

variable {chat after : Chat} {now : Instant} {contact : ContactId} {typed : Typed}
  {lines : List (Instant × Option String)}

inductive Obeys (chat : Chat) (now : Instant) : Chat → Prop where
  | idle : Obeys chat now chat
  | opened (contact : ContactId)
    (known : chat.active? = some contact ∨ chat.session.story.hasContact contact = true) :
    Obeys chat now { session := (chat.session.openChat contact).2, active? := some contact }
  | said (contact : ContactId) (text : String) (active : chat.active? = some contact) :
    Obeys chat now { chat with session := (chat.session.submit now contact text).2 }
  | startedOver : Obeys chat now { chat with session := chat.session.reset }

theorem showHistory_of_active (active : chat.active? = some contact) :
    chat.showHistory.chat =
      { session := (chat.session.openChat contact).2, active? := some contact } := by
  simp [showHistory, active]

theorem say_of_active (active : chat.active? = some contact) (now : Instant) (text : String) :
    (chat.say now text).chat =
      { chat with session := (chat.session.submit now contact text).2 } := by
  simp [say, active]

theorem execute_obeys (chat : Chat) (now : Instant) (command : ChatCommand) :
    chat.Obeys now (chat.execute now command).chat := by
  cases command with
  | quit | help | contacts => exact .idle
  | reset => exact .startedOver
  | history =>
      cases active : chat.active? with
      | none => simpa only [execute, showHistory, active] using Obeys.idle
      | some contact =>
          rw [execute, showHistory_of_active active]
          exact .opened contact (.inl active)
  | switch contact =>
      rw [execute, switch]
      split
      next known =>
        rw [showHistory_of_active rfl]
        exact .opened contact (.inr known)
      next => exact .idle
  | say text =>
      cases active : chat.active? with
      | none => simpa only [execute, say, active] using Obeys.idle
      | some contact =>
          rw [execute, say_of_active active]
          exact .said contact text active

theorem obey_obeys (chat : Chat) (now : Instant) (line : String) :
    chat.Obeys now (chat.obey now line).chat := by
  unfold obey
  cases ChatCommand.parse line with
  | error mistake => exact .idle
  | ok command? =>
      cases command? with
      | none => exact .idle
      | some command => exact chat.execute_obeys now command

/-- The screen after some toasts are taken away. -/
def dismissAll (toasts : List Toast) (notifier : Notifier) : Notifier :=
  toasts.foldl (fun notifier toast => (notifier.dismiss toast.id).2) notifier

theorem foldl_dismiss (toasts : List Toast) (session : Session) :
    toasts.foldl (fun session toast => (session.dismiss toast.id).2) session =
      { session with notifier := dismissAll toasts session.notifier } := by
  induction toasts generalizing session with
  | nil => rfl
  | cons toast toasts ih => exact ih (session.dismiss toast.id).2

theorem chat_flushToasts (chat : Chat) (now : Instant) :
    (chat.flushToasts now).chat = { chat with session := { chat.session with
      notifier := dismissAll (chat.session.look now).1 (chat.session.look now).2.notifier } } := by
  rw [flushToasts]
  simp only [foldl_dismiss]
  rfl

/-! Runs. -/

theorem handled_goesOn {now : Instant} {line : String} {rest : List (Instant × Option String)}
    (goesOn : (chat.handle now line).goesOn = true) :
    chat.handled ((now, some line) :: rest) =
      { chat, now, line } :: (chat.handle now line).chat.handled rest := by
  rw [handled, Typed.step, if_pos goesOn]

theorem handled_stops {now : Instant} {line : String} {rest : List (Instant × Option String)}
    (stops : ¬ (chat.handle now line).goesOn = true) :
    chat.handled ((now, some line) :: rest) = [{ chat, now, line }] := by
  rw [handled, Typed.step, if_neg stops]

/-- What a run prints after its first prompt is what each line that is handled prints. -/
theorem shown_handleAll (chat : Chat) (lines : List (Instant × Option String)) :
    (chat.handleAll lines).shown = String.join ((chat.handled lines).map (·.step.shown)) := by
  fun_induction handleAll chat lines with
  | case1 => rfl
  | case2 => rfl
  | case3 chat now line rest step goesOn more ih =>
      rw [handled_goesOn goesOn, List.map_cons, String.join_cons, ← ih]
      rfl
  | case4 chat now line rest step stops =>
      rw [handled_stops stops, List.map_cons, String.join_cons]
      exact String.append_empty.symm

theorem handleAll_mem_chats (chat : Chat) (lines : List (Instant × Option String)) :
    (chat.handleAll lines).chat ∈ chat.chats lines := by
  fun_induction handleAll chat lines with
  | case1 => exact List.mem_cons_self
  | case2 => exact List.mem_cons_self
  | case3 chat now line rest step goesOn more ih =>
      rw [chats, handled_goesOn goesOn]
      exact List.mem_cons_of_mem _ ih
  | case4 chat now line rest step stops =>
      rw [chats, handled_stops stops]
      exact List.mem_cons_of_mem _ List.mem_cons_self

theorem mem_chats_of_handled (handled : typed ∈ chat.handled lines) :
    typed.chat ∈ chat.chats lines := by
  induction lines generalizing chat with
  | nil => cases handled
  | cons entry rest ih =>
      obtain ⟨now, _ | line⟩ := entry
      · cases handled
      by_cases goesOn : (chat.handle now line).goesOn
      · rw [handled_goesOn goesOn] at handled
        rw [chats, handled_goesOn goesOn]
        rcases List.mem_cons.mp handled with rfl | later
        · exact List.mem_cons_self
        · exact List.mem_cons_of_mem _ (ih later)
      · rw [handled_stops goesOn] at handled
        rw [List.mem_singleton.mp handled]
        exact List.mem_cons_self

/-- What every line keeps holds from line to line. -/
theorem kept_chats {Kept : Chat → Prop}
    (step : ∀ chat now line, Kept chat → Kept (chat.handle now line).chat) (kept : Kept chat)
    (lines : List (Instant × Option String)) : ∀ later ∈ chat.chats lines, Kept later := by
  induction lines generalizing chat with
  | nil => exact List.forall_mem_singleton.mpr kept
  | cons entry rest ih =>
      obtain ⟨now, _ | line⟩ := entry
      · exact List.forall_mem_singleton.mpr kept
      have next : Kept (chat.handle now line).chat := step chat now line kept
      by_cases goesOn : (chat.handle now line).goesOn
      · rw [chats, handled_goesOn goesOn]
        exact List.forall_mem_cons.mpr ⟨kept, ih next⟩
      · rw [chats, handled_stops goesOn]
        exact List.forall_mem_cons.mpr ⟨kept, List.forall_mem_singleton.mpr next⟩

end Chat

end Casefile
