import Casefile.Game.Activity
import Casefile.Proofs.Game.Screen
import Casefile.Proofs.Game.Transcript

namespace Casefile

/-!
Starting over begins a new game and leaves the screen alone.

A session does to its screen what its lines announce and what is looked at (`Session.screenEvents`);
starting over does nothing to it.  A toast of the old game is therefore shown in the new one as it
would have been shown in the old one.
-/

/-- Whether an activity goes on with the session that there is. -/
def Activity.goesOn : Activity → Bool
  | .send _ | .openChat _ | .look _ | .reset => true
  | .reopen _ _ _ => false

namespace Screen

variable {screen : Screen} {toast : Toast}

theorem run_append (screen : Screen) (first second : List ScreenEvent) :
    screen.run (first ++ second) = (screen.run first).run second :=
  List.foldl_append

theorem spares_append (screen : Screen) (toast : Toast) (first second : List ScreenEvent) :
    screen.spares toast (first ++ second) =
      (screen.spares toast first && (screen.run first).spares toast second) := by
  induction first generalizing screen with
  | nil => rfl
  | cons event first ih =>
      rw [List.cons_append, spares_cons, spares_cons, ih, Bool.and_assoc]
      rfl

end Screen

namespace Session

variable {session : Session} {screen : Screen} {activity : Activity} {activities : List Activity}
  {line : Submission} {toast : Toast}

/-- What an activity does to the screen. -/
def screenEvents (session : Session) : Activity → List ScreenEvent
  | .send line =>
    .clock line.sentAt :: ((session.send line).1.delivery?.map fun delivery =>
      ScreenEvent.notify (session.toastFor delivery)).toList
  | .look now => [.clock now, .look]
  | .openChat _ | .reset | .reopen _ _ _ => []

def allScreenEvents (session : Session) : List Activity → List ScreenEvent
  | [] => []
  | activity :: rest => session.screenEvents activity ++ (session.act activity).allScreenEvents rest

theorem notifier_send (session : Session) (line : Submission) :
    (session.send line).2.notifier =
      notify session.notifier line.sentAt
        ((session.send line).1.delivery?.map session.toastFor) :=
  congrArg (notify session.notifier line.sentAt) (session.exchange_request ..)

theorem notifier_act (shows : session.notifier = .screen screen.toasts)
    (goesOn : activity.goesOn = true) :
    (session.act activity).notifier =
      .screen (screen.run (session.screenEvents activity)).toasts := by
  cases activity with
  | send line =>
      rw [act, notifier_send, screenEvents, shows]
      cases (session.send line).1.delivery? <;> rfl
  | look now => rw [act, look, shows]; rfl
  | openChat | reset => exact shows
  | reopen => cases goesOn

theorem notifier_actAll (shows : session.notifier = .screen screen.toasts)
    (goOn : ∀ activity ∈ activities, activity.goesOn = true) :
    (session.actAll activities).notifier =
      .screen (screen.run (session.allScreenEvents activities)).toasts := by
  induction activities generalizing session screen with
  | nil => exact shows
  | cons activity activities ih =>
      obtain ⟨first, rest⟩ := List.forall_mem_cons.mp goOn
      rw [allScreenEvents, Screen.run_append]
      exact ih (notifier_act shows first) rest

theorem spares_screenEvents (screen : Screen) (session : Session) (activity : Activity) :
    screen.spares toast (session.screenEvents activity) = true ↔
      ∀ seen, activity = .look seen → seen < toast.expiresAt := by
  cases activity with
  | send line =>
      rw [screenEvents]
      cases (session.send line).1.delivery? <;> simp [Screen.spares, Screen.history, Screen.takes]
  | look now =>
      simp [screenEvents, Screen.spares, Screen.history, Screen.takes, Screen.meet, Instant.not_le]
  | openChat | reset | reopen => simp [screenEvents, Screen.spares, Screen.history]

/-- Only a look at or after its end takes a toast off in a session. -/
theorem spares_allScreenEvents (screen : Screen) (session : Session)
    (activities : List Activity) :
    screen.spares toast (session.allScreenEvents activities) = true ↔
      ∀ seen, .look seen ∈ activities → seen < toast.expiresAt := by
  induction activities generalizing session screen with
  | nil => simp [allScreenEvents, Screen.spares, Screen.history]
  | cons activity activities ih =>
      rw [allScreenEvents, Screen.spares_append, Bool.and_eq_true_iff, spares_screenEvents, ih]
      simp only [List.mem_cons, or_imp, forall_and, eq_comm]

/-- The toast that a line queues, if it queues one. -/
def queues? (session : Session) (line : Submission) : Option Toast :=
  match session.notifier with
  | .silent => none
  | .screen toasts => (session.send line).1.delivery?.map fun delivery =>
    toasts.issue line.sentAt (session.toastFor delivery)

theorem notifier_of_queued (queued : session.queues? line = some toast) :
    ∃ toasts : Toasts, (session.send line).2.notifier = .screen toasts ∧
      toast ∈ toasts.queue ∧ toast.id < toasts.nextId := by
  unfold queues? at queued
  split at queued
  · cases queued
  next toasts shows =>
    obtain ⟨delivery, delivered, rfl⟩ := Option.map_eq_some_iff.mp queued
    refine ⟨toasts.notify line.sentAt (session.toastFor delivery), ?_, ?_, Nat.lt_succ_self _⟩
    · rw [notifier_send, delivered, shows]
      rfl
    · exact List.mem_append_right toasts.queue List.mem_cons_self

theorem look_shown {toasts : Toasts} (shows : session.notifier = .screen toasts) (now : Instant) :
    (session.look now).1 = ({ toasts, now } : Screen).shown := by
  rw [look, shows]
  rfl

/-- When a toast that a line has queued is shown, whatever else was done since. -/
theorem mem_look_of_queued (queued : session.queues? line = some toast)
    (goOn : ∀ activity ∈ activities, activity.goesOn = true) (now : Instant) :
    toast ∈ (((session.send line).2.actAll activities).look now).1 ↔
      (∀ seen, .look seen ∈ activities → seen < toast.expiresAt) ∧
        toast.showsAt ≤ now ∧ now < toast.expiresAt := by
  obtain ⟨toasts, shows, member, old⟩ := notifier_of_queued queued
  let screen : Screen := { toasts, now := line.sentAt }
  let events := (session.send line).2.allScreenEvents activities
  have later : ((session.send line).2.actAll activities).notifier =
      .screen (screen.run events).toasts := notifier_actAll shows goOn
  have stays : toast ∈ ({ toasts := (screen.run events).toasts, now } : Screen).queue ↔
      toast ∈ screen.queue ∧ screen.spares toast events = true := Screen.mem_queue_run_of_old old
  have isQueued : toast ∈ screen.queue := member
  rw [look_shown later, Screen.shown_eq, List.mem_filter, stays, and_iff_right isQueued,
    spares_allScreenEvents, Toast.isDue, Bool.and_eq_true_iff, decide_eq_true_iff,
    decide_eq_true_iff]

theorem actAll_append (session : Session) (first second : List Activity) :
    session.actAll (first ++ second) = (session.actAll first).actAll second :=
  List.foldl_append

/-- Starting over begins a new game, but it does not clear the screen.  A toast that a line queued
before it is shown after it if it was still queued, that is, exactly when no look since that line
came at or after the toast's end and the toast is due, as if nobody had started over. -/
theorem toasts_outlast_reset {before after : List Activity}
    (queued : session.queues? line = some toast)
    (goOn : ∀ activity ∈ before ++ after, activity.goesOn = true) (now : Instant) :
    let old := (session.send line).2.actAll before
    old.reset.store.state = {} ∧ old.reset.notifier = old.notifier ∧
      (toast ∈ ((old.reset.actAll after).look now).1 ↔
        (∀ seen, .look seen ∈ before ++ after → seen < toast.expiresAt) ∧
          toast.showsAt ≤ now ∧ now < toast.expiresAt) := by
  intro old
  refine ⟨rfl, rfl, ?_⟩
  have goOnWithReset : ∀ activity ∈ before ++ .reset :: after, activity.goesOn = true := by
    obtain ⟨first, second⟩ := List.forall_mem_append.mp goOn
    exact List.forall_mem_append.mpr ⟨first, List.forall_mem_cons.mpr ⟨rfl, second⟩⟩
  have looks (seen : Instant) : .look seen ∈ before ++ .reset :: after ↔
      .look seen ∈ before ++ after := by simp
  have shown := mem_look_of_queued queued goOnWithReset now
  simp only [looks, actAll_append] at shown
  exact shown

/-- A toast that is held back, and shown in the game that was begun in the meantime. -/
theorem toasts_outlast_reset_delayed :
    let session := informedSession
    let line := { sentAt := ⟨0⟩, contact := ⟨"c1"⟩, text := "T1: garage" }
    let toast := {
      id := 1, text := "Devo parlarti.", contact? := some ⟨"c2"⟩, createdAt := ⟨0⟩, delay := 1500
      ttl := 4000 }
    let old := (session.send line).2.actAll [.look ⟨100⟩]
    (session.queues? line = some toast ∧
      ∀ activity ∈ [Activity.look ⟨100⟩, .send line, .look ⟨1600⟩], activity.goesOn = true) ∧
    old.reset.store.state = {} ∧
      toast ∈ ((old.reset.actAll [.send line, .look ⟨1600⟩]).look ⟨2000⟩).1 := by
  intro session line toast old
  have queued : session.queues? line = some toast := by decide +kernel
  have goOn : ∀ activity ∈ [Activity.look ⟨100⟩, .send line, .look ⟨1600⟩],
      activity.goesOn = true := by simp [Activity.goesOn]
  obtain ⟨begun, _, shown⟩ := @toasts_outlast_reset session line toast [.look ⟨100⟩]
    [.send line, .look ⟨1600⟩] queued goOn ⟨2000⟩
  have unexpired : ∀ seen, .look seen ∈ [Activity.look ⟨100⟩, .send line, .look ⟨1600⟩] →
      seen < toast.expiresAt := by
    intro seen looked
    simp at looked
    rcases looked with rfl | rfl <;> decide
  exact ⟨⟨queued, goOn⟩, begun, shown.mpr ⟨unexpired, by decide, by decide⟩⟩

/-- A toast that a line queued before the game was started over, and that is shown after it. -/
theorem toast_of_old_game_shown :
    let session := informedSession
    let line := { sentAt := ⟨0⟩, contact := ⟨"c1"⟩, text := "T1: garage" }
    let begun := (session.send line).2.reset
    ∃ toast, session.queues? line = some toast ∧ toast ∈ (begun.look ⟨1500⟩).1 := by
  refine ⟨{
    id := 1, text := "Devo parlarti.", contact? := some ⟨"c2"⟩, createdAt := ⟨0⟩, delay := 1500
    ttl := 4000 }, ?_, ?_⟩ <;> decide +kernel

end Session

end Casefile
