import Casefile.Proofs.Chat.Run
import Casefile.Proofs.Game.StartOver

namespace Casefile

/-!
Each toast is printed at most once.

To the screen, a line is a toast that is asked for, perhaps, a look, and the dismissals of what the
look shows.  A toast that is printed is therefore no longer queued, and its number is below those
of all toasts that are still to come.
-/

namespace Screen

variable {screen : Screen} {toast : Toast} {events : List ScreenEvent}

def dismissals (toasts : List Toast) : List ScreenEvent := toasts.map fun toast => .dismiss toast.id

theorem queue_dismissals (screen : Screen) (toasts : List Toast) :
    (screen.run (dismissals toasts)).queue =
      screen.queue.filter fun toast => toast.id ∉ toasts.map (·.id) := by
  induction toasts generalizing screen with
  | nil => simp [dismissals, run]
  | cons toast toasts ih =>
      have rest : (screen.run (dismissals (toast :: toasts))).queue = _ :=
        ih (screen.meet (.dismiss toast.id))
      rw [rest, queue_dismiss, List.filter_filter]
      refine List.filter_congr fun other _ => ?_
      by_cases same : other.id = toast.id <;> simp [same]

/-- Where the clock stands makes no difference to the order. -/
theorem Ordered.setClock {toasts : Toasts} {now : Instant}
    (ordered : ({ toasts, now } : Screen).Ordered) (other : Instant) :
    ({ toasts, now := other } : Screen).Ordered := ⟨ordered.sorted, ordered.below⟩

/-- A screen after someone looked at it and dismissed what it showed. -/
def cleared (screen : Screen) : Screen :=
  (screen.meet .look).run (dismissals screen.shown)

theorem mem_queue_of_cleared (left : toast ∈ screen.cleared.queue) :
    toast ∈ screen.queue ∧ toast.id ∉ screen.shown.map (·.id) := by
  rw [cleared, queue_dismissals, List.mem_filter, decide_eq_true_iff] at left
  have looked := queue_meet screen .look
  rw [looked, List.mem_append, List.mem_filter] at left
  obtain ⟨⟨queued, _⟩ | new, undismissed⟩ := left
  · exact ⟨queued, undismissed⟩
  · cases new

theorem not_due_of_cleared (left : toast ∈ screen.cleared.queue) :
    toast.isDue screen.now = false := by
  obtain ⟨queued, undismissed⟩ := mem_queue_of_cleared left
  refine Bool.eq_false_iff.mpr fun due => undismissed (List.mem_map_of_mem ?_)
  rw [shown_eq]
  exact List.mem_filter.mpr ⟨queued, due⟩

theorem Ordered.cleared (ordered : screen.Ordered) : screen.cleared.Ordered :=
  (ordered.meet .look).run _

end Screen

/-- Whether a toast is queued, or has a number that is still to be given. -/
def Toasts.MayShow (toasts : Toasts) (toast : Toast) : Prop :=
  toast ∈ toasts.queue ∨ toasts.nextId ≤ toast.id

/-- What may show later may have shown before. -/
structure Toasts.Advance (before after : Toasts) : Prop where
  known : ∀ toast ∈ after.queue, before.MayShow toast
  grows : before.nextId ≤ after.nextId

theorem Toasts.Advance.mayShow {before after : Toasts} {toast : Toast}
    (advance : before.Advance after) (may : after.MayShow toast) : before.MayShow toast := by
  rcases may with queued | new
  · exact advance.known toast queued
  · exact .inr (Nat.le_trans advance.grows new)

theorem Screen.advance_run (screen : Screen) (events : List ScreenEvent) :
    screen.toasts.Advance (screen.run events).toasts := by
  refine ⟨fun toast queued => ?_, screen.nextId_le_run events⟩
  rcases Nat.lt_or_ge toast.id screen.toasts.nextId with old | new
  · exact .inl ((mem_queue_run_of_old old).mp queued).1
  · exact .inr new

theorem Screen.advance_cleared (screen : Screen) :
    screen.toasts.Advance screen.cleared.toasts :=
  screen.advance_run (.look :: dismissals screen.shown)

/-- What was shown and dismissed does not show again. -/
theorem Screen.Ordered.gone {screen : Screen} {shown toast : Toast} (ordered : screen.Ordered)
    (shows : shown ∈ screen.shown) (later : screen.cleared.toasts.MayShow toast) :
    shown.id ≠ toast.id := by
  intro same
  rcases later with left | new
  · exact (mem_queue_of_cleared left).2 (same ▸ List.mem_map_of_mem shows)
  · have old := ordered.below shown (mem_queue_of_shown shows)
    have grows := screen.advance_cleared.grows
    omega

namespace Chat

variable {chat after : Chat} {now : Instant} {toasts : Toasts}

theorem dismissAll_screen (shown : List Toast) (toasts : Toasts) (now : Instant) :
    dismissAll shown (.screen toasts) =
      .screen (({ toasts, now } : Screen).run (Screen.dismissals shown)).toasts := by
  induction shown generalizing toasts with
  | nil => rfl
  | cons toast shown ih => exact ih (toasts.dismiss toast.id).2

theorem notifier_of_obeys (obeys : chat.Obeys now after)
    (shows : chat.session.notifier = .screen toasts) :
    ∃ events, after.session.notifier =
      .screen (({ toasts, now } : Screen).run events).toasts := by
  cases obeys with
  | idle | opened | startedOver => exact ⟨[], shows⟩
  | said contact text active =>
      have notified : (chat.session.submit now contact text).2.notifier =
        Session.notify (.screen toasts) now (chat.session.exchange now contact text).request? :=
          shows ▸ rfl
      cases requested : (chat.session.exchange now contact text).request? with
      | none => exact ⟨[], by rw [notified, requested]; rfl⟩
      | some request => exact ⟨[.notify request], by rw [notified, requested]; rfl⟩

theorem notifier_flushToasts (shows : chat.session.notifier = .screen toasts) (now : Instant) :
    (chat.flushToasts now).chat.session.notifier =
      .screen ({ toasts, now } : Screen).cleared.toasts := by
  have flushed : (chat.flushToasts now).chat.session.notifier =
      dismissAll (chat.session.look now).1 (chat.session.look now).2.notifier :=
    congrArg (·.session.notifier) (chat_flushToasts chat now)
  have looked : (chat.session.look now).2.notifier =
      .screen (({ toasts, now } : Screen).meet .look).toasts := by
    rw [Session.look, shows]
    rfl
  rw [flushed, looked, Session.look_shown shows]
  exact dismissAll_screen _ _ now

end Chat

/-- What is printed after a line, and what is left on the screen. -/
structure Typed.Presents (typed : Typed) (arrived left : Toasts) : Prop where
  before : typed.obeyed.chat.session.notifier = .screen arrived
  after : typed.step.chat.session.notifier = .screen left
  printed : typed.step.shown = typed.obeyed.shown ++
    String.join (typed.toasts.map Chat.toastLine) ++
      if typed.obeyed.goesOn then typed.step.chat.prompt else ""
  due : ∀ toast, toast ∈ typed.toasts ↔
    toast ∈ arrived.queue ∧ toast.showsAt ≤ typed.now ∧ typed.now < toast.expiresAt
  inOrder : typed.toasts.Pairwise fun first second => first.id < second.id
  noneLeft : ∀ toast ∈ left.queue, ¬ (toast.showsAt ≤ typed.now ∧ typed.now < toast.expiresAt)

namespace Typed

variable {typed : Typed} {toasts : Toasts}

theorem printed_step (typed : Typed) : typed.step.shown = typed.obeyed.shown ++
    String.join (typed.toasts.map Chat.toastLine) ++
      if typed.obeyed.goesOn then typed.step.chat.prompt else "" := rfl

theorem presents_of_obeyed {arrived : Toasts}
    (obeyed : typed.obeyed.chat.session.notifier = .screen arrived)
    (ordered : ({ toasts := arrived, now := typed.now } : Screen).Ordered) :
    typed.Presents arrived ({ toasts := arrived, now := typed.now } : Screen).cleared.toasts := by
  have shown : typed.toasts = ({ toasts := arrived, now := typed.now } : Screen).shown :=
    Session.look_shown obeyed typed.now
  refine ⟨obeyed, Chat.notifier_flushToasts obeyed typed.now, typed.printed_step, ?_, ?_, ?_⟩
  · intro toast
    rw [shown, Screen.shown_eq, List.mem_filter, Toast.isDue_iff]
    rfl
  · rw [shown, Screen.shown_eq]
    exact ordered.sorted.sublist List.filter_sublist
  · intro toast left due
    have notDue := Screen.not_due_of_cleared left
    rw [Toast.isDue_iff.mpr due] at notDue
    cases notDue

theorem presents (shows : typed.chat.session.notifier = .screen toasts)
    (ordered : ({ toasts, now := typed.now } : Screen).Ordered) :
    ∃ arrived : Toasts, toasts.Advance arrived ∧
      ({ toasts := arrived, now := typed.now } : Screen).Ordered ∧
      typed.Presents arrived
        ({ toasts := arrived, now := typed.now } : Screen).cleared.toasts := by
  obtain ⟨events, obeyed⟩ :=
    Chat.notifier_of_obeys (typed.chat.obey_obeys typed.now typed.line) shows
  have advance := ({ toasts, now := typed.now } : Screen).advance_run events
  have sorted := (ordered.run events).setClock typed.now
  exact ⟨_, advance, sorted, presents_of_obeyed obeyed sorted⟩

/-! Lines that follow each other. -/

/-- Lines each of which is typed with the screen that the one before left. -/
inductive Follow : Notifier → List Typed → Notifier → Prop where
  | nil (notifier : Notifier) : Follow notifier [] notifier
  | cons {typed : Typed} {rest : List Typed} {notifier last : Notifier}
    (continues : typed.chat.session.notifier = notifier)
    (follow : Follow typed.step.chat.session.notifier rest last) :
    Follow notifier (typed :: rest) last

theorem Follow.append {first second : List Typed} {begun between last : Notifier}
    (before : Follow begun first between) (after : Follow between second last) :
    Follow begun (first ++ second) last := by
  induction before with
  | nil => exact after
  | cons continues _ ih => exact .cons continues (ih after)

theorem follow_handled (chat : Chat) (lines : List (Instant × Option String)) :
    Follow chat.session.notifier (chat.handled lines)
      (chat.handleAll lines).chat.session.notifier := by
  fun_induction Chat.handleAll chat lines with
  | case1 => exact .nil _
  | case2 => exact .nil _
  | case3 chat now line rest step goesOn more ih =>
      rw [Chat.handled_goesOn goesOn]
      exact .cons rfl ih
  | case4 chat now line rest step stops =>
      rw [Chat.handled_stops stops]
      exact .cons rfl (.nil _)

theorem follow_handledInRuns (session : Session)
    (runs : List (List (Instant × Option String))) :
    ∃ last, Follow session.notifier (Chat.handledInRuns session runs) last := by
  induction runs generalizing session with
  | nil => exact ⟨_, .nil _⟩
  | cons lines runs ih =>
      obtain ⟨last, rest⟩ := ih (Chat.run session lines).chat.session
      exact ⟨last, (follow_handled (Chat.start session) lines).append rest⟩

/-- The toasts that lines print may have shown before the first of them, no two of them are the
same, and after each line all that shows is printed. -/
theorem Follow.prints {lines : List Typed} {last : Notifier} {now : Instant}
    (follow : Follow (.screen toasts) lines last)
    (ordered : ({ toasts, now } : Screen).Ordered) :
    (∀ toast ∈ lines.flatMap (·.toasts), toasts.MayShow toast) ∧
    ((lines.flatMap (·.toasts)).map (·.id)).Nodup ∧
    ∀ typed ∈ lines, ∃ arrived left, typed.Presents arrived left := by
  induction lines generalizing toasts with
  | nil => exact ⟨List.forall_mem_nil _, .nil, List.forall_mem_nil _⟩
  | cons typed rest ih =>
      cases follow with
      | cons continues follow =>
          obtain ⟨arrived, advance, sorted, presents⟩ :=
            typed.presents continues (ordered.setClock typed.now)
          let screen : Screen := { toasts := arrived, now := typed.now }
          have shown : typed.toasts = screen.shown := Session.look_shown presents.before typed.now
          rw [presents.after] at follow
          obtain ⟨later, once, present⟩ := ih follow (sorted.cleared.setClock now)
          rw [List.flatMap_cons, List.forall_mem_append, List.map_append, List.nodup_append]
          refine ⟨⟨?_, ?_⟩, ⟨?_, once, ?_⟩, List.forall_mem_cons.mpr ⟨⟨_, _, presents⟩, present⟩⟩
          · rw [shown]
            exact fun toast shows => advance.known toast (Screen.mem_queue_of_shown shows)
          · exact fun toast isLater =>
              advance.mayShow (screen.advance_cleared.mayShow (later toast isLater))
          · exact List.pairwise_map.mpr (presents.inOrder.imp Nat.ne_of_lt)
          · rw [shown, List.forall_mem_map]
            intro first shows
            rw [List.forall_mem_map]
            exact fun second isLater => sorted.gone shows (later second isLater)

end Typed

namespace Chat

theorem shown_run (session : Session) (lines : List (Instant × Option String)) :
    (run session lines).shown = (start session).prompt ++
      String.join (((start session).handled lines).map (·.step.shown)) :=
  congrArg ((start session).prompt ++ ·) (shown_handleAll (start session) lines)

/-- In any number of runs with one screen, whatever the clock does, no toast is printed twice.  After
each line the toasts that are due are printed in the order of their numbers, and none of those that
are left is due. -/
theorem toasts_printed_once {session : Session} {defaultTtl : UInt64} {begun : Instant}
    {events : List ScreenEvent}
    (shows : session.notifier = .screen ((Screen.fresh defaultTtl begun).run events).toasts)
    (runs : List (List (Instant × Option String))) :
    (((handledInRuns session runs).flatMap (·.toasts)).map (·.id)).Nodup ∧
    (∀ typed ∈ handledInRuns session runs, ∃ arrived left, typed.Presents arrived left) ∧
    ∀ session lines, (run session lines).shown = (start session).prompt ++
      String.join (((start session).handled lines).map (·.step.shown)) := by
  obtain ⟨last, follow⟩ := Typed.follow_handledInRuns session runs
  rw [shows] at follow
  have ordered := (Screen.ordered_fresh defaultTtl begun).run events
  obtain ⟨_, once, presents⟩ := follow.prints (ordered.setClock begun)
  exact ⟨once, presents, shown_run⟩

/-- A toast that a solved puzzle asks for in one run, and that is printed in the next one. -/
theorem toasts_printed_once_later :
    let runs := [[(⟨0⟩, some "/c c1"), (⟨0⟩, some "T1: garage")],
      [(⟨1500⟩, some ""), (⟨1600⟩, some "")]]
    let handled := handledInRuns Session.informedSession runs
    handled.map (fun typed => typed.toasts.map (·.text)) =
      [[], [], ["Devo parlarti."], []] ∧
    ((handled.flatMap (·.toasts)).map (·.id)).Nodup := by
  intro runs handled
  have shows : Session.informedSession.notifier =
      .screen ((Screen.fresh 4000 ⟨0⟩).run []).toasts := by rfl
  have printed : handled.map (fun typed => typed.toasts.map (·.text)) =
      [[], [], ["Devo parlarti."], []] := by decide +kernel
  exact ⟨printed, (toasts_printed_once shows runs).1⟩

end Chat

end Casefile
