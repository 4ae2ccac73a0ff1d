import Casefile.Game.Screen
import Casefile.Proofs.Instant
import Mathlib.Data.List.Basic

namespace Casefile

/-!
The queue of a screen tells its whole history.

What an event does to the queue is one equation (`Screen.queue_meet`): it takes some toasts off and
puts at most one at the end.  Over a run, the queue holds the toasts that were asked for and that no
dismissal and no late look took off since.  Where the clock stands now makes no difference to it.
-/

theorem Toast.isDue_iff {toast : Toast} {now : Instant} :
    toast.isDue now = true ↔ toast.showsAt ≤ now ∧ now < toast.expiresAt := by
  simp [isDue]

namespace Screen

variable {screen : Screen} {event : ScreenEvent} {events between : List ScreenEvent}
  {toast : Toast}

theorem queue_meet (screen : Screen) (event : ScreenEvent) :
    (screen.meet event).queue =
      (screen.queue.filter fun toast => !screen.takes toast event) ++
        (screen.issued? event).toList := by
  cases event with
  | notify request => simp [queue, meet, takes, issued?, Toasts.notify, Toasts.issue]
  | look =>
      simp [queue, meet, takes, issued?, Toasts.look, Toasts.prune, ← Instant.not_le, decide_not]
  | dismiss id => simp [queue, meet, takes, issued?, Toasts.dismiss]
  | clock now => simp [queue, meet, takes, issued?]

theorem spares_cons (screen : Screen) (toast : Toast) (event : ScreenEvent)
    (events : List ScreenEvent) :
    screen.spares toast (event :: events) =
      (!screen.takes toast event && (screen.meet event).spares toast events) := rfl

/-- The toasts that were asked for and that nothing took off since, the first one first. -/
def lasting (screen : Screen) : List ScreenEvent → List Toast
  | [] => []
  | event :: rest =>
    (screen.issued? event).toList.filter ((screen.meet event).spares · rest) ++
      (screen.meet event).lasting rest

theorem queue_run (screen : Screen) (events : List ScreenEvent) :
    (screen.run events).queue =
      screen.queue.filter (screen.spares · events) ++ screen.lasting events := by
  induction events generalizing screen with
  | nil => simp [run, spares, history, lasting]
  | cons event events ih =>
      have later : (screen.run (event :: events)).queue = _ := ih (screen.meet event)
      rw [later, queue_meet, List.filter_append, List.filter_filter, List.append_assoc]
      simp only [spares_cons, Bool.and_comm]
      rfl

theorem mem_lasting_iff : toast ∈ screen.lasting events ↔
    ∃ before request after, events = before ++ .notify request :: after ∧
      toast = (screen.run before).toasts.issue (screen.run before).now request ∧
      ((screen.run before).meet (.notify request)).spares toast after = true := by
  induction events generalizing screen with
  | nil => simp [lasting]
  | cons event events ih =>
      rw [lasting, List.mem_append, List.mem_filter, Option.mem_toList, ih]
      constructor
      · rintro (⟨issued, spared⟩ | ⟨before, request, after, rfl, rest⟩)
        · cases event with
          | notify request =>
              exact ⟨[], request, events, rfl, (Option.some.inj issued).symm, spared⟩
          | look | dismiss | clock => cases issued
        · exact ⟨event :: before, request, after, rfl, rest⟩
      · rintro ⟨before, request, after, split, issued, spared⟩
        cases before with
        | nil =>
            obtain ⟨rfl, rfl⟩ := List.cons.inj split
            exact .inl ⟨congrArg some issued.symm, spared⟩
        | cons first before =>
            obtain ⟨rfl, rfl⟩ := List.cons.inj split
            exact .inr ⟨before, request, after, rfl, issued, spared⟩

/-! The numbers of the toasts. -/

theorem issued_cons (screen : Screen) (event : ScreenEvent) (events : List ScreenEvent) :
    screen.issued (event :: events) =
      (screen.issued? event).toList ++ (screen.meet event).issued events := by
  rw [issued, history, List.filterMap_cons]
  cases screen.issued? event <;> rfl

theorem nextId_meet (screen : Screen) (event : ScreenEvent) :
    (screen.meet event).toasts.nextId =
      screen.toasts.nextId + (screen.issued? event).toList.length := by
  cases event <;> rfl

theorem ids_issued (screen : Screen) (events : List ScreenEvent) :
    (screen.issued events).map Toast.id =
      List.range' screen.toasts.nextId (events.countP ScreenEvent.isNotify) := by
  induction events generalizing screen with
  | nil => rfl
  | cons event events ih =>
      rw [issued_cons, List.map_append, ih, nextId_meet]
      cases event with
      | notify request => rw [List.countP_cons_of_pos rfl, List.range'_succ]; rfl
      | look | dismiss | clock => rw [List.countP_cons_of_neg Bool.false_ne_true]; rfl

/-- The toasts of a queue in the order of their numbers, all of them below the next one. -/
structure Ordered (screen : Screen) : Prop where
  sorted : screen.queue.Pairwise fun first second => first.id < second.id
  below : ∀ toast ∈ screen.queue, toast.id < screen.toasts.nextId

theorem ordered_fresh (defaultTtl : UInt64) (now : Instant) : (fresh defaultTtl now).Ordered :=
  ⟨.nil, List.forall_mem_nil _⟩

theorem id_of_issued? (issued : screen.issued? event = some toast) :
    toast.id = screen.toasts.nextId := by
  cases event with
  | notify request => exact congrArg Toast.id (Option.some.inj issued).symm
  | look | dismiss | clock => cases issued

theorem Ordered.meet (ordered : screen.Ordered) (event : ScreenEvent) :
    (screen.meet event).Ordered := by
  have kept : ∀ toast ∈ screen.queue.filter (fun toast => !screen.takes toast event),
      toast.id < screen.toasts.nextId := fun toast member =>
    ordered.below toast (List.mem_of_mem_filter member)
  constructor
  · rw [queue_meet, List.pairwise_append]
    refine ⟨ordered.sorted.sublist List.filter_sublist, ?_, ?_⟩
    · cases screen.issued? event with
      | none => exact .nil
      | some toast => exact List.pairwise_singleton ..
    · intro earlier member later issued
      rw [id_of_issued? (Option.mem_toList.mp issued)]
      exact kept earlier member
  · rw [queue_meet, nextId_meet, List.forall_mem_append]
    constructor
    · exact fun toast member => Nat.lt_of_lt_of_le (kept toast member) (Nat.le_add_right ..)
    · intro toast issued
      have same := Option.mem_toList.mp issued
      rw [id_of_issued? same, same]
      exact Nat.lt_succ_self _

theorem Ordered.run (ordered : screen.Ordered) (events : List ScreenEvent) :
    (screen.run events).Ordered := by
  induction events generalizing screen with
  | nil => exact ordered
  | cons event events ih => exact ih (ordered.meet event)

/-! What was taken off does not come back. -/

theorem nextId_le_run (screen : Screen) (events : List ScreenEvent) :
    screen.toasts.nextId ≤ (screen.run events).toasts.nextId := by
  induction events generalizing screen with
  | nil => exact Nat.le_refl _
  | cons event events ih =>
      refine Nat.le_trans ?_ (ih (screen.meet event))
      rw [nextId_meet]
      exact Nat.le_add_right ..

/-- A toast that was asked for before can only be one that is queued still. -/
theorem mem_queue_run_of_old (old : toast.id < screen.toasts.nextId) :
    toast ∈ (screen.run events).queue ↔
      toast ∈ screen.queue ∧ screen.spares toast events = true := by
  have new : toast ∉ screen.lasting events := by
    intro lasts
    obtain ⟨before, request, after, _, rfl, _⟩ := mem_lasting_iff.mp lasts
    have later : screen.toasts.nextId ≤ (screen.run before).toasts.nextId :=
      screen.nextId_le_run before
    exact absurd old (Nat.not_lt.mpr later)
  rw [queue_run, List.mem_append, List.mem_filter, or_iff_left new]

theorem id_lt_of_issued (issued : toast ∈ screen.issued events) :
    toast.id < (screen.run events).toasts.nextId := by
  induction events generalizing screen with
  | nil => cases issued
  | cons event events ih =>
      rw [issued_cons, List.mem_append, Option.mem_toList] at issued
      rcases issued with first | later
      · have next := (screen.meet event).nextId_le_run events
        rw [nextId_meet, first, ← id_of_issued? first] at next
        exact next
      · exact ih later

theorem shown_eq (screen : Screen) :
    screen.shown = screen.queue.filter (·.isDue screen.now) := by
  simp [shown, queue, Toasts.look, Toasts.prune, List.filter_filter, Toast.isDue]

theorem mem_queue_of_shown (shows : toast ∈ screen.shown) : toast ∈ screen.queue := by
  rw [shown_eq] at shows
  exact List.mem_of_mem_filter shows

/-! Looks alone ask for nothing. -/

theorem lasting_of_idle (idle : ∀ event ∈ events, event.isIdle = true) :
    screen.lasting events = [] := by
  induction events generalizing screen with
  | nil => rfl
  | cons event events ih =>
      obtain ⟨first, rest⟩ := List.forall_mem_cons.mp idle
      rw [lasting, ih rest]
      cases event with
      | look | clock => rfl
      | notify | dismiss => cases first

/-- What a second look at the same instant shows: all of the first that no look took off. -/
theorem shown_again (idle : ∀ event ∈ between, event.isIdle = true)
    (same : ((screen.meet .look).run between).now = screen.now) :
    ((screen.meet .look).run between).shown =
      screen.shown.filter ((screen.meet .look).spares · between) := by
  have looked : (screen.meet .look).queue =
      screen.queue.filter fun toast => !screen.takes toast .look := by
    rw [queue_meet]
    exact List.append_nil _
  rw [shown_eq, shown_eq, same, queue_run, lasting_of_idle idle, List.append_nil, looked,
    List.filter_filter, List.filter_filter, List.filter_filter]
  refine List.filter_congr fun toast _ => ?_
  cases due : toast.isDue screen.now with
  | false => simp
  | true =>
      obtain ⟨_, unexpired⟩ := Bool.and_eq_true_iff.mp due
      have spared : screen.takes toast .look = false :=
        decide_eq_false (Instant.not_le.mpr (of_decide_eq_true unexpired))
      simp [spared]

theorem map_history (screen : Screen) (events : List ScreenEvent) :
    (screen.history events).map Prod.snd = events := by
  induction events generalizing screen with
  | nil => rfl
  | cons event events ih => exact congrArg (event :: ·) (ih (screen.meet event))

/-- Looks that are not later than an instant take nothing off that is due at it. -/
theorem spares_of_due {now : Instant} (idle : ∀ event ∈ between, event.isIdle = true)
    (early : ∀ entry ∈ screen.history between, entry.2 = .look → entry.1.now ≤ now)
    (due : toast.isDue now = true) : screen.spares toast between = true := by
  obtain ⟨_, unexpired⟩ := Bool.and_eq_true_iff.mp due
  rw [spares, List.all_eq_true]
  rintro ⟨moment, event⟩ member
  have isIdle := idle event (screen.map_history between ▸ List.mem_map_of_mem member)
  cases event with
  | look =>
      have notLater := early (moment, .look) member rfl
      have before := Instant.lt_of_le_of_lt notLater (of_decide_eq_true unexpired)
      simp [takes, Instant.not_le, before]
  | clock => rfl
  | notify | dismiss => cases isIdle

/-! A dismissal. -/

theorem queue_dismiss (screen : Screen) (id : Nat) :
    (screen.meet (.dismiss id)).queue = screen.queue.filter (·.id ≠ id) := rfl

/-- A dismissal finds one toast and takes it out, or it finds none and takes nothing. -/
theorem Ordered.dismiss (ordered : screen.Ordered) (id : Nat) :
    (screen.dismisses id = true ∧ ∃ before toast behind, toast.id = id ∧
      screen.queue = before ++ toast :: behind ∧
      (screen.meet (.dismiss id)).queue = before ++ behind) ∨
    (screen.dismisses id = false ∧ (∀ toast ∈ screen.queue, toast.id ≠ id) ∧
      (screen.meet (.dismiss id)).queue = screen.queue) := by
  have found : screen.dismisses id = screen.queue.any (·.id = id) := rfl
  rw [queue_dismiss, found]
  cases any : screen.queue.any (·.id = id) with
  | true =>
      obtain ⟨toast, member, same⟩ := List.any_eq_true.mp any
      have isToast : toast.id = id := of_decide_eq_true same
      obtain ⟨before, behind, split⟩ := List.append_of_mem member
      have sorted := ordered.sorted
      rw [split, List.pairwise_append, List.pairwise_cons] at sorted
      obtain ⟨_, ⟨after, _⟩, earlier⟩ := sorted
      have others : ∀ other ∈ before, other.id ≠ id := fun other isBefore =>
        isToast ▸ Nat.ne_of_lt (earlier other isBefore toast List.mem_cons_self)
      have rest : ∀ other ∈ behind, other.id ≠ id := fun other isBehind =>
        isToast ▸ Nat.ne_of_gt (after other isBehind)
      refine .inl ⟨rfl, before, toast, behind, isToast, split, ?_⟩
      rw [split, List.filter_append, List.filter_cons_of_neg (by simp [isToast]),
        List.filter_eq_self.mpr (by simpa using others),
        List.filter_eq_self.mpr (by simpa using rest)]
  | false =>
      have others : ∀ toast ∈ screen.queue, toast.id ≠ id := by simpa using any
      refine .inr ⟨rfl, others, List.filter_eq_self.mpr (by simpa using others)⟩

/-- What the events on a screen, on which nothing was shown before, have left there. -/
structure Leaves (first : Screen) (events : List ScreenEvent) (screen : Screen) : Prop where
  numbered : (first.issued events).map Toast.id =
    List.range' 1 (events.countP ScreenEvent.isNotify)
  sorted : screen.queue.Pairwise fun earlier later => earlier.id < later.id
  queued : ∀ toast, toast ∈ screen.queue ↔
    ∃ before request after, events = before ++ .notify request :: after ∧
      toast = (first.run before).toasts.issue (first.run before).now request ∧
      ((first.run before).meet (.notify request)).spares toast after = true
  shown : screen.shown =
    screen.queue.filter fun toast => toast.showsAt ≤ screen.now ∧ screen.now < toast.expiresAt
  gone : ∀ toast ∈ first.issued events, toast ∉ screen.queue → ∀ later,
    toast ∉ (screen.run later).queue ∧ toast ∉ (screen.run later).shown
  again : ∀ between, (∀ event ∈ between, event.isIdle = true) →
    ((screen.meet .look).run between).now = screen.now →
      ((screen.meet .look).run between).shown =
          screen.shown.filter ((screen.meet .look).spares · between) ∧
      ((∀ entry ∈ (screen.meet .look).history between,
          entry.2 = .look → entry.1.now ≤ screen.now) →
        ((screen.meet .look).run between).shown = screen.shown)
  dismissed : ∀ id,
    (screen.dismisses id = true ∧ ∃ before toast behind, toast.id = id ∧
      screen.queue = before ++ toast :: behind ∧
      (screen.meet (.dismiss id)).queue = before ++ behind) ∨
    (screen.dismisses id = false ∧ (∀ toast ∈ screen.queue, toast.id ≠ id) ∧
      (screen.meet (.dismiss id)).queue = screen.queue)

/-- The queue of a screen over a whole run.  Toasts are numbered in the order in which they were
asked for, and those are queued that no dismissal and no look at or after their end took off since.
A look shows those of them that are due.  What is gone stays gone, also when the clock is set back,
so that a second look at the same instant shows what the first one showed and no look in between
took off; it shows the same if no look in between was later.  A dismissal takes out one toast. -/
theorem queue_tells_history (defaultTtl : UInt64) (start : Instant)
    (events : List ScreenEvent) :
    (fresh defaultTtl start).Leaves events ((fresh defaultTtl start).run events) := by
  have ordered := (ordered_fresh defaultTtl start).run events
  constructor
  case numbered => exact ids_issued ..
  case sorted => exact ordered.sorted
  case queued =>
    intro toast
    rw [queue_run, ← mem_lasting_iff]
    exact Iff.rfl
  case shown => simp [shown_eq, Toast.isDue]
  case gone =>
    intro toast issued absent later
    have old := id_lt_of_issued issued
    have stays : toast ∉ (((fresh defaultTtl start).run events).run later).queue := fun queued =>
      absent ((mem_queue_run_of_old old).mp queued).1
    exact ⟨stays, fun shows => stays (mem_queue_of_shown shows)⟩
  case again =>
    intro between idle same
    have again := shown_again idle same
    refine ⟨again, fun early => ?_⟩
    rw [again, List.filter_eq_self]
    intro toast shows
    rw [shown_eq] at shows
    exact spares_of_due idle early (List.mem_filter.mp shows).2
  case dismissed => exact ordered.dismiss

/-- A toast that a look found expired, and one that waits while the clock is set back. -/
theorem queue_tells_history_late_look :
    let first := fresh 4000 ⟨0⟩
    let events := [.notify { text := "Uno", ttl? := some 1000 },
      .notify { text := "Due", delay := 500 }, .clock ⟨1000⟩, .look, .clock ⟨600⟩]
    let screen := first.run events
    (first.issued events).map Toast.id = [1, 2] ∧
      (∀ toast ∈ first.issued events, toast.id = 1 →
        toast ∉ screen.queue ∧ toast ∉ (screen.run [.clock ⟨0⟩]).shown) ∧
      (((screen.meet .look).run [.clock ⟨0⟩, .look, .clock ⟨600⟩]).now = screen.now ∧
        ((screen.meet .look).run [.clock ⟨0⟩, .look, .clock ⟨600⟩]).shown = screen.shown) := by
  intro first events screen
  have leaves : first.Leaves events screen := queue_tells_history 4000 ⟨0⟩ events
  have requests : List.range' 1 (events.countP ScreenEvent.isNotify) = [1, 2] := by decide
  have dropped : ∀ toast ∈ first.issued events, toast.id = 1 → toast ∉ screen.queue := by decide
  have idle : ∀ event ∈ [ScreenEvent.clock ⟨0⟩, .look, .clock ⟨600⟩], event.isIdle = true := by
    decide
  have early : ∀ entry ∈ (screen.meet .look).history [.clock ⟨0⟩, .look, .clock ⟨600⟩],
      entry.2 = .look → entry.1.now ≤ screen.now := by decide
  have same : ((screen.meet .look).run [.clock ⟨0⟩, .look, .clock ⟨600⟩]).now = screen.now := by
    decide
  refine ⟨leaves.numbered.trans requests, fun toast issued isFirst => ?_, same, ?_⟩
  · have absent := dropped toast issued isFirst
    exact ⟨absent, (leaves.gone toast issued absent [.clock ⟨0⟩]).2⟩
  · exact (leaves.again _ idle same).2 early

/-- Two looks at the same instant, with nothing asked for or dismissed in between, that do not show
the same: one that came between them was later. -/
theorem later_look_drops :
    let screen := (fresh 4000 ⟨0⟩).run [.notify { text := "Nuovo messaggio" }]
    let between := [ScreenEvent.clock ⟨4000⟩, .look, .clock ⟨0⟩]
    let later := (screen.meet .look).run between
    (∀ event ∈ between, event.isIdle = true) ∧ later.now = screen.now ∧
      later.shown ≠ screen.shown := by
  decide

end Screen

end Casefile
