import Casefile.Proofs.Game.StartOver

namespace Casefile

/-!
The interval in which a toast is on the screen.

A delay and a time to live are unsigned, and instants are signed.  As long as neither count is
beyond the latest instant, a toast is shown in the interval that was asked for, also at the end of
time.  A longer delay holds nothing back, and with a longer time to live a toast never shows.
-/

namespace Toast

variable {toast : Toast} {now : Instant}

theorem showsAt_le_of_long (long : Int64.maxValue.toInt < toast.delay.toNat) :
    toast.showsAt ≤ toast.createdAt := by
  apply Instant.after_le
  have bound := toast.delay.toNat_lt_size
  rw [Instant.toInt_toInt64, if_neg (by omega)]
  omega

theorem expiresAt_le_of_long (long : Int64.maxValue.toInt < toast.ttl.toNat) :
    toast.expiresAt ≤ toast.showsAt := by
  apply Instant.after_le
  have bound := toast.ttl.toNat_lt_size
  rw [Instant.toInt_toInt64, if_neg (by omega)]
  omega

theorem not_isDue_of_long (long : Int64.maxValue.toInt < toast.ttl.toNat) :
    toast.isDue now = false := by
  rw [← Bool.not_eq_true, isDue_iff]
  rintro ⟨shows, unexpired⟩
  have ended := expiresAt_le_of_long long
  rw [Instant.le_iff] at shows ended
  rw [Instant.lt_iff] at unexpired
  omega

/-- With counts in range a toast is due in the interval that was asked for, the last instant
excepted. -/
theorem isDue_iff_of_short (delayFits : toast.delay.toNat ≤ Int64.maxValue.toInt)
    (ttlFits : toast.ttl.toNat ≤ Int64.maxValue.toInt) :
    toast.isDue now = true ↔
      toast.createdAt.millis.toInt + toast.delay.toNat ≤ now.millis.toInt ∧
      now.millis.toInt < toast.createdAt.millis.toInt + toast.delay.toNat + toast.ttl.toNat ∧
      now.millis.toInt < Int64.maxValue.toInt := by
  have delay : toast.delay.toInt64.toInt = toast.delay.toNat := by
    rw [Instant.toInt_toInt64, if_pos delayFits]
  have ttl : toast.ttl.toInt64.toInt = toast.ttl.toNat := by
    rw [Instant.toInt_toInt64, if_pos ttlFits]
  have shows : toast.showsAt.millis.toInt =
      min (toast.createdAt.millis.toInt + toast.delay.toNat) Int64.maxValue.toInt := by
    rw [showsAt, Instant.toInt_after _ (by omega), delay]
  have ends : toast.expiresAt.millis.toInt =
      min (toast.showsAt.millis.toInt + toast.ttl.toNat) Int64.maxValue.toInt := by
    rw [expiresAt, Instant.toInt_after _ (by omega), ttl]
  rw [isDue_iff, Instant.le_iff, Instant.lt_iff, ends, shows]
  omega

end Toast

namespace Screen

variable {screen : Screen} {toast : Toast} {events : List ScreenEvent}

/-- A toast that nobody dismisses is taken off by late looks alone. -/
theorem spares_of_early (undismissed : .dismiss toast.id ∉ events)
    (early : ∀ entry ∈ screen.history events, entry.1.now < toast.expiresAt) :
    screen.spares toast events = true := by
  rw [spares, List.all_eq_true]
  rintro ⟨moment, event⟩ member
  have happens : event ∈ events := screen.map_history events ▸ List.mem_map_of_mem member
  cases event with
  | notify | clock => rfl
  | look => simp [takes, Instant.not_le, early (moment, .look) member]
  | dismiss id =>
      have other : toast.id ≠ id := fun same => undismissed (same ▸ happens)
      simp [takes, other]

/-- A clock that is never set back stands at its latest instant. -/
theorem now_le_run (forward : (screen.now :: ScreenEvent.clocks events).Pairwise (· ≤ ·)) :
    screen.now ≤ (screen.run events).now ∧
      ∀ entry ∈ screen.history events, entry.1.now ≤ (screen.run events).now := by
  induction events generalizing screen with
  | nil => exact ⟨Instant.le_iff.mpr (Int.le_refl _), List.forall_mem_nil _⟩
  | cons event events ih =>
      have onward : screen.now ≤ (screen.meet event).now ∧
          ((screen.meet event).now :: ScreenEvent.clocks events).Pairwise (· ≤ ·) := by
        cases event with
        | clock now =>
            have next := (List.pairwise_cons.mp forward)
            exact ⟨next.1 now List.mem_cons_self, next.2⟩
        | notify | look | dismiss => exact ⟨Instant.le_iff.mpr (Int.le_refl _), forward⟩
      obtain ⟨begun, later⟩ := ih onward.2
      have first : screen.now ≤ (screen.run (event :: events)).now :=
        Instant.le_trans onward.1 begun
      exact ⟨first, List.forall_mem_cons.mpr ⟨first, later⟩⟩

/-- When a toast is on the screen.  If its delay and its time to live are in range, it is shown in
the interval that was asked for only, and in all of it up to the last instant if nobody dismisses it
and the clock is not set back.  A delay beyond the range does not hold it back, and with a time to
live beyond the range it is never shown. -/
theorem shown_for_interval (asked : Screen) (request : ToastRequest) (after : List ScreenEvent) :
    let toast := asked.toasts.issue asked.now request
    let screen := (asked.meet (.notify request)).run after
    let start : Int := asked.now.millis.toInt + toast.delay.toNat
    let now : Int := screen.now.millis.toInt
    (toast.delay.toNat ≤ Int64.maxValue.toInt → toast.ttl.toNat ≤ Int64.maxValue.toInt →
      (toast ∈ screen.shown → start ≤ now ∧ now < start + toast.ttl.toNat) ∧
      (.dismiss toast.id ∉ after →
        (asked.now :: ScreenEvent.clocks after).Pairwise (· ≤ ·) →
        start ≤ now → now < start + toast.ttl.toNat → now < Int64.maxValue.toInt →
        toast ∈ screen.shown)) ∧
    (Int64.maxValue.toInt < toast.delay.toNat → toast.showsAt ≤ asked.now) ∧
    (Int64.maxValue.toInt < toast.ttl.toNat → toast ∉ screen.shown) := by
  intro toast screen start now
  refine ⟨fun delayFits ttlFits => ?_, Toast.showsAt_le_of_long, fun long shows => ?_⟩
  · have interval := @Toast.isDue_iff_of_short toast screen.now delayFits ttlFits
    rw [shown_eq, List.mem_filter]
    refine ⟨fun shows => ?_, fun undismissed forward begun unexpired inTime => ?_⟩
    · obtain ⟨begun, unexpired, _⟩ := interval.mp shows.2
      exact ⟨begun, unexpired⟩
    · have due := interval.mpr ⟨begun, unexpired, inTime⟩
      have unended := (Toast.isDue_iff.mp due).2
      obtain ⟨_, reached⟩ := @now_le_run (asked.meet (.notify request)) after forward
      have early : ∀ entry ∈ (asked.meet (.notify request)).history after,
          entry.1.now < toast.expiresAt := fun entry member =>
        Instant.lt_of_le_of_lt (reached entry member) unended
      have queued : toast ∈ (asked.meet (.notify request)).queue :=
        List.mem_append_right _ List.mem_cons_self
      have spared := spares_of_early undismissed early
      exact ⟨(mem_queue_run_of_old (Nat.lt_succ_self _)).mpr ⟨queued, spared⟩, due⟩
  · rw [shown_eq, List.mem_filter, Toast.not_isDue_of_long long] at shows
    cases shows.2

/-- A toast that is held back, and looked for too early before it is shown. -/
theorem shown_for_interval_held_back :
    let asked := fresh 4000 ⟨0⟩
    let request := { text := "Giulia ti ha scritto", delay := 1500, ttl? := some 1000 }
    let after := [ScreenEvent.look, .clock ⟨1500⟩]
    let toast := asked.toasts.issue asked.now request
    (toast.delay.toNat ≤ Int64.maxValue.toInt ∧ toast.ttl.toNat ≤ Int64.maxValue.toInt ∧
      .dismiss toast.id ∉ after ∧
      (asked.now :: ScreenEvent.clocks after).Pairwise (· ≤ ·)) ∧
    toast ∈ ((asked.meet (.notify request)).run after).shown := by
  intro asked request after toast
  have delayFits : toast.delay.toNat ≤ Int64.maxValue.toInt := by decide
  have ttlFits : toast.ttl.toNat ≤ Int64.maxValue.toInt := by decide
  have undismissed : .dismiss toast.id ∉ after := by decide
  have forward : (asked.now :: ScreenEvent.clocks after).Pairwise (· ≤ ·) := by decide
  refine ⟨⟨delayFits, ttlFits, undismissed, forward⟩, ?_⟩
  obtain ⟨interval, _, _⟩ := shown_for_interval asked request after
  exact (interval delayFits ttlFits).2 undismissed forward (by decide) (by decide) (by decide)

/-- A toast that is to be held back for longer than any clock can tell, and is shown at once; and
one that is to stay that long, and is not shown at all. -/
theorem overlong_misshown :
    let asked := fresh 4000 ⟨0⟩
    let late := { text := "Nuovo messaggio", delay := 18446744073709551615, ttl? := some 1000 }
    let lasting := { text := "Nuovo messaggio", ttl? := some 18446744073709551615 }
    (asked.toasts.issue asked.now late ∈ (asked.meet (.notify late)).shown ∧
      asked.now.millis.toInt < asked.now.millis.toInt + late.delay.toNat) ∧
    asked.toasts.issue asked.now lasting ∉ (asked.meet (.notify lasting)).shown := by
  decide

end Screen

end Casefile
