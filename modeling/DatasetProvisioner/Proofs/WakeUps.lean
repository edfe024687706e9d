import Mathlib.Data.List.Basic
import DatasetProvisioner.EventQueue

/-!
# Wake-ups are not lost

An enqueue appends its item first and signals afterwards; the consumer looks whether the queue is
empty first and waits afterwards. Between the halves of one call the halves of others may come, in
any order and number. What stands between an item and a consumer that sleeps through it is the
permit: whoever signals while nobody waits leaves one, and whoever has found the queue empty finds
either no item, or a permit, or an enqueue that has yet to signal.
-/
namespace DatasetProvisioner.EventQueue

variable {α : Type}

/-! ## The halves of a call -/

/-- Append an item and leave the signal alone. -/
def push (queue : EventQueue α) (item : α) : EventQueue α :=
  { queue with items := queue.items ++ [item] }

/-- Signal an item that was appended. -/
def announce (queue : EventQueue α) : EventQueue α :=
  { queue with signal := queue.signal.notify }

/-- Take the permit or begin to wait, whatever the queue holds. Says whether the wait is over. -/
def sleep (queue : EventQueue α) (id : Nat) : Bool × EventQueue α :=
  ((queue.signal.await id).1, { queue with signal := (queue.signal.await id).2 })

theorem enqueue_eq (queue : EventQueue α) (item : α) :
    queue.enqueue item = (queue.push item).announce :=
  rfl

theorem await_eq (queue : EventQueue α) (id : Nat) :
    queue.await id = if queue.isEmpty then queue.sleep id else (true, queue) :=
  rfl

/-- What is taken from a queue stood at its front. -/
theorem dequeue?_items (queue : EventQueue α) :
    queue.dequeue?.1.toList ++ queue.dequeue?.2.items = queue.items ∧
      queue.dequeue?.2.signal = queue.signal := by
  unfold dequeue?
  cases hitems : queue.items with
  | nil => simp [hitems]
  | cons item items => simp

/-! ## Interleavings -/

/-- Where the consumer is. -/
inductive Place where
  /-- Between two calls. -/
  | free
  /-- It found the queue empty and has not begun to wait. -/
  | checked
  | waiting
  deriving DecidableEq

/-- A queue among its users, with what has gone through it. -/
structure Scene (α : Type) where
  queue : EventQueue α := {}
  /-- How many enqueues have appended their item and not signalled it. -/
  unannounced : Nat := 0
  place : Place := .free
  /-- All items that were appended, the oldest first. -/
  pushed : List α := []
  /-- All items that were taken, the oldest first. -/
  taken : List α := []

namespace Scene

/-- Where the consumer is after a step that may have ended its call. -/
def after (isOver : Bool) (place : Place) : Place :=
  if isOver then .free else place

/-- What may come next: half of any enqueue, or the next half of a call of the consumer. -/
inductive Step (consumer : Nat) (s : Scene α) : Scene α → Prop where
  | pushed (item : α) :
    Step consumer s
      { s with
        queue := s.queue.push item
        unannounced := s.unannounced + 1
        pushed := s.pushed ++ [item] }
  | announced (others : Nat) (due : s.unannounced = others + 1) :
    Step consumer s { s with queue := s.queue.announce, unannounced := others }
  | taken (free : s.place = .free) :
    Step consumer s
      { s with
        queue := s.queue.dequeue?.2
        taken := s.taken ++ s.queue.dequeue?.1.toList }
  | looked (free : s.place = .free) :
    Step consumer s { s with place := after (!s.queue.isEmpty) .checked }
  | slept (checked : s.place = .checked) :
    Step consumer s
      { s with
        queue := (s.queue.sleep consumer).2
        place := after (s.queue.sleep consumer).1 .waiting }
  | polled (waiting : s.place = .waiting) :
    Step consumer s
      { s with
        queue := (s.queue.poll consumer).2
        place := after (s.queue.poll consumer).1 .waiting }
  /-- The consumer gives its wait up, for time has passed or the controller is stopping. -/
  | gaveUp (waiting : s.place = .waiting) :
    Step consumer s { s with queue := s.queue.cancel consumer, place := .free }

inductive Reachable (consumer : Nat) : Scene α → Prop where
  | start : Reachable consumer {}
  | step {s next : Scene α} (before : Reachable consumer s) (move : Step consumer s next) :
    Reachable consumer next

/-! ## What holds of every scene -/

/-- A signal for which the consumer waits and that has not come. -/
def asleep (consumer : Nat) : Signal :=
  { permit := false, waiting := [consumer], woken := [] }

/-- A signal that has come and that the consumer has not noticed. -/
def roused (consumer : Nat) (permit : Bool) : Signal :=
  { permit, waiting := [], woken := [consumer] }

/-- A signal for which nobody waits. -/
def unwatched (permit : Bool) : Signal :=
  { permit, waiting := [], woken := [] }

/-- How the signal stands to the items, by where the consumer is. -/
inductive Poised (consumer : Nat) (items : List α) (unannounced : Nat) :
    Place → Signal → Prop where
  | free (permit : Bool) : Poised consumer items unannounced .free (unwatched permit)
  | checked (permit : Bool) (covered : items ≠ [] → permit = true ∨ 0 < unannounced) :
    Poised consumer items unannounced .checked (unwatched permit)
  | asleep (owed : items ≠ [] → 0 < unannounced) :
    Poised consumer items unannounced .waiting (asleep consumer)
  | roused (permit : Bool) : Poised consumer items unannounced .waiting (roused consumer permit)

structure Sound (consumer : Nat) (s : Scene α) : Prop where
  inOrder : s.taken ++ s.queue.items = s.pushed
  poised : Poised consumer s.queue.items s.unannounced s.place s.queue.signal

variable {consumer : Nat} {s next : Scene α}

theorem notify_unwatched (permit : Bool) : (unwatched permit).notify = unwatched true :=
  rfl

theorem notify_asleep : (asleep consumer).notify = roused consumer false :=
  rfl

theorem notify_roused (permit : Bool) : (roused consumer permit).notify = roused consumer true :=
  rfl

theorem await_unwatched (permit : Bool) :
    (unwatched permit).await consumer =
      if permit then (true, unwatched false) else (false, asleep consumer) := by
  cases permit <;> rfl

theorem poll_asleep : (asleep consumer).poll consumer = (false, asleep consumer) :=
  rfl

theorem poll_roused (permit : Bool) :
    (roused consumer permit).poll consumer = (true, unwatched permit) := by
  simp [Signal.poll, roused, unwatched]

theorem cancel_asleep : (asleep consumer).cancel consumer = unwatched false := by
  simp [Signal.cancel, asleep, unwatched]

/-- A wake-up that was not noticed is kept as a permit. -/
theorem cancel_roused (permit : Bool) : (roused consumer permit).cancel consumer = unwatched true := by
  simp [Signal.cancel, Signal.notify, roused, unwatched]

/-- One more item that is not signalled yet changes nothing for the consumer. -/
theorem Poised.push {items : List α} {unannounced : Nat} {place : Place} {signal : Signal}
    (poised : Poised consumer items unannounced place signal) (item : α) :
    Poised consumer (items ++ [item]) (unannounced + 1) place signal := by
  have due : 0 < unannounced + 1 := Nat.succ_pos _
  cases poised with
  | free permit => exact .free permit
  | checked permit covered => exact .checked permit fun _ => .inr due
  | asleep owed => exact .asleep fun _ => due
  | roused permit => exact .roused permit

/-- A signal wakes the consumer that waits, and else leaves a permit. -/
theorem Poised.announce {items : List α} {unannounced others : Nat} {place : Place}
    {signal : Signal} (poised : Poised consumer items unannounced place signal) :
    Poised consumer items others place signal.notify := by
  cases poised with
  | free permit => exact notify_unwatched permit ▸ .free true
  | checked permit covered => exact notify_unwatched permit ▸ .checked true fun _ => .inl rfl
  | asleep owed => exact notify_asleep ▸ .roused false
  | roused permit => exact notify_roused permit ▸ .roused true

theorem sound_of_step (sound : Sound consumer s) (move : Step consumer s next) :
    Sound consumer next := by
  have inOrder := sound.inOrder
  have poised := sound.poised
  cases move with
  | pushed item =>
    refine ⟨?_, poised.push item⟩
    show s.taken ++ (s.queue.items ++ [item]) = s.pushed ++ [item]
    rw [← List.append_assoc, inOrder]
  | announced others due => exact ⟨inOrder, poised.announce⟩
  | taken free =>
    obtain ⟨hitems, hsignal⟩ := dequeue?_items s.queue
    constructor
    · show s.taken ++ s.queue.dequeue?.1.toList ++ s.queue.dequeue?.2.items = s.pushed
      rw [List.append_assoc, hitems, inOrder]
    · show Poised consumer s.queue.dequeue?.2.items s.unannounced s.place
        s.queue.dequeue?.2.signal
      rw [hsignal]
      rw [free] at poised ⊢
      generalize s.queue.signal = signal at poised ⊢
      cases poised with
      | free permit => exact .free permit
  | looked free =>
    refine ⟨inOrder, ?_⟩
    show Poised consumer s.queue.items s.unannounced (after (!s.queue.isEmpty) .checked)
      s.queue.signal
    rw [free] at poised
    generalize s.queue.signal = signal at poised ⊢
    cases poised with
    | free permit =>
      cases hitems : s.queue.items with
      | nil =>
        have hempty : s.queue.isEmpty = true := by rw [isEmpty, hitems]; rfl
        rw [hempty]
        exact .checked permit fun hne => absurd rfl hne
      | cons item items =>
        have hempty : s.queue.isEmpty = false := by rw [isEmpty, hitems]; rfl
        rw [hempty]
        exact .free permit
  | slept checked =>
    refine ⟨inOrder, ?_⟩
    show Poised consumer s.queue.items s.unannounced (after (s.queue.signal.await consumer).1
      .waiting) (s.queue.signal.await consumer).2
    rw [checked] at poised
    generalize s.queue.signal = signal at poised ⊢
    cases poised with
    | checked permit covered =>
      rw [await_unwatched]
      cases permit with
      | true => exact .free false
      | false => exact .asleep fun hne => (covered hne).resolve_left (by decide)
  | polled waiting =>
    refine ⟨inOrder, ?_⟩
    show Poised consumer s.queue.items s.unannounced (after (s.queue.signal.poll consumer).1
      .waiting) (s.queue.signal.poll consumer).2
    rw [waiting] at poised
    generalize s.queue.signal = signal at poised ⊢
    cases poised with
    | asleep owed => exact poll_asleep ▸ .asleep owed
    | roused permit => exact poll_roused permit ▸ .free permit
  | gaveUp waiting =>
    refine ⟨inOrder, ?_⟩
    show Poised consumer s.queue.items s.unannounced .free (s.queue.signal.cancel consumer)
    rw [waiting] at poised
    generalize s.queue.signal = signal at poised ⊢
    cases poised with
    | asleep owed => exact cancel_asleep ▸ .free false
    | roused permit => exact cancel_roused permit ▸ .free true

theorem sound_of_reachable (reachable : Reachable consumer s) : Sound consumer s := by
  induction reachable with
  | start => exact ⟨rfl, .free false⟩
  | step before move ih => exact sound_of_step ih move

/-- An enqueue and a wait of the queue are two steps each that nothing comes between. -/
theorem Reachable.enqueue (reachable : Reachable consumer s) (item : α) :
    Reachable consumer
      { s with queue := s.queue.enqueue item, pushed := s.pushed ++ [item] } := by
  rw [enqueue_eq]
  exact (reachable.step (.pushed item)).step (.announced s.unannounced rfl)

theorem Reachable.await (reachable : Reachable consumer s) (free : s.place = .free) :
    Reachable consumer
      { s with
        queue := (s.queue.await consumer).2
        place := after (s.queue.await consumer).1 .waiting } := by
  have looked := reachable.step (.looked free)
  rw [await_eq]
  cases hempty : s.queue.isEmpty with
  | false =>
    rw [hempty] at looked
    exact looked
  | true =>
    rw [hempty] at looked
    exact looked.step (.slept rfl)

/-- The consumer waits, and no signal has come for it. -/
def Waits (consumer : Nat) (s : Scene α) : Prop :=
  s.place = .waiting ∧ consumer ∉ s.queue.signal.woken

/-- The next half of the consumer's call ends it, or the consumer is in no call. -/
def CanGoOn (consumer : Nat) (s : Scene α) : Prop :=
  match s.place with
  | .free => True
  | .checked => (s.queue.sleep consumer).1 = true
  | .waiting => (s.queue.poll consumer).1 = true

/-- However the halves of any number of enqueues come between those of the consumer's calls: the
consumer does not wait without a permit for a queue that holds an item, unless some enqueue has yet
to signal; once all have signalled, the consumer of a queue that holds an item can go on; and the
items that were taken and those that are left are, in order, the items that were appended. -/
theorem no_wakeup_is_lost (consumer : Nat) (s : Scene α) (reachable : Reachable consumer s) :
    ¬(Waits consumer s ∧ s.queue.signal.permit = false ∧ s.queue.items ≠ [] ∧
        s.unannounced = 0) ∧
      (s.queue.items ≠ [] → s.unannounced = 0 → CanGoOn consumer s) ∧
      s.taken ++ s.queue.items = s.pushed ∧
      (∀ item, Reachable consumer
        { s with queue := s.queue.enqueue item, pushed := s.pushed ++ [item] }) ∧
      (s.place = .free → Reachable consumer
        { s with
          queue := (s.queue.await consumer).2
          place := after (s.queue.await consumer).1 .waiting }) := by
  have sound := sound_of_reachable reachable
  have poised := sound.poised
  have goesOn : s.queue.items ≠ [] → s.unannounced = 0 →
      CanGoOn consumer s ∧ ¬Waits consumer s := by
    intro hne hnone
    unfold CanGoOn Waits EventQueue.sleep EventQueue.poll
    generalize s.place = place, s.queue.signal = signal at poised ⊢
    cases poised with
    | free permit => exact ⟨trivial, fun h => nomatch h.1⟩
    | checked permit covered =>
      have hpermit : permit = true := (covered hne).resolve_right (by omega)
      rw [hpermit, await_unwatched]
      exact ⟨rfl, fun h => nomatch h.1⟩
    | asleep owed =>
      have hdue := owed hne
      omega
    | roused permit =>
      rw [poll_roused]
      exact ⟨rfl, fun h => h.2 List.mem_cons_self⟩
  refine ⟨?_, fun hne hnone => (goesOn hne hnone).1, sound.inOrder, reachable.enqueue,
    reachable.await⟩
  rintro ⟨waits, -, hne, hnone⟩
  exact (goesOn hne hnone).2 waits

/-- An item was appended after the consumer had found the queue empty, and the consumer has gone to
sleep before the item is signalled. -/
def Sample.overslept : Scene Nat where
  queue := { items := [7], signal := asleep 0 }
  unannounced := 1
  place := .waiting
  pushed := [7]

theorem Sample.reachable_overslept : Reachable 0 Sample.overslept := by
  have r : Reachable 0 ({} : Scene Nat) := .start
  have r := r.step (.looked rfl)
  have r := r.step (.pushed 7)
  exact r.step (.slept rfl)

/-- The signal, when it comes, ends the wait. -/
theorem sample_no_wakeup_is_lost :
    Waits 0 Sample.overslept ∧ Sample.overslept.queue.items = [7] ∧
      ∃ next, Step 0 Sample.overslept next ∧ next.place = .waiting ∧ CanGoOn 0 next ∧
        ¬(Waits 0 next ∧ next.queue.signal.permit = false ∧ next.queue.items ≠ [] ∧
          next.unannounced = 0) ∧
        next.taken ++ next.queue.items = [7] := by
  have move : Step 0 Sample.overslept
      { Sample.overslept with queue := Sample.overslept.queue.announce, unannounced := 0 } :=
    .announced 0 rfl
  obtain ⟨kept, goesOn, inOrder, -, -⟩ :=
    no_wakeup_is_lost 0 _ (Sample.reachable_overslept.step move)
  exact ⟨⟨rfl, List.not_mem_nil⟩, rfl, _, move, rfl, goesOn (List.cons_ne_nil _ _) rfl, kept,
    inOrder⟩

end Scene

end DatasetProvisioner.EventQueue
