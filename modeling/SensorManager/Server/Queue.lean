import Mathlib.Logic.Function.Basic
import SensorManager.Lib.Mutex
import SensorManager.Lib.Trace

/-!
# The blocking queue

Any number of producers call `push` and one consumer calls `pop`.  A thread
takes one step at a time, and the steps of all of them may come in any order;
only the mutex keeps a thread out while another one is inside.  The lists that
stand for the queues of the server are what a call makes of a queue when
nobody interrupts it.
-/

namespace SensorManager

inductive QueueThread (ι : Type) where
  | producer (i : ι)
  | consumer

/-- Where a producer is in `push`. -/
inductive PushAt (α : Type) where
  | outside
  | storing (elem : α)
  | checking
  | notifying
  | leaving

/-- Where the consumer is in `pop`.  To read or to remove the front of an empty
queue is undefined. -/
inductive PopAt (α : Type) where
  | outside
  | testing
  | parking
  | waiting
  | woken
  | reading
  | removing (value : α)
  | leaving (value : α)
  | undefined

/-- The consumer holds the mutex here. -/
def PopAt.Inside {α : Type} : PopAt α → Prop
  | .outside | .waiting | .woken => False
  | _ => True

/-- What the consumer knows of the queue here. -/
def PopAt.Ready {α : Type} (queue : List α) : PopAt α → Prop
  | .parking => queue = []
  | .reading => queue ≠ []
  | .removing value => queue.head? = some value
  | .undefined => False
  | _ => True

theorem PopAt.ready_of_not_inside {α : Type} {place : PopAt α} (outside : ¬ place.Inside)
    (queue : List α) : place.Ready queue := by
  cases place with
  | outside => trivial
  | waiting => trivial
  | woken => trivial
  | _ => exact absurd trivial outside

/-- What a notification does; it reaches nobody but a thread that waits. -/
def PopAt.notified {α : Type} : PopAt α → PopAt α
  | .waiting => .woken
  | place => place

theorem PopAt.notified_cases {α : Type} (place : PopAt α) :
    place.notified = place ∨ place = .waiting ∧ place.notified = .woken := by
  cases place with
  | waiting => exact .inr ⟨rfl, rfl⟩
  | _ => exact .inl rfl

theorem PopAt.notified_ne_waiting {α : Type} (place : PopAt α) :
    place.notified ≠ .waiting := by
  cases place <;> simp [notified]

/-- What the producer has been given and has not stored yet. -/
def PushAt.stored {α : Type} : PushAt α → List α
  | .storing elem => [elem]
  | _ => []

/-- What the consumer has removed and has not returned yet. -/
def PopAt.removed {α : Type} : PopAt α → List α
  | .leaving value => [value]
  | _ => []

inductive PushStep (α : Type) where
  | lock (elem : α)
  | store
  | check
  | notify
  | unlock

/-- `wakeUp` is a spurious wake-up. -/
inductive PopStep where
  | lock
  | test
  | wait
  | wakeUp
  | relock
  | front
  | remove
  | unlock

/-- Who takes which step. -/
inductive QueueStep (ι α : Type) where
  | push (i : ι) (step : PushStep α)
  | pop (step : PopStep)

structure Queue (ι α : Type) where
  queue : List α := []
  mutex : Option (QueueThread ι) := none
  pushAt : ι → PushAt α := fun _ => .outside
  popAt : PopAt α := .outside

namespace Queue

variable {ι α : Type}

section Push

variable [DecidableEq ι]

def atPush (state : Queue ι α) (i : ι) (place : PushAt α) : Queue ι α :=
  { state with pushAt := Function.update state.pushAt i place }

/-- A step of producer `i` in `push`. -/
def push (i : ι) (step : PushStep α) (state : Queue ι α) : Option (Queue ι α) :=
  match step, state.pushAt i with
  | .lock elem, .outside =>
      if state.mutex.isNone then
        some ({ state with mutex := some (.producer i) }.atPush i (.storing elem))
      else none
  | .store, .storing elem =>
      some ({ state with queue := state.queue ++ [elem] }.atPush i .checking)
  | .check, .checking =>
      if state.queue.length = 1 then some (state.atPush i .notifying)
      else some (state.atPush i .leaving)
  | .notify, .notifying =>
      some ({ state with popAt := state.popAt.notified }.atPush i .leaving)
  | .unlock, .leaving => some ({ state with mutex := none }.atPush i .outside)
  | _, _ => none

@[simp] theorem atPush_queue (state : Queue ι α) (i : ι) (place : PushAt α) :
    (state.atPush i place).queue = state.queue := rfl

@[simp] theorem atPush_mutex (state : Queue ι α) (i : ι) (place : PushAt α) :
    (state.atPush i place).mutex = state.mutex := rfl

@[simp] theorem atPush_popAt (state : Queue ι α) (i : ι) (place : PushAt α) :
    (state.atPush i place).popAt = state.popAt := rfl

@[simp] theorem atPush_same (state : Queue ι α) (i : ι) (place : PushAt α) :
    (state.atPush i place).pushAt i = place := by simp [atPush]

theorem atPush_other (state : Queue ι α) {i other : ι} (place : PushAt α) (different : other ≠ i) :
    (state.atPush i place).pushAt other = state.pushAt other := by
  simp [atPush, different]

/-- What a step of a producer does. -/
inductive Pushes (i : ι) (before : Queue ι α) : PushStep α → Queue ι α → Prop
  | lock {elem : α} (place : before.pushAt i = .outside) (free : before.mutex = none) :
      Pushes i before (.lock elem)
        ({ before with mutex := some (.producer i) }.atPush i (.storing elem))
  | store {elem : α} (place : before.pushAt i = .storing elem) :
      Pushes i before .store
        ({ before with queue := before.queue ++ [elem] }.atPush i .checking)
  | checkOne (place : before.pushAt i = .checking) (one : before.queue.length = 1) :
      Pushes i before .check (before.atPush i .notifying)
  | checkMore (place : before.pushAt i = .checking) (more : before.queue.length ≠ 1) :
      Pushes i before .check (before.atPush i .leaving)
  | notify (place : before.pushAt i = .notifying) :
      Pushes i before .notify
        ({ before with popAt := before.popAt.notified }.atPush i .leaving)
  | unlock (place : before.pushAt i = .leaving) :
      Pushes i before .unlock ({ before with mutex := none }.atPush i .outside)

theorem pushes_of_push {i : ι} {step : PushStep α} {before after : Queue ι α}
    (moved : push i step before = some after) : Pushes i before step after := by
  unfold push at moved
  split at moved
  · next place =>
      rw [Option.ite_none_right_eq_some] at moved
      obtain ⟨free, same⟩ := moved
      cases same
      exact .lock place (Option.isNone_iff_eq_none.mp free)
  · next place =>
      cases moved
      exact .store place
  · next place =>
      split at moved
      · next one =>
          cases moved
          exact .checkOne place one
      · next more =>
          cases moved
          exact .checkMore place more
  · next place =>
      cases moved
      exact .notify place
  · next place =>
      cases moved
      exact .unlock place
  · cases moved

end Push

section Pop

/-- A step of the consumer in `pop`. -/
def pop (step : PopStep) (state : Queue ι α) : Option (Queue ι α) :=
  match step, state.popAt with
  | .lock, .outside =>
      if state.mutex.isNone then
        some { state with mutex := some .consumer, popAt := .testing }
      else none
  | .test, .testing =>
      if state.queue.isEmpty then some { state with popAt := .parking }
      else some { state with popAt := .reading }
  -- the lock is released and the thread waits in one step
  | .wait, .parking => some { state with mutex := none, popAt := .waiting }
  | .wakeUp, .waiting => some { state with popAt := .woken }
  | .relock, .woken =>
      if state.mutex.isNone then
        some { state with mutex := some .consumer, popAt := .testing }
      else none
  | .front, .reading =>
      match state.queue with
      | value :: _ => some { state with popAt := .removing value }
      | [] => some { state with popAt := .undefined }
  | .remove, .removing value =>
      match state.queue with
      | _ :: rest => some { state with queue := rest, popAt := .leaving value }
      | [] => some { state with popAt := .undefined }
  | .unlock, .leaving _ => some { state with mutex := none, popAt := .outside }
  | _, _ => none

/-- What a step of the consumer does. -/
inductive Pops (before : Queue ι α) : PopStep → Queue ι α → Prop
  | lock (place : before.popAt = .outside) (free : before.mutex = none) :
      Pops before .lock { before with mutex := some .consumer, popAt := .testing }
  | testEmpty (place : before.popAt = .testing) (empty : before.queue = []) :
      Pops before .test { before with popAt := .parking }
  | testMore (place : before.popAt = .testing) (more : before.queue ≠ []) :
      Pops before .test { before with popAt := .reading }
  | wait (place : before.popAt = .parking) :
      Pops before .wait { before with mutex := none, popAt := .waiting }
  | wakeUp (place : before.popAt = .waiting) :
      Pops before .wakeUp { before with popAt := .woken }
  | relock (place : before.popAt = .woken) (free : before.mutex = none) :
      Pops before .relock { before with mutex := some .consumer, popAt := .testing }
  | front {value : α} {rest : List α} (place : before.popAt = .reading)
      (queued : before.queue = value :: rest) :
      Pops before .front { before with popAt := .removing value }
  | frontEmpty (place : before.popAt = .reading) (empty : before.queue = []) :
      Pops before .front { before with popAt := .undefined }
  | remove {value first : α} {rest : List α} (place : before.popAt = .removing value)
      (queued : before.queue = first :: rest) :
      Pops before .remove { before with queue := rest, popAt := .leaving value }
  | removeEmpty {value : α} (place : before.popAt = .removing value)
      (empty : before.queue = []) :
      Pops before .remove { before with popAt := .undefined }
  | unlock {value : α} (place : before.popAt = .leaving value) :
      Pops before .unlock { before with mutex := none, popAt := .outside }

theorem pops_of_pop {step : PopStep} {before after : Queue ι α}
    (moved : pop step before = some after) : Pops before step after := by
  unfold pop at moved
  split at moved
  · next place =>
      rw [Option.ite_none_right_eq_some] at moved
      obtain ⟨free, same⟩ := moved
      cases same
      exact .lock place (Option.isNone_iff_eq_none.mp free)
  · next place =>
      split at moved
      · next empty =>
          cases moved
          exact .testEmpty place (List.isEmpty_iff.mp empty)
      · next more =>
          cases moved
          exact .testMore place fun empty => more (List.isEmpty_iff.mpr empty)
  · next place =>
      cases moved
      exact .wait place
  · next place =>
      cases moved
      exact .wakeUp place
  · next place =>
      rw [Option.ite_none_right_eq_some] at moved
      obtain ⟨free, same⟩ := moved
      cases same
      exact .relock place (Option.isNone_iff_eq_none.mp free)
  · next place =>
      split at moved
      · next queued =>
          cases moved
          exact .front place queued
      · next empty =>
          cases moved
          exact .frontEmpty place empty
  · next place =>
      split at moved
      · next queued =>
          cases moved
          exact .remove place queued
      · next empty =>
          cases moved
          exact .removeEmpty place empty
  · next place =>
      cases moved
      exact .unlock place
  · cases moved

end Pop

/-- The thread is between taking the mutex and giving it back. -/
def Inside (state : Queue ι α) : QueueThread ι → Prop
  | .producer i => state.pushAt i ≠ .outside
  | .consumer => state.popAt.Inside

/-- A notification is still to come: a producer is about to notify, or about to
find that it has to. -/
def Pending (state : Queue ι α) : Prop :=
  ∃ i, state.pushAt i = .notifying ∨ state.pushAt i = .checking ∧ state.queue.length = 1

/-- What holds of a queue between any two steps. -/
structure Sound (state : Queue ι α) : Prop where
  owned : Owned state.mutex state.Inside
  ready : state.popAt.Ready state.queue
  waiting : state.popAt = .waiting → state.queue = [] ∨ state.Pending

theorem sound_start : ({} : Queue ι α).Sound where
  owned := by
    intro thread
    cases thread with
    | producer i => simp [Inside]
    | consumer => simp [Inside, PopAt.Inside]
  ready := trivial
  waiting := by simp

/-- The producer inside is the one that a notification is to come from. -/
theorem Pending.of_inside {state : Queue ι α} {i : ι} (pending : state.Pending)
    (owned : Owned state.mutex state.Inside) (inside : state.Inside (.producer i)) :
    state.pushAt i = .notifying ∨ state.pushAt i = .checking ∧ state.queue.length = 1 := by
  obtain ⟨j, place⟩ := pending
  have entered : state.Inside (.producer j) := by
    rcases place with notifies | ⟨checks, -⟩
    · simp [Inside, notifies]
    · simp [Inside, checks]
  cases owned.unique inside entered
  exact place

theorem not_pending_of_free {state : Queue ι α} (owned : Owned state.mutex state.Inside)
    (free : state.mutex = none) : ¬ state.Pending := by
  rintro ⟨i, place⟩
  rw [free] at owned
  have outside : ¬ state.Inside (.producer i) := owned.not_inside
  apply outside
  rcases place with notifies | ⟨checks, -⟩
  · simp [Inside, notifies]
  · simp [Inside, checks]

section Producers

variable [DecidableEq ι] {i : ι} {step : PushStep α} {before after : Queue ι α}

theorem Pushes.popAt (pushes : Pushes i before step after) :
    after.popAt = before.popAt ∨ before.popAt = .waiting ∧ after.popAt = .woken := by
  cases pushes with
  | notify place => exact before.popAt.notified_cases
  | _ => exact .inl rfl

/-- The other threads are where they were. -/
theorem Pushes.others (pushes : Pushes i before step after) (other : QueueThread ι)
    (different : other ≠ .producer i) : after.Inside other ↔ before.Inside other := by
  cases other with
  | producer j =>
      have apart : j ≠ i := fun same => different (congrArg _ same)
      cases pushes <;> simp [Inside, atPush_other _ _ apart]
  | consumer =>
      rcases pushes.popAt with same | ⟨waited, wakes⟩
      · rw [Inside, same, Inside]
      · rw [Inside, wakes, Inside, waited]
        rfl

theorem Pushes.owned (pushes : Pushes i before step after)
    (owned : Owned before.mutex before.Inside) : Owned after.mutex after.Inside := by
  have others := pushes.others
  cases pushes with
  | lock place free =>
      rw [free] at owned
      exact owned.lock (by simp [Inside]) others
  | unlock place =>
      have entered : before.Inside (.producer i) := by simp [Inside, place]
      rw [owned.holds entered] at owned
      exact owned.unlock (by simp [Inside]) others
  | store place => exact owned.goesOn (by simp [Inside, place]) others
  | checkOne place => exact owned.goesOn (by simp [Inside, place]) others
  | checkMore place => exact owned.goesOn (by simp [Inside, place]) others
  | notify place => exact owned.goesOn (by simp [Inside, place]) others

/-- While a producer moves, the consumer is outside. -/
theorem Pushes.consumer_outside (pushes : Pushes i before step after)
    (owned : Owned before.mutex before.Inside) : ¬ before.popAt.Inside := by
  have shut (entered : before.Inside (.producer i)) : ¬ before.popAt.Inside := by
    intro inside
    have consumer : before.Inside .consumer := inside
    cases owned.unique entered consumer
  cases pushes with
  | lock place free =>
      rw [free] at owned
      have consumer : ¬ before.Inside .consumer := owned.not_inside
      exact consumer
  | store place => exact shut (by simp [Inside, place])
  | checkOne place => exact shut (by simp [Inside, place])
  | checkMore place => exact shut (by simp [Inside, place])
  | notify place => exact shut (by simp [Inside, place])
  | unlock place => exact shut (by simp [Inside, place])

theorem Pushes.ready (pushes : Pushes i before step after)
    (owned : Owned before.mutex before.Inside) : after.popAt.Ready after.queue := by
  have outside := pushes.consumer_outside owned
  rcases pushes.popAt with same | ⟨-, wakes⟩
  · rw [same]
    exact PopAt.ready_of_not_inside outside _
  · rw [wakes]
    trivial

/-- The producer that stores into an empty queue is the one that notifies. -/
theorem Pushes.waiting (pushes : Pushes i before step after) (sound : before.Sound)
    (waits : after.popAt = .waiting) : after.queue = [] ∨ after.Pending := by
  have empty (inside : before.Inside (.producer i)) (waited : before.popAt = .waiting)
      (elsewhere : ¬ (before.pushAt i = .notifying ∨
        before.pushAt i = .checking ∧ before.queue.length = 1)) : before.queue = [] := by
    rcases sound.waiting waited with empty | pending
    · exact empty
    · exact absurd (pending.of_inside sound.owned inside) elsewhere
  cases pushes with
  | lock place free =>
      rcases sound.waiting waits with empty | pending
      · exact .inl empty
      · exact absurd pending (not_pending_of_free sound.owned free)
  | store place =>
      have none := empty (by simp [Inside, place]) waits (by simp [place])
      exact .inr ⟨i, .inr ⟨by simp, by simp [none]⟩⟩
  | checkOne place one => exact .inr ⟨i, .inl (by simp)⟩
  | checkMore place more =>
      exact .inl (empty (by simp [Inside, place]) waits (by simp [place, more]))
  | notify place => exact absurd waits before.popAt.notified_ne_waiting
  | unlock place => exact .inl (empty (by simp [Inside, place]) waits (by simp [place]))

theorem Pushes.sound (pushes : Pushes i before step after) (sound : before.Sound) :
    after.Sound :=
  ⟨pushes.owned sound.owned, pushes.ready sound.owned, pushes.waiting sound⟩

end Producers

section Consumer

variable {step : PopStep} {before after : Queue ι α}

theorem Pops.pushAt (pops : Pops before step after) : after.pushAt = before.pushAt := by
  cases pops <;> rfl

theorem Pops.others (pops : Pops before step after) (other : QueueThread ι)
    (different : other ≠ .consumer) : after.Inside other ↔ before.Inside other := by
  cases other with
  | producer i => rw [Inside, pops.pushAt, Inside]
  | consumer => exact absurd rfl different

theorem Pops.owned (pops : Pops before step after)
    (owned : Owned before.mutex before.Inside) : Owned after.mutex after.Inside := by
  have others := pops.others
  cases pops with
  | lock place free =>
      rw [free] at owned
      exact owned.lock trivial others
  | relock place free =>
      rw [free] at owned
      exact owned.lock trivial others
  | wait place =>
      have entered : before.Inside .consumer := by simp [Inside, PopAt.Inside, place]
      rw [owned.holds entered] at owned
      exact owned.unlock id others
  | unlock place =>
      have entered : before.Inside .consumer := by simp [Inside, PopAt.Inside, place]
      rw [owned.holds entered] at owned
      exact owned.unlock id others
  | testEmpty place => exact owned.goesOn (by simp [Inside, PopAt.Inside, place]) others
  | testMore place => exact owned.goesOn (by simp [Inside, PopAt.Inside, place]) others
  | wakeUp place => exact owned.goesOn (by simp [Inside, PopAt.Inside, place]) others
  | front place => exact owned.goesOn (by simp [Inside, PopAt.Inside, place]) others
  | frontEmpty place => exact owned.goesOn (by simp [Inside, PopAt.Inside, place]) others
  | remove place => exact owned.goesOn (by simp [Inside, PopAt.Inside, place]) others
  | removeEmpty place => exact owned.goesOn (by simp [Inside, PopAt.Inside, place]) others

/-- What the consumer has found in the queue is still there. -/
theorem Pops.ready (pops : Pops before step after) (ready : before.popAt.Ready before.queue) :
    after.popAt.Ready after.queue := by
  cases pops with
  | testEmpty place empty => exact empty
  | testMore place more => exact more
  | front place queued => simp [PopAt.Ready, queued]
  | frontEmpty place empty =>
      rw [place] at ready
      exact ready empty
  | removeEmpty place empty =>
      rw [place, empty] at ready
      cases ready
  | _ => trivial

theorem Pops.waiting (pops : Pops before step after) (ready : before.popAt.Ready before.queue)
    (waits : after.popAt = .waiting) : after.queue = [] := by
  cases pops with
  | wait place =>
      rw [place] at ready
      exact ready
  | _ => cases waits

theorem Pops.sound (pops : Pops before step after) (sound : before.Sound) : after.Sound :=
  ⟨pops.owned sound.owned, pops.ready sound.ready, fun waits => .inl (pops.waiting sound.ready waits)⟩

end Consumer

/-- What is in the hands of the producer inside. -/
def storing (state : Queue ι α) : List α :=
  match state.mutex with
  | some (.producer i) => (state.pushAt i).stored
  | _ => []

/-- What has been given to `push` and is not returned yet, in its order. -/
def held (state : Queue ι α) : List α :=
  state.popAt.removed ++ state.queue ++ state.storing

/-- What a step gives to `push`. -/
def given : QueueStep ι α → List α
  | .push _ (.lock elem) => [elem]
  | _ => []

/-- What a step makes `pop` return. -/
def returns (state : Queue ι α) : QueueStep ι α → List α
  | .pop .unlock => state.popAt.removed
  | _ => []

theorem storing_of_free {state : Queue ι α} (free : state.mutex = none) :
    state.storing = [] := by
  rw [storing, free]

theorem storing_of_consumer {state : Queue ι α} (owned : Owned state.mutex state.Inside)
    (inside : state.popAt.Inside) : state.storing = [] := by
  have entered : state.Inside .consumer := inside
  rw [storing, owned.holds entered]

theorem storing_of_producer {state : Queue ι α} (i : ι)
    (owned : Owned state.mutex state.Inside) (inside : state.pushAt i ≠ .outside) :
    state.storing = (state.pushAt i).stored := by
  have entered : state.Inside (.producer i) := inside
  rw [storing, owned.holds entered]

section Accounts

variable {before after : Queue ι α}

theorem Pushes.held [DecidableEq ι] {i : ι} {step : PushStep α}
    (pushes : Pushes i before step after) (owned : Owned before.mutex before.Inside) :
    before.held ++ given (.push i step) = after.held := by
  have hand : after.popAt.removed = before.popAt.removed := by
    rcases pushes.popAt with same | ⟨waited, wakes⟩
    · rw [same]
    · rw [wakes, waited]
      rfl
  have afterwards := pushes.owned owned
  rw [Queue.held, Queue.held, hand]
  cases pushes with
  | lock place free =>
      rw [storing_of_free free, storing_of_producer i afterwards (by simp)]
      simp [given, PushAt.stored]
  | store place =>
      rw [storing_of_producer i owned (by simp [place]),
        storing_of_producer i afterwards (by simp)]
      simp [given, PushAt.stored, place]
  | unlock place =>
      rw [storing_of_producer i owned (by simp [place]), storing_of_free rfl]
      simp [given, PushAt.stored, place]
  | checkOne place =>
      simp [given, PushAt.stored, storing_of_producer i owned, storing_of_producer i afterwards,
        place]
  | checkMore place =>
      simp [given, PushAt.stored, storing_of_producer i owned, storing_of_producer i afterwards,
        place]
  | notify place =>
      simp [given, PushAt.stored, storing_of_producer i owned, storing_of_producer i afterwards,
        place]

theorem Pops.storing {step : PopStep} (pops : Pops before step after)
    (owned : Owned before.mutex before.Inside) : after.storing = before.storing := by
  have afterwards := pops.owned owned
  cases pops with
  | lock place free => rw [storing_of_free free, storing_of_consumer afterwards trivial]
  | relock place free => rw [storing_of_free free, storing_of_consumer afterwards trivial]
  | wait place =>
      rw [storing_of_free rfl, storing_of_consumer owned (by simp [PopAt.Inside, place])]
  | unlock place =>
      rw [storing_of_free rfl, storing_of_consumer owned (by simp [PopAt.Inside, place])]
  | _ => rfl

theorem Pops.held {step : PopStep} (pops : Pops before step after) (sound : before.Sound) :
    before.held = before.returns (.pop step : QueueStep ι α) ++ after.held := by
  rw [Queue.held, Queue.held, pops.storing sound.owned]
  cases pops with
  | remove place queued =>
      -- what is removed is what was read
      have ready := sound.ready
      rw [place, queued] at ready
      cases ready
      simp [returns, PopAt.removed, place, queued]
  | unlock place => simp [returns, PopAt.removed, place]
  | removeEmpty place empty => simp [returns, PopAt.removed, place]
  | lock place => simp [returns, PopAt.removed, place]
  | testEmpty place => simp [returns, PopAt.removed, place]
  | testMore place => simp [returns, PopAt.removed, place]
  | wait place => simp [returns, PopAt.removed, place]
  | wakeUp place => simp [returns, PopAt.removed, place]
  | relock place => simp [returns, PopAt.removed, place]
  | front place => simp [returns, PopAt.removed, place]
  | frontEmpty place => simp [returns, PopAt.removed, place]

end Accounts

section Runs

variable [DecidableEq ι]

/-- Any thread takes its next step. -/
def move : QueueStep ι α → Queue ι α → Option (Queue ι α)
  | .push i step => push i step
  | .pop step => pop step

def Moves (before : Queue ι α) (step : QueueStep ι α) (after : Queue ι α) : Prop :=
  move step before = some after

theorem Moves.sound {before after : Queue ι α} {step : QueueStep ι α}
    (moves : Moves before step after) (sound : before.Sound) : after.Sound := by
  cases step with
  | push i step => exact (pushes_of_push moves).sound sound
  | pop step => exact (pops_of_pop moves).sound sound

theorem Moves.held {before after : Queue ι α} {step : QueueStep ι α}
    (moves : Moves before step after) (sound : before.Sound) :
    before.held ++ given step = before.returns step ++ after.held := by
  cases step with
  | push i step => exact (pushes_of_push moves).held sound.owned
  | pop step =>
      have nothing : given (.pop step : QueueStep ι α) = [] := rfl
      rw [nothing, List.append_nil]
      exact (pops_of_pop moves).held sound

/-- An empty queue is neither read nor removed from. -/
theorem Moves.queued {before after : Queue ι α} {step : QueueStep ι α}
    (moves : Moves before step after) (sound : before.Sound)
    (called : step = .pop .front ∨ step = .pop .remove) : before.queue ≠ [] := by
  intro empty
  have ready := sound.ready
  rcases called with rfl | rfl
  · cases pops_of_pop moves with
    | front place queued => cases empty.symm.trans queued
    | frontEmpty place =>
        rw [place] at ready
        exact ready empty
  · cases pops_of_pop moves with
    | remove place queued => cases empty.symm.trans queued
    | removeEmpty place =>
        rw [place, empty] at ready
        cases ready

variable {taken : List (Transition (Queue ι α) (QueueStep ι α))} {final : Queue ι α}

/-- What has been given to `push`, in the order in which the mutex was taken. -/
def pushed (taken : List (Transition (Queue ι α) (QueueStep ι α))) : List α :=
  taken.flatMap fun transition => given transition.label

/-- What `pop` has returned. -/
def returned (taken : List (Transition (Queue ι α) (QueueStep ι α))) : List α :=
  taken.flatMap fun transition => transition.before.returns transition.label

theorem sound_run (trace : Trace Moves ({} : Queue ι α) taken final) :
    final.Sound ∧ ∀ transition ∈ taken, transition.before.Sound :=
  trace.keeps sound_start fun _ _ _ moves sound => moves.sound sound

theorem pushed_run (trace : Trace Moves ({} : Queue ι α) taken final) :
    pushed taken = returned taken ++ final.held := by
  induction trace with
  | start => rfl
  | @next taken before after step trace moves ih =>
      have accounts := moves.held (sound_run trace).1
      simp only [pushed, returned, List.flatMap_append, List.flatMap_singleton] at ih ⊢
      rw [ih, List.append_assoc, accounts, List.append_assoc]

/-- Whatever the order of the steps, what `pop` has returned begins what was
pushed, nothing is lost, an empty queue is not read, and the consumer only
waits while there is nothing in the queue or a notification to come. -/
theorem loses_nothing (trace : Trace Moves ({} : Queue ι α) taken final) :
    returned taken <+: pushed taken ∧
      pushed taken = returned taken ++
        (final.popAt.removed ++ final.queue ++ final.storing) ∧
      (∀ transition ∈ taken,
        transition.label = .pop .front ∨ transition.label = .pop .remove →
          transition.before.queue ≠ []) ∧
      (final.popAt = .waiting → final.queue ≠ [] → final.Pending) ∧
      (final.popAt = .waiting → final.mutex = none → final.queue = []) := by
  obtain ⟨sound, each⟩ := sound_run trace
  have accounts := pushed_run trace
  refine ⟨⟨final.held, accounts.symm⟩, accounts, ?_, ?_, ?_⟩
  · intro transition member called
    exact (trace.stepped member).queued (each transition member) called
  · intro waits queued
    exact (sound.waiting waits).resolve_left queued
  · intro waits free
    exact (sound.waiting waits).resolve_right (not_pending_of_free sound.owned free)

/-- The consumer waits, two producers push, and it returns the first. -/
theorem loses_nothing_two_producers :
    ∃ taken final, Trace Moves ({} : Queue Bool Nat) taken final ∧
      pushed taken = [7, 8] ∧ returned taken = [7] ∧ final.queue = [8] ∧
      returned taken <+: pushed taken := by
  have nothing : Trace Moves ({} : Queue Bool Nat) [] {} := .start
  have trace := nothing.of_follow move
    [.pop .lock, .pop .test, .pop .wait,
      .push true (.lock 7), .push true .store, .push true .check, .push true .notify,
      .push true .unlock, .push false (.lock 8), .push false .store, .push false .check,
      .push false .unlock,
      .pop .relock, .pop .test, .pop .front, .pop .remove, .pop .unlock] rfl
  exact ⟨_, _, trace, rfl, rfl, rfl, (loses_nothing trace).1⟩

end Runs

end Queue

end SensorManager
