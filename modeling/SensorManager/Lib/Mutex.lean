import Mathlib.Logic.Basic

/-!
# A mutex and the threads inside it

A mutex stands as the thread that holds it, if any.  The threads inside a
critical section are exactly those that hold it, so there is at most one.
-/

namespace SensorManager

/-- A thread is inside exactly if it holds the mutex. -/
def Owned {τ : Type} (mutex : Option τ) (inside : τ → Prop) : Prop :=
  ∀ thread, inside thread ↔ mutex = some thread

namespace Owned

variable {τ : Type} {mutex : Option τ} {inside later : τ → Prop} {thread : τ}

theorem holds (owned : Owned mutex inside) (entered : inside thread) : mutex = some thread :=
  (owned thread).mp entered

theorem not_inside (owned : Owned none inside) : ¬ inside thread := by
  intro entered
  cases owned.holds entered

/-- There is one thread inside. -/
theorem unique (owned : Owned mutex inside) {other : τ} (entered : inside thread)
    (otherEntered : inside other) : other = thread := by
  have same := (owned.holds otherEntered).symm.trans (owned.holds entered)
  exact Option.some.inj same

/-- A thread takes the free mutex. -/
theorem lock (owned : Owned none inside) (entered : later thread)
    (others : ∀ other, other ≠ thread → (later other ↔ inside other)) :
    Owned (some thread) later := by
  intro other
  by_cases same : other = thread
  · rw [same]
    exact iff_of_true entered rfl
  · rw [others other same]
    apply iff_of_false owned.not_inside
    exact fun equal => same (Option.some.inj equal).symm

/-- The thread that holds the mutex gives it back. -/
theorem unlock (owned : Owned (some thread) inside) (left : ¬ later thread)
    (others : ∀ other, other ≠ thread → (later other ↔ inside other)) :
    Owned none later := by
  intro other
  apply iff_of_false _ (by simp)
  by_cases same : other = thread
  · rwa [same]
  · rw [others other same, owned other]
    exact fun equal => same (Option.some.inj equal).symm

/-- A thread goes on inside, or outside. -/
theorem goesOn (owned : Owned mutex inside) (same : later thread ↔ inside thread)
    (others : ∀ other, other ≠ thread → (later other ↔ inside other)) :
    Owned mutex later := by
  intro other
  by_cases own : other = thread
  · rw [own, same, owned thread]
  · rw [others other own, owned other]

end Owned

end SensorManager
