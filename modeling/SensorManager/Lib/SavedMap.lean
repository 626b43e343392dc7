import Mathlib.Data.List.Basic
import Mathlib.Logic.Function.Basic

/-!
# Maps with a saved copy

A map is changed entry by entry, saved as a whole, and restored to what was
saved last.  What was put into it and saved stays until it is put again.
-/

namespace SensorManager

/-- A map and what was saved of it. -/
structure SavedMap (κ ν : Type) where
  current : κ → Option ν
  saved : κ → Option ν

namespace SavedMap

variable {κ ν : Type}

inductive Operation (κ ν : Type) where
  | put (key : κ) (value : ν)
  /-- A key is looked up; `absent` is put there if it has no value. -/
  | fetch (key : κ) (absent : ν)
  | save
  | restore
  | idle

/-- The operation puts a value at the key. -/
def Operation.Puts (key : κ) : Operation κ ν → Prop
  | .put other _ => other = key
  | _ => False

variable [DecidableEq κ]

def apply (store : SavedMap κ ν) : Operation κ ν → SavedMap κ ν
  | .put key value => { store with current := Function.update store.current key (some value) }
  | .fetch key absent =>
      { store with
        current := Function.update store.current key (some ((store.current key).getD absent)) }
  | .save => { store with saved := store.current }
  | .restore => { store with current := store.saved }
  | .idle => store

def run (store : SavedMap κ ν) (operations : List (Operation κ ν)) : SavedMap κ ν :=
  operations.foldl apply store

variable {store : SavedMap κ ν} {key : κ} {value : ν} {operation : Operation κ ν}
  {operations between later : List (Operation κ ν)}

theorem current_fetch (now : store.current key = some value) (other : κ) (absent : ν) :
    (store.apply (.fetch other absent)).current key = some value := by
  by_cases same : key = other
  · subst same
    simp [apply, now]
  · simp [apply, same, now]

theorem current_apply (kept : ¬ operation.Puts key) (goesOn : operation ≠ .restore)
    (now : store.current key = some value) : (store.apply operation).current key = some value := by
  cases operation with
  | put other _ =>
      have different : key ≠ other := fun same => kept same.symm
      simp [apply, different, now]
  | fetch other absent => exact current_fetch now other absent
  | save => exact now
  | restore => exact absurd rfl goesOn
  | idle => exact now

/-- The value is at the key, and saved there. -/
def Holds (key : κ) (value : ν) (store : SavedMap κ ν) : Prop :=
  store.current key = some value ∧ store.saved key = some value

theorem holds_apply (kept : ¬ operation.Puts key) (now : Holds key value store) :
    Holds key value (store.apply operation) := by
  cases operation with
  | put other written => exact ⟨current_apply kept (by simp) now.1, now.2⟩
  | fetch other absent => exact ⟨current_fetch now.1 other absent, now.2⟩
  | save => exact ⟨now.1, now.1⟩
  | restore => exact ⟨now.2, now.2⟩
  | idle => exact now

theorem current_run (kept : ∀ operation ∈ operations, ¬ operation.Puts key ∧ operation ≠ .restore)
    (now : store.current key = some value) : (store.run operations).current key = some value := by
  induction operations generalizing store with
  | nil => exact now
  | cons operation operations ih =>
      obtain ⟨first, rest⟩ := List.forall_mem_cons.mp kept
      exact ih rest (current_apply first.1 first.2 now)

theorem holds_run (kept : ∀ operation ∈ operations, ¬ operation.Puts key)
    (now : Holds key value store) : Holds key value (store.run operations) := by
  induction operations generalizing store with
  | nil => exact now
  | cons operation operations ih =>
      obtain ⟨first, rest⟩ := List.forall_mem_cons.mp kept
      exact ih rest (holds_apply first now)

/-- What is put at a key and saved is there from then on, until it is put
again. -/
theorem holds_put_save (unsaved : ∀ operation ∈ between, ¬ operation.Puts key ∧ operation ≠ .restore)
    (kept : ∀ operation ∈ later, ¬ operation.Puts key) :
    Holds key value (store.run (.put key value :: (between ++ .save :: later))) := by
  have written : (store.apply (.put key value)).current key = some value := by
    simp [apply]
  have present := current_run unsaved written
  rw [run, List.foldl_cons, List.foldl_append, List.foldl_cons]
  exact holds_run kept ⟨present, present⟩

end SavedMap

end SensorManager
