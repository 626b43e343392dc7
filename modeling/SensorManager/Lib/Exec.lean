import Mathlib.Logic.Function.Basic
import Mathlib.Logic.Relation

/-!
# Code with a state and exceptions

`Exec` is code that reads and writes a state, may throw, and may fail to
finish, as a loop can that is still waiting for its input.  The rules below
take a finished run of composed code apart into the runs of its parts.
-/

namespace SensorManager

abbrev Exec (ε σ : Type) := ExceptT ε (StateT σ Option)

namespace Exec

variable {ε σ δ α β : Type}

/-- The outcome on a state: what is returned or thrown, and the new state;
`none` when the code does not finish. -/
def runOn (code : Exec ε σ α) (state : σ) : Option (Except ε α × σ) :=
  code.run.run state

/-- Code that does not finish. -/
def blocked : Exec ε σ α :=
  ExceptT.mk fun _ => none

/-- Code on a part of the state. -/
def zoom (part : σ → δ) (put : σ → δ → σ) (code : Exec ε δ α) : Exec ε σ α :=
  ExceptT.mk fun state =>
    (code.runOn (part state)).map fun outcome => (outcome.1, put state outcome.2)

@[simp] theorem runOn_pure (value : α) (state : σ) :
    runOn (pure value : Exec ε σ α) state = some (.ok value, state) := rfl

@[simp] theorem runOn_throw (error : ε) (state : σ) :
    runOn (throw error : Exec ε σ α) state = some (.error error, state) := rfl

@[simp] theorem runOn_blocked (state : σ) :
    runOn (blocked : Exec ε σ α) state = none := rfl

@[simp] theorem runOn_get (state : σ) :
    runOn (get : Exec ε σ σ) state = some (.ok state, state) := rfl

@[simp] theorem runOn_set (state other : σ) :
    runOn (set other : Exec ε σ PUnit) state = some (.ok ⟨⟩, other) := rfl

theorem runOn_set_eq_some {state other after : σ} {result : Except ε PUnit} :
    runOn (set other : Exec ε σ PUnit) state = some (result, after) ↔
      result = .ok ⟨⟩ ∧ after = other := by
  simp [eq_comm]

@[simp] theorem runOn_modify (change : σ → σ) (state : σ) :
    runOn (modify change : Exec ε σ PUnit) state = some (.ok ⟨⟩, change state) := rfl

@[simp] theorem runOn_ite (condition : Prop) [Decidable condition]
    (first second : Exec ε σ α) (state : σ) :
    runOn (if condition then first else second) state =
      if condition then runOn first state else runOn second state := by
  split <;> rfl

@[simp] theorem runOn_zoom (part : σ → δ) (put : σ → δ → σ) (code : Exec ε δ α)
    (state : σ) :
    runOn (zoom part put code) state =
      (runOn code (part state)).map fun outcome => (outcome.1, put state outcome.2) :=
  rfl

/-- Composed code throws what its first part throws, or goes on. -/
theorem runOn_bind (code : Exec ε σ α) (next : α → Exec ε σ β) (state : σ) :
    runOn (code >>= next) state =
      (runOn code state).bind fun outcome =>
        match outcome.1 with
        | .ok value => runOn (next value) outcome.2
        | .error error => some (.error error, outcome.2) := by
  change (Option.bind (code.run.run state) fun outcome =>
    (ExceptT.bindCont next outcome.1).run outcome.2) = _
  cases ran : code.run.run state with
  | none => simp [runOn, ran]
  | some outcome =>
      rcases outcome with ⟨result, after⟩
      cases result with
      | error error => simp [runOn, ran, ExceptT.bindCont]
      | ok value =>
          simp [runOn, ran, ExceptT.bindCont]
          rfl

@[simp] theorem runOn_get_bind (next : σ → Exec ε σ β) (state : σ) :
    runOn (get >>= next) state = runOn (next state) state := by
  simp [runOn_bind]

@[simp] theorem runOn_set_bind (other : σ) (next : PUnit → Exec ε σ β) (state : σ) :
    runOn (set other >>= next) state = runOn (next ⟨⟩) other := by
  simp [runOn_bind]

@[simp] theorem runOn_modify_bind (change : σ → σ) (next : PUnit → Exec ε σ β)
    (state : σ) :
    runOn (modify change >>= next) state = runOn (next ⟨⟩) (change state) := by
  simp [runOn_bind]

/-- A finished run of composed code. -/
theorem runOn_bind_eq_some {code : Exec ε σ α} {next : α → Exec ε σ β} {state after : σ}
    {result : Except ε β} :
    runOn (code >>= next) state = some (result, after) ↔
      (∃ value middle, runOn code state = some (.ok value, middle) ∧
        runOn (next value) middle = some (result, after)) ∨
      (∃ error, runOn code state = some (.error error, after) ∧
        result = .error error) := by
  rw [runOn_bind]
  constructor
  · intro finished
    cases ran : runOn code state with
    | none => simp [ran] at finished
    | some outcome =>
        rcases outcome with ⟨first, middle⟩
        cases first with
        | ok value => exact .inl ⟨value, middle, rfl, by simpa [ran] using finished⟩
        | error error =>
            have thrown : Except.error error = result ∧ middle = after := by
              simpa [ran] using finished
            obtain ⟨rfl, rfl⟩ := thrown
            exact .inr ⟨error, rfl, rfl⟩
  · rintro (⟨value, middle, ran, goesOn⟩ | ⟨error, ran, rfl⟩)
    · simpa [ran] using goesOn
    · simp [ran]

/-- A finished run on a part of the state. -/
theorem runOn_zoom_eq_some {part : σ → δ} {put : σ → δ → σ} {code : Exec ε δ α}
    {state after : σ} {result : Except ε α} :
    runOn (zoom part put code) state = some (result, after) ↔
      ∃ changed, runOn code (part state) = some (result, changed) ∧
        after = put state changed := by
  rw [runOn_zoom]
  constructor
  · intro ran
    obtain ⟨⟨first, changed⟩, partRan, equality⟩ := Option.map_eq_some_iff.mp ran
    cases equality
    exact ⟨changed, partRan, rfl⟩
  · rintro ⟨changed, partRan, rfl⟩
    simp [partRan]

section Keeps

variable {inv : σ → Prop}

/-- The code keeps a property of the state, whether it returns or throws. -/
def Keeps (inv : σ → Prop) (code : Exec ε σ α) : Prop :=
  ∀ state result after, inv state → runOn code state = some (result, after) → inv after

theorem keeps_pure (value : α) : Keeps inv (pure value : Exec ε σ α) := by
  rintro state result after holds ⟨⟩
  exact holds

theorem keeps_throw (error : ε) : Keeps inv (throw error : Exec ε σ α) := by
  rintro state result after holds ⟨⟩
  exact holds

theorem keeps_blocked : Keeps inv (blocked : Exec ε σ α) := by
  rintro state result after - ⟨⟩

theorem keeps_set {other : σ} (holds : inv other) : Keeps inv (set other : Exec ε σ PUnit) := by
  rintro state result after - ⟨⟩
  exact holds

theorem keeps_modify {change : σ → σ} (keeps : ∀ state, inv state → inv (change state)) :
    Keeps inv (modify change : Exec ε σ PUnit) := by
  rintro state result after holds ⟨⟩
  exact keeps state holds

theorem keeps_ite {condition : Prop} [Decidable condition] {first second : Exec ε σ α}
    (left : condition → Keeps inv first) (right : ¬ condition → Keeps inv second) :
    Keeps inv (if condition then first else second) := by
  split
  · next yes => exact left yes
  · next no => exact right no

theorem keeps_bind {code : Exec ε σ α} {next : α → Exec ε σ β} (first : Keeps inv code)
    (second : ∀ value, Keeps inv (next value)) : Keeps inv (code >>= next) := by
  intro state result after holds ran
  rcases runOn_bind_eq_some.mp ran with ⟨value, middle, ran, goesOn⟩ | ⟨error, ran, -⟩
  · exact second value middle result after (first state _ middle holds ran) goesOn
  · exact first state _ after holds ran

/-- What the code reads has the property. -/
theorem keeps_get_bind {next : σ → Exec ε σ β}
    (keeps : ∀ state, inv state → Keeps inv (next state)) : Keeps inv (get >>= next) := by
  intro state result after holds ran
  rw [runOn_get_bind] at ran
  exact keeps state holds state result after holds ran

end Keeps

section Simulates

variable {image : σ → δ}

/-- The other code does to the image of a state what the code does to the
state, and ends like it. -/
def Simulates (image : σ → δ) (code : Exec ε σ α) (other : Exec ε δ α) : Prop :=
  ∀ state, runOn other (image state) =
    (runOn code state).map fun outcome => (outcome.1, image outcome.2)

theorem simulates_pure (value : α) :
    Simulates image (pure value : Exec ε σ α) (pure value) :=
  fun _ => rfl

theorem simulates_bind {code : Exec ε σ α} {other : Exec ε δ α} {next : α → Exec ε σ β}
    {rest : α → Exec ε δ β} (first : Simulates image code other)
    (second : ∀ value, Simulates image (next value) (rest value)) :
    Simulates image (code >>= next) (other >>= rest) := by
  intro state
  rw [runOn_bind, runOn_bind, first state]
  cases runOn code state with
  | none => rfl
  | some outcome =>
      rcases outcome with ⟨result, after⟩
      cases result with
      | error error => rfl
      | ok value => exact second value after

end Simulates

end Exec

/-- Composed code without a state returns when both parts do. -/
theorem except_bind_eq_ok {ε α β : Type} {code : Except ε α} {next : α → Except ε β}
    {value : β} :
    code >>= next = .ok value ↔ ∃ middle, code = .ok middle ∧ next middle = .ok value := by
  cases code with
  | error error =>
      constructor
      · rintro ⟨⟩
      · rintro ⟨middle, ⟨⟩, -⟩
  | ok middle =>
      constructor
      · exact fun returned => ⟨middle, rfl, returned⟩
      · rintro ⟨_, ⟨⟩, returned⟩
        exact returned

end SensorManager
