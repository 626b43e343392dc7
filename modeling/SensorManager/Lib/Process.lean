import SensorManager.Lib.Exec

/-!
# Code that others may interrupt

A process is code cut into actions.  Each action runs on the shared state as a
whole, and between two of them other threads may change the state.  A process
that nobody interrupts does what its `run` does; one that is interrupted is
reasoned about with what the others guarantee.
-/

namespace SensorManager

/-- What a thread has still to do. -/
inductive Process (ε σ α : Type) : Type 1 where
  | ended (result : Except ε α)
  | act {β : Type} (action : Exec ε σ β) (next : β → Process ε σ α)

namespace Process

variable {ε σ α β γ : Type}

def call (action : Exec ε σ α) : Process ε σ α :=
  .act action fun value => .ended (.ok value)

def bind : Process ε σ α → (α → Process ε σ β) → Process ε σ β
  | .ended (.ok value), rest => rest value
  | .ended (.error error), _ => .ended (.error error)
  | .act action next, rest => .act action fun value => (next value).bind rest

instance : Monad (Process ε σ) where
  pure value := .ended (.ok value)
  bind := bind

@[simp] theorem error_bind (error : ε) (rest : α → Process ε σ β) :
    .ended (.error error) >>= rest = .ended (.error error) := rfl

@[simp] theorem act_bind (action : Exec ε σ γ) (next : γ → Process ε σ α)
    (rest : α → Process ε σ β) :
    .act action next >>= rest = .act action fun value => next value >>= rest := rfl

/-- The process without interruption. -/
def run : Process ε σ α → Exec ε σ α
  | .ended (.ok value) => pure value
  | .ended (.error error) => throw error
  | .act action next => action >>= fun value => (next value).run

/-- One action; none for a process that has ended or has to wait. -/
def step : Process ε σ α → σ → Option (Process ε σ α × σ)
  | .ended _, _ => none
  | .act action next, state =>
      (action.runOn state).map fun outcome =>
        match outcome.1 with
        | .ok value => (next value, outcome.2)
        | .error error => (.ended (.error error), outcome.2)

/-- What a process can come to when others change the state between its
actions. -/
inductive Computes : Process ε σ α → Except ε α → Prop
  | ended (result : Except ε α) : Computes (.ended result) result
  | act {δ : Type} {action : Exec ε σ δ} {next : δ → Process ε σ α} {before after : σ}
      {value : δ} {result : Except ε α} (ran : action.runOn before = some (.ok value, after))
      (goesOn : Computes (next value) result) : Computes (.act action next) result
  | threw {δ : Type} {action : Exec ε σ δ} {next : δ → Process ε σ α} {before after : σ}
      {error : ε} (ran : action.runOn before = some (.error error, after)) :
      Computes (.act action next) (.error error)

variable {process later : Process ε σ α} {before after : σ}

@[simp] theorem run_call (action : Exec ε σ α) : (call action).run = action := by
  change action >>= pure = action
  exact bind_pure action

theorem run_bind (process : Process ε σ α) (rest : α → Process ε σ β) :
    (process >>= rest).run = process.run >>= fun value => (rest value).run := by
  induction process with
  | ended result =>
      cases result with
      | ok value =>
          change (rest value).run = (pure value : Exec ε σ α) >>= fun value => (rest value).run
          rw [pure_bind]
      | error error => rfl
  | act action next ih =>
      rw [act_bind, run, run, bind_assoc]
      exact congrArg _ (funext ih)

@[simp] theorem run_pure (value : α) : (pure value : Process ε σ α).run = pure value := rfl

@[simp] theorem run_ite (condition : Prop) [Decidable condition]
    (first second : Process ε σ α) :
    (if condition then first else second).run =
      if condition then first.run else second.run := by
  split <;> rfl

theorem Computes.of_step {result : Except ε α}
    (stepped : process.step before = some (later, after)) (computes : later.Computes result) :
    process.Computes result := by
  cases process with
  | ended result => cases stepped
  | act action next =>
      obtain ⟨⟨outcome, middle⟩, ran, same⟩ := Option.map_eq_some_iff.mp stepped
      cases outcome with
      | ok value =>
          cases same
          exact .act ran computes
      | error error =>
          cases same
          cases computes with
          | ended => exact .threw ran

theorem Computes.of_pure {value result : α}
    (computes : (pure value : Process ε σ α).Computes (.ok result)) : result = value := by
  cases computes with
  | ended => rfl

/-- What composed processes return, the second one has returned. -/
theorem Computes.of_bind {rest : α → Process ε σ β} {value : β}
    (computes : (process >>= rest).Computes (.ok value)) :
    ∃ first, process.Computes (.ok first) ∧ (rest first).Computes (.ok value) := by
  induction process with
  | ended result =>
      cases result with
      | ok first => exact ⟨first, .ended _, computes⟩
      | error error =>
          rw [error_bind] at computes
          cases computes
  | act action next ih =>
      rw [act_bind] at computes
      cases computes with
      | act ran goesOn =>
          obtain ⟨first, firstComputes, restComputes⟩ := ih _ goesOn
          exact ⟨first, .act ran firstComputes, restComputes⟩

section Guarantees

variable {rely guar : σ → σ → Prop} {pre : σ → Prop} {post : α → σ → Prop}

/-- The changes of others keep the condition. -/
def Stable (rely : σ → σ → Prop) (condition : σ → Prop) : Prop :=
  ∀ before after, condition before → rely before after → condition after

/-- Among threads that change the state as `rely` says, a process that goes on
where `pre` holds changes it as `guar` says, and `post` holds of what it
returns.  The condition `middle` is what an action leaves for the next. -/
inductive Guarded (rely guar : σ → σ → Prop) (post : α → σ → Prop) :
    (σ → Prop) → Process ε σ α → Prop
  | returned {pre : σ → Prop} {value : α} (holds : ∀ state, pre state → post value state) :
      Guarded rely guar post pre (.ended (.ok value))
  | threw {pre : σ → Prop} {error : ε} : Guarded rely guar post pre (.ended (.error error))
  | act {δ : Type} {pre : σ → Prop} {action : Exec ε σ δ} {next : δ → Process ε σ α}
      (middle : δ → σ → Prop)
      (guarantees : ∀ before result after, pre before →
        action.runOn before = some (result, after) → guar before after)
      (establishes : ∀ before value after, pre before →
        action.runOn before = some (.ok value, after) → middle value after)
      (stable : ∀ value, Stable rely (middle value))
      (goesOn : ∀ value, Guarded rely guar post (middle value) (next value)) :
      Guarded rely guar post pre (.act action next)

theorem Guarded.of_pre {stronger : σ → Prop} (guarded : Guarded rely guar post pre process)
    (implies : ∀ state, stronger state → pre state) :
    Guarded rely guar post stronger process := by
  cases guarded with
  | returned holds => exact .returned fun state now => holds state (implies state now)
  | threw => exact .threw
  | act middle guarantees establishes stable goesOn =>
      exact .act middle
        (fun before result after now => guarantees before result after (implies before now))
        (fun before value after now => establishes before value after (implies before now))
        stable goesOn

/-- A process may guarantee more and rely on less than it has to. -/
theorem Guarded.mono {stronger weaker : σ → σ → Prop}
    (guarded : Guarded rely guar post pre process)
    (relies : ∀ before after, stronger before after → rely before after)
    (implies : ∀ before after, guar before after → weaker before after) :
    Guarded stronger weaker post pre process := by
  induction guarded with
  | returned holds => exact .returned holds
  | threw => exact .threw
  | act middle guarantees establishes stable _ ih =>
      refine .act middle (fun before result after now ran => ?_) establishes ?_ ih
      · exact implies before after (guarantees before result after now ran)
      · exact fun value before after now changed =>
          stable value before after now (relies before after changed)

/-- A process may leave less than it does. -/
theorem Guarded.of_post {weaker : α → σ → Prop} (guarded : Guarded rely guar post pre process)
    (implies : ∀ value state, post value state → weaker value state) :
    Guarded rely guar weaker pre process := by
  induction guarded with
  | returned holds => exact .returned fun state now => implies _ state (holds state now)
  | threw => exact .threw
  | act middle guarantees establishes stable _ ih =>
      exact .act middle guarantees establishes stable ih

/-- The rule for composed processes. -/
theorem Guarded.bind {last : β → σ → Prop} {rest : α → Process ε σ β}
    (first : Guarded rely guar post pre process)
    (second : ∀ value, Guarded rely guar last (post value) (rest value)) :
    Guarded rely guar last pre (process >>= rest) := by
  induction first with
  | returned holds => exact (second _).of_pre holds
  | threw => exact .threw
  | act middle guarantees establishes stable _ ih =>
      exact .act middle guarantees establishes stable ih

/-- An action after which there is nothing to rely on. -/
theorem Guarded.call {δ : Type} {action : Exec ε σ δ}
    (guarantees : ∀ before result after, pre before →
      action.runOn before = some (result, after) → guar before after) :
    Guarded rely guar (fun _ _ => True) pre (call action) :=
  .act (fun _ _ => True) guarantees (fun _ _ _ _ _ => trivial) (fun _ _ _ _ _ => trivial)
    fun _ => .returned fun _ _ => trivial

/-- The process can go on from here. -/
def Safe (rely guar : σ → σ → Prop) (process : Process ε σ α) (state : σ) : Prop :=
  ∃ pre, pre state ∧ Stable rely pre ∧ Guarded rely guar (fun _ _ => True) pre process

theorem Guarded.safe (guarded : Guarded rely guar (fun _ _ => True) pre process)
    (stable : Stable rely pre) {state : σ} (now : pre state) :
    process.Safe rely guar state :=
  ⟨pre, now, stable, guarded⟩

theorem safe_ended (result : Except ε α) (state : σ) :
    Safe rely guar (.ended result : Process ε σ α) state := by
  refine ⟨fun _ => True, trivial, fun _ _ _ _ => trivial, ?_⟩
  cases result with
  | ok value => exact .returned fun _ _ => trivial
  | error error => exact .threw

/-- A step of another thread. -/
theorem Safe.of_rely (safe : process.Safe rely guar before) (changed : rely before after) :
    process.Safe rely guar after := by
  obtain ⟨pre, now, stable, guarded⟩ := safe
  exact ⟨pre, stable before after now changed, stable, guarded⟩

/-- A step of the process itself. -/
theorem Safe.of_step (safe : process.Safe rely guar before)
    (stepped : process.step before = some (later, after)) :
    guar before after ∧ later.Safe rely guar after := by
  obtain ⟨pre, now, -, guarded⟩ := safe
  cases guarded with
  | returned => cases stepped
  | threw => cases stepped
  | act middle guarantees establishes stable goesOn =>
      obtain ⟨⟨result, reached⟩, ran, same⟩ := Option.map_eq_some_iff.mp stepped
      cases result with
      | ok value =>
          cases same
          exact ⟨guarantees before _ reached now ran,
            ⟨middle value, establishes before value reached now ran, stable value,
              goesOn value⟩⟩
      | error error =>
          cases same
          exact ⟨guarantees before _ reached now ran, safe_ended _ reached⟩

end Guarantees

section Always

variable {guar : σ → σ → Prop}

/-- Every action of the process changes the state as `guar` says, whatever
others do. -/
def Always (guar : σ → σ → Prop) (process : Process ε σ α) : Prop :=
  Guarded (fun _ _ => True) guar (fun _ _ => True) (fun _ => True) process

theorem always_pure (value : α) : Always guar (pure value : Process ε σ α) :=
  .returned fun _ _ => trivial

theorem always_call {action : Exec ε σ α}
    (guarantees : ∀ before result after, action.runOn before = some (result, after) →
      guar before after) : Always guar (call action) :=
  .call fun before result after _ ran => guarantees before result after ran

theorem always_bind {rest : α → Process ε σ β} (first : Always guar process)
    (second : ∀ value, Always guar (rest value)) : Always guar (process >>= rest) :=
  Guarded.bind first second

theorem always_ite {condition : Prop} [Decidable condition] {first second : Process ε σ α}
    (yes : Always guar first) (no : Always guar second) :
    Always guar (if condition then first else second) := by
  split
  · exact yes
  · exact no

theorem Always.mono {weaker : σ → σ → Prop} (always : Always guar process)
    (implies : ∀ before after, guar before after → weaker before after) :
    Always weaker process := by
  apply Guarded.mono always
  · exact fun _ _ _ => trivial
  · exact implies

theorem Always.safe (always : Always guar process) (state : σ) :
    process.Safe (fun _ _ => True) guar state :=
  Guarded.safe always (fun _ _ _ _ => trivial) trivial

end Always

section Outlines

variable {rely : σ → σ → Prop} {post : Except ε α → σ → Prop} {pre : σ → Prop}

/-- Among threads that change the state as `rely` says, a process that goes on
where `pre` holds ends where `post` holds of what it returns or throws. -/
inductive Outlined (rely : σ → σ → Prop) (post : Except ε α → σ → Prop) :
    (σ → Prop) → Process ε σ α → Prop
  | ended {pre : σ → Prop} {result : Except ε α}
      (holds : ∀ state, pre state → post result state) :
      Outlined rely post pre (.ended result)
  | act {δ : Type} {pre : σ → Prop} {action : Exec ε σ δ} {next : δ → Process ε σ α}
      (middle : δ → σ → Prop)
      (establishes : ∀ before value after, pre before →
        action.runOn before = some (.ok value, after) → middle value after)
      (throws : ∀ before error after, pre before →
        action.runOn before = some (.error error, after) → post (.error error) after)
      (stable : ∀ value, Stable rely (middle value))
      (goesOn : ∀ value, Outlined rely post (middle value) (next value)) :
      Outlined rely post pre (.act action next)

theorem Outlined.of_pre {stronger : σ → Prop} (outlined : Outlined rely post pre process)
    (implies : ∀ state, stronger state → pre state) : Outlined rely post stronger process := by
  cases outlined with
  | ended holds => exact .ended fun state now => holds state (implies state now)
  | act middle establishes throws stable goesOn =>
      exact .act middle
        (fun before value after now => establishes before value after (implies before now))
        (fun before error after now => throws before error after (implies before now))
        stable goesOn

theorem Outlined.of_post {weaker : Except ε α → σ → Prop}
    (outlined : Outlined rely post pre process)
    (implies : ∀ result state, post result state → weaker result state) :
    Outlined rely weaker pre process := by
  induction outlined with
  | ended holds => exact .ended fun state now => implies _ state (holds state now)
  | act middle establishes throws stable _ ih =>
      exact .act middle establishes
        (fun before error after now ran => implies _ after (throws before error after now ran))
        stable ih

/-- The rule for composed processes: what the first one throws, both throw. -/
theorem Outlined.bind {last : Except ε β → σ → Prop} {rest : α → Process ε σ β}
    (first : Outlined rely post pre process)
    (second : ∀ value, Outlined rely last (post (.ok value)) (rest value))
    (throws : ∀ error state, post (.error error) state → last (.error error) state) :
    Outlined rely last pre (process >>= rest) := by
  induction first with
  | @ended pre result holds =>
      cases result with
      | ok value => exact (second value).of_pre holds
      | error error => exact .ended fun state now => throws error state (holds state now)
  | act middle establishes throwing stable _ ih =>
      exact .act middle establishes
        (fun before error after now ran => throws error after (throwing before error after now ran))
        stable ih

theorem Outlined.call {action : Exec ε σ α}
    (establishes : ∀ before value after, pre before →
      action.runOn before = some (.ok value, after) → post (.ok value) after)
    (throws : ∀ before error after, pre before →
      action.runOn before = some (.error error, after) → post (.error error) after)
    (stable : ∀ value, Stable rely (post (.ok value))) : Outlined rely post pre (call action) :=
  .act (fun value => post (.ok value)) establishes throws stable fun _ => .ended fun _ now => now

/-- The process can go on from here, to where `post` holds. -/
def Going (rely : σ → σ → Prop) (post : Except ε α → σ → Prop) (process : Process ε σ α)
    (state : σ) : Prop :=
  ∃ pre, pre state ∧ Stable rely pre ∧ Outlined rely post pre process

theorem Going.of_rely (going : process.Going rely post before) (changed : rely before after) :
    process.Going rely post after := by
  obtain ⟨pre, now, stable, outlined⟩ := going
  exact ⟨pre, stable before after now changed, stable, outlined⟩

theorem Going.of_step (going : process.Going rely post before)
    (stable : ∀ error, Stable rely (post (.error error)))
    (stepped : process.step before = some (later, after)) : later.Going rely post after := by
  obtain ⟨pre, now, -, outlined⟩ := going
  cases outlined with
  | ended => cases stepped
  | act middle establishes throws isStable goesOn =>
      obtain ⟨⟨result, reached⟩, ran, same⟩ := Option.map_eq_some_iff.mp stepped
      cases result with
      | ok value =>
          cases same
          exact ⟨middle value, establishes before value reached now ran, isStable value,
            goesOn value⟩
      | error error =>
          cases same
          exact ⟨post (.error error), throws before error reached now ran, stable error,
            .ended fun _ holds => holds⟩

theorem Going.of_ended {result : Except ε α} {state : σ}
    (going : Going rely post (.ended result : Process ε σ α) state) : post result state := by
  obtain ⟨pre, now, -, outlined⟩ := going
  cases outlined with
  | ended holds => exact holds state now

end Outlines

end Process

end SensorManager
