import Mathlib.Logic.Relation

/-!
# Traces of labelled steps

A trace lists the transitions of a run, each with its label and the states
before and after it.
-/

namespace SensorManager

/-- A step that was taken. -/
structure Transition (σ ι : Type) where
  before : σ
  label : ι
  after : σ

variable {σ ι : Type} {step : σ → ι → σ → Prop} {initial final : σ}
  {taken : List (Transition σ ι)}

/-- The transitions of a run, in their order. -/
inductive Trace (step : σ → ι → σ → Prop) (initial : σ) :
    List (Transition σ ι) → σ → Prop
  | start : Trace step initial [] initial
  | next {taken : List (Transition σ ι)} {before after : σ} {label : ι}
      (trace : Trace step initial taken before) (stepped : step before label after) :
      Trace step initial (taken ++ [⟨before, label, after⟩]) after

namespace Trace

theorem stepped (trace : Trace step initial taken final) {transition : Transition σ ι}
    (member : transition ∈ taken) :
    step transition.before transition.label transition.after := by
  induction trace with
  | start => cases member
  | next trace stepped ih =>
      rcases List.mem_append.mp member with earlier | last
      · exact ih earlier
      · obtain rfl := List.mem_singleton.mp last
        exact stepped

/-- What every step keeps that meets a condition holds at the end of a trace
whose transitions all meet it, and before each of them. -/
theorem keeps_of_meets (trace : Trace step initial taken final) {inv : σ → Prop}
    (meets : Transition σ ι → Prop) (holds : inv initial)
    (each : ∀ transition ∈ taken, meets transition)
    (keeps : ∀ before label after, step before label after → meets ⟨before, label, after⟩ →
      inv before → inv after) :
    inv final ∧ ∀ transition ∈ taken, inv transition.before := by
  induction trace with
  | start => exact ⟨holds, by simp⟩
  | next trace stepped ih =>
      obtain ⟨now, earlier⟩ := ih fun transition member =>
        each transition (List.mem_append_left _ member)
      have met := each _ (List.mem_append_right _ (List.mem_singleton_self _))
      refine ⟨keeps _ _ _ stepped met now, ?_⟩
      intro transition member
      rcases List.mem_append.mp member with old | last
      · exact earlier transition old
      · obtain rfl := List.mem_singleton.mp last
        exact now

/-- What every step keeps holds at the end of a trace and before each of its
transitions. -/
theorem keeps (trace : Trace step initial taken final) {inv : σ → Prop} (holds : inv initial)
    (keeps : ∀ before label after, step before label after → inv before → inv after) :
    inv final ∧ ∀ transition ∈ taken, inv transition.before :=
  trace.keeps_of_meets (fun _ => True) holds (fun _ _ => trivial)
    fun before label after stepped _ now => keeps before label after stepped now

/-- Where each step that counts lowers a rank, and no step raises it, no more steps
of a trace count than the rank that it begins with. -/
theorem countP_le_rank (trace : Trace step initial taken final) {inv : σ → Prop}
    (counts : ι → Bool) (rank : σ → Nat) (holds : inv initial)
    (preserved : ∀ before label after, step before label after → inv before → inv after)
    (lowers : ∀ before label after, step before label after → inv before →
      (counts label).toNat + rank after ≤ rank before) :
    (taken.countP fun transition => counts transition.label) + rank final ≤ rank initial := by
  induction trace with
  | start => simp
  | @next taken before after label trace stepped ih =>
      have now := (trace.keeps holds preserved).1
      have lower := lowers before label after stepped now
      rw [List.countP_append, List.countP_singleton]
      cases counted : counts label with
      | true =>
          rw [counted] at lower
          simp only [if_true, Bool.toNat_true] at lower ⊢
          omega
      | false =>
          rw [counted] at lower
          simp only [Bool.false_eq_true, if_false, Bool.toNat_false] at lower ⊢
          omega

/-- What a step has exactly when it meets a condition, all transitions of a
trace have exactly when all meet the condition. -/
theorem forall_iff {good meets : Transition σ ι → Prop} (trace : Trace step initial taken final)
    {inv : σ → Prop} (holds : inv initial)
    (preserved : ∀ before label after, step before label after → inv before → inv after)
    (each : ∀ transition : Transition σ ι, inv transition.before →
      step transition.before transition.label transition.after →
      (good transition ↔ meets transition)) :
    (∀ transition ∈ taken, good transition) ↔ ∀ transition ∈ taken, meets transition := by
  have always := (trace.keeps holds preserved).2
  exact forall₂_congr fun transition member =>
    each transition (always transition member) (trace.stepped member)

/-- What a transition claims, and so carries on to the next, all transitions of
a trace claim exactly when all meet the condition. -/
theorem forall_iff_of_carries {claims meets : Transition σ ι → Prop}
    (trace : Trace step initial taken final) (inv : σ → Prop) (holds : inv initial)
    (each : ∀ before label after, step before label after → inv before →
      (claims ⟨before, label, after⟩ ↔ meets ⟨before, label, after⟩))
    (carries : ∀ before label after, step before label after → inv before →
      claims ⟨before, label, after⟩ → inv after) :
    (∀ transition ∈ taken, claims transition) ↔ ∀ transition ∈ taken, meets transition := by
  constructor
  · intro claimed transition member
    have always := (trace.keeps_of_meets claims holds claimed fun before label after stepped
      claimed now => carries before label after stepped now claimed).2
    exact (each _ _ _ (trace.stepped member) (always transition member)).mp
      (claimed transition member)
  · intro met transition member
    have always := (trace.keeps_of_meets meets holds met fun before label after stepped met
      now => carries before label after stepped now
        ((each before label after stepped now).mpr met)).2
    exact (each _ _ _ (trace.stepped member) (always transition member)).mpr
      (met transition member)

end Trace

section Play

variable {move : ι → σ → Option σ} {check : ι → σ → Bool}

/-- The moves are made one after the other, each of them passing `check`. -/
def playMoves (move : ι → σ → Option σ) (check : ι → σ → Bool) : List ι → σ → Option σ
  | [], state => some state
  | label :: labels, state =>
      if check label state then (move label state).bind (playMoves move check labels)
      else none

/-- What is played continues a trace. -/
theorem Trace.of_playMoves {labels : List ι} {state : σ}
    (trace : Trace (fun before label after => move label before = some after) initial taken
      state)
    (played : playMoves move check labels state = some final) :
    ∃ more, Trace (fun before label after => move label before = some after) initial
        (taken ++ more) final ∧
      ∀ transition ∈ more, check transition.label transition.before = true := by
  induction labels generalizing state taken with
  | nil =>
      obtain rfl := Option.some.inj played
      exact ⟨[], by simpa using trace, by simp⟩
  | cons label labels ih =>
      rw [playMoves] at played
      split at played
      · next checked =>
          obtain ⟨middle, moved, goesOn⟩ := Option.bind_eq_some_iff.mp played
          obtain ⟨more, longer, each⟩ := ih (trace.next moved) goesOn
          refine ⟨⟨state, label, middle⟩ :: more, by simpa using longer, ?_⟩
          intro transition member
          rcases List.mem_cons.mp member with rfl | later
          · exact checked
          · exact each transition later
      · cases played

/-- The transitions of moves that are made one after the other. -/
def follow (move : ι → σ → Option σ) : List ι → σ → Option (List (Transition σ ι) × σ)
  | [], state => some ([], state)
  | label :: labels, state =>
      (move label state).bind fun middle =>
        (follow move labels middle).map fun followed =>
          (⟨state, label, middle⟩ :: followed.1, followed.2)

/-- What is followed continues a trace. -/
theorem Trace.of_follow (move : ι → σ → Option σ) (labels : List ι) {state : σ}
    {more : List (Transition σ ι)}
    (trace : Trace (fun before label after => move label before = some after) initial taken
      state)
    (followed : follow move labels state = some (more, final)) :
    Trace (fun before label after => move label before = some after) initial
      (taken ++ more) final := by
  induction labels generalizing state taken more with
  | nil =>
      cases followed
      simpa using trace
  | cons label labels ih =>
      obtain ⟨middle, moved, goesOn⟩ := Option.bind_eq_some_iff.mp followed
      obtain ⟨⟨rest, last⟩, followsOn, same⟩ := Option.map_eq_some_iff.mp goesOn
      cases same
      simpa using ih (trace.next moved) followsOn

end Play

end SensorManager
