import Mathlib.Data.List.Induction

/-!
# The latest value in a history

What the last item of a history tells that tells anything at all.
-/

namespace SensorManager

variable {α β γ : Type}

def latest (tells : α → Option β) (history : List α) : Option β :=
  (history.filterMap tells).getLast?

variable {tells : α → Option β} {history : List α}

theorem latest_append_some {item : α} {value : β} (told : tells item = some value) :
    latest tells (history ++ [item]) = some value := by
  simp [latest, told]

theorem latest_append_none {item : α} (silent : tells item = none) :
    latest tells (history ++ [item]) = latest tells history := by
  simp [latest, silent]

theorem latest_map (change : γ → α) (history : List γ) :
    latest tells (history.map change) = latest (fun item => tells (change item)) history := by
  rw [latest, latest, List.filterMap_map]
  rfl

/-- Either no item tells anything, or there is the last item that does. -/
theorem latest_cases (tells : α → Option β) (history : List α) :
    ((∀ item ∈ history, tells item = none) ∧ latest tells history = none) ∨
      ∃ first item last value, history = first ++ item :: last ∧
        (∀ later ∈ last, tells later = none) ∧ tells item = some value ∧
        latest tells history = some value := by
  induction history using List.reverseRecOn with
  | nil => exact .inl ⟨by simp, rfl⟩
  | append_singleton history item ih =>
      cases told : tells item with
      | some value =>
          exact .inr ⟨history, item, [], value, rfl, by simp, told, latest_append_some told⟩
      | none =>
          have silent : ∀ {others : List α}, (∀ other ∈ others, tells other = none) →
              ∀ other ∈ others ++ [item], tells other = none := by
            intro others none_ other member
            rcases List.mem_append.mp member with old | new
            · exact none_ other old
            · rwa [List.mem_singleton.mp new]
          rw [latest_append_none told]
          rcases ih with ⟨noneOf, nothing⟩ | ⟨first, earlier, last, value, rfl, later, isLast⟩
          · exact .inl ⟨silent noneOf, nothing⟩
          · exact .inr ⟨first, earlier, last ++ [item], value, by simp, silent later, isLast⟩

end SensorManager
