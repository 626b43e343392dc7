import Mathlib.Algebra.Order.BigOperators.Group.Finset
import Mathlib.Data.Finset.Sort
import Mathlib.Data.Int.Interval
import Mathlib.Data.List.Sort

/-!
# Grouped rows

Rows are grouped by a key, and the groups are put in the order of their keys, as
`GROUP BY` and `ORDER BY` do with the same expression.
-/

namespace SensorManager

section GroupBy

variable {α κ : Type} [DecidableEq κ] (order : κ → κ → Prop) [DecidableRel order]
  (key : α → κ)

/-- The keys of the rows, each once. -/
def groupKeys (rows : List α) : List κ :=
  ((rows.map key).dedup).insertionSort order

/-- The rows of a key. -/
def groupOf (rows : List α) (value : κ) : List α :=
  rows.filter fun row => key row = value

def groupBy (rows : List α) : List (κ × List α) :=
  (groupKeys order key rows).map fun value => (value, groupOf key rows value)

variable {order key} {rows : List α}

theorem mem_groupKeys {value : κ} :
    value ∈ groupKeys order key rows ↔ ∃ row ∈ rows, key row = value := by
  unfold groupKeys
  rw [(List.perm_insertionSort order _).mem_iff, List.mem_dedup, List.mem_map]

theorem nodup_groupKeys : (groupKeys order key rows).Nodup :=
  (List.perm_insertionSort order _).nodup_iff.mpr (List.nodup_dedup _)

/-- The keys come in their order. -/
theorem pairwise_groupKeys [Std.Total order] [IsTrans κ order] (rows : List α) :
    (groupKeys order key rows).Pairwise order :=
  List.pairwise_insertionSort order _

/-- The keys come in their order, each once. -/
theorem groupBy_ascending [Std.Total order] [IsTrans κ order] :
    ((groupBy order key rows).map Prod.fst).Pairwise fun first second =>
      order first second ∧ first ≠ second := by
  have keys : (groupBy order key rows).map Prod.fst = groupKeys order key rows := by
    simp [groupBy, Function.comp_def]
  rw [keys]
  exact List.pairwise_and_iff.mpr ⟨pairwise_groupKeys rows, nodup_groupKeys⟩

theorem mem_groupOf {value : κ} {row : α} :
    row ∈ groupOf key rows value ↔ row ∈ rows ∧ key row = value := by
  simp [groupOf]

theorem groupOf_ne_nil {value : κ} :
    groupOf key rows value ≠ [] ↔ ∃ row ∈ rows, key row = value := by
  constructor
  · intro nonempty
    obtain ⟨row, member⟩ := List.exists_mem_of_ne_nil _ nonempty
    exact ⟨row, mem_groupOf.mp member⟩
  · rintro ⟨row, member⟩
    exact List.ne_nil_of_mem (mem_groupOf.mpr member)

/-- The groups are those of the keys that rows have. -/
theorem mem_groupBy {group : κ × List α} :
    group ∈ groupBy order key rows ↔ group.2 = groupOf key rows group.1 ∧ group.2 ≠ [] := by
  unfold groupBy
  rw [List.mem_map]
  constructor
  · rintro ⟨value, isKey, rfl⟩
    exact ⟨rfl, groupOf_ne_nil.mpr (mem_groupKeys.mp isKey)⟩
  · rintro ⟨same, nonempty⟩
    rw [same, groupOf_ne_nil] at nonempty
    exact ⟨group.1, mem_groupKeys.mpr nonempty, Prod.ext rfl same.symm⟩

/-- A group has rows, and they have its key. -/
theorem of_mem_groupBy {group : κ × List α} (member : group ∈ groupBy order key rows) :
    group.2 ≠ [] ∧ ∀ row ∈ group.2, row ∈ rows ∧ key row = group.1 := by
  obtain ⟨same, nonempty⟩ := mem_groupBy.mp member
  refine ⟨nonempty, fun row inGroup => ?_⟩
  rw [same] at inGroup
  exact mem_groupOf.mp inGroup

/-- The rows of some keys are put together again. -/
theorem flatMap_groupOf_perm {keys : List κ} (distinct : keys.Nodup) :
    (keys.flatMap (groupOf key rows)).Perm (rows.filter fun row => key row ∈ keys) := by
  induction keys with
  | nil => simp
  | cons value keys ih =>
      obtain ⟨new, distinct⟩ := List.nodup_cons.mp distinct
      rw [List.flatMap_cons]
      have split := List.filter_append_perm (fun row => key row = value)
        (rows.filter fun row => key row ∈ value :: keys)
      refine List.Perm.trans ?_ split
      rw [List.filter_filter, List.filter_filter]
      have first : (rows.filter fun row => decide (key row = value) &&
          decide (key row ∈ value :: keys)) = groupOf key rows value := by
        apply List.filter_congr
        intro row _
        by_cases same : key row = value <;> simp [same]
      have others : (rows.filter fun row => !decide (key row = value) &&
          decide (key row ∈ value :: keys)) = rows.filter fun row => key row ∈ keys := by
        apply List.filter_congr
        intro row _
        by_cases same : key row = value
        · simp [same, new]
        · simp [same]
      rw [first, others]
      exact (ih distinct).append_left _

/-- Every row is in one group, and in no other. -/
theorem groupBy_perm : ((groupBy order key rows).flatMap Prod.snd).Perm rows := by
  have all : (rows.filter fun row => key row ∈ groupKeys order key rows) = rows := by
    rw [List.filter_eq_self]
    intro row member
    rw [decide_eq_true_eq, mem_groupKeys]
    exact ⟨row, member, rfl⟩
  have joined := @flatMap_groupOf_perm α κ _ key rows _ (@nodup_groupKeys α κ _ order _ key rows)
  rw [all] at joined
  simpa [groupBy, List.flatMap_map] using joined

/-- There are no more groups than numbers that the keys are told apart by. -/
theorem length_groupBy_le (number : α → Int) {first last : Int}
    (apart : ∀ row ∈ rows, ∀ other ∈ rows, number row = number other → key row = key other)
    (within : ∀ row ∈ rows, first ≤ number row ∧ number row ≤ last) :
    (groupBy order key rows).length ≤ (last + 1 - first).toNat := by
  have length : (groupBy order key rows).length = ((rows.map key).toFinset).card := by
    rw [List.card_toFinset, groupBy, List.length_map]
    exact (List.perm_insertionSort order _).length_eq
  have numbers : (rows.map number).toFinset ⊆ Finset.Icc first last := by
    intro value member
    obtain ⟨row, isRow, rfl⟩ := List.mem_map.mp (List.mem_toFinset.mp member)
    exact Finset.mem_Icc.mpr (within row isRow)
  rw [length, ← Int.card_Icc]
  refine le_trans ?_ (Finset.card_le_card numbers)
  have found : ∀ value ∈ (rows.map key).toFinset, ∃ row ∈ rows, key row = value := by
    intro value member
    exact List.mem_map.mp (List.mem_toFinset.mp member)
  cases rows with
  | nil => simp
  | cons head rows =>
      have : Nonempty α := ⟨head⟩
      choose! row isRow hasKey using found
      apply Finset.card_le_card_of_injOn fun value => number (row value)
      · intro value member
        apply Finset.mem_coe.mpr
        exact List.mem_toFinset.mpr (List.mem_map_of_mem (isRow value (Finset.mem_coe.mp member)))
      · intro value member other otherMember same
        have isValue := Finset.mem_coe.mp member
        have isOther := Finset.mem_coe.mp otherMember
        rw [← hasKey value isValue, ← hasKey other isOther]
        exact apart _ (isRow value isValue) _ (isRow other isOther) same

end GroupBy

end SensorManager
