import SensorManager.Server.DatabaseConnection

/-!
# The table of the sensors

How the statements that the server sends change the status that each sensor
has, and whose token is whose.
-/

namespace SensorManager

theorem SensorRow.hasId_iff {row : SensorRow} {id : Int} :
    row.hasId id = true ↔ row.id = id := by
  simp [SensorRow.hasId]

theorem SensorRow.hasToken_iff {row : SensorRow} {token : ByteString} :
    row.hasToken token = true ↔ token ≠ [] ∧ row.token = token := by
  simp [SensorRow.hasToken]

namespace SensorTable

variable {table : SensorTable}

/-- The sensor that a token belongs to. -/
def idOf (table : SensorTable) (token : ByteString) : Option Int :=
  (table.byToken token).map (·.id)

theorem byId_eq_some {id : Int} {row : SensorRow} :
    table.byId id = some row ↔ row ∈ table.rows ∧ row.id = id := by
  constructor
  · intro found
    exact ⟨List.mem_of_find?_eq_some found,
      SensorRow.hasId_iff.mp (List.find?_some found)⟩
  · rintro ⟨member, rfl⟩
    cases found : table.byId row.id with
    | none =>
        have absent := List.find?_eq_none.mp found row member
        simp [SensorRow.hasId] at absent
    | some other =>
        have otherMember := List.mem_of_find?_eq_some found
        have sameId := SensorRow.hasId_iff.mp (List.find?_some found)
        rw [List.inj_on_of_nodup_map table.ids_nodup otherMember member sameId]

theorem byToken_eq_some {token : ByteString} {row : SensorRow} :
    table.byToken token = some row ↔
      row ∈ table.rows ∧ token ≠ [] ∧ row.token = token := by
  constructor
  · intro found
    exact ⟨List.mem_of_find?_eq_some found,
      SensorRow.hasToken_iff.mp (List.find?_some found)⟩
  · rintro ⟨member, nonempty, rfl⟩
    cases found : table.byToken row.token with
    | none =>
        have absent := List.find?_eq_none.mp found row member
        simp [SensorRow.hasToken, nonempty] at absent
    | some other =>
        have otherMember := List.mem_of_find?_eq_some found
        have sameToken := (SensorRow.hasToken_iff.mp (List.find?_some found)).2
        rw [List.inj_on_of_nodup_map table.tokens_nodup otherMember member sameToken]

/-- The row of a token is the row of its id. -/
theorem byId_of_byToken {token : ByteString} {row : SensorRow}
    (found : table.byToken token = some row) : table.byId row.id = some row :=
  byId_eq_some.mpr ⟨(byToken_eq_some.mp found).1, rfl⟩

/-- The status of a sensor is found in the row of its token. -/
theorem status_of_byToken {token : ByteString} {row : SensorRow} {id : Int}
    (found : table.byToken token = some row) (known : table.idOf token = some id) :
    table.status id = some row.columns.status := by
  have isId : row.id = id := by simpa [idOf, found] using known
  rw [← isId, status, byId_of_byToken found]
  rfl

section Update

variable (select : SensorRow → Bool) (change : SensorColumns → SensorColumns)

theorem byId_update (id : Int) :
    (table.update select change).byId id =
      (table.byId id).map fun row =>
        { row with columns := if select row then change row.columns else row.columns } := by
  rw [byId, update, List.find?_map]
  rfl

theorem idOf_update (token : ByteString) :
    (table.update select change).idOf token = table.idOf token := by
  rw [idOf, idOf, byToken, update, List.find?_map, Option.map_map]
  rfl

theorem status_update (id : Int) :
    (table.update select change).status id =
      (table.byId id).map fun row =>
        (if select row then change row.columns else row.columns).status := by
  rw [status, byId_update, Option.map_map]
  rfl

/-- An update that keeps the column `status`. -/
theorem status_update_of_keeps (keeps : ∀ columns, (change columns).status = columns.status)
    (id : Int) : (table.update select change).status id = table.status id := by
  rw [status_update, status]
  congr 1
  funext row
  split
  · exact keeps row.columns
  · rfl

end Update

/-- An update of the status of one sensor. -/
theorem status_update_id {select : SensorRow → Bool}
    {change : SensorColumns → SensorColumns} {id : Int}
    (only : ∀ row ∈ table.rows, select row = true → row.id = id) {other : Int} (different : other ≠ id) :
    (table.update select change).status other = table.status other := by
  rw [status_update, status]
  cases found : table.byId other with
  | none => rfl
  | some row =>
      obtain ⟨member, isOther⟩ := byId_eq_some.mp found
      have spared : select row = false := by
        cases selected : select row with
        | false => rfl
        | true => exact absurd (isOther.symm.trans (only row member selected)) different
      simp [spared]

section Insert

variable {token : ByteString} (fresh : token ∉ table.rows.map (·.token))

theorem byId_insert (id : Int) :
    (table.insert token fresh).byId id =
      if id = table.nextId then some { id := id, token := token, columns := {} }
      else table.byId id := by
  have isNext : ∀ row, table.byId id = some row → id ≠ table.nextId := by
    rintro row found rfl
    obtain ⟨member, isId⟩ := byId_eq_some.mp found
    have below := table.ids_lt row member
    omega
  rw [byId, insert, List.find?_append]
  cases found : table.byId id with
  | some row =>
      rw [if_neg (isNext row found)]
      rw [byId] at found
      rw [found]
      rfl
  | none =>
      rw [byId] at found
      rw [found, Option.none_or, List.find?_singleton]
      by_cases same : id = table.nextId
      · simp [same, SensorRow.hasId]
      · simp [same, Ne.symm same, SensorRow.hasId]

theorem status_insert (id : Int) :
    (table.insert token fresh).status id =
      if id = table.nextId then some .initial else table.status id := by
  rw [status, byId_insert]
  split <;> rfl

theorem idOf_insert {other : ByteString} {id : Int} (known : table.idOf other = some id) :
    (table.insert token fresh).idOf other = some id := by
  obtain ⟨row, found, isId⟩ := Option.map_eq_some_iff.mp known
  rw [byToken] at found
  rw [idOf, byToken, insert, List.find?_append, found]
  exact congrArg some isId

theorem status_nextId : table.status table.nextId = none := by
  rw [status, Option.map_eq_none_iff]
  cases found : table.byId table.nextId with
  | none => rfl
  | some row =>
      obtain ⟨member, isId⟩ := byId_eq_some.mp found
      have below := table.ids_lt row member
      omega

end Insert

/-- Nothing is lost from one table to another: new sensors are in their initial
status, and tokens belong to whom they did. -/
structure Grows (table later : SensorTable) : Prop where
  status : ∀ id, later.status id = table.status id ∨
    table.status id = none ∧ later.status id = some .initial
  idOf : ∀ token id, table.idOf token = some id → later.idOf token = some id

theorem Grows.refl (table : SensorTable) : table.Grows table :=
  ⟨fun _ => .inl rfl, fun _ _ known => known⟩

theorem Grows.trans {middle later : SensorTable} (first : table.Grows middle)
    (second : middle.Grows later) : table.Grows later := by
  refine ⟨?_, fun token id known => second.idOf token id (first.idOf token id known)⟩
  intro id
  rcases second.status id with same | ⟨absent, initial⟩
  · rw [same]
    exact first.status id
  · rcases first.status id with same | ⟨_, present⟩
    · exact .inr ⟨same.symm.trans absent, initial⟩
    · simp [present] at absent

theorem grows_insert {token : ByteString} (fresh : token ∉ table.rows.map (·.token)) :
    table.Grows (table.insert token fresh) := by
  refine ⟨?_, fun other id known => idOf_insert fresh known⟩
  intro id
  rw [status_insert]
  by_cases same : id = table.nextId
  · subst same
    exact .inr ⟨status_nextId, by simp⟩
  · exact .inl (by simp [same])

theorem grows_update {select : SensorRow → Bool} {change : SensorColumns → SensorColumns}
    (keeps : ∀ columns, (change columns).status = columns.status) :
    table.Grows (table.update select change) :=
  ⟨fun id => .inl (status_update_of_keeps select change keeps id),
    fun token _ known => (idOf_update select change token).trans known⟩

end SensorTable

end SensorManager
