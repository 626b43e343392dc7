import SensorManager.Server.SensorTable
import SensorManager.Server.HandlerCases

/-!
# What the database calls do

For each call of `DatabaseConnection` what it may return, and what it does to
the statuses of the sensors and to the record of committed statuses.
-/

namespace SensorManager

namespace Database

/-- The error code of the next statement, if it fails. -/
def fault (database : Database) : Option Int :=
  database.faults.head?.join

/-- The database after a statement without effect. -/
def spent (database : Database) : Database :=
  { database with faults := database.faults.tail }

end Database

namespace DatabaseConnection

open Exec Server

variable {database after : Database}

theorem runOn_executeStatement :
    executeStatement.runOn database =
      some (match database.fault with
        | some errorCode => .error (.failed errorCode)
        | none => .ok (), database.spent) := by
  unfold executeStatement Database.fault Database.spent
  rw [runOn_get_bind]
  match faults : database.faults with
  | [] =>
      simp only [runOn_pure, List.head?_nil, Option.join_none, List.tail_nil]
      rw [← faults]
  | none :: rest => rfl
  | some errorCode :: rest => rfl

section Statements

variable {change : Database → Database} {select : SensorRow → Bool}

theorem executeUpdate_ok :
    (executeUpdate change).runOn database = some (.ok (), after) ↔
      database.fault = none ∧ after = change database.spent := by
  rw [executeUpdate, runOn_bind, runOn_executeStatement]
  cases database.fault with
  | none => simp [eq_comm]
  | some errorCode => simp

theorem executeUpdate_error {error : SQLException} :
    (executeUpdate change).runOn database = some (.error error, after) ↔
      ∃ errorCode, database.fault = some errorCode ∧ error = .failed errorCode ∧
        after = database.spent := by
  rw [executeUpdate, runOn_bind, runOn_executeStatement]
  cases database.fault with
  | none => simp
  | some errorCode => simp [eq_comm]

theorem executeQuery_ok {row : SensorRow} :
    (executeQuery select).runOn database = some (.ok row, after) ↔
      database.fault = none ∧ database.sensors.rows.find? select = some row ∧
        after = database.spent := by
  rw [executeQuery, runOn_bind, runOn_executeStatement]
  cases database.fault with
  | some errorCode => simp
  | none =>
      simp only [Option.bind_some, runOn_get_bind]
      have same : database.spent.sensors = database.sensors := rfl
      rw [same]
      cases database.sensors.rows.find? select with
      | none => simp
      | some found => simp [eq_comm]

theorem executeQuery_error {error : SQLException} :
    (executeQuery select).runOn database = some (.error error, after) ↔
      after = database.spent ∧
        ((∃ errorCode, database.fault = some errorCode ∧ error = .failed errorCode) ∨
          database.fault = none ∧ database.sensors.rows.find? select = none ∧
            error = .noCurrentRow) := by
  rw [executeQuery, runOn_bind, runOn_executeStatement]
  have same : database.spent.sensors = database.sensors := rfl
  cases fault : database.fault with
  | some errorCode =>
      constructor
      · intro ran
        cases ran
        exact ⟨rfl, .inl ⟨errorCode, rfl, rfl⟩⟩
      · rintro ⟨rfl, ⟨_, isCode, rfl⟩ | ⟨none, -⟩⟩
        · cases isCode
          rfl
        · simp at none
  | none =>
      simp only [Option.bind_some, runOn_get_bind, same]
      cases database.sensors.rows.find? select with
      | none =>
          constructor
          · intro ran
            cases ran
            exact ⟨rfl, .inr ⟨trivial, rfl, rfl⟩⟩
          · rintro ⟨rfl, ⟨_, isCode, -⟩ | ⟨-, -, rfl⟩⟩
            · simp at isCode
            · rfl
      | some found => simp

end Statements

section Reading

variable {α : Type} {select : SensorRow → Bool} {read : SensorRow → α} {token : ByteString}

/-- A call that returns what it reads in one row. -/
theorem readRow_ok {value : α} :
    (executeQuery select >>= fun row => pure (read row)).runOn database =
        some (.ok value, after) ↔
      database.fault = none ∧ after = database.spent ∧
        ∃ row, database.sensors.rows.find? select = some row ∧ value = read row := by
  rw [runOn_bind_eq_some]
  constructor
  · rintro (⟨row, middle, found, returned⟩ | ⟨error, -, impossible⟩)
    · obtain ⟨fine, isRow, rfl⟩ := executeQuery_ok.mp found
      cases returned
      exact ⟨fine, rfl, row, isRow, rfl⟩
    · cases impossible
  · rintro ⟨fine, rfl, row, isRow, rfl⟩
    exact .inl ⟨row, database.spent, executeQuery_ok.mpr ⟨fine, isRow, rfl⟩, rfl⟩

theorem readRow_error {error : SQLException}
    (ran : (executeQuery select >>= fun row => pure (read row)).runOn database =
      some (.error error, after)) : after = database.spent := by
  rw [runOn_bind_eq_some] at ran
  rcases ran with ⟨row, middle, found, returned⟩ | ⟨thrown, threw, -⟩
  · simp at returned
  · exact (executeQuery_error.mp threw).1

theorem checkIfTokenIsWhitelisted_ok {listed : Bool} :
    (checkIfTokenIsWhitelisted token).runOn database = some (.ok listed, after) ↔
      database.fault = none ∧ after = database.spent ∧
        ∃ row, database.sensors.byToken token = some row ∧ listed = row.notRevoked :=
  readRow_ok

theorem checkIfTokenIsWhitelisted_error {error : SQLException}
    (ran : (checkIfTokenIsWhitelisted token).runOn database = some (.error error, after)) :
    after = database.spent :=
  readRow_error ran

theorem getSensorId_ok {id : Int} :
    (getSensorId token).runOn database = some (.ok id, after) ↔
      database.fault = none ∧ after = database.spent ∧
        database.sensors.idOf token = some id := by
  rw [getSensorId, readRow_ok, SensorTable.idOf, Option.map_eq_some_iff]
  refine and_congr_right fun _ => and_congr_right fun _ => exists_congr fun row => ?_
  exact and_congr_right fun _ => eq_comm

theorem getSensorId_error {error : SQLException}
    (ran : (getSensorId token).runOn database = some (.error error, after)) :
    after = database.spent :=
  readRow_error ran

theorem getSensor_ok {id : Int} {sensor : Sensor}
    (ran : (getSensor id).runOn database = some (.ok sensor, after)) :
    after = database.spent ∧ ∃ row, database.sensors.byId id = some row ∧ sensor.id = id := by
  obtain ⟨-, rfl, row, isRow, rfl⟩ := readRow_ok.mp ran
  exact ⟨rfl, row, isRow, (SensorTable.byId_eq_some.mp isRow).2⟩

theorem getSensor_error {id : Int} {error : SQLException}
    (ran : (getSensor id).runOn database = some (.error error, after)) :
    after = database.spent :=
  readRow_error ran

end Reading

section Writing

/-- A statement that writes the status of one sensor, and the query behind
it. -/
theorem update_getSensor_cases {select : SensorRow → Bool} {status : Status} {id : Int}
    {result : Except SQLException Sensor}
    (ran : (executeUpdate (setStatus select (fun columns => columns) status) >>= fun _ =>
      getSensor id).runOn database = some (result, after)) :
    (∃ error, database.fault ≠ none ∧ result = .error error ∧ after = database.spent) ∨
    (database.fault = none ∧
      after = (setStatus select (fun columns => columns) status database.spent).spent ∧
      ∀ sensor, result = .ok sensor → ∃ row, database.sensors.byId id = some row) := by
  rw [runOn_bind_eq_some] at ran
  rcases ran with ⟨_, middle, updated, queried⟩ | ⟨error, threw, rfl⟩
  · obtain ⟨fine, rfl⟩ := executeUpdate_ok.mp updated
    refine .inr ⟨fine, ?_⟩
    cases result with
    | error error => exact ⟨getSensor_error queried, by simp⟩
    | ok sensor =>
        obtain ⟨rfl, row, found, -⟩ := getSensor_ok queried
        refine ⟨rfl, fun _ _ => ?_⟩
        rw [setStatus, SensorTable.byId_update, Option.map_eq_some_iff] at found
        obtain ⟨old, isOld, -⟩ := found
        exact ⟨old, isOld⟩
  · obtain ⟨errorCode, failed, rfl, rfl⟩ := executeUpdate_error.mp threw
    exact .inl ⟨_, by simp [failed], rfl, rfl⟩

/-- What a call leaves that sets the status of one sensor. -/
theorem update_getSensor_ok {select : SensorRow → Bool} {status : Status} {id : Int}
    {sensor : Sensor} (only : ∀ row, select row = true → row.hasId id = true)
    (ran : (executeUpdate (setStatus select (fun columns => columns) status) >>= fun _ =>
      getSensor id).runOn database = some (.ok sensor, after)) :
    (∃ row, row.id = id ∧ database.sensors.status id = some row.columns.status ∧
      after.sensors.status id =
        some (if select row then status else row.columns.status)) ∧
      (∀ other, other ≠ id → after.sensors.status other = database.sensors.status other) ∧
      ∀ token, after.sensors.idOf token = database.sensors.idOf token := by
  obtain ⟨_, -, impossible, -⟩ | ⟨-, rfl, exists_row⟩ := update_getSensor_cases ran
  · cases impossible
  · obtain ⟨row, found⟩ := exists_row sensor rfl
    refine ⟨⟨row, (SensorTable.byId_eq_some.mp found).2, ?_, ?_⟩, ?_,
      fun token => SensorTable.idOf_update _ _ token⟩
    · rw [SensorTable.status, found, Option.map_some]
    · rw [Database.spent, setStatus, SensorTable.status_update, Database.spent, found,
        Option.map_some]
      split
      · rfl
      · rfl
    · intro other different
      apply SensorTable.status_update_id _ different
      exact fun row _ selected => SensorRow.hasId_iff.mp (only row selected)

/-- The status that REVOKE_SENSOR leaves. -/
theorem revokeSensor_ok {id : Int} {sensor : Sensor}
    (ran : (revokeSensor id).runOn database = some (.ok sensor, after)) :
    after.sensors.status id = some .revoked ∧
      (∀ other, other ≠ id → after.sensors.status other = database.sensors.status other) ∧
      ∀ token, after.sensors.idOf token = database.sensors.idOf token := by
  obtain ⟨⟨row, isId, -, now⟩, others, idOf⟩ :=
    update_getSensor_ok (fun _ selected => selected) ran
  rw [if_pos (SensorRow.hasId_iff.mpr isId)] at now
  exact ⟨now, others, idOf⟩

theorem disconnects_hasId {id : Int} (row : SensorRow)
    (selected : (row.hasId id && row.notRevoked) = true) : row.hasId id = true := by
  rw [Bool.and_eq_true] at selected
  exact selected.1

/-- The status that DISCONNECT_SENSOR, or the end of a connection, leaves. -/
theorem disconnectSensor_ok {id : Int} {sensor : Sensor}
    (ran : (disconnectSensor id).runOn database = some (.ok sensor, after)) :
    (after.sensors.status id = some .revoked ∨
      database.sensors.status id ≠ some .revoked ∧
        after.sensors.status id = some .disconnected) ∧
      (∀ other, other ≠ id → after.sensors.status other = database.sensors.status other) ∧
      ∀ token, after.sensors.idOf token = database.sensors.idOf token := by
  obtain ⟨⟨row, isId, was, now⟩, others, idOf⟩ := update_getSensor_ok disconnects_hasId ran
  refine ⟨?_, others, idOf⟩
  have hasId : row.hasId id = true := SensorRow.hasId_iff.mpr isId
  by_cases revoked : row.columns.status = .revoked
  · left
    simpa [SensorRow.notRevoked, revoked] using now
  · right
    rw [was, now]
    simp [hasId, SensorRow.notRevoked, revoked]

/-- The sensor that is accepted for a token becomes active, unless it is
revoked. -/
theorem addSensor_ok {ip token : ByteString} {port : Int} {sensor : Sensor}
    (ran : (addSensor ip port token).runOn database = some (.ok sensor, after)) :
    (∃ row, database.sensors.byToken token = some row ∧ sensor.id = row.id ∧
      after.sensors.status sensor.id = some (if row.notRevoked then .active else .revoked)) ∧
      (∀ other, other ≠ sensor.id →
        after.sensors.status other = database.sensors.status other) ∧
      ∀ other, after.sensors.idOf other = database.sensors.idOf other := by
  rw [addSensor, runOn_bind_eq_some] at ran
  rcases ran with ⟨_, middle, updated, ran⟩ | ⟨_, -, impossible⟩
  · obtain ⟨-, rfl⟩ := executeUpdate_ok.mp updated
    rw [runOn_bind_eq_some] at ran
    rcases ran with ⟨found, middle, queried, returned⟩ | ⟨_, -, impossible⟩
    · obtain ⟨-, isRow, rfl⟩ := executeQuery_ok.mp queried
      cases returned
      obtain ⟨old, member, rfl⟩ := List.mem_map.mp (List.mem_of_find?_eq_some isRow)
      have selected := List.find?_some isRow
      rw [Bool.and_eq_true] at selected
      have isToken := SensorRow.hasToken_iff.mp selected.2
      have byToken : database.sensors.byToken token = some old :=
        SensorTable.byToken_eq_some.mpr ⟨member, isToken⟩
      have byId : database.sensors.byId old.id = some old :=
        SensorTable.byId_of_byToken byToken
      refine ⟨⟨old, byToken, rfl, ?_⟩, ?_, fun other => SensorTable.idOf_update _ _ other⟩
      · have hasToken : old.hasToken token = true := SensorRow.hasToken_iff.mpr isToken
        rw [Database.spent, setStatus, SensorTable.status_update]
        cases spared : old.notRevoked with
        | true => simp [Database.spent, SensorRow.toSensor, byId, hasToken, spared]
        | false =>
            have revoked : old.columns.status = .revoked := by
              simpa [SensorRow.notRevoked] using spared
            simp [Database.spent, SensorRow.toSensor, byId, spared, revoked]
      · intro other different
        apply SensorTable.status_update_id _ different
        intro row rowMember selectedRow
        rw [Bool.and_eq_true] at selectedRow
        have sameToken := (SensorRow.hasToken_iff.mp selectedRow.1).2.trans isToken.2.symm
        rw [List.inj_on_of_nodup_map database.sensors.tokens_nodup rowMember member sameToken]
        rfl
    · cases impossible
  · cases impossible

/-- What a call that sets the status of one sensor commits: nothing, or that
status of that sensor. -/
theorem update_getSensor_commits {select : SensorRow → Bool} {status : Status} {id : Int}
    {result : Except SQLException Sensor}
    (only : ∀ row, select row = true → row.hasId id = true)
    (ran : (executeUpdate (setStatus select (fun columns => columns) status) >>= fun _ =>
      getSensor id).runOn database = some (result, after)) :
    ∃ commits, after.committed = database.committed ++ commits ∧
      ∀ entry ∈ commits, entry = (id, status) := by
  rcases update_getSensor_cases ran with ⟨_, -, -, rfl⟩ | ⟨-, rfl, -⟩
  · exact ⟨[], (List.append_nil _).symm, by simp⟩
  · refine ⟨_, rfl, ?_⟩
    intro entry member
    obtain ⟨row, selected, rfl⟩ := List.mem_map.mp member
    have isId := SensorRow.hasId_iff.mp (only row (List.mem_filter.mp selected).2)
    rw [isId]

theorem revokeSensor_commits {id : Int} {result : Except SQLException Sensor}
    (ran : (revokeSensor id).runOn database = some (result, after)) :
    ∃ commits, after.committed = database.committed ++ commits ∧
      ∀ entry ∈ commits, entry = (id, .revoked) :=
  update_getSensor_commits (fun _ selected => selected) ran

theorem disconnectSensor_commits {id : Int} {result : Except SQLException Sensor}
    (ran : (disconnectSensor id).runOn database = some (result, after)) :
    ∃ commits, after.committed = database.committed ++ commits ∧
      ∀ entry ∈ commits, entry = (id, .disconnected) :=
  update_getSensor_commits disconnects_hasId ran

/-- The acceptance of a sensor commits no other status than `active`. -/
theorem addSensor_commits {ip token : ByteString} {port : Int}
    {result : Except SQLException Sensor}
    (ran : (addSensor ip port token).runOn database = some (result, after)) :
    ∃ commits, after.committed = database.committed ++ commits ∧
      ∀ entry ∈ commits, entry.2 = .active := by
  rw [addSensor, runOn_bind_eq_some] at ran
  rcases ran with ⟨_, middle, updated, queried⟩ | ⟨error, threw, -⟩
  · obtain ⟨-, rfl⟩ := executeUpdate_ok.mp updated
    refine ⟨(database.spent.sensors.rows.filter
      fun row => row.hasToken token && row.notRevoked).map fun row => (row.id, .active), ?_, ?_⟩
    · rw [runOn_bind_eq_some] at queried
      rcases queried with ⟨row, last, found, returned⟩ | ⟨error, threw, -⟩
      · obtain ⟨-, -, rfl⟩ := executeQuery_ok.mp found
        cases returned
        rfl
      · rw [(executeQuery_error.mp threw).1]
        rfl
    · intro entry member
      obtain ⟨row, -, rfl⟩ := List.mem_map.mp member
      rfl
  · obtain ⟨_, -, -, rfl⟩ := executeUpdate_error.mp threw
    exact ⟨[], (List.append_nil _).symm, by simp⟩

end Writing

section Housekeeping

/-- A query whose result is made from the database as it is. -/
theorem query_after {α : Type} {report : Database → α} {result : Except SQLException α}
    (ran : (executeStatement >>= fun _ => get >>= fun database =>
      pure (report database)).runOn database = some (result, after)) :
    after = database.spent := by
  rw [runOn_bind, runOn_executeStatement] at ran
  cases fault : database.fault with
  | none =>
      simp only [fault, Option.bind_some, runOn_get_bind, runOn_pure, Option.some.injEq,
        Prod.mk.injEq] at ran
      exact ran.2.symm
  | some errorCode =>
      simp only [fault, Option.bind_some, Option.some.injEq, Prod.mk.injEq] at ran
      exact ran.2.symm

theorem editSensor_grows {id : Int} {name : ByteString} {result : Except SQLException Sensor}
    (ran : (editSensor id name).runOn database = some (result, after)) :
    database.sensors.Grows after.sensors := by
  rw [editSensor, runOn_bind_eq_some] at ran
  rcases ran with ⟨_, middle, updated, queried⟩ | ⟨error, threw, rfl⟩
  · obtain ⟨-, rfl⟩ := executeUpdate_ok.mp updated
    have grows : database.sensors.Grows (database.sensors.update (·.hasId id)
        fun columns => { columns with name := name }) :=
      SensorTable.grows_update fun _ => rfl
    cases result with
    | error error =>
        obtain rfl := getSensor_error queried
        exact grows
    | ok sensor =>
        obtain ⟨rfl, -⟩ := getSensor_ok queried
        exact grows
  · obtain ⟨errorCode, -, -, rfl⟩ := executeUpdate_error.mp threw
    exact .refl _

theorem initializeSensor_grows {token : ByteString} {result : Except SQLException Int}
    (ran : (initializeSensor token).runOn database = some (result, after)) :
    database.sensors.Grows after.sensors := by
  rw [initializeSensor, runOn_bind, runOn_executeStatement] at ran
  cases fault : database.fault with
  | some errorCode =>
      simp only [fault, Option.bind_some, Option.some.injEq, Prod.mk.injEq] at ran
      obtain ⟨-, rfl⟩ := ran
      exact .refl _
  | none =>
      simp only [fault, Option.bind_some, runOn_get_bind] at ran
      split at ran
      · next fresh =>
          have grows := SensorTable.grows_insert fresh
          rw [runOn_set_bind, runOn_bind_eq_some] at ran
          rcases ran with ⟨row, middle, found, returned⟩ | ⟨error, threw, rfl⟩
          · obtain ⟨-, -, rfl⟩ := executeQuery_ok.mp found
            cases returned
            exact grows
          · obtain ⟨rfl, -⟩ := executeQuery_error.mp threw
            exact grows
      · simp only [runOn_throw, Option.some.injEq, Prod.mk.injEq] at ran
        obtain ⟨-, rfl⟩ := ran
        exact .refl _

/-- Tokens consist of letters and digits. -/
theorem generateToken_unquoted (rands : Vector Nat 15) :
    quoted (generateToken rands) = false := by
  have letters : ∀ byte ∈ alphanum, byte ≠ 39 := by decide +kernel
  rw [quoted, List.contains_eq_any_beq, List.any_eq_false]
  intro byte member
  obtain ⟨rand, -, rfl⟩ := List.mem_map.mp member
  have inside : rand % 62 < alphanum.length := Nat.mod_lt _ (by decide)
  have member : alphanum.getD (rand % 62) 0 ∈ alphanum := by
    rw [List.getD_eq_getElem?_getD, List.getElem?_eq_getElem inside]
    exact List.getElem_mem inside
  have different := letters _ member
  simpa using Ne.symm different

variable {reports : Reports} {rogue : IDatabaseConnection Database}

theorem housekeeping_grows {name : ByteString} (unquoted : quoted name = false)
    (kept : Housekeeping (connection reports rogue) name database after) :
    database.sensors.Grows after.sensors := by
  have same : after = database.spent → database.sensors.Grows after.sensors := by
    rintro rfl
    exact .refl _
  cases kept with
  | getAllSensors called => exact same (query_after called)
  | editSensor id called =>
      rw [connection_editSensor unquoted] at called
      exact editSensor_grows called
  | checkIfTokenExists rands called =>
      rw [connection_checkIfTokenExists (generateToken_unquoted rands)] at called
      exact same (query_after called)
  | initializeSensor rands called =>
      rw [connection_initializeSensor (generateToken_unquoted rands)] at called
      exact initializeSensor_grows called
  | getAllSensorsWithMeasurements called => exact same (query_after called)
  | getLastHour id called => exact same (query_after called)
  | getLastDay id called => exact same (query_after called)
  | getLastMonth id called => exact same (query_after called)

theorem housekept_grows {name : ByteString} (unquoted : quoted name = false)
    (kept : Housekept (connection reports rogue) name database after) :
    database.sensors.Grows after.sensors := by
  induction kept with
  | refl => exact .refl _
  | tail _ last ih => exact ih.trans (housekeeping_grows unquoted last)

end Housekeeping

end DatabaseConnection

end SensorManager
