import SensorManager.Server.DatabaseSpec
import SensorManager.Server.Registry

/-!
# Two models of one database

`Database` has the two tables with the invariants that their schema gives
them, and `Registry` has the tables as they are stored.  A call of the
connection makes the same of both.  Only `initializeSensor` needs what the
`Database` has in its type: that the id is the next one and the token new.
-/

namespace SensorManager

open Exec

/-- The tables as they are stored, when no update fails behind its commit. -/
def Database.toRegistry (sysdate : Int) (database : Database) : Registry :=
  { rows := database.sensors.rows
    measurements := database.measurements
    faults := database.faults.map (Option.map fun errorCode => ⟨errorCode, false⟩)
    sysdate := sysdate }

/-- The same queries over the measurements. -/
def Readings.reports (readings : Readings) (sysdate : Int) : Reports :=
  { latest := fun database => readings.latest (database.toRegistry sysdate)
    lastHour := fun database => readings.lastHour (database.toRegistry sysdate)
    lastDay := fun database => readings.lastDay (database.toRegistry sysdate)
    lastMonth := fun database => readings.lastMonth (database.toRegistry sysdate) }

/-- Every call but `initializeSensor` makes the same of the image of a state. -/
structure IDatabaseConnection.Simulates {σ δ : Type} (image : σ → δ)
    (connection : IDatabaseConnection σ) (other : IDatabaseConnection δ) : Prop where
  getAllSensors : Exec.Simulates image connection.getAllSensors other.getAllSensors
  getAllSensorsWithMeasurements : Exec.Simulates image
    connection.getAllSensorsWithMeasurements other.getAllSensorsWithMeasurements
  getLastHour : ∀ id, Exec.Simulates image (connection.getLastHour id) (other.getLastHour id)
  getLastDay : ∀ id, Exec.Simulates image (connection.getLastDay id) (other.getLastDay id)
  getLastMonth : ∀ id, Exec.Simulates image (connection.getLastMonth id) (other.getLastMonth id)
  addSensor : ∀ ip port token, Exec.Simulates image (connection.addSensor ip port token)
    (other.addSensor ip port token)
  getSensorId : ∀ token, Exec.Simulates image (connection.getSensorId token)
    (other.getSensorId token)
  checkIfTokenExists : ∀ token, Exec.Simulates image (connection.checkIfTokenExists token)
    (other.checkIfTokenExists token)
  checkIfTokenIsWhitelisted : ∀ token, Exec.Simulates image
    (connection.checkIfTokenIsWhitelisted token) (other.checkIfTokenIsWhitelisted token)
  revokeSensor : ∀ id, Exec.Simulates image (connection.revokeSensor id) (other.revokeSensor id)
  connectSensor : ∀ id, Exec.Simulates image (connection.connectSensor id)
    (other.connectSensor id)
  disconnectSensor : ∀ id, Exec.Simulates image (connection.disconnectSensor id)
    (other.disconnectSensor id)
  editSensor : ∀ id name, Exec.Simulates image (connection.editSensor id name)
    (other.editSensor id name)
  getSensor : ∀ id, Exec.Simulates image (connection.getSensor id) (other.getSensor id)
  addMeasurement : ∀ sensorId measure timestamp, Exec.Simulates image
    (connection.addMeasurement sensorId measure timestamp)
    (other.addMeasurement sensorId measure timestamp)

namespace Database

variable {sysdate : Int} {database : Database}

theorem runOn_nextFault_toRegistry :
    Registry.nextFault.runOn (database.toRegistry sysdate) =
      some (.ok (database.fault.map fun errorCode => ⟨errorCode, false⟩),
        database.spent.toRegistry sysdate) := by
  obtain ⟨sensors, measurements, faults, committed⟩ := database
  match faults with
  | [] => rfl
  | none :: faults => rfl
  | some errorCode :: faults => rfl

section Statements

variable {α : Type}

theorem simulates_executeUpdate {change : Database → Database} {other : Registry → Registry}
    (same : ∀ database, (change database).toRegistry sysdate =
      other (database.toRegistry sysdate)) :
    Exec.Simulates (toRegistry sysdate) (DatabaseConnection.executeUpdate change)
      (Registry.executeUpdate other) := by
  intro database
  rw [Registry.executeUpdate, DatabaseConnection.executeUpdate, runOn_bind, runOn_bind,
    runOn_nextFault_toRegistry, DatabaseConnection.runOn_executeStatement]
  cases database.fault with
  | none =>
      simp only [Option.map_none, Option.bind_some, runOn_modify, Option.map_some]
      rw [same]
  | some errorCode => rfl

theorem simulates_executeQuery {report : Database → α} {query : Registry → α}
    (same : ∀ database, report database = query (database.toRegistry sysdate)) :
    Exec.Simulates (toRegistry sysdate)
      (DatabaseConnection.executeStatement >>= fun _ => get >>= fun database =>
        pure (report database))
      (Registry.executeQuery query) := by
  intro database
  rw [Registry.executeQuery, runOn_bind, runOn_bind, runOn_nextFault_toRegistry,
    DatabaseConnection.runOn_executeStatement]
  cases database.fault with
  | none =>
      simp only [Option.map_none, Option.bind_some, runOn_get_bind, runOn_pure,
        Option.map_some]
      rw [same]
  | some errorCode => rfl

theorem simulates_firstRow (select : SensorRow → Bool) :
    Exec.Simulates (toRegistry sysdate) (DatabaseConnection.executeQuery select)
      (Registry.firstRow select) := by
  intro database
  rw [Registry.firstRow, Registry.executeQuery, DatabaseConnection.executeQuery, runOn_bind,
    runOn_bind, runOn_bind, runOn_nextFault_toRegistry,
    DatabaseConnection.runOn_executeStatement]
  cases database.fault with
  | none =>
      have rows : (database.spent.toRegistry sysdate).rows = database.spent.sensors.rows := rfl
      simp only [Option.map_none, Option.bind_some, runOn_get_bind, runOn_pure, rows]
      cases database.spent.sensors.rows.find? select with
      | none => rfl
      | some row => rfl
  | some errorCode => rfl

theorem simulates_getSensor (id : Int) :
    Exec.Simulates (toRegistry sysdate) (DatabaseConnection.getSensor id)
      (Registry.getSensor id) :=
  simulates_bind (simulates_firstRow _) fun row => simulates_pure row.toSensor

/-- A statement that changes rows, and the query for one of them behind it. -/
theorem simulates_update {change : Database → Database} {select : SensorRow → Bool}
    {columns : SensorColumns → SensorColumns} {rest : DatabaseCall Database α}
    {other : DatabaseCall Registry α}
    (same : ∀ database : Database, change database =
      { database with
        sensors := database.sensors.update select columns
        committed := (change database).committed })
    (goesOn : Exec.Simulates (toRegistry sysdate) rest other) :
    Exec.Simulates (toRegistry sysdate)
      (DatabaseConnection.executeUpdate change >>= fun _ => rest)
      (Registry.executeUpdate (Registry.update select columns) >>= fun _ => other) := by
  refine simulates_bind (simulates_executeUpdate ?_) fun _ => goesOn
  intro database
  rw [same]
  rfl

theorem simulates_getReport {report : Database → Int → List Measurement}
    {reading : Registry → Int → List Measurement}
    (same : ∀ database id, report database id = reading (database.toRegistry sysdate) id)
    (id : Int) :
    Exec.Simulates (toRegistry sysdate) (DatabaseConnection.getReport report id)
      (Registry.getReport reading id) := by
  intro database
  rw [Registry.getReport, Registry.executeQuery, DatabaseConnection.getReport, runOn_bind,
    runOn_bind, runOn_bind, runOn_nextFault_toRegistry,
    DatabaseConnection.runOn_executeStatement]
  cases database.fault with
  | none =>
      simp only [Option.map_none, Option.bind_some, runOn_get_bind, runOn_pure,
        Option.map_some]
      rw [same]
  | some errorCode => rfl

end Statements

/-- A new token that is inserted gets the next id. -/
theorem runOn_initializeSensor {ids : IdSource} {token : ByteString}
    (next : ids.next database.sensors.rows = database.sensors.nextId)
    (fresh : token ∉ database.sensors.rows.map (·.token)) :
    (Registry.initializeSensor ids token).runOn (database.toRegistry sysdate) =
      ((DatabaseConnection.initializeSensor token).runOn database).map fun outcome =>
        (outcome.1, outcome.2.toRegistry sysdate) := by
  rw [Registry.initializeSensor, Registry.executeUpdate, DatabaseConnection.initializeSensor,
    runOn_bind, runOn_bind, runOn_bind, runOn_nextFault_toRegistry,
    DatabaseConnection.runOn_executeStatement]
  cases database.fault with
  | some errorCode => rfl
  | none =>
      have stillFresh : token ∉ database.spent.sensors.rows.map (·.token) := fresh
      have inserted : Registry.insert ids token (database.spent.toRegistry sysdate) =
          toRegistry sysdate
            { database.spent with sensors := database.spent.sensors.insert token stillFresh } := by
        have nextId : ids.next database.spent.sensors.rows = database.spent.sensors.nextId := next
        simp only [Registry.insert, toRegistry, SensorTable.insert, nextId]
      simp only [Option.map_none, Option.bind_some, runOn_get_bind, runOn_modify,
        dif_pos stillFresh, runOn_set_bind, inserted]
      exact simulates_bind (simulates_firstRow _) (fun row => simulates_pure row.id) _

/-- The connection to the tables as they are stored makes of them what the
connection to the `Database` makes of it. -/
theorem connection_simulates (readings : Readings) (ids : IdSource) (sysdate : Int) :
    (DatabaseConnection.plain (readings.reports sysdate)).Simulates (toRegistry sysdate)
      (Registry.connection ids readings) where
  getAllSensors := simulates_executeQuery fun _ => rfl
  getAllSensorsWithMeasurements := simulates_executeQuery fun _ => rfl
  getLastHour := simulates_getReport fun _ _ => rfl
  getLastDay := simulates_getReport fun _ _ => rfl
  getLastMonth := simulates_getReport fun _ _ => rfl
  addSensor := fun _ _ _ => simulates_update (fun _ => rfl)
    (simulates_bind (simulates_firstRow _) fun row => simulates_pure row.toSensor)
  getSensorId := fun _ =>
    simulates_bind (simulates_firstRow _) fun row => simulates_pure row.id
  checkIfTokenExists := fun _ => simulates_executeQuery fun _ => rfl
  checkIfTokenIsWhitelisted := fun _ =>
    simulates_bind (simulates_firstRow _) fun row => simulates_pure row.notRevoked
  revokeSensor := fun id => simulates_update (fun _ => rfl) (simulates_getSensor id)
  connectSensor := fun id => simulates_update (fun _ => rfl) (simulates_getSensor id)
  disconnectSensor := fun id => simulates_update (fun _ => rfl) (simulates_getSensor id)
  editSensor := fun id _ => simulates_update (fun _ => rfl) (simulates_getSensor id)
  getSensor := simulates_getSensor
  addMeasurement := fun _ _ _ => simulates_executeUpdate fun _ => rfl

end Database

end SensorManager
