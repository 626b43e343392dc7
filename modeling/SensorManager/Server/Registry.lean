import SensorManager.Server.DatabaseConnection

/-!
# The tables as they are stored

`Registry` holds whatever the statements make of the two tables, without the
invariants that `SensorTable` carries.  Nothing but the identity column tells
two rows apart.
-/

namespace SensorManager

/-- A statement that fails, with its error code.  An update may fail after the
commit has reached the database. -/
structure Fault where
  errorCode : Int
  committed : Bool
  deriving DecidableEq, Repr

/-- `faults` decides for the statements to come whether they fail, and `sysdate` is
the clock of the database. -/
structure Registry where
  rows : List SensorRow := []
  measurements : List (Int × Int × Int) := []
  faults : List (Option Fault) := []
  sysdate : Int := 0
  deriving DecidableEq, Repr

/-- The identity column. -/
structure IdSource where
  next : List SensorRow → Int
  fresh : ∀ rows : List SensorRow, next rows ∉ rows.map (·.id)

theorem IdSource.le_foldr_max {ids : List Int} {id : Int} (member : id ∈ ids) :
    id ≤ ids.foldr max 0 := by
  induction ids with
  | nil => cases member
  | cons first ids ih =>
      rw [List.foldr_cons]
      rcases List.mem_cons.mp member with rfl | later
      · exact Int.le_max_left ..
      · exact (ih later).trans (Int.le_max_right ..)

/-- One more than the greatest id. -/
def IdSource.counting : IdSource where
  next rows := (rows.map (·.id)).foldr max 0 + 1
  fresh rows member := by
    have least := le_foldr_max member
    omega

/-- The queries over the measurements. -/
structure Readings where
  latest : Registry → List Sensor
  lastHour : Registry → Int → List Measurement
  lastDay : Registry → Int → List Measurement
  lastMonth : Registry → Int → List Measurement

def Readings.nothing : Readings :=
  { latest := fun _ => [], lastHour := fun _ _ => [], lastDay := fun _ _ => [],
    lastMonth := fun _ _ => [] }

namespace Registry

/-- `UPDATE` of the rows that a condition selects. -/
def update (select : SensorRow → Bool) (change : SensorColumns → SensorColumns)
    (registry : Registry) : Registry :=
  { registry with
    rows := registry.rows.map fun row =>
      { row with columns := if select row then change row.columns else row.columns } }

/-- `INSERT` of a row with a token alone. -/
def insert (ids : IdSource) (token : ByteString) (registry : Registry) : Registry :=
  { registry with
    rows := registry.rows ++ [{ id := ids.next registry.rows, token := token, columns := {} }] }

def insertMeasurement (sensorId measure timestamp : Int) (registry : Registry) : Registry :=
  { registry with
    measurements := registry.measurements ++ [(sensorId, measure, timestamp)] }

/-- One statement is sent to the database and takes the next fault. -/
def nextFault : DatabaseCall Registry (Option Fault) := do
  match (← get).faults with
  | [] => pure none
  | fault :: faults =>
      modify fun registry => { registry with faults := faults }
      pure fault

/-- `executeUpdate` and the commit behind it. -/
def executeUpdate (change : Registry → Registry) : DatabaseCall Registry Unit := do
  match ← nextFault with
  | none => modify change
  | some fault =>
      if fault.committed then modify change
      throw (.failed fault.errorCode)

/-- `executeQuery`. -/
def executeQuery {α : Type} (query : Registry → α) : DatabaseCall Registry α := do
  match ← nextFault with
  | none => return query (← get)
  | some fault => throw (.failed fault.errorCode)

/-- `executeQuery`, `next` and the columns of the first row. -/
def firstRow (select : SensorRow → Bool) : DatabaseCall Registry SensorRow := do
  match ← executeQuery fun registry => registry.rows.find? select with
  | some row => pure row
  | none => throw .noCurrentRow

def addSensor (ip : ByteString) (port : Int) (token : ByteString) :
    DatabaseCall Registry Sensor := do
  executeUpdate (update (fun row => row.hasToken token && row.notRevoked)
    fun columns => { columns with ip := ip, port := port, status := .active })
  let row ← firstRow fun row =>
    ip ≠ [] && row.columns.ip = ip && row.columns.port = port && row.hasToken token
  return row.toSensor

def initializeSensor (ids : IdSource) (token : ByteString) : DatabaseCall Registry Int := do
  executeUpdate (insert ids token)
  let row ← firstRow (·.hasToken token)
  return row.id

def checkIfTokenExists (token : ByteString) : DatabaseCall Registry Bool :=
  executeQuery fun registry => registry.rows.any (·.hasToken token)

def checkIfTokenIsWhitelisted (token : ByteString) : DatabaseCall Registry Bool := do
  let row ← firstRow (·.hasToken token)
  return row.notRevoked

def getAllSensors : DatabaseCall Registry (List Sensor) :=
  executeQuery fun registry =>
    (registry.rows.filter fun row =>
        row.columns.status = .active || row.columns.status = .disconnected).map fun row =>
      { row.toSensor with connected := row.columns.status = .active }

def addMeasurement (sensorId measure timestamp : Int) : DatabaseCall Registry Unit :=
  executeUpdate (insertMeasurement sensorId measure timestamp)

def getSensor (id : Int) : DatabaseCall Registry Sensor := do
  let row ← firstRow (·.hasId id)
  return row.toSensor

def revokeSensor (id : Int) : DatabaseCall Registry Sensor := do
  executeUpdate (update (·.hasId id) fun columns => { columns with status := .revoked })
  getSensor id

def disconnectSensor (id : Int) : DatabaseCall Registry Sensor := do
  executeUpdate (update (fun row => row.hasId id && row.notRevoked)
    fun columns => { columns with status := .disconnected })
  getSensor id

def connectSensor (id : Int) : DatabaseCall Registry Sensor := do
  executeUpdate (update (fun row => row.hasId id && row.notRevoked)
    fun columns => { columns with status := .active })
  getSensor id

def editSensor (id : Int) (name : ByteString) : DatabaseCall Registry Sensor := do
  executeUpdate (update (·.hasId id) fun columns => { columns with name := name })
  getSensor id

def getSensorId (token : ByteString) : DatabaseCall Registry Int := do
  let row ← firstRow (·.hasToken token)
  return row.id

def getReport (report : Registry → Int → List Measurement) (id : Int) :
    DatabaseCall Registry SensorMeasurement := do
  let measurements ← executeQuery fun registry => report registry id
  return { sensorId := id, measurements := measurements }

/-- The connection, for texts without a quote. -/
def connection (ids : IdSource) (readings : Readings) : IDatabaseConnection Registry where
  getAllSensors := getAllSensors
  getAllSensorsWithMeasurements := executeQuery readings.latest
  getLastHour := getReport readings.lastHour
  getLastDay := getReport readings.lastDay
  getLastMonth := getReport readings.lastMonth
  addSensor := addSensor
  initializeSensor := initializeSensor ids
  getSensorId := getSensorId
  checkIfTokenExists := checkIfTokenExists
  checkIfTokenIsWhitelisted := checkIfTokenIsWhitelisted
  revokeSensor := revokeSensor
  connectSensor := connectSensor
  disconnectSensor := disconnectSensor
  editSensor := editSensor
  getSensor := getSensor
  addMeasurement := addMeasurement

end Registry

end SensorManager
