import SensorManager.Lib.Exec
import SensorManager.Server.Requests
import Mathlib.Data.List.Nodup

/-!
# The database connection

`IDatabaseConnection` lists the calls that the server makes.  The calls may
throw and may do anything to the state `δ` of the database.  `Database` is the
part of the Oracle database that `DatabaseConnection` works on, with its calls
translated statement by statement.
-/

namespace SensorManager

/-- What a database call throws: the error code of a statement that failed, or
the error of reading a column after `next` found no row. -/
inductive SQLException where
  | failed (errorCode : Int)
  | noCurrentRow
  deriving DecidableEq, Repr

abbrev DatabaseCall (δ α : Type) := Exec SQLException δ α

structure IDatabaseConnection (δ : Type) where
  getAllSensors : DatabaseCall δ (List Sensor)
  getAllSensorsWithMeasurements : DatabaseCall δ (List Sensor)
  getLastHour : Int → DatabaseCall δ SensorMeasurement
  getLastDay : Int → DatabaseCall δ SensorMeasurement
  getLastMonth : Int → DatabaseCall δ SensorMeasurement
  addSensor : ByteString → Int → ByteString → DatabaseCall δ Sensor
  initializeSensor : ByteString → DatabaseCall δ Int
  getSensorId : ByteString → DatabaseCall δ Int
  checkIfTokenExists : ByteString → DatabaseCall δ Bool
  checkIfTokenIsWhitelisted : ByteString → DatabaseCall δ Bool
  revokeSensor : Int → DatabaseCall δ Sensor
  connectSensor : Int → DatabaseCall δ Sensor
  disconnectSensor : Int → DatabaseCall δ Sensor
  editSensor : Int → ByteString → DatabaseCall δ Sensor
  getSensor : Int → DatabaseCall δ Sensor
  addMeasurement : Int → Int → Int → DatabaseCall δ Unit

/-- The values of the column `status`.  `initial` stands for the default that
the schema gives to a row inserted with a token alone. -/
inductive Status where
  | initial
  | active
  | disconnected
  | revoked
  deriving DecidableEq, Repr

/-- The columns of a `SENSORS` row that change. -/
structure SensorColumns where
  name : ByteString := []
  ip : ByteString := []
  port : Int := 0
  status : Status := .initial
  deriving DecidableEq, Repr

structure SensorRow where
  id : Int
  token : ByteString
  columns : SensorColumns
  deriving DecidableEq, Repr

/-- `WHERE token = '...'`.  Oracle reads the empty string as null, which equals
nothing. -/
def SensorRow.hasToken (token : ByteString) (row : SensorRow) : Bool :=
  token ≠ [] && row.token = token

def SensorRow.hasId (id : Int) (row : SensorRow) : Bool :=
  row.id = id

def SensorRow.notRevoked (row : SensorRow) : Bool :=
  row.columns.status ≠ .revoked

def SensorRow.toSensor (row : SensorRow) : Sensor :=
  { id := row.id
    name := row.columns.name
    ip := row.columns.ip
    port := row.columns.port }

/-- The table `SENSORS`.  Ids come from an identity column and tokens are
inserted only when they do not exist yet. -/
structure SensorTable where
  rows : List SensorRow
  nextId : Int
  ids_nodup : (rows.map (·.id)).Nodup
  ids_lt : ∀ row ∈ rows, row.id < nextId
  tokens_nodup : (rows.map (·.token)).Nodup

namespace SensorTable

def empty : SensorTable :=
  { rows := []
    nextId := 1
    ids_nodup := by simp
    ids_lt := by simp
    tokens_nodup := by simp }

/-- `UPDATE` of the rows that a condition selects. -/
def update (table : SensorTable) (select : SensorRow → Bool)
    (change : SensorColumns → SensorColumns) : SensorTable :=
  { table with
    rows := table.rows.map fun row =>
      { row with columns := if select row then change row.columns else row.columns }
    ids_nodup := by simpa [Function.comp_def] using table.ids_nodup
    ids_lt := by
      intro row member
      obtain ⟨old, oldMember, rfl⟩ := List.mem_map.mp member
      exact table.ids_lt old oldMember
    tokens_nodup := by simpa [Function.comp_def] using table.tokens_nodup }

/-- `INSERT` of a row with a new token. -/
def insert (table : SensorTable) (token : ByteString)
    (fresh : token ∉ table.rows.map (·.token)) : SensorTable :=
  { rows := table.rows ++ [{ id := table.nextId, token := token, columns := {} }]
    nextId := table.nextId + 1
    ids_nodup := by
      rw [List.map_append, List.nodup_append]
      refine ⟨table.ids_nodup, by simp, ?_⟩
      intro id member new newMember
      obtain ⟨row, rowMember, rfl⟩ := List.mem_map.mp member
      have below := table.ids_lt row rowMember
      simp at newMember
      omega
    ids_lt := by
      intro row member
      rcases List.mem_append.mp member with old | new
      · have below := table.ids_lt row old
        omega
      · obtain rfl := List.mem_singleton.mp new
        simp
    tokens_nodup := by
      rw [List.map_append, List.nodup_append]
      refine ⟨table.tokens_nodup, by simp, ?_⟩
      intro old member new newMember
      simp at newMember
      rintro rfl
      exact fresh (newMember ▸ member) }

def byId (table : SensorTable) (id : Int) : Option SensorRow :=
  table.rows.find? (SensorRow.hasId id)

def byToken (table : SensorTable) (token : ByteString) : Option SensorRow :=
  table.rows.find? (SensorRow.hasToken token)

def status (table : SensorTable) (id : Int) : Option Status :=
  (table.byId id).map (·.columns.status)

end SensorTable

/-- The database.  `faults` decides for the statements to come whether they
fail, and with which error code; `committed` records the writes of a status
with the id of the row they went to. -/
structure Database where
  sensors : SensorTable
  measurements : List (Int × Int × Int) := []
  faults : List (Option Int) := []
  committed : List (Int × Status) := []

/-- The queries over the measurements, which depend on the clock of the
database. -/
structure Reports where
  latest : Database → List Sensor
  lastHour : Database → Int → List Measurement
  lastDay : Database → Int → List Measurement
  lastMonth : Database → Int → List Measurement

namespace DatabaseConnection

/-- One statement is sent to the database and takes the next fault. -/
def executeStatement : DatabaseCall Database Unit := do
  match (← get).faults with
  | [] => pure ()
  | none :: faults => modify fun database => { database with faults := faults }
  | some errorCode :: faults =>
      modify fun database => { database with faults := faults }
      throw (.failed errorCode)

/-- `executeUpdate` and the commit behind it. -/
def executeUpdate (change : Database → Database) : DatabaseCall Database Unit := do
  executeStatement
  modify change

/-- `executeQuery`, `next` and the columns of the first row. -/
def executeQuery (select : SensorRow → Bool) : DatabaseCall Database SensorRow := do
  executeStatement
  match (← get).sensors.rows.find? select with
  | some row => pure row
  | none => throw .noCurrentRow

/-- The new status goes to the selected rows. -/
def setStatus (select : SensorRow → Bool) (change : SensorColumns → SensorColumns)
    (status : Status) (database : Database) : Database :=
  { database with
    sensors := database.sensors.update select
      fun columns => { change columns with status := status }
    committed := database.committed ++
      (database.sensors.rows.filter select).map fun row => (row.id, status) }

def addSensor (ip : ByteString) (port : Int) (token : ByteString) :
    DatabaseCall Database Sensor := do
  executeUpdate (setStatus (fun row => row.hasToken token && row.notRevoked)
    (fun columns => { columns with ip := ip, port := port }) .active)
  let row ← executeQuery fun row =>
    ip ≠ [] && row.columns.ip = ip && row.columns.port = port && row.hasToken token
  return row.toSensor

def initializeSensor (token : ByteString) : DatabaseCall Database Int := do
  executeStatement
  let database ← get
  if fresh : token ∉ database.sensors.rows.map (·.token) then
    set { database with sensors := database.sensors.insert token fresh }
    let row ← executeQuery (·.hasToken token)
    return row.id
  else throw (.failed 1)

def checkIfTokenExists (token : ByteString) : DatabaseCall Database Bool := do
  executeStatement
  return (← get).sensors.rows.any (·.hasToken token)

def checkIfTokenIsWhitelisted (token : ByteString) : DatabaseCall Database Bool := do
  let row ← executeQuery (·.hasToken token)
  return row.notRevoked

def getAllSensors : DatabaseCall Database (List Sensor) := do
  executeStatement
  return ((← get).sensors.rows.filter fun row =>
      row.columns.status = .active || row.columns.status = .disconnected).map fun row =>
    { row.toSensor with connected := row.columns.status = .active }

def addMeasurement (sensorId measure timestamp : Int) : DatabaseCall Database Unit :=
  executeUpdate fun database =>
    { database with
      measurements := database.measurements ++ [(sensorId, measure, timestamp)] }

def getSensor (id : Int) : DatabaseCall Database Sensor := do
  let row ← executeQuery (·.hasId id)
  return row.toSensor

def revokeSensor (id : Int) : DatabaseCall Database Sensor := do
  executeUpdate (setStatus (·.hasId id) (fun columns => columns) .revoked)
  getSensor id

def disconnectSensor (id : Int) : DatabaseCall Database Sensor := do
  executeUpdate (setStatus (fun row => row.hasId id && row.notRevoked)
    (fun columns => columns) .disconnected)
  getSensor id

def connectSensor (id : Int) : DatabaseCall Database Sensor := do
  executeUpdate (setStatus (fun row => row.hasId id && row.notRevoked)
    (fun columns => columns) .active)
  getSensor id

def editSensor (id : Int) (name : ByteString) : DatabaseCall Database Sensor := do
  executeUpdate fun database =>
    { database with
      sensors := database.sensors.update (·.hasId id)
        fun columns => { columns with name := name } }
  getSensor id

def getSensorId (token : ByteString) : DatabaseCall Database Int := do
  let row ← executeQuery (·.hasToken token)
  return row.id

def getAllSensorsWithMeasurements (reports : Reports) :
    DatabaseCall Database (List Sensor) := do
  executeStatement
  return reports.latest (← get)

def getReport (report : Database → Int → List Measurement) (id : Int) :
    DatabaseCall Database SensorMeasurement := do
  executeStatement
  return { sensorId := id, measurements := report (← get) id }

def getLastHour (reports : Reports) (id : Int) : DatabaseCall Database SensorMeasurement :=
  getReport reports.lastHour id

def getLastDay (reports : Reports) (id : Int) : DatabaseCall Database SensorMeasurement :=
  getReport reports.lastDay id

def getLastMonth (reports : Reports) (id : Int) : DatabaseCall Database SensorMeasurement :=
  getReport reports.lastMonth id

/-- The connection, for texts that the statements quote as they are. -/
def plain (reports : Reports) : IDatabaseConnection Database :=
  { getAllSensors := getAllSensors
    getAllSensorsWithMeasurements := getAllSensorsWithMeasurements reports
    getLastHour := getLastHour reports
    getLastDay := getLastDay reports
    getLastMonth := getLastMonth reports
    addSensor := addSensor
    initializeSensor := initializeSensor
    getSensorId := getSensorId
    checkIfTokenExists := checkIfTokenExists
    checkIfTokenIsWhitelisted := checkIfTokenIsWhitelisted
    revokeSensor := revokeSensor
    connectSensor := connectSensor
    disconnectSensor := disconnectSensor
    editSensor := editSensor
    getSensor := getSensor
    addMeasurement := addMeasurement }

/-- A quote ends the string literal that a text is put into, and what follows
is read as SQL. -/
def quoted (text : ByteString) : Bool :=
  text.contains 39

/-- The connection.  Statements that a quote has changed are those of `rogue`,
about which nothing is known. -/
def connection (reports : Reports) (rogue : IDatabaseConnection Database) :
    IDatabaseConnection Database :=
  { plain reports with
    addSensor := fun ip port token =>
      if quoted ip || quoted token then rogue.addSensor ip port token
      else addSensor ip port token
    initializeSensor := fun token =>
      if quoted token then rogue.initializeSensor token else initializeSensor token
    getSensorId := fun token =>
      if quoted token then rogue.getSensorId token else getSensorId token
    checkIfTokenExists := fun token =>
      if quoted token then rogue.checkIfTokenExists token else checkIfTokenExists token
    checkIfTokenIsWhitelisted := fun token =>
      if quoted token then rogue.checkIfTokenIsWhitelisted token
      else checkIfTokenIsWhitelisted token
    editSensor := fun id name =>
      if quoted name then rogue.editSensor id name else editSensor id name }

section Unquoted

variable {reports : Reports} {rogue : IDatabaseConnection Database} {token : ByteString}

theorem connection_addSensor {ip : ByteString} (unquotedIp : quoted ip = false)
    (unquoted : quoted token = false) (port : Int) :
    (connection reports rogue).addSensor ip port token = addSensor ip port token := by
  simp [connection, unquotedIp, unquoted]

theorem connection_initializeSensor (unquoted : quoted token = false) :
    (connection reports rogue).initializeSensor token = initializeSensor token := by
  simp [connection, unquoted]

theorem connection_getSensorId (unquoted : quoted token = false) :
    (connection reports rogue).getSensorId token = getSensorId token := by
  simp [connection, unquoted]

theorem connection_checkIfTokenExists (unquoted : quoted token = false) :
    (connection reports rogue).checkIfTokenExists token = checkIfTokenExists token := by
  simp [connection, unquoted]

theorem connection_checkIfTokenIsWhitelisted (unquoted : quoted token = false) :
    (connection reports rogue).checkIfTokenIsWhitelisted token =
      checkIfTokenIsWhitelisted token := by
  simp [connection, unquoted]

theorem connection_editSensor {name : ByteString} (unquoted : quoted name = false) (id : Int) :
    (connection reports rogue).editSensor id name = editSensor id name := by
  simp [connection, unquoted]

end Unquoted

end DatabaseConnection

/-- Two sensors that have not connected yet, with the tokens "T" and "U". -/
def Database.sample : Database :=
  { sensors := (SensorTable.empty.insert [84] (by decide)).insert [85] (by decide) }

/-- Reports of a database without measurements. -/
def Reports.silent : Reports :=
  { latest := fun _ => []
    lastHour := fun _ _ => []
    lastDay := fun _ _ => []
    lastMonth := fun _ _ => [] }

/-- The connection to the sample database. -/
def DatabaseConnection.sample : IDatabaseConnection Database :=
  connection .silent (plain .silent)

end SensorManager
