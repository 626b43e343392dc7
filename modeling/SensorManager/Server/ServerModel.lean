import SensorManager.Common.OutBuffers
import SensorManager.Server.DatabaseConnection
import SensorManager.Server.Serializers

/-!
# The server model

The state that the threads of the server share, the callbacks of the
listeners, and one pass of each executor loop.  Database calls are those of
any `IDatabaseConnection`.

Three things are recorded that the program does not know: every request carries
the number of the connection it came from, `log` lists what has happened on the
connections so far, and `taken` the bytes that their sockets have taken.
-/

namespace SensorManager

inductive Channel where
  | sensor
  | administrator
  | monitoring
  deriving DecidableEq, Repr

/-- A queued item, with the connection it came from or answers, and the length
of the log when it came about. -/
structure Stamped (α : Type) where
  request : α
  conn : Nat
  cause : Nat
  deriving DecidableEq, Repr

/-- `received` is a frame from a sensor, `accepted` the acceptance of an init
frame, `addMeasurement` a call of the database, `sent` a message put in the
output buffer of a connection and `closed` the end of a connection.  A `cause`
is the position of the frame in the log. -/
inductive Effect where
  | received (conn : Nat) (msg : ByteString)
  | accepted (conn : Nat) (sensorId : Int) (cause : Nat)
  | addMeasurement (sensorId measure timestamp : Int) (cause : Nat)
  | sent (channel : Channel) (conn : Nat) (msg : ByteString)
  | closed (channel : Channel) (conn : Nat)
  deriving DecidableEq, Repr

/-- `std::unordered_map<int, int>`. -/
abbrev IntMap := Int → Option Int

namespace IntMap

def empty : IntMap :=
  fun _ => none

def contains (map : IntMap) (key : Int) : Bool :=
  (map key).isSome

def insert (map : IntMap) (key value : Int) : IntMap :=
  Function.update map key (some value)

def erase (map : IntMap) (key : Int) : IntMap :=
  Function.update map key none

/-- `operator[]` used for reading: a missing key is inserted with the value 0. -/
def subscript (map : IntMap) (key : Int) : Int × IntMap :=
  match map key with
  | some value => (value, map)
  | none => (0, map.insert key 0)

theorem contains_eq_false {map : IntMap} {key : Int} :
    map.contains key = false ↔ map key = none := by
  simp [contains]

theorem contains_eq_true {map : IntMap} {key : Int} :
    map.contains key = true ↔ ∃ value, map key = some value :=
  Option.isSome_iff_exists

@[simp] theorem insert_same (map : IntMap) (key value : Int) :
    map.insert key value key = some value := by
  simp [insert]

theorem insert_other (map : IntMap) {key other : Int} (different : other ≠ key)
    (value : Int) : map.insert key value other = map other := by
  simp [insert, different]

@[simp] theorem erase_same (map : IntMap) (key : Int) : map.erase key key = none := by
  simp [erase]

theorem erase_other (map : IntMap) {key other : Int} (different : other ≠ key) :
    map.erase key other = map other := by
  simp [erase, different]

/-- What an erased map still holds. -/
theorem of_erase {map : IntMap} {key other value : Int}
    (found : map.erase key other = some value) : other ≠ key ∧ map other = some value := by
  by_cases same : other = key
  · simp [same] at found
  · rw [erase_other map same] at found
    exact ⟨same, found⟩

/-- What a map holds after an insertion. -/
theorem of_insert {map : IntMap} {key value other found : Int}
    (isFound : map.insert key value other = some found) :
    other = key ∧ found = value ∨ other ≠ key ∧ map other = some found := by
  by_cases same : other = key
  · subst same
    rw [insert_same] at isFound
    exact .inl ⟨rfl, (Option.some.inj isFound).symm⟩
  · rw [insert_other map same] at isFound
    exact .inr ⟨same, isFound⟩

end IntMap

structure Server (δ : Type) where
  handlers : Channel → ServingHandler
  sensorRequestsQueue : List (Stamped SensorRequest)
  administratorRequestsQueue : List (Stamped AdministratorRequest)
  monitoringRequestsQueue : List (Stamped MonitoringRequest)
  administratorResponsesQueue : List (Stamped AdministratorResponse)
  monitoringResponsesQueue : List (Stamped MonitoringResponse)
  clientToSensorId : IntMap
  sensorToClientId : IntMap
  database : δ
  connections : Nat
  log : List Effect
  taken : Channel → Nat → List UInt8

variable {δ : Type}

namespace Server

/-- The server before its first connection. -/
def start (database : δ) : Server δ :=
  { handlers := fun _ => ⟨.create, ClientsHandler.serving_create 100⟩
    sensorRequestsQueue := []
    administratorRequestsQueue := []
    monitoringRequestsQueue := []
    administratorResponsesQueue := []
    monitoringResponsesQueue := []
    clientToSensorId := .empty
    sensorToClientId := .empty
    database := database
    connections := 0
    log := []
    taken := fun _ _ => [] }

def handler (server : Server δ) (channel : Channel) : ClientsHandler :=
  (server.handlers channel).val

/-- The connection that holds a slot of a channel. -/
def holder (server : Server δ) (channel : Channel) (slot : Int) : Option Nat :=
  (server.handler channel).holder slot

def setHandler (server : Server δ) (channel : Channel) (handler : ServingHandler) :
    Server δ :=
  { server with handlers := Function.update server.handlers channel handler }

/-- What a socket takes is noted for whoever holds the slot. -/
def socketTook (server : Server δ) (channel : Channel) (slot : Int) (bytes : List UInt8) :
    Server δ :=
  { server with
    taken := Function.update server.taken channel
      ((server.handler channel).addTo (server.taken channel) slot bytes) }

def record (server : Server δ) (effect : Effect) : Server δ :=
  { server with log := server.log ++ [effect] }

def addSensorRequestToExecute (server : Server δ) (request : Stamped SensorRequest) :
    Server δ :=
  { server with sensorRequestsQueue := server.sensorRequestsQueue ++ [request] }

def addAdministratorRequestToExecute (server : Server δ)
    (request : Stamped AdministratorRequest) : Server δ :=
  { server with
    administratorRequestsQueue := server.administratorRequestsQueue ++ [request] }

def addMonitoringRequestToExecute (server : Server δ)
    (request : Stamped MonitoringRequest) : Server δ :=
  { server with monitoringRequestsQueue := server.monitoringRequestsQueue ++ [request] }

def addAdministratorResponseToSend (server : Server δ)
    (response : Stamped AdministratorResponse) : Server δ :=
  { server with
    administratorResponsesQueue := server.administratorResponsesQueue ++ [response] }

def addMonitoringResponseToSend (server : Server δ)
    (response : Stamped MonitoringResponse) : Server δ :=
  { server with
    monitoringResponsesQueue := server.monitoringResponsesQueue ++ [response] }

/-- `IRequestListener::send`; `sent` is the result of `socket_send`. -/
def send (server : Server δ) (channel : Channel) (clientId : Int) (msg : ByteString)
    (sent : Int) : Server δ :=
  let handler := server.handlers channel
  let called := handler.val.send clientId msg sent
  let bytes := (handler.val.clientHandlers clientId).takenOfMsg msg sent
  let server := (server.socketTook channel clientId bytes).setHandler channel
    ⟨called.2, handler.property.send clientId msg sent⟩
  if called.1 = 0 then
    server.record (.sent channel (handler.val.clientHandlers clientId).conn msg)
  else server

/-- The sensor listener queues a request when a client is gone, the other two
do nothing. -/
def onClientDisconnected (server : Server δ) (channel : Channel) (clientId : Int)
    (conn cause : Nat) : Server δ :=
  match channel with
  | .sensor =>
      server.addSensorRequestToExecute
        { request := .onDisconnected clientId, conn := conn, cause := cause }
  | .administrator => server
  | .monitoring => server

/-- `IRequestListener::disconnectClient`. -/
def disconnectClient (server : Server δ) (channel : Channel) (clientId : Int) :
    Server δ :=
  let handler := server.handlers channel
  let called := handler.val.disconnectClient clientId
  let conn := (handler.val.clientHandlers clientId).conn
  let disconnected :=
    server.setHandler channel ⟨called.1, handler.property.disconnectClient clientId⟩
  match called.2 with
  | none => disconnected
  | some gone =>
      (disconnected.record (.closed channel conn)).onClientDisconnected channel gone conn
        server.log.length

def killSensorRevoked : Int := 1
def killSensorDisconnected : Int := 2
def killSensorIncorrectToken : Int := 3
def killSensorTokenActive : Int := 4

/-- The 'r' frame. -/
def killMessage (reason : Int) : ByteString :=
  BytesParser.appendBytes 4 (BytesParser.appendBytes 1 [] 114) reason

/-- The 'a' frame. -/
def activeMessage (serverTime : Int) : ByteString :=
  BytesParser.appendBytes 8 (BytesParser.appendBytes 1 [] 97) serverTime

def killSensor (server : Server δ) (clientId reason sent : Int) : Server δ :=
  (server.send .sensor clientId (killMessage reason) sent).disconnectClient
    .sensor clientId

/-- What REVOKE_SENSOR and DISCONNECT_SENSOR do to the sessions of a sensor. -/
def killMapped (server : Server δ) (sensorId reason sent : Int) : Server δ :=
  let found := server.sensorToClientId.subscript sensorId
  let killed :=
    { server with sensorToClientId := found.2 }.killSensor found.1 reason sent
  { killed with sensorToClientId := killed.sensorToClientId.erase sensorId }

end Server

namespace SensorListener

open Server

/-- The acknowledgement of a measurement. -/
def measureAnswer (timestamp : Int) : ByteString :=
  BytesParser.appendBytes 8 (BytesParser.appendBytes 1 [] 49) timestamp

/-- The timestamp in milliseconds of an 'm' frame. -/
def measureTimestamp (msg : ByteString) (beyond : BytesParser.Memory) : Int :=
  BytesParser.parse 8 msg 1 beyond

def measureValue (msg : ByteString) (beyond : BytesParser.Memory) : Int :=
  BytesParser.parse 4 msg 9 beyond

def handleMeasureMsg (server : Server δ) (clientId : Int) (msg : ByteString)
    (beyond : BytesParser.Memory) (sent : Int) (conn cause : Nat) : Server δ :=
  let timestamp64 := measureTimestamp msg beyond
  let value := measureValue msg beyond
  let timestamp := timestamp64.tdiv 1000
  (server.send .sensor clientId (measureAnswer timestamp64) sent).addSensorRequestToExecute
    { request := .measurement clientId value timestamp, conn := conn, cause := cause }

def handleInitMsg (server : Server δ) (clientId : Int) (msg : ByteString)
    (conn cause : Nat) : Server δ :=
  let handler := server.handler .sensor
  server.addSensorRequestToExecute
    { request := .onConnected clientId (handler.getIp clientId) (handler.getPort clientId)
        (msg.drop 1)
      conn := conn
      cause := cause }

/-- `onGotRequest`, for a frame received on connection `conn` and logged at
`cause`. -/
def onGotRequest (server : Server δ) (clientId : Int) (msg : ByteString)
    (beyond : BytesParser.Memory) (sent : Int) (conn cause : Nat) : Server δ :=
  match BytesParser.parse 1 msg 0 beyond with
  | 109 => handleMeasureMsg server clientId msg beyond sent conn cause
  | 105 => handleInitMsg server clientId msg conn cause
  | _ => server.disconnectClient .sensor clientId

end SensorListener

/-- A pass of an executor: `blocked` while its queue is empty, and ended early
by what a database call throws. -/
abbrev Handler (δ : Type) := Exec SQLException (Server δ)

namespace Server

/-- Conversion to a 32 bit integer. -/
def toInt32 (value : Int) : Int :=
  Int.bmod value (2 ^ 32)

def callDatabase {α : Type} (call : DatabaseCall δ α) : Handler δ α :=
  Exec.zoom database (fun server database => { server with database := database }) call

section Sensors

variable (database : IDatabaseConnection δ)

/-- The call of `addMeasurement`, which is logged. -/
def recordMeasurement (sensorId value timestamp : Int) (cause : Nat) : Handler δ Unit := do
  modify (·.record (.addMeasurement sensorId value timestamp cause))
  callDatabase (database.addMeasurement sensorId value timestamp)

theorem recordMeasurement_eq_some {sensorId value timestamp : Int} {cause : Nat}
    {server after : Server δ} {result : Except SQLException Unit} :
    (recordMeasurement database sensorId value timestamp cause).runOn server =
        some (result, after) ↔
      ∃ changed, (database.addMeasurement sensorId value timestamp).runOn server.database =
          some (result, changed) ∧
        after = { server.record (.addMeasurement sensorId value timestamp cause) with
          database := changed } := by
  unfold recordMeasurement
  rw [Exec.runOn_modify_bind]
  exact Exec.runOn_zoom_eq_some

def executeSensorMeasurementRequest (clientId value timestamp : Int) (cause : Nat) :
    Handler δ Unit := do
  match (← get).clientToSensorId clientId with
  | some sensorId => recordMeasurement database sensorId value (toInt32 timestamp) cause
  | none => pure ()

/-- The acceptance of a sensor: both maps are written. -/
def acceptSensor (server : Server δ) (clientId sensorId : Int) (conn cause : Nat) :
    Server δ :=
  { server with
    clientToSensorId := server.clientToSensorId.insert clientId sensorId
    sensorToClientId := server.sensorToClientId.insert sensorId clientId
    log := server.log ++ [.accepted conn sensorId cause] }

def executeSensorOnConnectedRequest (clientId : Int) (ip : ByteString) (port : Int)
    (token : ByteString) (conn cause : Nat) (serverTime sent : Int) : Handler δ Unit := do
  let whitelisted ← callDatabase (database.checkIfTokenIsWhitelisted token)
  if whitelisted = false then
    modify (·.killSensor clientId killSensorIncorrectToken sent)
  else
    let sensorId ← callDatabase (database.getSensorId token)
    if (← get).sensorToClientId.contains sensorId then
      modify (·.killSensor clientId killSensorTokenActive sent)
    else
      let sensor ← callDatabase (database.addSensor ip port token)
      modify (·.acceptSensor clientId sensor.id conn cause)
      modify (·.send .sensor clientId (activeMessage serverTime) sent)

def executeSensorOnDisconnectedRequest (clientId : Int) : Handler δ Unit := do
  match (← get).clientToSensorId clientId with
  | some sensorId =>
      let _ ← callDatabase (database.disconnectSensor sensorId)
      modify fun server =>
        { server with
          sensorToClientId := server.sensorToClientId.erase sensorId
          clientToSensorId := server.clientToSensorId.erase clientId }
  | none => pure ()

/-- `executeSensorRequest`. -/
def executeSensorRequest (stamped : Stamped SensorRequest) (serverTime sent : Int) :
    Handler δ Unit :=
  match stamped.request with
  | .measurement clientId value timestamp =>
      executeSensorMeasurementRequest database clientId value timestamp stamped.cause
  | .onConnected clientId ip port token =>
      executeSensorOnConnectedRequest database clientId ip port token stamped.conn
        stamped.cause serverTime sent
  | .onDisconnected clientId =>
      executeSensorOnDisconnectedRequest database clientId

/-- One pass of `executeSensorRequests`. -/
def executeSensorRequests (serverTime sent : Int) : Handler δ Unit := do
  match (← get).sensorRequestsQueue with
  | [] => Exec.blocked
  | stamped :: queue =>
      modify fun server => { server with sensorRequestsQueue := queue }
      executeSensorRequest database stamped serverTime sent

end Sensors

section Administrators

variable (database : IDatabaseConnection δ)

/-- The letters and digits of a token. -/
def alphanum : ByteString :=
  (List.range 10).map (fun digit => UInt8.ofNat (48 + digit)) ++
    (List.range 26).map (fun letter => UInt8.ofNat (65 + letter)) ++
    (List.range 26).map (fun letter => UInt8.ofNat (97 + letter))

/-- A token from fifteen results of `rand`. -/
def generateToken (rands : Vector Nat 15) : ByteString :=
  rands.toList.map fun rand => alphanum.getD (rand % 62) 0

/-- Tokens are drawn until one does not exist yet. -/
def generateFreshToken : List (Vector Nat 15) → Handler δ ByteString
  | [] => Exec.blocked
  | rands :: later => do
      let found ← callDatabase (database.checkIfTokenExists (generateToken rands))
      if found then generateFreshToken later
      else pure (generateToken rands)

/-- The `switch` of `executeAdministratorRequests`. -/
def executeAdministratorRequest (request : AdministratorRequest)
    (rands : List (Vector Nat 15)) (sent : Int) : Handler δ AdministratorResponse :=
  let response : AdministratorResponse :=
    { clientId := request.clientId, commandType := request.commandType }
  match request.commandType with
  | .getAllSensors => do
      let sensors ← callDatabase database.getAllSensors
      return { response with sensors := sensors }
  | .updateSensorName => do
      let sensor ← callDatabase (database.editSensor request.sensorId request.sensorName)
      return { response with sensorId := sensor.id }
  | .revokeSensor => do
      let sensor ← callDatabase (database.revokeSensor request.sensorId)
      modify (·.killMapped request.sensorId killSensorRevoked sent)
      return { response with sensorId := sensor.id }
  | .disconnectSensor => do
      let sensor ← callDatabase (database.disconnectSensor request.sensorId)
      modify (·.killMapped request.sensorId killSensorDisconnected sent)
      return { response with sensorId := sensor.id }
  | .generateToken => do
      let token ← generateFreshToken database rands
      let _ ← callDatabase (database.initializeSensor token)
      return { response with token := token }

/-- One pass of `executeAdministratorRequests`. -/
def executeAdministratorRequests (rands : List (Vector Nat 15)) (sent : Int) :
    Handler δ Unit := do
  match (← get).administratorRequestsQueue with
  | [] => Exec.blocked
  | stamped :: queue =>
      modify fun server => { server with administratorRequestsQueue := queue }
      let response ← executeAdministratorRequest database stamped.request rands sent
      modify (·.addAdministratorResponseToSend { stamped with request := response })

end Administrators

/-- One pass of `sendAdministratorResponse`. -/
def sendAdministratorResponse (sent : Int) : Handler δ Unit := do
  match (← get).administratorResponsesQueue with
  | [] => Exec.blocked
  | stamped :: queue =>
      modify fun server => { server with administratorResponsesQueue := queue }
      if stamped.request.clientId ≠ -1 then
        modify (·.send .administrator stamped.request.clientId
          (SerializerAdministratorMessage.serializeResponseMessage stamped.request) sent)

section Monitoring

variable (database : IDatabaseConnection δ)

/-- The measurements of one request for a set of measurements. -/
def getSetOfMeasurements (request : MonitoringRequest) : Handler δ SensorMeasurement :=
  if request.type = 0 then callDatabase (database.getLastHour request.sensorId)
  else if request.type = 1 then callDatabase (database.getLastDay request.sensorId)
  else if request.type = 2 then callDatabase (database.getLastMonth request.sensorId)
  else pure {}

def executeMonitoringRequest (request : MonitoringRequest) :
    Handler δ MonitoringResponse :=
  let response : MonitoringResponse :=
    { clientId := request.clientId, commandType := request.commandType }
  match request.commandType with
  | .getAllSensorsMonitoring => do
      let sensors ← callDatabase database.getAllSensorsWithMeasurements
      return { response with sensors := sensors }
  | .getSetOfMeasurements => do
      let sensorMeasurement ← getSetOfMeasurements database request
      return { response with
        measurements := sensorMeasurement.measurements
        sensorId := request.sensorId }

/-- One pass of `executeMonitoringRequests`. -/
def executeMonitoringRequests : Handler δ Unit := do
  match (← get).monitoringRequestsQueue with
  | [] => Exec.blocked
  | stamped :: queue =>
      modify fun server => { server with monitoringRequestsQueue := queue }
      let response ← executeMonitoringRequest database stamped.request
      modify (·.addMonitoringResponseToSend { stamped with request := response })

end Monitoring

/-- One pass of `sendMonitoringResponse`. -/
def sendMonitoringResponse (sent : Int) : Handler δ Unit := do
  match (← get).monitoringResponsesQueue with
  | [] => Exec.blocked
  | stamped :: queue =>
      modify fun server => { server with monitoringResponsesQueue := queue }
      if stamped.request.clientId ≠ -1 then
        modify (·.send .monitoring stamped.request.clientId
          (SerializerMonitoringMessage.serializeResponseMessage stamped.request) sent)

end Server

end SensorManager
