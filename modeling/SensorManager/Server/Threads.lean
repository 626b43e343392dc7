import SensorManager.Lib.Pipeline
import SensorManager.Lib.Process
import SensorManager.Server.Run

/-!
# The threads of the server

The executors and senders, cut into the calls that they make.  A pass of an
executor that nobody interrupts is the pass of `ServerModel`; here the calls of
all threads may come in any order.
-/

namespace SensorManager

/-- The rest of a pass of an executor. -/
abbrev Pass (δ α : Type) := Process SQLException (Server δ) α

namespace Pass

open Process Server

variable {δ : Type} (database : IDatabaseConnection δ)

section Sensors

def executeSensorMeasurementRequest (clientId value timestamp : Int) (cause : Nat) :
    Pass δ Unit := do
  match (← call get).clientToSensorId clientId with
  | some sensorId => call (recordMeasurement database sensorId value (toInt32 timestamp) cause)
  | none => pure ()

def executeSensorOnConnectedRequest (clientId : Int) (ip : ByteString) (port : Int)
    (token : ByteString) (conn cause : Nat) (serverTime sent : Int) : Pass δ Unit := do
  let whitelisted ← call (callDatabase (database.checkIfTokenIsWhitelisted token))
  if whitelisted = false then
    call (modify (·.killSensor clientId killSensorIncorrectToken sent))
  else
    let sensorId ← call (callDatabase (database.getSensorId token))
    if (← call get).sensorToClientId.contains sensorId then
      call (modify (·.killSensor clientId killSensorTokenActive sent))
    else
      let sensor ← call (callDatabase (database.addSensor ip port token))
      call (modify (·.acceptSensor clientId sensor.id conn cause))
      call (modify (·.send .sensor clientId (activeMessage serverTime) sent))

def executeSensorOnDisconnectedRequest (clientId : Int) : Pass δ Unit := do
  match (← call get).clientToSensorId clientId with
  | some sensorId =>
      let _ ← call (callDatabase (database.disconnectSensor sensorId))
      call <| modify fun server =>
        { server with
          sensorToClientId := server.sensorToClientId.erase sensorId
          clientToSensorId := server.clientToSensorId.erase clientId }
  | none => pure ()

def executeSensorRequest (stamped : Stamped SensorRequest) (serverTime sent : Int) :
    Pass δ Unit :=
  match stamped.request with
  | .measurement clientId value timestamp =>
      executeSensorMeasurementRequest database clientId value timestamp stamped.cause
  | .onConnected clientId ip port token =>
      executeSensorOnConnectedRequest database clientId ip port token stamped.conn
        stamped.cause serverTime sent
  | .onDisconnected clientId => executeSensorOnDisconnectedRequest database clientId

end Sensors

section Administrators

def generateFreshToken : List (Vector Nat 15) → Pass δ ByteString
  | [] => call Exec.blocked
  | rands :: later => do
      let found ← call (callDatabase (database.checkIfTokenExists (generateToken rands)))
      if found then generateFreshToken later
      else pure (generateToken rands)

def executeAdministratorRequest (request : AdministratorRequest)
    (rands : List (Vector Nat 15)) (sent : Int) : Pass δ AdministratorResponse :=
  let response : AdministratorResponse :=
    { clientId := request.clientId, commandType := request.commandType }
  match request.commandType with
  | .getAllSensors => do
      let sensors ← call (callDatabase database.getAllSensors)
      return { response with sensors := sensors }
  | .updateSensorName => do
      let sensor ← call (callDatabase (database.editSensor request.sensorId request.sensorName))
      return { response with sensorId := sensor.id }
  | .revokeSensor => do
      let sensor ← call (callDatabase (database.revokeSensor request.sensorId))
      call (modify (·.killMapped request.sensorId killSensorRevoked sent))
      return { response with sensorId := sensor.id }
  | .disconnectSensor => do
      let sensor ← call (callDatabase (database.disconnectSensor request.sensorId))
      call (modify (·.killMapped request.sensorId killSensorDisconnected sent))
      return { response with sensorId := sensor.id }
  | .generateToken => do
      let token ← generateFreshToken database rands
      let _ ← call (callDatabase (database.initializeSensor token))
      return { response with token := token }

end Administrators

section Monitoring

def getSetOfMeasurements (request : MonitoringRequest) : Pass δ SensorMeasurement :=
  if request.type = 0 then call (callDatabase (database.getLastHour request.sensorId))
  else if request.type = 1 then call (callDatabase (database.getLastDay request.sensorId))
  else if request.type = 2 then call (callDatabase (database.getLastMonth request.sensorId))
  else pure {}

def executeMonitoringRequest (request : MonitoringRequest) : Pass δ MonitoringResponse :=
  let response : MonitoringResponse :=
    { clientId := request.clientId, commandType := request.commandType }
  match request.commandType with
  | .getAllSensorsMonitoring => do
      let sensors ← call (callDatabase database.getAllSensorsWithMeasurements)
      return { response with sensors := sensors }
  | .getSetOfMeasurements => do
      let sensorMeasurement ← getSetOfMeasurements database request
      return { response with
        measurements := sensorMeasurement.measurements
        sensorId := request.sensorId }

end Monitoring

section Uninterrupted

theorem run_executeSensorMeasurementRequest (clientId value timestamp : Int) (cause : Nat) :
    (executeSensorMeasurementRequest database clientId value timestamp cause).run =
      Server.executeSensorMeasurementRequest database clientId value timestamp cause := by
  unfold executeSensorMeasurementRequest Server.executeSensorMeasurementRequest
  rw [run_bind, run_call]
  refine bind_congr fun server => ?_
  cases server.clientToSensorId clientId with
  | none => rfl
  | some sensorId => rw [run_call]

theorem run_executeSensorOnConnectedRequest (clientId : Int) (ip : ByteString) (port : Int)
    (token : ByteString) (conn cause : Nat) (serverTime sent : Int) :
    (executeSensorOnConnectedRequest database clientId ip port token conn cause serverTime
      sent).run =
      Server.executeSensorOnConnectedRequest database clientId ip port token conn cause
        serverTime sent := by
  unfold executeSensorOnConnectedRequest Server.executeSensorOnConnectedRequest
  simp only [run_bind, run_call, run_ite]

theorem run_executeSensorOnDisconnectedRequest (clientId : Int) :
    (executeSensorOnDisconnectedRequest database clientId).run =
      Server.executeSensorOnDisconnectedRequest database clientId := by
  unfold executeSensorOnDisconnectedRequest Server.executeSensorOnDisconnectedRequest
  rw [run_bind, run_call]
  refine bind_congr fun server => ?_
  cases server.clientToSensorId clientId with
  | none => rfl
  | some sensorId => simp only [run_bind, run_call]

/-- Nobody interrupts a pass over a sensor request. -/
theorem run_executeSensorRequest (stamped : Stamped SensorRequest) (serverTime sent : Int) :
    (executeSensorRequest database stamped serverTime sent).run =
      Server.executeSensorRequest database stamped serverTime sent := by
  unfold executeSensorRequest Server.executeSensorRequest
  cases stamped.request with
  | measurement clientId value timestamp =>
      exact run_executeSensorMeasurementRequest database clientId value timestamp stamped.cause
  | onConnected clientId ip port token =>
      exact run_executeSensorOnConnectedRequest database clientId ip port token stamped.conn
        stamped.cause serverTime sent
  | onDisconnected clientId =>
      exact run_executeSensorOnDisconnectedRequest database clientId

theorem run_generateFreshToken (rands : List (Vector Nat 15)) :
    (generateFreshToken database rands).run = Server.generateFreshToken database rands := by
  induction rands with
  | nil => exact run_call _
  | cons first rands ih =>
      rw [generateFreshToken, Server.generateFreshToken]
      simp only [run_bind, run_call, run_ite, run_pure, ih]

/-- Nobody interrupts a pass over a request of an administrator. -/
theorem run_executeAdministratorRequest (request : AdministratorRequest)
    (rands : List (Vector Nat 15)) (sent : Int) :
    (executeAdministratorRequest database request rands sent).run =
      Server.executeAdministratorRequest database request rands sent := by
  unfold executeAdministratorRequest Server.executeAdministratorRequest
  cases request.commandType with
  | getAllSensors | updateSensorName | revokeSensor | disconnectSensor | generateToken =>
      simp only [run_bind, run_call, run_pure, run_generateFreshToken]

theorem run_getSetOfMeasurements (request : MonitoringRequest) :
    (getSetOfMeasurements database request).run =
      Server.getSetOfMeasurements database request := by
  unfold getSetOfMeasurements Server.getSetOfMeasurements
  simp only [run_call, run_ite, run_pure]

/-- Nobody interrupts a pass over a request for the monitors. -/
theorem run_executeMonitoringRequest (request : MonitoringRequest) :
    (executeMonitoringRequest database request).run =
      Server.executeMonitoringRequest database request := by
  unfold executeMonitoringRequest Server.executeMonitoringRequest
  cases request.commandType with
  | getAllSensorsMonitoring | getSetOfMeasurements =>
      simp only [run_bind, run_call, run_pure, run_getSetOfMeasurements]

end Uninterrupted

end Pass

/-- The two queues between the network thread, the executor and the sender of a
channel.  `hand` passes a message to the listener. -/
structure Lane (δ κ α : Type) where
  requests : Server δ → List (Stamped κ)
  responses : Server δ → List (Stamped α)
  setRequests : Server δ → List (Stamped κ) → Server δ
  setResponses : Server δ → List (Stamped α) → Server δ
  clientId : α → Int
  hand : Server δ → α → Int → Server δ
  requests_setRequests : ∀ server queue, requests (setRequests server queue) = queue
  responses_setRequests : ∀ server queue,
    responses (setRequests server queue) = responses server
  requests_setResponses : ∀ server queue,
    requests (setResponses server queue) = requests server
  responses_setResponses : ∀ server queue, responses (setResponses server queue) = queue
  requests_hand : ∀ server response sent,
    requests (hand server response sent) = requests server
  responses_hand : ∀ server response sent,
    responses (hand server response sent) = responses server

/-- An executor and a sender.  The lists are not part of the program: the
requests that were pushed, what has become of those executed, and the responses
that the listener was given. -/
structure Side (δ κ α : Type) : Type 1 where
  executor : Option (Stamped κ × Pass δ α) := none
  sender : Option (Stamped α) := none
  asked : List (Stamped κ) := []
  finished : List (Stamped κ × Except SQLException (Stamped α)) := []
  handed : List (Stamped α) := []

namespace Side

variable {δ κ α : Type} (lane : Lane δ κ α)

/-- `pop` of the executor. -/
def take (execute : Stamped κ → Pass δ α) (side : Side δ κ α) (server : Server δ) :
    Option (Side δ κ α × Server δ) :=
  match side.executor, lane.requests server with
  | none, stamped :: queue =>
      some ({ side with executor := some (stamped, execute stamped) },
        lane.setRequests server queue)
  | _, _ => none

/-- The next call of the executor.  At the end of a pass it pushes the response,
or catches what was thrown. -/
def execute (side : Side δ κ α) (server : Server δ) : Option (Side δ κ α × Server δ) :=
  match side.executor with
  | none => none
  | some (stamped, .ended (.ok value)) =>
      let response : Stamped α := { stamped with request := value }
      some ({ side with
          executor := none
          finished := side.finished ++ [(stamped, .ok response)] },
        lane.setResponses server (lane.responses server ++ [response]))
  | some (stamped, .ended (.error error)) =>
      some ({ side with
          executor := none
          finished := side.finished ++ [(stamped, .error error)] }, server)
  | some (stamped, process) =>
      (process.step server).map fun stepped =>
        ({ side with executor := some (stamped, stepped.1) }, stepped.2)

/-- `pop` of the sender. -/
def pick (side : Side δ κ α) (server : Server δ) : Option (Side δ κ α × Server δ) :=
  match side.sender, lane.responses server with
  | none, response :: queue =>
      some ({ side with sender := some response }, lane.setResponses server queue)
  | _, _ => none

/-- The sender gives the listener its response, if it is for a client. -/
def hand (sent : Int) (side : Side δ κ α) (server : Server δ) :
    Option (Side δ κ α × Server δ) :=
  match side.sender with
  | none => none
  | some response =>
      if lane.clientId response.request ≠ -1 then
        some ({ side with sender := none, handed := side.handed ++ [response] },
          lane.hand server response.request sent)
      else some ({ side with sender := none }, server)

/-- The network thread has pushed what is new in the queue. -/
def pushed (side : Side δ κ α) (before after : Server δ) : Side δ κ α :=
  { side with
    asked := side.asked ++ (lane.requests after).drop (lane.requests before).length }

end Side

def administratorLane (δ : Type) : Lane δ AdministratorRequest AdministratorResponse where
  requests := (·.administratorRequestsQueue)
  responses := (·.administratorResponsesQueue)
  setRequests server queue := { server with administratorRequestsQueue := queue }
  setResponses server queue := { server with administratorResponsesQueue := queue }
  clientId := (·.clientId)
  hand server response sent :=
    server.send .administrator response.clientId
      (SerializerAdministratorMessage.serializeResponseMessage response) sent
  requests_setRequests _ _ := rfl
  responses_setRequests _ _ := rfl
  requests_setResponses _ _ := rfl
  responses_setResponses _ _ := rfl
  requests_hand := by
    intro server response sent
    unfold Server.send
    dsimp only
    split <;> rfl
  responses_hand := by
    intro server response sent
    unfold Server.send
    dsimp only
    split <;> rfl

def monitoringLane (δ : Type) : Lane δ MonitoringRequest MonitoringResponse where
  requests := (·.monitoringRequestsQueue)
  responses := (·.monitoringResponsesQueue)
  setRequests server queue := { server with monitoringRequestsQueue := queue }
  setResponses server queue := { server with monitoringResponsesQueue := queue }
  clientId := (·.clientId)
  hand server response sent :=
    server.send .monitoring response.clientId
      (SerializerMonitoringMessage.serializeResponseMessage response) sent
  requests_setRequests _ _ := rfl
  responses_setRequests _ _ := rfl
  requests_setResponses _ _ := rfl
  responses_setResponses _ _ := rfl
  requests_hand := by
    intro server response sent
    unfold Server.send
    dsimp only
    split <;> rfl
  responses_hand := by
    intro server response sent
    unfold Server.send
    dsimp only
    split <;> rfl

/-- The server and where its threads stand. -/
structure Threads (δ : Type) : Type 1 where
  server : Server δ
  sensorExecutor : Option (Pass δ Unit) := none
  administrators : Side δ AdministratorRequest AdministratorResponse := {}
  monitoring : Side δ MonitoringRequest MonitoringResponse := {}

/-- What one thread does next. -/
inductive ThreadLabel where
  | network (label : Label)
  | takeSensor (serverTime sent : Int)
  | executeSensor
  | takeAdministrator (rands : List (Vector Nat 15)) (sent : Int)
  | executeAdministrator
  | pickAdministrator
  | handAdministrator (sent : Int)
  | takeMonitoring
  | executeMonitoring
  | pickMonitoring
  | handMonitoring (sent : Int)

/-- A step of a network thread. -/
def Label.isNetwork : Label → Bool
  | .accept .. | .lost .. | .sensorFrame .. | .administratorFrame .. | .monitoringFrame .. => true
  | _ => false

namespace Threads

variable {δ : Type} (database : IDatabaseConnection δ)

def start (database : δ) : Threads δ :=
  { server := .start database }

def network (label : Label) (threads : Threads δ) : Option (Threads δ) :=
  if label.isNetwork then
    match (Server.step database label).runOn threads.server with
    | some (.ok (), after) =>
        some { threads with
          server := after
          administrators :=
            threads.administrators.pushed (administratorLane δ) threads.server after
          monitoring := threads.monitoring.pushed (monitoringLane δ) threads.server after }
    | _ => none
  else none

/-- `pop` of the executor of sensor requests. -/
def takeSensor (serverTime sent : Int) (threads : Threads δ) : Option (Threads δ) :=
  match threads.sensorExecutor, threads.server.sensorRequestsQueue with
  | none, stamped :: queue =>
      some { threads with
        server := { threads.server with sensorRequestsQueue := queue }
        sensorExecutor := some (Pass.executeSensorRequest database stamped serverTime sent) }
  | _, _ => none

/-- The next call of the executor of sensor requests, or the end of a pass. -/
def executeSensor (threads : Threads δ) : Option (Threads δ) :=
  match threads.sensorExecutor with
  | none => none
  | some (.ended _) => some { threads with sensorExecutor := none }
  | some process =>
      (process.step threads.server).map fun stepped =>
        { threads with server := stepped.2, sensorExecutor := some stepped.1 }

def onAdministrators
    (change : Side δ AdministratorRequest AdministratorResponse → Server δ →
      Option (Side δ AdministratorRequest AdministratorResponse × Server δ))
    (threads : Threads δ) : Option (Threads δ) :=
  (change threads.administrators threads.server).map fun changed =>
    { threads with administrators := changed.1, server := changed.2 }

def onMonitoring
    (change : Side δ MonitoringRequest MonitoringResponse → Server δ →
      Option (Side δ MonitoringRequest MonitoringResponse × Server δ))
    (threads : Threads δ) : Option (Threads δ) :=
  (change threads.monitoring threads.server).map fun changed =>
    { threads with monitoring := changed.1, server := changed.2 }

def step : ThreadLabel → Threads δ → Option (Threads δ)
  | .network label => network database label
  | .takeSensor serverTime sent => takeSensor database serverTime sent
  | .executeSensor => executeSensor
  | .takeAdministrator rands sent =>
      onAdministrators <| Side.take (administratorLane δ) fun stamped =>
        Pass.executeAdministratorRequest database stamped.request rands sent
  | .executeAdministrator => onAdministrators (Side.execute (administratorLane δ))
  | .pickAdministrator => onAdministrators (Side.pick (administratorLane δ))
  | .handAdministrator sent => onAdministrators (Side.hand (administratorLane δ) sent)
  | .takeMonitoring =>
      onMonitoring <| Side.take (monitoringLane δ) fun stamped =>
        Pass.executeMonitoringRequest database stamped.request
  | .executeMonitoring => onMonitoring (Side.execute (monitoringLane δ))
  | .pickMonitoring => onMonitoring (Side.pick (monitoringLane δ))
  | .handMonitoring sent => onMonitoring (Side.hand (monitoringLane δ) sent)

/-- The states that any order of the threads' calls leads to. -/
inductive Reachable (initial : Threads δ) : Threads δ → Prop
  | start : Reachable initial initial
  | next {threads after : Threads δ} (label : ThreadLabel)
      (reachable : Reachable initial threads)
      (stepped : step database label threads = some after) : Reachable initial after

theorem Reachable.keeps {database : IDatabaseConnection δ} {initial threads : Threads δ}
    (reachable : Reachable database initial threads) (inv : Threads δ → Prop)
    (holds : inv initial)
    (keeps : ∀ label before after, step database label before = some after → inv before →
      inv after) : inv threads := by
  induction reachable with
  | start => exact holds
  | next label _ stepped ih => exact keeps label _ _ stepped ih

/-- The calls are made one after the other. -/
def play (database : IDatabaseConnection δ) : List ThreadLabel → Threads δ → Option (Threads δ)
  | [], threads => some threads
  | label :: labels, threads => (step database label threads).bind (play database labels)

theorem Reachable.of_play {database : IDatabaseConnection δ} {labels : List ThreadLabel}
    {initial threads after : Threads δ} (reachable : Reachable database initial threads)
    (played : play database labels threads = some after) :
    Reachable database initial after := by
  induction labels generalizing threads with
  | nil =>
      cases played
      exact reachable
  | cons label labels ih =>
      obtain ⟨middle, stepped, goesOn⟩ := Option.bind_eq_some_iff.mp played
      exact ih (reachable.next label stepped) goesOn

end Threads

end SensorManager
