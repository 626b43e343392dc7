import SensorManager.Server.Threads

/-!
# What the calls of the threads do

Every call of a pass either sends something to the database or works on the
clients and the sessions.  Nothing but `generateToken` inserts a row.  The
network threads do not know of the database.
-/

namespace SensorManager

open Process

variable {δ α : Type}

/-- The calls of the database without `initializeSensor`. -/
inductive IDatabaseConnection.Sends (database : IDatabaseConnection δ) :
    {α : Type} → DatabaseCall δ α → Prop
  | getAllSensors : Sends database database.getAllSensors
  | getAllSensorsWithMeasurements : Sends database database.getAllSensorsWithMeasurements
  | getLastHour (id : Int) : Sends database (database.getLastHour id)
  | getLastDay (id : Int) : Sends database (database.getLastDay id)
  | getLastMonth (id : Int) : Sends database (database.getLastMonth id)
  | addSensor (ip : ByteString) (port : Int) (token : ByteString) :
      Sends database (database.addSensor ip port token)
  | getSensorId (token : ByteString) : Sends database (database.getSensorId token)
  | checkIfTokenExists (token : ByteString) :
      Sends database (database.checkIfTokenExists token)
  | checkIfTokenIsWhitelisted (token : ByteString) :
      Sends database (database.checkIfTokenIsWhitelisted token)
  | revokeSensor (id : Int) : Sends database (database.revokeSensor id)
  | disconnectSensor (id : Int) : Sends database (database.disconnectSensor id)
  | editSensor (id : Int) (name : ByteString) : Sends database (database.editSensor id name)
  | addMeasurement (sensorId measure timestamp : Int) :
      Sends database (database.addMeasurement sensorId measure timestamp)

namespace Server

/-- The queues of the administrators and the monitors are the same. -/
structure SameQueues (before after : Server δ) : Prop where
  administratorRequests : after.administratorRequestsQueue = before.administratorRequestsQueue
  administratorResponses :
    after.administratorResponsesQueue = before.administratorResponsesQueue
  monitoringRequests : after.monitoringRequestsQueue = before.monitoringRequestsQueue
  monitoringResponses : after.monitoringResponsesQueue = before.monitoringResponsesQueue

/-- The database is the same, too. -/
structure Quiet (before after : Server δ) : Prop extends SameQueues before after where
  database : after.database = before.database

theorem Quiet.refl (server : Server δ) : Quiet server server :=
  ⟨⟨rfl, rfl, rfl, rfl⟩, rfl⟩

theorem Quiet.trans {first second third : Server δ} (left : Quiet first second)
    (right : Quiet second third) : Quiet first third :=
  ⟨⟨right.administratorRequests.trans left.administratorRequests,
    right.administratorResponses.trans left.administratorResponses,
    right.monitoringRequests.trans left.monitoringRequests,
    right.monitoringResponses.trans left.monitoringResponses⟩,
    right.database.trans left.database⟩

theorem quiet_send (server : Server δ) (channel : Channel) (clientId : Int)
    (msg : ByteString) (sent : Int) : Quiet server (server.send channel clientId msg sent) := by
  unfold send
  dsimp only
  split <;> exact ⟨⟨rfl, rfl, rfl, rfl⟩, rfl⟩

theorem quiet_disconnectClient (server : Server δ) (channel : Channel) (clientId : Int) :
    Quiet server (server.disconnectClient channel clientId) := by
  unfold disconnectClient onClientDisconnected
  dsimp only
  split
  · exact ⟨⟨rfl, rfl, rfl, rfl⟩, rfl⟩
  · cases channel <;> exact ⟨⟨rfl, rfl, rfl, rfl⟩, rfl⟩

theorem quiet_killSensor (server : Server δ) (clientId reason sent : Int) :
    Quiet server (server.killSensor clientId reason sent) :=
  (quiet_send server .sensor clientId _ sent).trans (quiet_disconnectClient _ .sensor clientId)

theorem quiet_killMapped (server : Server δ) (sensorId reason sent : Int) :
    Quiet server (server.killMapped sensorId reason sent) := by
  unfold killMapped
  have killed := quiet_killSensor
    { server with sensorToClientId := (server.sensorToClientId.subscript sensorId).2 }
    (server.sensorToClientId.subscript sensorId).1 reason sent
  exact ⟨⟨killed.1.1, killed.1.2, killed.1.3, killed.1.4⟩, killed.2⟩

/-- One call of a pass that does not insert a row. -/
inductive Acts (database : IDatabaseConnection δ) (before after : Server δ) : Prop
  | quiet (quiet : Quiet before after)
  | sends {α : Type} {call : DatabaseCall δ α} {result : Except SQLException α}
      (sends : database.Sends call)
      (ran : call.runOn before.database = some (result, after.database))
      (same : SameQueues before after)

theorem Acts.sameQueues {database : IDatabaseConnection δ} {before after : Server δ}
    (acts : Acts database before after) : SameQueues before after := by
  cases acts with
  | quiet quiet => exact quiet.toSameQueues
  | sends _ _ same => exact same

end Server

namespace Pass

open Server

variable {database : IDatabaseConnection δ}

theorem always_sends {call : DatabaseCall δ α} (sends : database.Sends call) :
    Always (Acts database) (Process.call (callDatabase call)) := by
  apply always_call
  intro before result after ran
  obtain ⟨changed, queried, rfl⟩ := Exec.runOn_zoom_eq_some.mp ran
  exact .sends sends queried ⟨rfl, rfl, rfl, rfl⟩

theorem always_modify {change : Server δ → Server δ}
    (quiet : ∀ server, Quiet server (change server)) :
    Always (Acts database) (Process.call (modify change) : Pass δ Unit) := by
  apply always_call
  intro before result after ran
  cases ran
  exact .quiet (quiet before)

theorem always_get : Always (Acts database) (Process.call get : Pass δ (Server δ)) := by
  apply always_call
  intro before result after ran
  cases ran
  exact .quiet (.refl before)

theorem always_executeSensorRequest (stamped : Stamped SensorRequest) (serverTime sent : Int) :
    Always (Acts database) (executeSensorRequest database stamped serverTime sent) := by
  unfold executeSensorRequest
  cases stamped.request with
  | measurement clientId value timestamp =>
      refine always_bind always_get fun server => ?_
      cases server.clientToSensorId clientId with
      | none => exact always_pure ()
      | some sensorId =>
          apply always_call
          intro before result after ran
          obtain ⟨changed, inserted, rfl⟩ := (recordMeasurement_eq_some _).mp ran
          exact .sends (.addMeasurement ..) inserted ⟨rfl, rfl, rfl, rfl⟩
  | onConnected clientId ip port token =>
      refine always_bind (always_sends (.checkIfTokenIsWhitelisted token)) fun whitelisted => ?_
      refine always_ite (always_modify fun server => quiet_killSensor ..) ?_
      refine always_bind (always_sends (.getSensorId token)) fun sensorId => ?_
      refine always_bind always_get fun server => ?_
      refine always_ite (always_modify fun server => quiet_killSensor ..) ?_
      refine always_bind (always_sends (.addSensor ip port token)) fun sensor => ?_
      refine always_bind (always_modify fun server => ⟨⟨rfl, rfl, rfl, rfl⟩, rfl⟩) fun _ => ?_
      exact always_modify fun server => quiet_send ..
  | onDisconnected clientId =>
      refine always_bind always_get fun server => ?_
      cases server.clientToSensorId clientId with
      | none => exact always_pure ()
      | some sensorId =>
          refine always_bind (always_sends (.disconnectSensor sensorId)) fun sensor => ?_
          exact always_modify fun server => ⟨⟨rfl, rfl, rfl, rfl⟩, rfl⟩

theorem always_generateFreshToken (rands : List (Vector Nat 15)) :
    Always (Acts database) (generateFreshToken database rands) := by
  induction rands with
  | nil =>
      apply always_call
      rintro before result after ⟨⟩
  | cons first rands ih =>
      refine always_bind (always_sends (.checkIfTokenExists _)) fun found => ?_
      exact always_ite ih (always_pure _)

/-- No other command than `generateToken` inserts a row. -/
theorem always_executeAdministratorRequest {request : AdministratorRequest}
    (other : request.commandType ≠ .generateToken) (rands : List (Vector Nat 15)) (sent : Int) :
    Always (Acts database) (executeAdministratorRequest database request rands sent) := by
  unfold executeAdministratorRequest
  cases command : request.commandType with
  | getAllSensors => exact always_bind (always_sends .getAllSensors) fun _ => always_pure _
  | updateSensorName => exact always_bind (always_sends (.editSensor ..)) fun _ => always_pure _
  | revokeSensor =>
      refine always_bind (always_sends (.revokeSensor _)) fun sensor => ?_
      exact always_bind (always_modify fun server => quiet_killMapped ..) fun _ => always_pure _
  | disconnectSensor =>
      refine always_bind (always_sends (.disconnectSensor _)) fun sensor => ?_
      exact always_bind (always_modify fun server => quiet_killMapped ..) fun _ => always_pure _
  | generateToken => exact absurd command other

theorem always_executeMonitoringRequest (request : MonitoringRequest) :
    Always (Acts database) (executeMonitoringRequest database request) := by
  unfold executeMonitoringRequest
  cases request.commandType with
  | getAllSensorsMonitoring =>
      exact always_bind (always_sends .getAllSensorsWithMeasurements) fun _ => always_pure _
  | getSetOfMeasurements =>
      refine always_bind ?_ fun _ => always_pure _
      refine always_ite (always_sends (.getLastHour _)) ?_
      refine always_ite (always_sends (.getLastDay _)) ?_
      exact always_ite (always_sends (.getLastMonth _)) (always_pure _)

end Pass

namespace Server

variable {server after : Server δ} {database : IDatabaseConnection δ}

theorem quiet_onGotRequest (server : Server δ) (clientId : Int) (msg : ByteString)
    (beyond : BytesParser.Memory) (sent : Int) (conn cause : Nat) :
    Quiet server (SensorListener.onGotRequest server clientId msg beyond sent conn cause) := by
  unfold SensorListener.onGotRequest
  split
  · have answered := quiet_send server .sensor clientId
      (SensorListener.measureAnswer (SensorListener.measureTimestamp msg beyond)) sent
    exact ⟨⟨answered.1.1, answered.1.2, answered.1.3, answered.1.4⟩, answered.2⟩
  · exact ⟨⟨rfl, rfl, rfl, rfl⟩, rfl⟩
  · exact quiet_disconnectClient server .sensor clientId

theorem quiet_receiveSensorFrame (server : Server δ) (slot : Int) (msg : ByteString)
    (beyond : BytesParser.Memory) (sent : Int) (conn : Nat) :
    Quiet server (server.receiveSensorFrame slot msg beyond sent conn) := by
  have delivered : Quiet server
      ((server.deliver .sensor slot msg).record (.received conn msg)) :=
    ⟨⟨rfl, rfl, rfl, rfl⟩, rfl⟩
  exact delivered.trans (quiet_onGotRequest _ _ msg beyond sent conn _)

/-- A connected client has a slot of the handler for its id. -/
theorem clientId_ne (server : Server δ) {channel : Channel} {slot : Int} {conn : Nat}
    (held : server.holder channel slot = some conn) :
    ((server.handler channel).clientHandlers slot).clientId ≠ -1 := by
  obtain ⟨range, live, -⟩ := ClientsHandler.holder_eq_some held
  have same := (server.handlers channel).property.clientId slot live
  have bounds : ¬ slot < 0 ∧ ¬ slot ≥ (server.handler channel).maxClients := by
    simpa [ClientsHandler.inRange] using range
  unfold handler
  rw [same]
  omega

/-- What a network thread does to the queues of the other two channels. -/
theorem network_queues {label : Label} {result : Except SQLException Unit}
    (network : label.isNetwork = true)
    (steps : (step database label).runOn server = some (result, after)) :
    Quiet server after ∨
    (∃ stamped : Stamped AdministratorRequest, stamped.request.clientId ≠ -1 ∧
      after = server.addAdministratorRequestToExecute stamped) ∨
    ∃ stamped : Stamped MonitoringRequest, stamped.request.clientId ≠ -1 ∧
      after = server.addMonitoringRequestToExecute stamped := by
  cases label with
  | accept channel slot socket service =>
      simp only [step, Exec.runOn_get_bind, Exec.runOn_ite] at steps
      split at steps
      · cases steps
        exact .inl ⟨⟨rfl, rfl, rfl, rfl⟩, rfl⟩
      · cases steps
  | lost channel slot =>
      simp only [step, Exec.runOn_get_bind] at steps
      split at steps
      · cases steps
        exact .inl (quiet_disconnectClient server channel slot)
      · cases steps
  | sensorFrame slot msg beyond sent =>
      simp only [step, Exec.runOn_get_bind] at steps
      split at steps
      · cases steps
        exact .inl (quiet_receiveSensorFrame ..)
      · cases steps
  | administratorFrame slot request =>
      simp only [step, Exec.runOn_get_bind] at steps
      split at steps
      · next held =>
          cases steps
          exact .inr (.inl ⟨_, server.clientId_ne held, rfl⟩)
      · cases steps
  | monitoringFrame slot request =>
      simp only [step, Exec.runOn_get_bind] at steps
      split at steps
      · next held =>
          cases steps
          exact .inr (.inr ⟨_, server.clientId_ne held, rfl⟩)
      · cases steps
  | executeSensor | executeAdministrator | sendAdministrator | executeMonitoring
  | sendMonitoring => cases network

end Server

end SensorManager
