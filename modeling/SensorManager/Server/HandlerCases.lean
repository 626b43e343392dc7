import SensorManager.Server.Run

/-!
# What each handler does

A finished run of a handler, taken apart: the database calls it made with what
they returned, and the state of the server it left.
-/

namespace SensorManager.Server

open Exec

variable {δ : Type} {database : IDatabaseConnection δ} {server after : Server δ}

/-- The server with a new state of its database. -/
def withDatabase (server : Server δ) (changed : δ) : Server δ :=
  { server with database := changed }

theorem callDatabase_eq_some {α : Type} {call : DatabaseCall δ α}
    {result : Except SQLException α} :
    (callDatabase call).runOn server = some (result, after) ↔
      ∃ changed, call.runOn server.database = some (result, changed) ∧
        after = server.withDatabase changed :=
  runOn_zoom_eq_some

section Sensors

variable {clientId : Int} {conn cause : Nat} {result : Except SQLException Unit}

theorem executeSensorMeasurementRequest_cases {value timestamp : Int}
    (ran : (executeSensorMeasurementRequest database clientId value timestamp cause).runOn
      server = some (result, after)) :
    (server.clientToSensorId clientId = none ∧ result = .ok () ∧ after = server) ∨
    ∃ sensorId changed, server.clientToSensorId clientId = some sensorId ∧
      (database.addMeasurement sensorId value (toInt32 timestamp)).runOn server.database =
        some (result, changed) ∧
      after = (server.record
        (.addMeasurement sensorId value (toInt32 timestamp) cause)).withDatabase changed := by
  unfold executeSensorMeasurementRequest at ran
  rw [runOn_get_bind] at ran
  cases mapped : server.clientToSensorId clientId with
  | none =>
      simp only [mapped, runOn_pure, Option.some.injEq, Prod.mk.injEq] at ran
      exact .inl ⟨rfl, ran.1.symm, ran.2.symm⟩
  | some sensorId =>
      rw [mapped] at ran
      obtain ⟨changed, called, rfl⟩ := (recordMeasurement_eq_some _).mp ran
      exact .inr ⟨sensorId, changed, rfl, called, rfl⟩

theorem executeSensorOnDisconnectedRequest_cases
    (ran : (executeSensorOnDisconnectedRequest database clientId).runOn server =
      some (result, after)) :
    (server.clientToSensorId clientId = none ∧ result = .ok () ∧ after = server) ∨
    (∃ sensorId sensor changed, server.clientToSensorId clientId = some sensorId ∧
      (database.disconnectSensor sensorId).runOn server.database =
        some (.ok sensor, changed) ∧
      result = .ok () ∧
      after =
        { server.withDatabase changed with
          sensorToClientId := server.sensorToClientId.erase sensorId
          clientToSensorId := server.clientToSensorId.erase clientId }) ∨
    ∃ sensorId error changed, server.clientToSensorId clientId = some sensorId ∧
      (database.disconnectSensor sensorId).runOn server.database =
        some (.error error, changed) ∧
      result = .error error ∧ after = server.withDatabase changed := by
  unfold executeSensorOnDisconnectedRequest at ran
  rw [runOn_get_bind] at ran
  cases mapped : server.clientToSensorId clientId with
  | none =>
      simp only [mapped, runOn_pure, Option.some.injEq, Prod.mk.injEq] at ran
      exact .inl ⟨rfl, ran.1.symm, ran.2.symm⟩
  | some sensorId =>
      simp only [mapped, runOn_bind_eq_some, callDatabase_eq_some] at ran
      rcases ran with ⟨sensor, middle, ⟨changed, called, rfl⟩, finished⟩ |
        ⟨error, ⟨changed, called, rfl⟩, rfl⟩
      · simp only [runOn_modify, Option.some.injEq, Prod.mk.injEq] at finished
        exact .inr (.inl ⟨sensorId, sensor, changed, rfl, called, finished.1.symm,
          finished.2.symm⟩)
      · exact .inr (.inr ⟨sensorId, error, changed, rfl, called, rfl, rfl⟩)

/-- The handler of an init request throws at one of its three calls. -/
inductive InitThrew (database : IDatabaseConnection δ) (sensorToClientId : IntMap)
    (ip : ByteString) (port : Int) (token : ByteString) (before : δ) :
    SQLException → δ → Prop
  | listing {error changed}
      (listed : (database.checkIfTokenIsWhitelisted token).runOn before =
        some (.error error, changed)) :
      InitThrew database sensorToClientId ip port token before error changed
  | finding {first error changed}
      (listed : (database.checkIfTokenIsWhitelisted token).runOn before =
        some (.ok true, first))
      (found : (database.getSensorId token).runOn first = some (.error error, changed)) :
      InitThrew database sensorToClientId ip port token before error changed
  | adding {first second sensorId error changed}
      (listed : (database.checkIfTokenIsWhitelisted token).runOn before =
        some (.ok true, first))
      (found : (database.getSensorId token).runOn first = some (.ok sensorId, second))
      (free : sensorToClientId.contains sensorId = false)
      (added : (database.addSensor ip port token).runOn second =
        some (.error error, changed)) :
      InitThrew database sensorToClientId ip port token before error changed

/-- What an init request can come to. -/
inductive OnConnected (database : IDatabaseConnection δ) (server : Server δ)
    (clientId : Int) (ip : ByteString) (port : Int) (token : ByteString)
    (conn cause : Nat) (serverTime sent : Int) : Except SQLException Unit → Server δ → Prop
  | incorrectToken {changed : δ}
      (listed : (database.checkIfTokenIsWhitelisted token).runOn server.database =
        some (.ok false, changed)) :
      OnConnected database server clientId ip port token conn cause serverTime sent (.ok ())
        ((server.withDatabase changed).killSensor clientId killSensorIncorrectToken sent)
  | tokenActive {middle changed : δ} {sensorId : Int}
      (listed : (database.checkIfTokenIsWhitelisted token).runOn server.database =
        some (.ok true, middle))
      (found : (database.getSensorId token).runOn middle = some (.ok sensorId, changed))
      (active : server.sensorToClientId.contains sensorId = true) :
      OnConnected database server clientId ip port token conn cause serverTime sent (.ok ())
        ((server.withDatabase changed).killSensor clientId killSensorTokenActive sent)
  | accepted {first second changed : δ} {sensorId : Int} {sensor : Sensor}
      (listed : (database.checkIfTokenIsWhitelisted token).runOn server.database =
        some (.ok true, first))
      (found : (database.getSensorId token).runOn first = some (.ok sensorId, second))
      (free : server.sensorToClientId.contains sensorId = false)
      (added : (database.addSensor ip port token).runOn second =
        some (.ok sensor, changed)) :
      OnConnected database server clientId ip port token conn cause serverTime sent (.ok ())
        (((server.withDatabase changed).acceptSensor clientId sensor.id conn cause).send
          .sensor clientId (activeMessage serverTime) sent)
  | threw {changed : δ} {error : SQLException}
      (threw : InitThrew database server.sensorToClientId ip port token server.database error
        changed) :
      OnConnected database server clientId ip port token conn cause serverTime sent
        (.error error) (server.withDatabase changed)

theorem executeSensorOnConnectedRequest_cases {ip : ByteString} {port : Int}
    {token : ByteString} {serverTime sent : Int}
    (ran : (executeSensorOnConnectedRequest database clientId ip port token conn cause
      serverTime sent).runOn server = some (result, after)) :
    OnConnected database server clientId ip port token conn cause serverTime sent
      result after := by
  unfold executeSensorOnConnectedRequest at ran
  rw [runOn_bind_eq_some] at ran
  rcases ran with ⟨whitelisted, middle, called, ran⟩ | ⟨error, called, rfl⟩
  · obtain ⟨first, listed, rfl⟩ := callDatabase_eq_some.mp called
    cases whitelisted with
    | false =>
        simp only [if_true, runOn_modify, Option.some.injEq, Prod.mk.injEq] at ran
        obtain ⟨rfl, rfl⟩ := ran
        exact .incorrectToken listed
    | true =>
        simp only [Bool.true_eq_false, if_false] at ran
        rw [runOn_bind_eq_some] at ran
        rcases ran with ⟨sensorId, middle, called, ran⟩ | ⟨error, called, rfl⟩
        · obtain ⟨second, found, rfl⟩ := callDatabase_eq_some.mp called
          rw [runOn_get_bind] at ran
          cases active : server.sensorToClientId.contains sensorId with
          | true =>
              simp only [withDatabase, active, if_true, runOn_modify, Option.some.injEq,
                Prod.mk.injEq] at ran
              obtain ⟨rfl, rfl⟩ := ran
              exact .tokenActive listed found active
          | false =>
              simp only [withDatabase, active, Bool.false_eq_true, if_false] at ran
              rw [runOn_bind_eq_some] at ran
              rcases ran with ⟨sensor, middle, called, ran⟩ | ⟨error, called, rfl⟩
              · obtain ⟨changed, added, rfl⟩ := callDatabase_eq_some.mp called
                simp only [runOn_modify_bind, runOn_modify, Option.some.injEq,
                  Prod.mk.injEq] at ran
                obtain ⟨rfl, rfl⟩ := ran
                exact .accepted listed found active added
              · obtain ⟨changed, added, rfl⟩ := callDatabase_eq_some.mp called
                exact .threw (.adding listed found active added)
        · obtain ⟨changed, found, rfl⟩ := callDatabase_eq_some.mp called
          exact .threw (.finding listed found)
  · obtain ⟨changed, listed, rfl⟩ := callDatabase_eq_some.mp called
    exact .threw (.listing listed)

/-- A pass of the sensor executor handles the request at the head of its
queue. -/
theorem executeSensorRequests_eq_some {serverTime sent : Int} :
    (executeSensorRequests database serverTime sent).runOn server = some (result, after) ↔
      ∃ stamped queue, server.sensorRequestsQueue = stamped :: queue ∧
        (executeSensorRequest database stamped serverTime sent).runOn
          { server with sensorRequestsQueue := queue } = some (result, after) := by
  unfold executeSensorRequests
  rw [runOn_get_bind]
  cases server.sensorRequestsQueue with
  | nil => simp
  | cons stamped queue => simp

end Sensors

section Administrators

/-- The database calls that leave the sessions of the sensors alone. -/
inductive Housekeeping (database : IDatabaseConnection δ) (name : ByteString) :
    δ → δ → Prop
  | getAllSensors {before after result}
      (called : database.getAllSensors.runOn before = some (result, after)) :
      Housekeeping database name before after
  | editSensor {before after result} (id : Int)
      (called : (database.editSensor id name).runOn before = some (result, after)) :
      Housekeeping database name before after
  | checkIfTokenExists {before after result} (rands : Vector Nat 15)
      (called : (database.checkIfTokenExists (generateToken rands)).runOn before =
        some (result, after)) :
      Housekeeping database name before after
  | initializeSensor {before after result} (rands : Vector Nat 15)
      (called : (database.initializeSensor (generateToken rands)).runOn before =
        some (result, after)) :
      Housekeeping database name before after
  | getAllSensorsWithMeasurements {before after result}
      (called : database.getAllSensorsWithMeasurements.runOn before = some (result, after)) :
      Housekeeping database name before after
  | getLastHour {before after result} (id : Int)
      (called : (database.getLastHour id).runOn before = some (result, after)) :
      Housekeeping database name before after
  | getLastDay {before after result} (id : Int)
      (called : (database.getLastDay id).runOn before = some (result, after)) :
      Housekeeping database name before after
  | getLastMonth {before after result} (id : Int)
      (called : (database.getLastMonth id).runOn before = some (result, after)) :
      Housekeeping database name before after

/-- Any number of such calls. -/
abbrev Housekept (database : IDatabaseConnection δ) (name : ByteString) : δ → δ → Prop :=
  Relation.ReflTransGen (Housekeeping database name)

/-- The call and the reason of the two commands that kill a sensor. -/
def killCall (database : IDatabaseConnection δ) :
    AdministratorCommandTypes → Option ((Int → DatabaseCall δ Sensor) × Int)
  | .revokeSensor => some (database.revokeSensor, killSensorRevoked)
  | .disconnectSensor => some (database.disconnectSensor, killSensorDisconnected)
  | _ => none

/-- What a request of an administrator can come to. -/
inductive Administered (database : IDatabaseConnection δ) (server : Server δ)
    (request : AdministratorRequest) (sent : Int) :
    Except SQLException AdministratorResponse → Server δ → Prop
  | killed {call : Int → DatabaseCall δ Sensor} {reason : Int} {sensor : Sensor}
      {changed : δ} {response : AdministratorResponse}
      (kills : killCall database request.commandType = some (call, reason))
      (called : (call request.sensorId).runOn server.database = some (.ok sensor, changed)) :
      Administered database server request sent (.ok response)
        ((server.withDatabase changed).killMapped request.sensorId reason sent)
  | threw {call : Int → DatabaseCall δ Sensor} {reason : Int} {error : SQLException}
      {changed : δ}
      (kills : killCall database request.commandType = some (call, reason))
      (called : (call request.sensorId).runOn server.database =
        some (.error error, changed)) :
      Administered database server request sent (.error error)
        (server.withDatabase changed)
  | housekept {result : Except SQLException AdministratorResponse} {changed : δ}
      (spares : killCall database request.commandType = none)
      (kept : Housekept database request.sensorName server.database changed) :
      Administered database server request sent result (server.withDatabase changed)

theorem generateFreshToken_cases {rands : List (Vector Nat 15)}
    {result : Except SQLException ByteString}
    (ran : (generateFreshToken database rands).runOn server = some (result, after))
    (name : ByteString) :
    ∃ changed, Housekept database name server.database changed ∧
      after = server.withDatabase changed ∧
      ∀ token, result = .ok token → ∃ draws, token = generateToken draws := by
  induction rands generalizing server with
  | nil => simp [generateFreshToken] at ran
  | cons draws later ih =>
      unfold generateFreshToken at ran
      rw [runOn_bind_eq_some] at ran
      rcases ran with ⟨found, middle, called, ran⟩ | ⟨error, called, rfl⟩
      · obtain ⟨checked, asked, rfl⟩ := callDatabase_eq_some.mp called
        have first : Housekeeping database name server.database checked :=
          .checkIfTokenExists draws asked
        cases found with
        | true =>
            obtain ⟨changed, kept, rfl, fresh⟩ := ih (by simpa using ran)
            exact ⟨changed, .head first kept, rfl, fresh⟩
        | false =>
            simp only [Bool.false_eq_true, if_false, runOn_pure, Option.some.injEq,
              Prod.mk.injEq] at ran
            obtain ⟨rfl, rfl⟩ := ran
            refine ⟨checked, .single first, rfl, ?_⟩
            intro token equality
            cases equality
            exact ⟨draws, rfl⟩
      · obtain ⟨checked, asked, rfl⟩ := callDatabase_eq_some.mp called
        refine ⟨checked, .single (.checkIfTokenExists draws asked), rfl, ?_⟩
        intro token equality
        simp at equality

/-- The response that a call of the database is turned into. -/
theorem call_response_cases {α β : Type} {call : DatabaseCall δ α} {respond : α → β}
    {result : Except SQLException β}
    (ran : (callDatabase call >>= fun value => pure (respond value)).runOn server =
      some (result, after)) :
    ∃ first changed, call.runOn server.database = some (first, changed) ∧
      after = server.withDatabase changed := by
  rw [runOn_bind_eq_some] at ran
  rcases ran with ⟨value, middle, called, ran⟩ | ⟨error, called, rfl⟩
  · obtain ⟨changed, asked, rfl⟩ := callDatabase_eq_some.mp called
    simp only [runOn_pure, Option.some.injEq, Prod.mk.injEq] at ran
    exact ⟨_, changed, asked, ran.2.symm⟩
  · obtain ⟨changed, asked, rfl⟩ := callDatabase_eq_some.mp called
    exact ⟨_, changed, asked, rfl⟩

theorem kill_cases {request : AdministratorRequest} {call : Int → DatabaseCall δ Sensor}
    {reason sent : Int} {respond : Sensor → AdministratorResponse}
    {result : Except SQLException AdministratorResponse}
    (kills : killCall database request.commandType = some (call, reason))
    (ran : (callDatabase (call request.sensorId) >>= fun sensor =>
      modify (fun server => server.killMapped request.sensorId reason sent) >>= fun _ =>
        pure (respond sensor)).runOn server = some (result, after)) :
    Administered database server request sent result after := by
  rw [runOn_bind_eq_some] at ran
  rcases ran with ⟨sensor, middle, called, ran⟩ | ⟨error, called, rfl⟩
  · obtain ⟨changed, asked, rfl⟩ := callDatabase_eq_some.mp called
    simp only [runOn_modify_bind, runOn_pure, Option.some.injEq, Prod.mk.injEq] at ran
    obtain ⟨rfl, rfl⟩ := ran
    exact .killed kills asked
  · obtain ⟨changed, asked, rfl⟩ := callDatabase_eq_some.mp called
    exact .threw kills asked

theorem executeAdministratorRequest_cases {request : AdministratorRequest}
    {rands : List (Vector Nat 15)} {sent : Int}
    {result : Except SQLException AdministratorResponse}
    (ran : (executeAdministratorRequest database request rands sent).runOn server =
      some (result, after)) :
    Administered database server request sent result after := by
  unfold executeAdministratorRequest at ran
  cases command : request.commandType with
  | getAllSensors =>
      simp only [command] at ran
      obtain ⟨first, changed, called, rfl⟩ := call_response_cases ran
      exact .housekept (by rw [command]; rfl) (.single (.getAllSensors called))
  | updateSensorName =>
      simp only [command] at ran
      obtain ⟨first, changed, called, rfl⟩ := call_response_cases ran
      exact .housekept (by rw [command]; rfl) (.single (.editSensor request.sensorId called))
  | revokeSensor =>
      simp only [command] at ran
      exact kill_cases (by rw [command]; rfl) ran
  | disconnectSensor =>
      simp only [command] at ran
      exact kill_cases (by rw [command]; rfl) ran
  | generateToken =>
      simp only [command] at ran
      rw [runOn_bind_eq_some] at ran
      rcases ran with ⟨token, middle, called, ran⟩ | ⟨error, called, rfl⟩
      · obtain ⟨checked, kept, rfl, fresh⟩ :=
          generateFreshToken_cases called request.sensorName
        obtain ⟨draws, rfl⟩ := fresh token rfl
        obtain ⟨first, changed, called, rfl⟩ := call_response_cases ran
        exact .housekept (by rw [command]; rfl)
          (kept.tail (.initializeSensor draws called))
      · obtain ⟨checked, kept, rfl, -⟩ :=
          generateFreshToken_cases called request.sensorName
        exact .housekept (by rw [command]; rfl) kept

/-- A pass of the administrator executor handles the request at the head of its
queue, and queues the response unless it throws. -/
theorem executeAdministratorRequests_cases {rands : List (Vector Nat 15)} {sent : Int}
    {result : Except SQLException Unit}
    (ran : (executeAdministratorRequests database rands sent).runOn server =
      some (result, after)) :
    ∃ stamped queue, server.administratorRequestsQueue = stamped :: queue ∧
      ((∃ response middle,
        Administered database { server with administratorRequestsQueue := queue }
          stamped.request sent (.ok response) middle ∧ result = .ok () ∧
        after = middle.addAdministratorResponseToSend { stamped with request := response }) ∨
      ∃ error,
        Administered database { server with administratorRequestsQueue := queue }
          stamped.request sent (.error error) after ∧ result = .error error) := by
  unfold executeAdministratorRequests at ran
  rw [runOn_get_bind] at ran
  cases queued : server.administratorRequestsQueue with
  | nil => simp [queued] at ran
  | cons stamped queue =>
      refine ⟨stamped, queue, rfl, ?_⟩
      simp only [queued, runOn_modify_bind] at ran
      rw [runOn_bind_eq_some] at ran
      rcases ran with ⟨response, middle, called, ran⟩ | ⟨error, called, rfl⟩
      · simp only [runOn_modify, Option.some.injEq, Prod.mk.injEq] at ran
        obtain ⟨rfl, rfl⟩ := ran
        exact .inl ⟨response, middle, executeAdministratorRequest_cases called, rfl, rfl⟩
      · exact .inr ⟨error, executeAdministratorRequest_cases called, rfl⟩

theorem sendAdministratorResponse_eq_some {sent : Int} {result : Except SQLException Unit} :
    (sendAdministratorResponse sent).runOn server = some (result, after) ↔
      ∃ stamped queue, server.administratorResponsesQueue = stamped :: queue ∧
        result = .ok () ∧
        after =
          if stamped.request.clientId ≠ -1 then
            ({ server with administratorResponsesQueue := queue } : Server δ).send
              .administrator stamped.request.clientId
              (SerializerAdministratorMessage.serializeResponseMessage stamped.request) sent
          else { server with administratorResponsesQueue := queue } := by
  unfold sendAdministratorResponse
  rw [runOn_get_bind]
  cases server.administratorResponsesQueue with
  | nil => simp
  | cons stamped queue =>
      by_cases answered : stamped.request.clientId = -1 <;>
        simp [answered, eq_comm]

end Administrators

section Monitoring

theorem executeMonitoringRequest_cases {request : MonitoringRequest}
    {result : Except SQLException MonitoringResponse}
    (ran : (executeMonitoringRequest database request).runOn server =
      some (result, after)) :
    ∃ changed, Housekept database [] server.database changed ∧
      after = server.withDatabase changed := by
  unfold executeMonitoringRequest at ran
  cases command : request.commandType with
  | getAllSensorsMonitoring =>
      simp only [command] at ran
      obtain ⟨first, changed, called, rfl⟩ := call_response_cases ran
      exact ⟨changed, .single (.getAllSensorsWithMeasurements called), rfl⟩
  | getSetOfMeasurements =>
      simp only [command, getSetOfMeasurements] at ran
      by_cases hour : request.type = 0
      · rw [if_pos hour] at ran
        obtain ⟨first, changed, called, rfl⟩ := call_response_cases ran
        exact ⟨changed, .single (.getLastHour request.sensorId called), rfl⟩
      rw [if_neg hour] at ran
      by_cases day : request.type = 1
      · rw [if_pos day] at ran
        obtain ⟨first, changed, called, rfl⟩ := call_response_cases ran
        exact ⟨changed, .single (.getLastDay request.sensorId called), rfl⟩
      rw [if_neg day] at ran
      by_cases month : request.type = 2
      · rw [if_pos month] at ran
        obtain ⟨first, changed, called, rfl⟩ := call_response_cases ran
        exact ⟨changed, .single (.getLastMonth request.sensorId called), rfl⟩
      · rw [if_neg month] at ran
        simp only [pure_bind, runOn_pure, Option.some.injEq, Prod.mk.injEq] at ran
        exact ⟨server.database, .refl, ran.2.symm⟩

theorem executeMonitoringRequests_cases {result : Except SQLException Unit}
    (ran : (executeMonitoringRequests database).runOn server = some (result, after)) :
    ∃ stamped queue changed, server.monitoringRequestsQueue = stamped :: queue ∧
      Housekept database [] server.database changed ∧
      ((∃ response, result = .ok () ∧
        after = (({ server with monitoringRequestsQueue := queue } : Server δ).withDatabase
          changed).addMonitoringResponseToSend { stamped with request := response }) ∨
      ∃ error, result = .error error ∧
        after = ({ server with monitoringRequestsQueue := queue } : Server δ).withDatabase
          changed) := by
  unfold executeMonitoringRequests at ran
  rw [runOn_get_bind] at ran
  cases queued : server.monitoringRequestsQueue with
  | nil => simp [queued] at ran
  | cons stamped queue =>
      simp only [queued, runOn_modify_bind] at ran
      rw [runOn_bind_eq_some] at ran
      rcases ran with ⟨response, middle, called, ran⟩ | ⟨error, called, rfl⟩
      · obtain ⟨changed, kept, rfl⟩ := executeMonitoringRequest_cases called
        simp only [runOn_modify, Option.some.injEq, Prod.mk.injEq] at ran
        obtain ⟨rfl, rfl⟩ := ran
        exact ⟨stamped, queue, changed, rfl, kept, .inl ⟨response, rfl, rfl⟩⟩
      · obtain ⟨changed, kept, rfl⟩ := executeMonitoringRequest_cases called
        exact ⟨stamped, queue, changed, rfl, kept, .inr ⟨error, rfl, rfl⟩⟩

theorem sendMonitoringResponse_eq_some {sent : Int} {result : Except SQLException Unit} :
    (sendMonitoringResponse sent).runOn server = some (result, after) ↔
      ∃ stamped queue, server.monitoringResponsesQueue = stamped :: queue ∧
        result = .ok () ∧
        after =
          if stamped.request.clientId ≠ -1 then
            ({ server with monitoringResponsesQueue := queue } : Server δ).send
              .monitoring stamped.request.clientId
              (SerializerMonitoringMessage.serializeResponseMessage stamped.request) sent
          else { server with monitoringResponsesQueue := queue } := by
  unfold sendMonitoringResponse
  rw [runOn_get_bind]
  cases server.monitoringResponsesQueue with
  | nil => simp
  | cons stamped queue =>
      by_cases answered : stamped.request.clientId = -1 <;>
        simp [answered, eq_comm]

end Monitoring

end SensorManager.Server
