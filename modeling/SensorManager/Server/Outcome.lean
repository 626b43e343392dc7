import SensorManager.Server.HandlerCases
import SensorManager.Server.Sessions

/-!
# What a step does to the sessions

`Outcome` lists everything that a step can do: the actions it takes on the
sessions, the database calls it makes and what they return, and the state of
the database after it.  `Steps.outcome` shows that the list is complete.
-/

namespace SensorManager

namespace Server

open Exec

variable {δ : Type} {server : Server δ}

section Handlers

variable {channel : Channel} {handler : ServingHandler}

@[simp] theorem holder_setHandler_same :
    (server.setHandler channel handler).holder channel = handler.val.holder := by
  funext slot
  simp [holder, Server.handler, setHandler]

@[simp] theorem holder_setHandler_other {other : Channel} (different : other ≠ channel) :
    (server.setHandler channel handler).holder other = server.holder other := by
  funext slot
  simp [holder, Server.handler, setHandler, different]

theorem sessions_setHandler_sensor :
    (server.setHandler .sensor handler).sessions =
      { server.sessions with holder := handler.val.holder } := by
  simp only [sessions, holder_setHandler_same]
  rfl

theorem sessions_setHandler_other (different : channel ≠ .sensor) :
    (server.setHandler channel handler).sessions = server.sessions := by
  simp only [sessions, holder_setHandler_other different.symm]
  rfl

/-- A handler that gives no slot away changes no session. -/
theorem sessions_setHandler (same : handler.val.holder = server.holder channel) :
    (server.setHandler channel handler).sessions = server.sessions := by
  by_cases sensor : channel = .sensor
  · subst sensor
    rw [sessions_setHandler_sensor, same]
    rfl
  · exact sessions_setHandler_other sensor

end Handlers

section Send

variable (channel : Channel) (clientId : Int) {msg : ByteString} (sent : Int)

theorem socketTook_free (free : server.holder channel clientId = none)
    (bytes : List UInt8) : server.socketTook channel clientId bytes = server := by
  unfold socketTook
  rw [ClientsHandler.addTo_free _ free, Function.update_eq_self]

/-- A message goes to the connection that holds the slot, or to nobody. -/
theorem send_eq (server : Server δ) (channel : Channel) (clientId : Int) {msg : ByteString}
    (sent : Int) (nonempty : msg ≠ []) :
    ∃ (handler : ServingHandler) (bytes : List UInt8),
      handler.val.holder = server.holder channel ∧
      server.send channel clientId msg sent =
        match server.holder channel clientId with
        | some conn => ((server.socketTook channel clientId bytes).setHandler channel
            handler).record (.sent channel conn msg)
        | none => server.setHandler channel handler := by
  have serving := (server.handlers channel).property
  refine ⟨⟨_, serving.send clientId msg sent⟩,
    ((server.handlers channel).val.clientHandlers clientId).takenOfMsg msg sent,
    ClientsHandler.holder_send clientId msg sent, ?_⟩
  have result := ClientsHandler.send_result serving clientId nonempty sent
  simp only [send]
  cases held : server.holder channel clientId with
  | none =>
      rw [socketTook_free channel clientId held, if_neg]
      rw [result]
      simpa [holder, Server.handler] using held
  | some conn =>
      obtain ⟨-, -, isConn⟩ := ClientsHandler.holder_eq_some held
      rw [if_pos]
      · rw [← isConn]
        rfl
      · rw [result, Option.isSome_iff_exists]
        exact ⟨conn, held⟩

theorem disconnectClient_free (free : server.holder channel clientId = none) :
    ∃ handler : ServingHandler, handler.val.holder = server.holder channel ∧
      server.disconnectClient channel clientId = server.setHandler channel handler := by
  have same := ClientsHandler.disconnectClient_free free
  refine ⟨⟨_, (server.handlers channel).property.disconnectClient clientId⟩, ?_, ?_⟩
  · exact congrArg (fun result => result.1.holder) same
  · simp only [disconnectClient]
    have nobody : ((server.handlers channel).val.disconnectClient clientId).2 = none :=
      congrArg Prod.snd same
    rw [nobody]

theorem disconnectClient_held {conn : Nat}
    (held : server.holder channel clientId = some conn) :
    ∃ handler : ServingHandler,
      handler.val.holder = Function.update (server.holder channel) clientId none ∧
      server.disconnectClient channel clientId =
        ((server.setHandler channel handler).record
          (.closed channel conn)).onClientDisconnected channel clientId conn
          server.log.length := by
  have serving := (server.handlers channel).property
  have called := ClientsHandler.disconnectClient_held serving held
  obtain ⟨-, -, isConn⟩ := ClientsHandler.holder_eq_some held
  refine ⟨⟨_, serving.disconnectClient clientId⟩, ?_, ?_⟩
  · exact (congrArg (fun result => result.1.holder) called).trans
      (ClientsHandler.holder_disconnectHandler clientId)
  · simp only [disconnectClient]
    have gone : ((server.handlers channel).val.disconnectClient clientId).2 = some clientId :=
      congrArg Prod.snd called
    rw [gone, ← isConn]
    rfl

end Send

section Actions

/-- The action of sending a message to whoever holds a slot. -/
def sendActions (server : Server δ) (channel : Channel) (clientId : Int)
    (msg : ByteString) : List Action :=
  match server.holder channel clientId with
  | some conn => [.note (.sent channel conn msg)]
  | none => []

/-- What the sending of a message logs. -/
def sendEffects (server : Server δ) (channel : Channel) (clientId : Int)
    (msg : ByteString) : List Effect :=
  match server.holder channel clientId with
  | some conn => [.sent channel conn msg]
  | none => []

/-- The actions of `killSensor`. -/
def killActions (server : Server δ) (clientId reason : Int) : List Action :=
  match server.holder .sensor clientId with
  | some conn => [.note (.sent .sensor conn (killMessage reason)), .release clientId conn]
  | none => []

/-- The slot that a kill of a sensor goes to. -/
def killTarget (server : Server δ) (sensorId : Int) : Int :=
  (server.sensorToClientId sensorId).getD 0

def killMappedActions (server : Server δ) (sensorId reason : Int) : List Action :=
  server.killActions (server.killTarget sensorId) reason ++ [.eraseSensor sensorId]

/-- What `killSensor` logs. -/
def killEffects (server : Server δ) (clientId reason : Int) : List Effect :=
  match server.holder .sensor clientId with
  | some conn => [.sent .sensor conn (killMessage reason), .closed .sensor conn]
  | none => []

theorem plain_of_killEffects {slot reason : Int} :
    ∀ effect ∈ server.killEffects slot reason, effect.plain = true := by
  unfold killEffects
  cases server.holder .sensor slot <;> simp [Effect.plain]

/-- A kill takes the slot away from its holder. -/
theorem perform_killActions {sessions : Sessions}
    (same : sessions.holder = server.holder .sensor) (slot reason : Int) :
    (sessions.perform (server.killActions slot reason)).log =
        sessions.log ++ server.killEffects slot reason ∧
      (sessions.perform (server.killActions slot reason)).holder =
        Function.update (server.holder .sensor) slot none := by
  unfold killActions killEffects
  cases held : server.holder .sensor slot with
  | none =>
      have kept : Function.update (server.holder .sensor) slot none =
          server.holder .sensor := by
        rw [← held, Function.update_eq_self]
      exact ⟨by simp [Sessions.perform], by rw [kept, ← same]; rfl⟩
  | some conn =>
      refine ⟨by simp [Sessions.perform, Sessions.act], ?_⟩
      rw [← same]
      rfl

theorem calm_of_sendActions {channel : Channel} {clientId : Int} {msg : ByteString}
    {action : Action} (member : action ∈ server.sendActions channel clientId msg) :
    action.calm = true := by
  unfold sendActions at member
  cases held : server.holder channel clientId with
  | none => simp [held] at member
  | some conn =>
      simp only [held, List.mem_singleton] at member
      rw [member]
      rfl

theorem calm_of_killActions {slot reason : Int} {action : Action}
    (member : action ∈ server.killActions slot reason) : action.calm = true := by
  unfold killActions at member
  cases held : server.holder .sensor slot with
  | none => simp [held] at member
  | some conn =>
      simp only [held, List.mem_cons, List.not_mem_nil, or_false] at member
      rcases member with rfl | rfl <;> rfl

/-- A kill writes neither of the maps. -/
theorem maps_killActions (server : Server δ) (sessions : Sessions) (slot reason : Int) :
    (sessions.perform (server.killActions slot reason)).clientToSensorId =
        sessions.clientToSensorId ∧
      (sessions.perform (server.killActions slot reason)).sensorToClientId =
        sessions.sensorToClientId := by
  unfold killActions
  cases server.holder .sensor slot <;> exact ⟨rfl, rfl⟩

theorem maps_killMappedActions (server : Server δ) (sensorId reason : Int) :
    (server.sessions.perform (server.killMappedActions sensorId reason)).clientToSensorId =
        server.clientToSensorId ∧
      (server.sessions.perform (server.killMappedActions sensorId reason)).sensorToClientId =
        server.sensorToClientId.erase sensorId := by
  have maps := server.maps_killActions server.sessions (server.killTarget sensorId) reason
  rw [killMappedActions, Sessions.perform_append]
  exact ⟨maps.1, congrArg (·.erase sensorId) maps.2⟩

theorem log_sendActions (server : Server δ) (sessions : Sessions) (channel : Channel)
    (clientId : Int) (msg : ByteString) :
    (sessions.perform (server.sendActions channel clientId msg)).log =
      sessions.log ++ server.sendEffects channel clientId msg := by
  unfold sendActions sendEffects
  cases server.holder channel clientId with
  | none => simp [Sessions.perform]
  | some conn => rfl

theorem holder_sendActions (server : Server δ) (sessions : Sessions) (channel : Channel)
    (clientId : Int) (msg : ByteString) :
    (sessions.perform (server.sendActions channel clientId msg)).holder = sessions.holder := by
  unfold sendActions
  cases server.holder channel clientId <;> rfl

theorem maps_sendActions (server : Server δ) (sessions : Sessions) (channel : Channel)
    (clientId : Int) (msg : ByteString) :
    (sessions.perform (server.sendActions channel clientId msg)).clientToSensorId =
        sessions.clientToSensorId ∧
      (sessions.perform (server.sendActions channel clientId msg)).sensorToClientId =
        sessions.sensorToClientId := by
  unfold sendActions
  cases server.holder channel clientId <;> exact ⟨rfl, rfl⟩

theorem sessions_send (server : Server δ) (channel : Channel) (clientId : Int) {msg : ByteString}
    (nonempty : msg ≠ []) (sent : Int) :
    (server.send channel clientId msg sent).sessions =
      server.sessions.perform (server.sendActions channel clientId msg) := by
  obtain ⟨handler, bytes, same, result⟩ := server.send_eq channel clientId sent nonempty
  rw [result, sendActions]
  cases server.holder channel clientId with
  | none => exact sessions_setHandler same
  | some conn =>
      have sessions_eq : ((server.socketTook channel clientId bytes).setHandler channel
          handler).sessions = server.sessions := sessions_setHandler same
      simp only [Sessions.perform, List.foldl_cons, List.foldl_nil, Sessions.act,
        ← sessions_eq]
      rfl

theorem sessions_disconnectClient_free (channel : Channel) {clientId : Int}
    (free : server.holder channel clientId = none) :
    (server.disconnectClient channel clientId).sessions = server.sessions := by
  obtain ⟨handler, same, result⟩ := disconnectClient_free channel clientId free
  rw [result]
  exact sessions_setHandler same

theorem sessions_disconnectClient_sensor {clientId : Int} {conn : Nat}
    (held : server.holder .sensor clientId = some conn) :
    (server.disconnectClient .sensor clientId).sessions =
      server.sessions.act (.release clientId conn) := by
  obtain ⟨handler, holder, result⟩ := disconnectClient_held .sensor clientId held
  rw [result]
  have sessions_eq := @sessions_setHandler_sensor δ server handler
  rw [holder] at sessions_eq
  calc (((server.setHandler .sensor handler).record
        (.closed .sensor conn)).onClientDisconnected .sensor clientId conn
        server.log.length).sessions
      = { (server.setHandler .sensor handler).sessions with
          queue := server.sensorRequestsQueue ++
            [Sessions.closing clientId conn server.log.length]
          log := server.log ++ [.closed .sensor conn] } := rfl
    _ = server.sessions.act (.release clientId conn) := by
        rw [sessions_eq]
        rfl

theorem sessions_disconnectClient_other {channel : Channel} (different : channel ≠ .sensor)
    {clientId : Int} {conn : Nat} (held : server.holder channel clientId = some conn) :
    (server.disconnectClient channel clientId).sessions =
      server.sessions.act (.note (.closed channel conn)) := by
  obtain ⟨handler, -, result⟩ := disconnectClient_held channel clientId held
  rw [result]
  have sessions_eq := @sessions_setHandler_other δ server channel handler different
  cases channel with
  | sensor => exact absurd rfl different
  | administrator =>
      calc ((server.setHandler .administrator handler).record
            (.closed .administrator conn)).sessions
          = { (server.setHandler .administrator handler).sessions with
              log := server.log ++ [.closed .administrator conn] } := rfl
        _ = _ := by
            rw [sessions_eq]
            rfl
  | monitoring =>
      calc ((server.setHandler .monitoring handler).record
            (.closed .monitoring conn)).sessions
          = { (server.setHandler .monitoring handler).sessions with
              log := server.log ++ [.closed .monitoring conn] } := rfl
        _ = _ := by
            rw [sessions_eq]
            rfl

theorem killActions_eq {other : Server δ}
    (same : other.holder .sensor = server.holder .sensor) (clientId reason : Int) :
    other.killActions clientId reason = server.killActions clientId reason := by
  simp [killActions, same]

theorem killMessage_ne_nil (reason : Int) : killMessage reason ≠ [] := by
  simp [killMessage, BytesParser.appendBytes, BytesParser.toBytes, Bytes.ofInt,
    Bytes.toLittleEndian]

@[simp] theorem holder_send (server : Server δ) (channel other : Channel) (clientId : Int) (msg : ByteString)
    (sent : Int) :
    (server.send channel clientId msg sent).holder other = server.holder other := by
  have same : ∀ handler : ServingHandler, handler.val.holder = server.holder channel →
      (server.setHandler channel handler).holder other = server.holder other := by
    intro handler holder_eq
    by_cases isChannel : other = channel
    · subst isChannel
      rw [holder_setHandler_same, holder_eq]
    · exact holder_setHandler_other isChannel
  simp only [send]
  split
  · exact same _ (ClientsHandler.holder_send clientId msg sent)
  · exact same _ (ClientsHandler.holder_send clientId msg sent)

theorem sessions_killSensor (server : Server δ) (clientId reason sent : Int) :
    (server.killSensor clientId reason sent).sessions =
      server.sessions.perform (server.killActions clientId reason) := by
  have sentSessions :=
    server.sessions_send .sensor clientId (killMessage_ne_nil reason) sent
  have heldSame := server.holder_send .sensor .sensor clientId (killMessage reason) sent
  unfold killSensor killActions
  unfold sendActions at sentSessions
  cases held : server.holder .sensor clientId with
  | none =>
      rw [sessions_disconnectClient_free .sensor (by rw [heldSame, held]), sentSessions, held]
  | some conn =>
      rw [sessions_disconnectClient_sensor (by rw [heldSame, held]), sentSessions, held]
      rfl

/-- The entry that `operator[]` may insert is erased again. -/
theorem erase_subscript (map : IntMap) (key : Int) :
    (map.subscript key).2.erase key = map.erase key := by
  unfold IntMap.subscript
  cases map key with
  | none => simp [IntMap.erase, IntMap.insert]
  | some value => rfl

theorem sessions_killMapped (sensorId reason sent : Int) :
    (server.killMapped sensorId reason sent).sessions =
      server.sessions.perform (server.killMappedActions sensorId reason) := by
  let found : Server δ :=
    { server with sensorToClientId := (server.sensorToClientId.subscript sensorId).2 }
  have target : (server.sensorToClientId.subscript sensorId).1 =
      server.killTarget sensorId := by
    unfold IntMap.subscript killTarget
    cases server.sensorToClientId sensorId <;> rfl
  have killed := found.sessions_killSensor (server.killTarget sensorId) reason sent
  have actions := @killActions_eq δ server found rfl (server.killTarget sensorId) reason
  calc (server.killMapped sensorId reason sent).sessions
      = (found.killSensor (server.killTarget sensorId) reason sent).sessions.act
          (.eraseSensor sensorId) := by
        rw [← target]
        rfl
    _ = (found.sessions.perform
          (server.killActions (server.killTarget sensorId) reason)).act
          (.eraseSensor sensorId) := by
        rw [killed, actions]
    _ = server.sessions.perform (server.killMappedActions sensorId reason) := by
        have erased := erase_subscript server.sensorToClientId sensorId
        unfold killMappedActions killActions
        cases server.holder .sensor (server.killTarget sensorId) <;>
          simp [Sessions.perform, Sessions.act, sessions, found, erased]
        all_goals rfl

end Actions

/-- The outcome of a step: the label, what it returns or throws, the actions it
takes on the sessions, and the database after it. -/
inductive Outcome (database : IDatabaseConnection δ) (server : Server δ) :
    Label → Except SQLException Unit → List Action → δ → Prop
  | accept {channel slot socket service} (other : channel ≠ .sensor) :
      Outcome database server (.accept channel slot socket service) (.ok ()) [.connect]
        server.database
  | acceptSensor {slot socket service} (free : server.holder .sensor slot = none) :
      Outcome database server (.accept .sensor slot socket service) (.ok ()) [.bind slot]
        server.database
  | lost {channel slot conn} (other : channel ≠ .sensor)
      (held : server.holder channel slot = some conn) :
      Outcome database server (.lost channel slot) (.ok ())
        [.note (.closed channel conn)] server.database
  | lostSensor {slot conn} (held : server.holder .sensor slot = some conn) :
      Outcome database server (.lost .sensor slot) (.ok ()) [.release slot conn]
        server.database
  | frame {slot msg beyond sent conn request answers}
      (held : server.holder .sensor slot = some conn) (isSlot : request.clientId = slot)
      (carries : request.Carries msg) (plain : ∀ effect ∈ answers, Effect.plain effect) :
      Outcome database server (.sensorFrame slot msg beyond sent) (.ok ())
        [.receive conn msg request answers] server.database
  | unknownFrame {slot msg beyond sent conn}
      (held : server.holder .sensor slot = some conn)
      (unknown : msg.head? ≠ some 109 ∧ msg.head? ≠ some 105) :
      Outcome database server (.sensorFrame slot msg beyond sent) (.ok ())
        [.note (.received conn msg), .release slot conn] server.database
  | administratorFrame {slot request} :
      Outcome database server (.administratorFrame slot request) (.ok ()) []
        server.database
  | monitoringFrame {slot request} :
      Outcome database server (.monitoringFrame slot request) (.ok ()) [] server.database
  | measured {serverTime sent slot value time conn cause queue sensorId result changed}
      (queued : server.sensorRequestsQueue =
        ⟨.measurement slot value time, conn, cause⟩ :: queue)
      (mapped : server.clientToSensorId slot = some sensorId)
      (called : (database.addMeasurement sensorId value (toInt32 time)).runOn
        server.database = some (result, changed)) :
      Outcome database server (.executeSensor serverTime sent) result
        [.measure sensorId value (toInt32 time) cause] changed
  | unmapped {serverTime sent head queue} (queued : server.sensorRequestsQueue = head :: queue)
      (opened : head.request.isOnConnected = false)
      (unmapped : server.clientToSensorId head.request.clientId = none) :
      Outcome database server (.executeSensor serverTime sent) (.ok ()) [.discard]
        server.database
  | incorrectToken {serverTime sent slot ip port token conn cause queue changed}
      (queued : server.sensorRequestsQueue =
        ⟨.onConnected slot ip port token, conn, cause⟩ :: queue)
      (listed : (database.checkIfTokenIsWhitelisted token).runOn server.database =
        some (.ok false, changed)) :
      Outcome database server (.executeSensor serverTime sent) (.ok ())
        (.discard :: server.killActions slot killSensorIncorrectToken) changed
  | tokenActive {serverTime sent slot ip port token conn cause queue first changed sensorId}
      (queued : server.sensorRequestsQueue =
        ⟨.onConnected slot ip port token, conn, cause⟩ :: queue)
      (listed : (database.checkIfTokenIsWhitelisted token).runOn server.database =
        some (.ok true, first))
      (found : (database.getSensorId token).runOn first = some (.ok sensorId, changed))
      (active : server.sensorToClientId.contains sensorId = true) :
      Outcome database server (.executeSensor serverTime sent) (.ok ())
        (.discard :: server.killActions slot killSensorTokenActive) changed
  | accepted {serverTime sent slot ip port token conn cause queue first second changed
      sensorId sensor}
      (queued : server.sensorRequestsQueue =
        ⟨.onConnected slot ip port token, conn, cause⟩ :: queue)
      (listed : (database.checkIfTokenIsWhitelisted token).runOn server.database =
        some (.ok true, first))
      (found : (database.getSensorId token).runOn first = some (.ok sensorId, second))
      (free : server.sensorToClientId.contains sensorId = false)
      (added : (database.addSensor ip port token).runOn second = some (.ok sensor, changed)) :
      Outcome database server (.executeSensor serverTime sent) (.ok ())
        (.accept slot sensor.id conn cause ::
          server.sendActions .sensor slot (activeMessage serverTime)) changed
  | initThrew {serverTime sent slot ip port token conn cause queue error changed}
      (queued : server.sensorRequestsQueue =
        ⟨.onConnected slot ip port token, conn, cause⟩ :: queue)
      (threw : InitThrew database server.sensorToClientId ip port token server.database
        error changed) :
      Outcome database server (.executeSensor serverTime sent) (.error error) [.discard]
        changed
  | disconnected {serverTime sent slot conn cause queue sensorId sensor changed}
      (queued : server.sensorRequestsQueue = Sessions.closing slot conn cause :: queue)
      (mapped : server.clientToSensorId slot = some sensorId)
      (called : (database.disconnectSensor sensorId).runOn server.database =
        some (.ok sensor, changed)) :
      Outcome database server (.executeSensor serverTime sent) (.ok ())
        [.unmap slot sensorId] changed
  | disconnectThrew {serverTime sent slot conn cause queue sensorId error changed}
      (queued : server.sensorRequestsQueue = Sessions.closing slot conn cause :: queue)
      (mapped : server.clientToSensorId slot = some sensorId)
      (called : (database.disconnectSensor sensorId).runOn server.database =
        some (.error error, changed)) :
      Outcome database server (.executeSensor serverTime sent) (.error error) [.abandon]
        changed
  | killed {rands sent stamped queue call reason sensor changed}
      (queued : server.administratorRequestsQueue = stamped :: queue)
      (kills : killCall database stamped.request.commandType = some (call, reason))
      (called : (call stamped.request.sensorId).runOn server.database =
        some (.ok sensor, changed)) :
      Outcome database server (.executeAdministrator rands sent) (.ok ())
        (server.killMappedActions stamped.request.sensorId reason) changed
  | killThrew {rands sent stamped queue call reason error changed}
      (queued : server.administratorRequestsQueue = stamped :: queue)
      (kills : killCall database stamped.request.commandType = some (call, reason))
      (called : (call stamped.request.sensorId).runOn server.database =
        some (.error error, changed)) :
      Outcome database server (.executeAdministrator rands sent) (.error error) [] changed
  | administered {rands sent stamped queue result changed}
      (queued : server.administratorRequestsQueue = stamped :: queue)
      (spares : killCall database stamped.request.commandType = none)
      (kept : Housekept database stamped.request.sensorName server.database changed) :
      Outcome database server (.executeAdministrator rands sent) result [] changed
  | sentAdministrator {sent stamped queue}
      (queued : server.administratorResponsesQueue = stamped :: queue) :
      Outcome database server (.sendAdministrator sent) (.ok ())
        (server.sendActions .administrator stamped.request.clientId
          (SerializerAdministratorMessage.serializeResponseMessage stamped.request))
        server.database
  | monitored {result changed} (kept : Housekept database [] server.database changed) :
      Outcome database server .executeMonitoring result [] changed
  | sentMonitoring {sent stamped queue}
      (queued : server.monitoringResponsesQueue = stamped :: queue) :
      Outcome database server (.sendMonitoring sent) (.ok ())
        (server.sendActions .monitoring stamped.request.clientId
          (SerializerMonitoringMessage.serializeResponseMessage stamped.request))
        server.database

section Complete

variable {database : IDatabaseConnection δ} {after : Server δ}

theorem deliver_sessions (slot : Int) (msg : ByteString) :
    (server.deliver .sensor slot msg).sessions = server.sessions :=
  sessions_setHandler (ClientsHandler.holder_deliver slot msg)

theorem deliver_holder (slot : Int) (msg : ByteString) :
    (server.deliver .sensor slot msg).holder .sensor = server.holder .sensor :=
  congrArg Sessions.holder (server.deliver_sessions slot msg)

theorem database_send (server : Server δ) (channel : Channel) (clientId : Int) (msg : ByteString) (sent : Int) :
    (server.send channel clientId msg sent).database = server.database := by
  simp only [send]
  split <;> rfl

theorem database_disconnectClient (server : Server δ) (channel : Channel) (clientId : Int) :
    (server.disconnectClient channel clientId).database = server.database := by
  simp only [disconnectClient]
  split
  · rfl
  · cases channel <;> rfl

theorem database_killSensor (server : Server δ) (clientId reason sent : Int) :
    (server.killSensor clientId reason sent).database = server.database := by
  rw [killSensor, database_disconnectClient, database_send]

theorem database_killMapped (server : Server δ) (sensorId reason sent : Int) :
    (server.killMapped sensorId reason sent).database = server.database :=
  database_killSensor _ _ reason sent

theorem measureAnswer_ne_nil (timestamp : Int) :
    SensorListener.measureAnswer timestamp ≠ [] := by
  simp [SensorListener.measureAnswer, BytesParser.appendBytes, BytesParser.toBytes,
    Bytes.ofInt, Bytes.toLittleEndian]

theorem sessions_addSensorRequestToExecute (server : Server δ)
    (request : Stamped SensorRequest) :
    (server.addSensorRequestToExecute request).sessions =
      { server.sessions with queue := server.sessions.queue ++ [request] } := rfl

/-- What the sensor listener does is decided by the first byte of the message. -/
theorem onGotRequest_cons (server : Server δ) (clientId : Int) (byte : UInt8)
    (rest : ByteString) (beyond : BytesParser.Memory) (sent : Int) (conn cause : Nat) :
    SensorListener.onGotRequest server clientId (byte :: rest) beyond sent conn cause =
      if byte = 109 then
        SensorListener.handleMeasureMsg server clientId (byte :: rest) beyond sent conn cause
      else if byte = 105 then
        SensorListener.handleInitMsg server clientId (byte :: rest) conn cause
      else server.disconnectClient .sensor clientId := by
  have isMeasure : BytesParser.parse 1 (byte :: rest) 0 beyond = 109 ↔ byte = 109 :=
    BytesParser.parse_first (by decide) beyond
  have isInit : BytesParser.parse 1 (byte :: rest) 0 beyond = 105 ↔ byte = 105 :=
    BytesParser.parse_first (by decide) beyond
  unfold SensorListener.onGotRequest
  split
  · next measure => rw [if_pos (isMeasure.mp measure)]
  · next init =>
      obtain rfl := isInit.mp init
      rfl
  · next notMeasure notInit =>
      rw [if_neg, if_neg]
      · exact fun first => notInit (isInit.mpr first)
      · exact fun first => notMeasure (isMeasure.mpr first)

/-- The server on which the sensor listener is called. -/
def listening (server : Server δ) (slot : Int) (msg : ByteString) (conn : Nat) : Server δ :=
  (server.deliver .sensor slot msg).record (.received conn msg)

section Listening

variable {slot : Int} {conn : Nat}

theorem holder_listening (msg : ByteString) :
    (server.listening slot msg conn).holder .sensor = server.holder .sensor :=
  deliver_holder slot msg

theorem sessions_listening (msg : ByteString) :
    (server.listening slot msg conn).sessions =
      server.sessions.act (.note (.received conn msg)) := by
  have delivered := server.deliver_sessions slot msg
  calc (server.listening slot msg conn).sessions
      = (server.deliver .sensor slot msg).sessions.act (.note (.received conn msg)) := rfl
    _ = _ := by rw [delivered]

theorem receiveSensorFrame_listening (held : server.holder .sensor slot = some conn)
    (msg : ByteString) (beyond : BytesParser.Memory) (sent : Int) :
    server.receiveSensorFrame slot msg beyond sent conn =
      SensorListener.onGotRequest (server.listening slot msg conn) slot msg beyond sent conn
        server.log.length := by
  obtain ⟨-, live, -⟩ := ClientsHandler.holder_eq_some held
  have isSlot := (server.handlers .sensor).property.clientId slot live
  exact congrArg
    (fun clientId => SensorListener.onGotRequest (server.listening slot msg conn) clientId msg
      beyond sent conn server.log.length) isSlot

end Listening

section Frames

variable {slot : Int} {conn : Nat}

theorem held_listening (held : server.holder .sensor slot = some conn) (msg : ByteString) :
    (server.listening slot msg conn).holder .sensor slot = some conn :=
  (congrFun (holder_listening msg) slot).trans held

/-- A frame does not touch the database. -/
theorem database_receiveSensorFrame (held : server.holder .sensor slot = some conn)
    {byte : UInt8} {rest : ByteString} {beyond : BytesParser.Memory} {sent : Int} :
    (server.receiveSensorFrame slot (byte :: rest) beyond sent conn).database =
      server.database := by
  rw [receiveSensorFrame_listening held, onGotRequest_cons]
  split
  · exact database_send (server.listening slot (byte :: rest) conn) .sensor slot
      (SensorListener.measureAnswer
        (SensorListener.measureTimestamp (byte :: rest) beyond)) sent
  · split
    · rfl
    · exact database_disconnectClient (server.listening slot (byte :: rest) conn) .sensor slot

/-- A measurement is answered and queued. -/
theorem sessions_measureFrame (held : server.holder .sensor slot = some conn)
    (rest : ByteString) (beyond : BytesParser.Memory) (sent : Int) :
    (server.receiveSensorFrame slot (109 :: rest) beyond sent conn).sessions =
      server.sessions.perform [.receive conn (109 :: rest)
        (.measurement slot (SensorListener.measureValue (109 :: rest) beyond)
          ((SensorListener.measureTimestamp (109 :: rest) beyond).tdiv 1000))
        [.sent .sensor conn (SensorListener.measureAnswer
          (SensorListener.measureTimestamp (109 :: rest) beyond))]] := by
  have answered := sessions_send (server.listening slot (109 :: rest) conn) .sensor slot
    (measureAnswer_ne_nil (SensorListener.measureTimestamp (109 :: rest) beyond)) sent
  rw [sendActions, held_listening held, sessions_listening] at answered
  rw [receiveSensorFrame_listening held, onGotRequest_cons, if_pos rfl]
  refine (sessions_addSensorRequestToExecute _ _).trans ?_
  rw [answered]
  simp [Sessions.perform, Sessions.act]
  rfl

/-- A token is queued with the address of its sender. -/
theorem sessions_initFrame (held : server.holder .sensor slot = some conn)
    (rest : ByteString) (beyond : BytesParser.Memory) (sent : Int) :
    ∃ ip port, (server.receiveSensorFrame slot (105 :: rest) beyond sent conn).sessions =
      server.sessions.perform
        [.receive conn (105 :: rest) (.onConnected slot ip port rest) []] := by
  let handler := (server.listening slot (105 :: rest) conn).handler .sensor
  refine ⟨handler.getIp slot, handler.getPort slot, ?_⟩
  rw [receiveSensorFrame_listening held, onGotRequest_cons, if_neg (by decide), if_pos rfl]
  refine (sessions_addSensorRequestToExecute _ _).trans ?_
  rw [sessions_listening]
  rfl

/-- The sender of any other frame is disconnected. -/
theorem sessions_unknownFrame (held : server.holder .sensor slot = some conn) {byte : UInt8}
    (notMeasure : byte ≠ 109) (notInit : byte ≠ 105) (rest : ByteString)
    (beyond : BytesParser.Memory) (sent : Int) :
    (server.receiveSensorFrame slot (byte :: rest) beyond sent conn).sessions =
      server.sessions.perform [.note (.received conn (byte :: rest)), .release slot conn] := by
  rw [receiveSensorFrame_listening held, onGotRequest_cons, if_neg notMeasure, if_neg notInit,
    sessions_disconnectClient_sensor (held_listening held (byte :: rest)), sessions_listening]
  rfl

end Frames

/-- The listener of the sensors turns a frame into a request or ends the
connection. -/
theorem receiveSensorFrame_outcome (database : IDatabaseConnection δ) {slot : Int}
    {msg : ByteString} {beyond : BytesParser.Memory} {sent : Int} {conn : Nat}
    (held : server.holder .sensor slot = some conn) (nonempty : msg ≠ []) :
    ∃ actions,
      Outcome database server (.sensorFrame slot msg beyond sent) (.ok ()) actions
        (server.receiveSensorFrame slot msg beyond sent conn).database ∧
      (server.receiveSensorFrame slot msg beyond sent conn).sessions =
        server.sessions.perform actions := by
  obtain ⟨byte, rest, rfl⟩ := List.exists_cons_of_ne_nil nonempty
  rw [database_receiveSensorFrame held]
  by_cases isMeasure : byte = 109
  · subst isMeasure
    refine ⟨_, ?_, sessions_measureFrame held rest beyond sent⟩
    exact .frame held rfl ⟨rfl, beyond, rfl, rfl⟩ (by simp [Effect.plain])
  · by_cases isInit : byte = 105
    · subst isInit
      obtain ⟨ip, port, received⟩ := sessions_initFrame held rest beyond sent
      refine ⟨_, ?_, received⟩
      exact .frame held rfl rfl (by simp)
    · refine ⟨_, .unknownFrame held ⟨?_, ?_⟩,
        sessions_unknownFrame held isMeasure isInit rest beyond sent⟩
      · exact fun first => isMeasure (Option.some.inj first)
      · exact fun first => isInit (Option.some.inj first)

/-- The sessions after the head of the queue is taken. -/
theorem sessions_pop {queue : List (Stamped SensorRequest)} {head : Stamped SensorRequest}
    (queued : server.sensorRequestsQueue = head :: queue) (changed : δ) :
    (({ server with sensorRequestsQueue := queue } : Server δ).withDatabase
      changed).sessions = server.sessions.act .discard := by
  have tail : server.sensorRequestsQueue.tail = queue := by rw [queued]; rfl
  rw [← tail]
  rfl

theorem sessions_accept {queue : List (Stamped SensorRequest)} {head : Stamped SensorRequest}
    (queued : server.sensorRequestsQueue = head :: queue) (changed : δ)
    (slot sensorId : Int) (conn cause : Nat) :
    ((({ server with sensorRequestsQueue := queue } : Server δ).withDatabase
      changed).acceptSensor slot sensorId conn cause).sessions =
      server.sessions.act (.accept slot sensorId conn cause) := by
  have tail : server.sensorRequestsQueue.tail = queue := by rw [queued]; rfl
  rw [← tail]
  rfl

theorem activeMessage_ne_nil (serverTime : Int) : activeMessage serverTime ≠ [] := by
  simp [activeMessage, BytesParser.appendBytes, BytesParser.toBytes, Bytes.ofInt,
    Bytes.toLittleEndian]

theorem executeSensor_outcome {serverTime sent : Int} {result : Except SQLException Unit}
    (ran : (executeSensorRequests database serverTime sent).runOn server =
      some (result, after)) :
    ∃ actions,
      Outcome database server (.executeSensor serverTime sent) result actions
        after.database ∧
      after.sessions = server.sessions.perform actions := by
  obtain ⟨⟨request, conn, cause⟩, queue, queued, ran⟩ :=
    executeSensorRequests_eq_some.mp ran
  have tail : server.sensorRequestsQueue.tail = queue := by rw [queued]; rfl
  have popped := sessions_pop queued
  cases request with
  | measurement slot value time =>
      rcases executeSensorMeasurementRequest_cases ran with
        ⟨unmapped, rfl, rfl⟩ | ⟨sensorId, changed, mapped, called, rfl⟩
      · exact ⟨_, .unmapped queued rfl unmapped, popped server.database⟩
      · refine ⟨_, .measured queued mapped called, ?_⟩
        simp only [Sessions.perform, List.foldl_cons, List.foldl_nil, Sessions.act]
        rw [← tail]
        rfl
  | onConnected slot ip port token =>
      cases executeSensorOnConnectedRequest_cases ran with
      | incorrectToken listed =>
          refine ⟨.discard :: server.killActions slot killSensorIncorrectToken, ?_, ?_⟩
          · rw [database_killSensor]
            exact .incorrectToken queued listed
          · rw [sessions_killSensor, popped]
            rfl
      | tokenActive listed found active =>
          refine ⟨.discard :: server.killActions slot killSensorTokenActive, ?_, ?_⟩
          · rw [database_killSensor]
            exact .tokenActive queued listed found active
          · rw [sessions_killSensor, popped]
            rfl
      | @accepted first second changed sensorId sensor listed found free added =>
          refine ⟨.accept slot sensor.id conn cause ::
            server.sendActions .sensor slot (activeMessage serverTime), ?_, ?_⟩
          · rw [database_send]
            exact .accepted queued listed found free added
          · rw [sessions_send _ _ _ (activeMessage_ne_nil serverTime), Sessions.perform,
              Sessions.perform, List.foldl_cons, ← sessions_accept queued]
            rfl
      | threw threw =>
          exact ⟨_, .initThrew queued threw, popped _⟩
  | onDisconnected slot =>
      rcases executeSensorOnDisconnectedRequest_cases ran with
        ⟨unmapped, rfl, rfl⟩ | ⟨sensorId, sensor, changed, mapped, called, rfl, rfl⟩ |
        ⟨sensorId, error, changed, mapped, called, rfl, rfl⟩
      · exact ⟨_, .unmapped queued rfl unmapped, popped server.database⟩
      · refine ⟨_, .disconnected queued mapped called, ?_⟩
        simp only [Sessions.perform, List.foldl_cons, List.foldl_nil, Sessions.act]
        rw [← tail]
        rfl
      · exact ⟨_, .disconnectThrew queued mapped called, popped changed⟩

theorem Administered.outcome {stamped : Stamped AdministratorRequest}
    {queue : List (Stamped AdministratorRequest)} {rands : List (Vector Nat 15)}
    {sent : Int} {response : Except SQLException AdministratorResponse}
    (queued : server.administratorRequestsQueue = stamped :: queue)
    (administered : Administered database { server with administratorRequestsQueue := queue }
      stamped.request sent response after) :
    ∃ actions,
      Outcome database server (.executeAdministrator rands sent) (response.map fun _ => ())
        actions after.database ∧
      after.sessions = server.sessions.perform actions := by
  cases administered with
  | killed kills called =>
      refine ⟨_, ?_, sessions_killMapped _ _ _⟩
      rw [database_killMapped]
      exact .killed queued kills called
  | threw kills called => exact ⟨_, .killThrew queued kills called, rfl⟩
  | housekept spares kept => exact ⟨_, .administered queued spares kept, rfl⟩

theorem executeAdministrator_outcome {rands : List (Vector Nat 15)} {sent : Int}
    {result : Except SQLException Unit}
    (ran : (executeAdministratorRequests database rands sent).runOn server =
      some (result, after)) :
    ∃ actions,
      Outcome database server (.executeAdministrator rands sent) result actions
        after.database ∧
      after.sessions = server.sessions.perform actions := by
  obtain ⟨stamped, queue, queued, ⟨response, middle, administered, rfl, rfl⟩ |
    ⟨error, administered, rfl⟩⟩ := executeAdministratorRequests_cases ran
  · exact administered.outcome queued
  · exact administered.outcome queued

/-- Nobody holds the slot that stands for no client. -/
theorem holder_noClient (server : Server δ) (channel : Channel) :
    server.holder channel (-1) = none := by
  simp [holder, ClientsHandler.holder, ClientsHandler.inRange]

/-- A sender that leaves out the message for no client sends what `sendActions`
says. -/
theorem sessions_sendUnless (server : Server δ) (channel : Channel) (clientId : Int)
    {msg : ByteString} (nonempty : msg ≠ []) (sent : Int) :
    (if clientId ≠ -1 then server.send channel clientId msg sent else server).sessions =
      server.sessions.perform (server.sendActions channel clientId msg) := by
  split
  · exact sessions_send server channel clientId nonempty sent
  · next isNone =>
      obtain rfl := not_not.mp isNone
      rw [sendActions, holder_noClient]
      rfl

theorem database_sendUnless (server : Server δ) (channel : Channel) (clientId : Int)
    (msg : ByteString) (sent : Int) :
    (if clientId ≠ -1 then server.send channel clientId msg sent else server).database =
      server.database := by
  split
  · exact database_send server channel clientId msg sent
  · rfl

theorem accept_outcome (database : IDatabaseConnection δ) {channel : Channel}
    {slot socket : Int} {service : SockAddr}
    (range : (server.handler channel).inRange slot = true)
    (free : server.holder channel slot = none) (bound : socket > -1) :
    ∃ actions,
      Outcome database server (.accept channel slot socket service) (.ok ()) actions
        server.database ∧
      (server.accept channel slot socket service).sessions =
        server.sessions.perform actions := by
  by_cases sensor : channel = .sensor
  · subst sensor
    refine ⟨_, .acceptSensor free, ?_⟩
    have holder := ClientsHandler.holder_bindHandler range bound service []
      server.connections
    have bound_sessions := @sessions_setHandler_sensor δ server
      ⟨_, (server.handlers .sensor).property.bindHandler slot socket service []
        server.connections⟩
    calc (server.accept .sensor slot socket service).sessions
        = { (server.setHandler .sensor
              ⟨_, (server.handlers .sensor).property.bindHandler slot socket service []
                server.connections⟩).sessions with
            connections := server.connections + 1 } := rfl
      _ = server.sessions.act (.bind slot) := by
          rw [bound_sessions]
          exact congrArg
            (fun holder => { server.sessions with
              holder := holder
              connections := server.connections + 1 }) holder
  · refine ⟨_, .accept sensor, ?_⟩
    have bound_sessions := @sessions_setHandler_other δ server channel
      ⟨_, (server.handlers channel).property.bindHandler slot socket service []
        server.connections⟩ sensor
    calc (server.accept channel slot socket service).sessions
        = (server.setHandler channel
            ⟨_, (server.handlers channel).property.bindHandler slot socket service []
              server.connections⟩).sessions.act .connect := rfl
      _ = server.sessions.act .connect := by rw [bound_sessions]

/-- A connection of any channel is found gone. -/
theorem lost_outcome (database : IDatabaseConnection δ) {channel : Channel} {slot : Int}
    {conn : Nat} (held : server.holder channel slot = some conn) :
    ∃ actions,
      Outcome database server (.lost channel slot) (.ok ()) actions server.database ∧
      (server.disconnectClient channel slot).sessions = server.sessions.perform actions := by
  by_cases sensor : channel = .sensor
  · subst sensor
    exact ⟨_, .lostSensor held, sessions_disconnectClient_sensor held⟩
  · exact ⟨_, .lost sensor held, sessions_disconnectClient_other sensor held⟩

/-- A frame arrives from the holder of its slot. -/
theorem Steps.sensorFrame {slot : Int} {msg : ByteString} {beyond : BytesParser.Memory}
    {sent : Int} {result : Except SQLException Unit}
    (moved : Steps database (.sensorFrame slot msg beyond sent) server result after) :
    ∃ conn, server.holder .sensor slot = some conn ∧ msg ≠ [] ∧ result = .ok () ∧
      after = server.receiveSensorFrame slot msg beyond sent conn := by
  rw [Steps, step, runOn_get_bind] at moved
  split at moved
  · next conn held allowed =>
      obtain ⟨rfl, rfl⟩ := runOn_set_eq_some.mp moved
      refine ⟨conn, held, ?_, rfl, rfl⟩
      rintro rfl
      simp [deliverable] at allowed
  · simp at moved

/-- Every step has one of the outcomes. -/
theorem Steps.outcome {label : Label} {result : Except SQLException Unit}
    (moved : Steps database label server result after) :
    ∃ actions, Outcome database server label result actions after.database ∧
      after.sessions = server.sessions.perform actions := by
  cases label with
  | accept channel slot socket service =>
      rw [Steps, step, runOn_get_bind] at moved
      split at moved
      · next enabled =>
          simp only [Bool.and_eq_true, Option.isNone_iff_eq_none, decide_eq_true_eq]
            at enabled
          obtain ⟨⟨range, free⟩, bound⟩ := enabled
          obtain ⟨rfl, rfl⟩ := runOn_set_eq_some.mp moved
          exact accept_outcome database range free bound
      · simp at moved
  | lost channel slot =>
      rw [Steps, step, runOn_get_bind] at moved
      split at moved
      · next conn held =>
          obtain ⟨rfl, rfl⟩ := runOn_set_eq_some.mp moved
          rw [database_disconnectClient]
          exact lost_outcome database held
      · simp at moved
  | sensorFrame slot msg beyond sent =>
      obtain ⟨conn, held, nonempty, rfl, rfl⟩ := Steps.sensorFrame moved
      exact receiveSensorFrame_outcome database held nonempty
  | administratorFrame slot request =>
      rw [Steps, step, runOn_get_bind] at moved
      split at moved
      · obtain ⟨rfl, rfl⟩ := runOn_set_eq_some.mp moved
        exact ⟨[], .administratorFrame, rfl⟩
      · simp at moved
  | monitoringFrame slot request =>
      rw [Steps, step, runOn_get_bind] at moved
      split at moved
      · obtain ⟨rfl, rfl⟩ := runOn_set_eq_some.mp moved
        exact ⟨[], .monitoringFrame, rfl⟩
      · simp at moved
  | executeSensor serverTime sent => exact executeSensor_outcome moved
  | executeAdministrator rands sent => exact executeAdministrator_outcome moved
  | sendAdministrator sent =>
      obtain ⟨stamped, queue, queued, rfl, rfl⟩ := sendAdministratorResponse_eq_some.mp moved
      rw [database_sendUnless]
      exact ⟨_, .sentAdministrator queued, sessions_sendUnless
        { server with administratorResponsesQueue := queue } .administrator
        stamped.request.clientId
        (SerializerAdministratorMessage.serializeResponseMessage_ne_nil stamped.request) sent⟩
  | executeMonitoring =>
      obtain ⟨stamped, queue, changed, -, kept, ⟨response, rfl, rfl⟩ | ⟨error, rfl, rfl⟩⟩ :=
        executeMonitoringRequests_cases moved
      · exact ⟨_, .monitored kept, rfl⟩
      · exact ⟨_, .monitored kept, rfl⟩
  | sendMonitoring sent =>
      obtain ⟨stamped, queue, queued, rfl, rfl⟩ := sendMonitoringResponse_eq_some.mp moved
      rw [database_sendUnless]
      exact ⟨_, .sentMonitoring queued, sessions_sendUnless
        { server with monitoringResponsesQueue := queue } .monitoring
        stamped.request.clientId
        (SerializerMonitoringMessage.serializeResponseMessage_ne_nil stamped.request) sent⟩

end Complete

section Permitted

variable {guard : Sessions → Action → Prop}

theorem permitted_sendActions (server : Server δ) (sessions : Sessions)
    (calm : ∀ sessions action, action.calm = true → guard sessions action)
    (channel : Channel) (clientId : Int) (msg : ByteString) :
    sessions.Permitted guard (server.sendActions channel clientId msg) := by
  unfold sendActions
  cases server.holder channel clientId with
  | none => trivial
  | some conn => exact ⟨⟨rfl, calm _ _ rfl⟩, trivial⟩

theorem permitted_killActions (server : Server δ) {sessions : Sessions}
    (calm : ∀ sessions action, action.calm = true → guard sessions action)
    (same : sessions.holder = server.sessions.holder) (slot reason : Int) :
    sessions.Permitted guard (server.killActions slot reason) := by
  unfold killActions
  cases held : server.holder .sensor slot with
  | none => trivial
  | some conn =>
      have holds : sessions.holder slot = some conn := by rw [same]; exact held
      exact ⟨⟨rfl, calm _ _ rfl⟩, ⟨holds, calm _ _ rfl⟩, trivial⟩

/-- The server takes an action only when the sessions permit it.  What the
actions that are not calm need is left to `guard`. -/
theorem Outcome.permitted {database : IDatabaseConnection δ} {label : Label}
    {result : Except SQLException Unit} {actions : List Action} {changed : δ}
    (outcome : Outcome database server label result actions changed)
    (calm : ∀ sessions action, action.calm = true → guard sessions action)
    (accepts : ∀ slot sensorId conn cause, .accept slot sensorId conn cause ∈ actions →
      guard server.sessions (.accept slot sensorId conn cause))
    (abandons : .abandon ∈ actions → guard server.sessions .abandon)
    (erases : ∀ sensorId reason,
      actions = server.killMappedActions sensorId reason →
      guard (server.sessions.perform
        (server.killActions (server.killTarget sensorId) reason)) (.eraseSensor sensorId)) :
    server.sessions.Permitted guard actions := by
  have discarded : (server.sessions.act .discard).holder = server.sessions.holder := rfl
  cases outcome with
  | accept => exact ⟨⟨trivial, calm _ _ rfl⟩, trivial⟩
  | acceptSensor free => exact ⟨⟨free, calm _ _ rfl⟩, trivial⟩
  | lost => exact ⟨⟨rfl, calm _ _ rfl⟩, trivial⟩
  | lostSensor held => exact ⟨⟨held, calm _ _ rfl⟩, trivial⟩
  | frame held isSlot carries plain =>
      exact ⟨⟨⟨isSlot ▸ held, carries, plain⟩, calm _ _ rfl⟩, trivial⟩
  | unknownFrame held => exact ⟨⟨rfl, calm _ _ rfl⟩, ⟨held, calm _ _ rfl⟩, trivial⟩
  | administratorFrame => trivial
  | monitoringFrame => trivial
  | measured queued mapped =>
      exact ⟨⟨⟨_, _, _, _, queued, mapped, rfl⟩, calm _ _ rfl⟩, trivial⟩
  | unmapped queued _ unmapped =>
      exact ⟨⟨⟨_, _, queued, fun _ => unmapped⟩, calm _ _ rfl⟩, trivial⟩
  | incorrectToken queued =>
      exact ⟨⟨⟨_, _, queued, by simp [SensorRequest.isOnDisconnected]⟩, calm _ _ rfl⟩,
        permitted_killActions server calm discarded _ _⟩
  | tokenActive queued =>
      exact ⟨⟨⟨_, _, queued, by simp [SensorRequest.isOnDisconnected]⟩, calm _ _ rfl⟩,
        permitted_killActions server calm discarded _ _⟩
  | @accepted _ _ slot =>
      rename_i queued _ _ _ _
      exact ⟨⟨⟨_, _, _, _, queued⟩, accepts _ _ _ _ (by simp)⟩,
        permitted_sendActions server _ calm _ _ _⟩
  | initThrew queued =>
      exact ⟨⟨⟨_, _, queued, by simp [SensorRequest.isOnDisconnected]⟩, calm _ _ rfl⟩,
        trivial⟩
  | disconnected queued mapped =>
      exact ⟨⟨⟨_, _, _, queued, mapped⟩, calm _ _ rfl⟩, trivial⟩
  | disconnectThrew queued =>
      exact ⟨⟨⟨_, _, _, _, queued⟩, abandons (by simp)⟩, trivial⟩
  | killed =>
      rw [killMappedActions, Sessions.permitted_append]
      exact ⟨permitted_killActions server calm rfl _ _, ⟨trivial, erases _ _ rfl⟩, trivial⟩
  | killThrew => trivial
  | administered => trivial
  | sentAdministrator => exact permitted_sendActions server _ calm _ _ _
  | monitored => trivial
  | sentMonitoring => exact permitted_sendActions server _ calm _ _ _

end Permitted

/-- A disconnect request is abandoned by a handler that throws, and by no
other. -/
theorem Outcome.abandon_throws {database : IDatabaseConnection δ} {label : Label}
    {result : Except SQLException Unit} {actions : List Action} {changed : δ}
    (outcome : Outcome database server label result actions changed)
    (abandons : .abandon ∈ actions) :
    ∃ serverTime sent slot conn cause queue sensorId error,
      label = .executeSensor serverTime sent ∧
      server.sensorRequestsQueue = Sessions.closing slot conn cause :: queue ∧
      server.clientToSensorId slot = some sensorId ∧
      (database.disconnectSensor sensorId).runOn server.database =
        some (.error error, changed) ∧
      result = .error error := by
  cases outcome with
  | disconnectThrew queued mapped called =>
      exact ⟨_, _, _, _, _, _, _, _, rfl, queued, mapped, called, rfl⟩
  | incorrectToken | tokenActive =>
      rcases List.mem_cons.mp abandons with impossible | kills
      · cases impossible
      · cases calm_of_killActions kills
  | accepted =>
      rcases List.mem_cons.mp abandons with impossible | sends
      · cases impossible
      · cases calm_of_sendActions sends
  | killed =>
      rcases List.mem_append.mp abandons with kills | erases
      · cases calm_of_killActions kills
      · simp at erases
  | sentAdministrator | sentMonitoring => cases calm_of_sendActions abandons
  | _ => simp at abandons

/-- A step that throws nothing abandons nothing. -/
theorem Outcome.not_abandon {database : IDatabaseConnection δ} {label : Label}
    {actions : List Action} {changed : δ}
    (outcome : Outcome database server label (.ok ()) actions changed) :
    .abandon ∉ actions := by
  intro abandons
  obtain ⟨_, _, _, _, _, _, _, _, -, -, -, -, threw⟩ := outcome.abandon_throws abandons
  cases threw

/-- A sensor is accepted by the handler of an init request, and by no other. -/
theorem Outcome.accept_init {database : IDatabaseConnection δ} {label : Label}
    {result : Except SQLException Unit} {actions : List Action} {changed : δ}
    (outcome : Outcome database server label result actions changed)
    {slot sensorId : Int} {conn cause : Nat}
    (accepts : .accept slot sensorId conn cause ∈ actions) :
    ∃ serverTime sent ip port token queue first second found sensor,
      label = .executeSensor serverTime sent ∧
      server.sensorRequestsQueue = ⟨.onConnected slot ip port token, conn, cause⟩ :: queue ∧
      (database.checkIfTokenIsWhitelisted token).runOn server.database =
        some (.ok true, first) ∧
      (database.getSensorId token).runOn first = some (.ok found, second) ∧
      server.sensorToClientId.contains found = false ∧
      (database.addSensor ip port token).runOn second = some (.ok sensor, changed) ∧
      sensorId = sensor.id := by
  cases outcome with
  | @accepted serverTime sent _ ip port token _ _ queue first second _ found sensor
      queued listed isFound free added =>
      rcases List.mem_cons.mp accepts with same | sends
      · cases same
        exact ⟨serverTime, sent, ip, port, token, queue, first, second, found, sensor, rfl,
          queued, listed, isFound, free, added, rfl⟩
      · cases calm_of_sendActions sends
  | incorrectToken | tokenActive =>
      rcases List.mem_cons.mp accepts with impossible | kills
      · cases impossible
      · cases calm_of_killActions kills
  | killed =>
      rcases List.mem_append.mp accepts with kills | erases
      · cases calm_of_killActions kills
      · simp at erases
  | sentAdministrator | sentMonitoring => cases calm_of_sendActions accepts
  | _ => simp at accepts

end Server

end SensorManager
