import SensorManager.JavaClient.Records

/-!
# Responses in the administrator client

`analyzeResponse` of the administrator's `CommunicationManager`, which calls
the `ResponseExecutor` with what the server has serialised.
-/

namespace SensorManager.JavaClient.Administrator

open SerializerMessage SerializerAdministratorMessage

structure Sensor where
  id : Int
  name : JavaString
  ip : JavaString
  port : Int
  connected : Bool
  deriving DecidableEq, Repr

/-- A call of the `ResponseExecutor`. -/
inductive ResponseExecutor where
  | executeResponseGetAllSensors (sensors : List Sensor)
  | executeResponseUpdateSensorName (sensorId : Int)
  | executeResponseRevokeSensor (sensorId : Int)
  | executeResponseDisconnectSensor (sensorId : Int)
  | executeResponseGenerateToken (tokenContent : JavaString)
  deriving DecidableEq, Repr

def constructSensorFromByteMessage (message : List UInt8) : Except JavaException Sensor := do
  let (id, readingBegin) ← readSized constructInt message 0
  let (name, readingBegin) ← readSized constructString message readingBegin
  let (ip, readingBegin) ← readSized constructString message readingBegin
  let (port, readingBegin) ← readSized constructInt message readingBegin
  let (connected, _) ← readSized byteListToBoolean message readingBegin
  return { id := id, name := name, ip := ip, port := port, connected := connected }

def constructSensors (message : List UInt8) : Except JavaException (List Sensor) :=
  readList constructSensorFromByteMessage message 0

/-- The size in front of the token is skipped. -/
def analyzeGenerateTokenResponse (message : List UInt8) : Except JavaException JavaString := do
  constructString (← subList message 4 message.length)

/-- The call of the `ResponseExecutor`; none for a command type that is not
recognized. -/
def analyzeResponse (message : List UInt8) :
    Except JavaException (Option ResponseExecutor) := do
  let commandType ← byteListToInt (← subList message 0 4)
  if commandType = 0 then do
    let sensors ← constructSensors (← subList message 4 message.length)
    return some (.executeResponseGetAllSensors sensors)
  else if commandType = 1 then do
    let updatedSensorId ← constructInt (← subList message 4 message.length)
    return some (.executeResponseUpdateSensorName updatedSensorId)
  else if commandType = 2 then do
    let revokedSensorId ← constructInt (← subList message 4 message.length)
    return some (.executeResponseRevokeSensor revokedSensorId)
  else if commandType = 3 then do
    let disconnectedSensorId ← constructInt (← subList message 4 message.length)
    return some (.executeResponseDisconnectSensor disconnectedSensorId)
  else if commandType = 4 then do
    let tokenContent ← analyzeGenerateTokenResponse (← subList message 4 message.length)
    return some (.executeResponseGenerateToken tokenContent)
  else return none

/-- The sensors that the two sides can name: 32-bit integers and 7-bit
characters. -/
structure Plain (sensor : SensorManager.Sensor) : Prop where
  id : IsInt sensor.id
  name : IsAscii sensor.name
  ip : IsAscii sensor.ip
  port : IsInt sensor.port

/-- The values of a response that its command type sends are such. -/
def Sendable (response : AdministratorResponse) : Prop :=
  match response.commandType with
  | .getAllSensors => ∀ sensor ∈ response.sensors, Plain sensor
  | .generateToken => IsAscii response.token
  | _ => IsInt response.sensorId

/-- The same sensor in the client. -/
def ofServer (sensor : SensorManager.Sensor) : Sensor :=
  { id := sensor.id
    name := ascii sensor.name
    ip := ascii sensor.ip
    port := sensor.port
    connected := sensor.connected }

/-- The call with the values of a response. -/
def executed (response : AdministratorResponse) : ResponseExecutor :=
  match response.commandType with
  | .getAllSensors => .executeResponseGetAllSensors (response.sensors.map ofServer)
  | .updateSensorName => .executeResponseUpdateSensorName response.sensorId
  | .revokeSensor => .executeResponseRevokeSensor response.sensorId
  | .disconnectSensor => .executeResponseDisconnectSensor response.sensorId
  | .generateToken => .executeResponseGenerateToken (ascii response.token)

/-- The fields of a sensor are read in the order in which they are written. -/
theorem constructSensorFromByteMessage_serialized {sensor : SensorManager.Sensor}
    (id : IsInt sensor.id) (port : IsInt sensor.port)
    (holds : (constructSensorMessage sensor).length < 2 ^ 31) :
    constructSensorFromByteMessage (constructSensorMessage sensor) =
      .ok
        { id := sensor.id
          name := byteListToString sensor.name
          ip := byteListToString sensor.ip
          port := sensor.port
          connected := sensor.connected } := by
  have written : constructSensorMessage sensor =
      sized (intToByte sensor.id) ++ (sized sensor.name ++ (sized sensor.ip ++
        (sized (intToByte sensor.port) ++ sized (boolToByte sensor.connected)))) := by
    rw [constructSensorMessage, constructIntMessageWithSize_eq, constructIntMessageWithSize_eq,
      constructStringMessageWithSize_eq, constructStringMessageWithSize_eq,
      constructBoolMessageWithSize_eq]
    simp only [List.append_assoc]
  have start := at_start holds
  rw [written] at start ⊢
  simp only [List.append_assoc] at start
  obtain ⟨atName, readId, start⟩ := start.readSized (constructInt_intToByte id)
  obtain ⟨atIp, readName, start⟩ :=
    start.readSized (rfl : constructString sensor.name = .ok (byteListToString sensor.name))
  obtain ⟨atPort, readIp, start⟩ :=
    start.readSized (rfl : constructString sensor.ip = .ok (byteListToString sensor.ip))
  obtain ⟨atConnected, readPort, start⟩ := start.readSized (constructInt_intToByte port)
  obtain ⟨atEnd, readConnected, -⟩ :=
    start.readSized (byteListToBoolean_boolToByte sensor.connected)
  refine except_bind_eq_ok.mpr ⟨_, readId, ?_⟩
  refine except_bind_eq_ok.mpr ⟨_, readName, ?_⟩
  refine except_bind_eq_ok.mpr ⟨_, readIp, ?_⟩
  refine except_bind_eq_ok.mpr ⟨_, readPort, ?_⟩
  exact except_bind_eq_ok.mpr ⟨_, readConnected, rfl⟩

theorem constructSensorFromByteMessage_plain {sensor : SensorManager.Sensor}
    (plain : Plain sensor) (holds : (constructSensorMessage sensor).length < 2 ^ 31) :
    constructSensorFromByteMessage (constructSensorMessage sensor) = .ok (ofServer sensor) := by
  rw [constructSensorFromByteMessage_serialized plain.id plain.port holds,
    byteListToString_ascii plain.name, byteListToString_ascii plain.ip]
  rfl

theorem constructSensors_serialized {sensors : List SensorManager.Sensor}
    (plain : ∀ sensor ∈ sensors, Plain sensor)
    (holds : (constructSensorListMessage sensors).length < 2 ^ 31) :
    constructSensors (constructSensorListMessage sensors) = .ok (sensors.map ofServer) := by
  apply (at_start holds).readList
  exact fun sensor member fits => constructSensorFromByteMessage_plain (plain sensor member) fits

theorem analyzeGenerateTokenResponse_serialized {token : ByteString} (isAscii : IsAscii token) :
    analyzeGenerateTokenResponse (constructStringMessageWithSize token) = .ok (ascii token) :=
  except_bind_eq_ok.mpr ⟨_, subList_afterInt _ _, constructString_ascii isAscii⟩

/-- The call that the branch of a command type makes of the rest of a message. -/
def branch (rest : List UInt8) : AdministratorCommandTypes → Except JavaException ResponseExecutor
  | .getAllSensors => return .executeResponseGetAllSensors (← constructSensors rest)
  | .updateSensorName => return .executeResponseUpdateSensorName (← constructInt rest)
  | .revokeSensor => return .executeResponseRevokeSensor (← constructInt rest)
  | .disconnectSensor => return .executeResponseDisconnectSensor (← constructInt rest)
  | .generateToken => return .executeResponseGenerateToken (← analyzeGenerateTokenResponse rest)

/-- A message is taken by the branch of the command type at its front. -/
theorem analyzeResponse_branch {command : AdministratorCommandTypes} {rest : List UInt8}
    {call : ResponseExecutor} (called : branch rest command = .ok call) :
    analyzeResponse (intToByte command.toInt ++ rest) = .ok (some call) := by
  have int : IsInt command.toInt := by
    cases command <;> decide
  refine except_bind_eq_ok.mpr ⟨_, subList_front command.toInt rest, ?_⟩
  refine except_bind_eq_ok.mpr ⟨_, byteListToInt_intToByte int, ?_⟩
  cases command with
  | getAllSensors =>
      rw [if_pos (by decide)]
      exact called_afterInt called
  | updateSensorName =>
      rw [if_neg (by decide), if_pos (by decide)]
      exact called_afterInt called
  | revokeSensor =>
      rw [if_neg (by decide), if_neg (by decide), if_pos (by decide)]
      exact called_afterInt called
  | disconnectSensor =>
      rw [if_neg (by decide), if_neg (by decide), if_neg (by decide), if_pos (by decide)]
      exact called_afterInt called
  | generateToken =>
      rw [if_neg (by decide), if_neg (by decide), if_neg (by decide), if_neg (by decide),
        if_pos (by decide)]
      exact called_afterInt called

/-- Behind the command type, a response is what its branch reads. -/
theorem branch_serialized {response : AdministratorResponse} (sendable : Sendable response)
    (holds : (serializeResponseMessage response).length < 2 ^ 31) :
    ∃ rest, serializeResponseMessage response = intToByte response.commandType.toInt ++ rest ∧
      branch rest response.commandType = .ok (executed response) := by
  obtain ⟨clientId, commandType, sensorId, sensors, token⟩ := response
  cases commandType with
  | getAllSensors =>
      have fits : (constructSensorListMessage sensors).length < 2 ^ 31 := by
        simp only [serializeResponseMessage, constructGetAllSensorsMessage,
          List.length_append] at holds
        omega
      exact ⟨_, rfl, except_bind_eq_ok.mpr ⟨_, constructSensors_serialized sendable fits, rfl⟩⟩
  | updateSensorName | revokeSensor | disconnectSensor =>
      exact ⟨_, rfl, except_bind_eq_ok.mpr ⟨_, constructInt_intToByte sendable, rfl⟩⟩
  | generateToken =>
      exact ⟨_, rfl, except_bind_eq_ok.mpr
        ⟨_, analyzeGenerateTokenResponse_serialized sendable, rfl⟩⟩

/-- What the server serialises for a response makes the client call the
`ResponseExecutor` with the values of the response, as long as a Java list can
hold the message. -/
theorem administratorResponse_decodes {response : AdministratorResponse}
    (sendable : Sendable response)
    (holds : (serializeResponseMessage response).length < 2 ^ 31) :
    analyzeResponse (serializeResponseMessage response) = .ok (some (executed response)) := by
  obtain ⟨rest, written, called⟩ := branch_serialized sendable holds
  rw [written]
  exact analyzeResponse_branch called

/-- A list of two sensors, one with negative numbers and an empty name. -/
theorem administratorResponse_decodes_twoSensors :
    analyzeResponse (serializeResponseMessage
      { clientId := 0
        commandType := .getAllSensors
        sensors :=
          [{ id := 1, name := [97], ip := [49, 46, 50], port := 80, connected := true },
            { id := -5, name := [], ip := [], port := -1 }] }) =
      .ok (some (.executeResponseGetAllSensors
        [{ id := 1, name := [97], ip := [49, 46, 50], port := 80, connected := true },
          { id := -5, name := [], ip := [], port := -1, connected := false }])) := by
  apply administratorResponse_decodes
  · intro sensor member
    rcases List.mem_cons.mp member with rfl | later
    · constructor <;> decide
    · obtain rfl := List.mem_singleton.mp later
      constructor <;> decide
  · decide

end SensorManager.JavaClient.Administrator
