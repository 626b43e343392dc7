import SensorManager.JavaClient.Records

/-!
# Responses in the monitoring client

`analyzeResponse` of the monitoring client's `CommunicationManager`.  A sensor
ends with its current measurement here, and each measurement of a list is tagged
with the sensor id in front of the list.
-/

namespace SensorManager.JavaClient.Monitoring

open SerializerMessage SerializerMonitoringMessage

structure Sensor where
  id : Int
  name : JavaString
  ip : JavaString
  port : Int
  currentMeasurement : Int
  deriving DecidableEq, Repr

structure Measurement where
  id : Int
  value : Int
  label : JavaString
  deriving DecidableEq, Repr

/-- A call of the `ResponseExecutor`. -/
inductive ResponseExecutor where
  | executeResponseGetAllSensors (sensors : List Sensor)
  | executeResponseGetSetOfMeasurements (measurements : List Measurement)
  deriving DecidableEq, Repr

def constructSensorFromByteMessage (message : List UInt8) : Except JavaException Sensor := do
  let (id, readingBegin) ← readSized constructInt message 0
  let (name, readingBegin) ← readSized constructString message readingBegin
  let (ip, readingBegin) ← readSized constructString message readingBegin
  let (port, readingBegin) ← readSized constructInt message readingBegin
  let (currMeasurement, _) ← readSized constructInt message readingBegin
  return { id := id, name := name, ip := ip, port := port, currentMeasurement := currMeasurement }

def constructSensors (message : List UInt8) : Except JavaException (List Sensor) :=
  readList constructSensorFromByteMessage message 0

def constructMeasurementFromByteMessage (sensorID : Int) (message : List UInt8) :
    Except JavaException Measurement := do
  let (value, readingBegin) ← readSized constructInt message 0
  let (label, _) ← readSized constructString message readingBegin
  return { id := sensorID, value := value, label := label }

def constructMeasurements (message : List UInt8) : Except JavaException (List Measurement) := do
  let sensorID ← constructInt (← subList message 0 4)
  readList (constructMeasurementFromByteMessage sensorID) message 4

/-- The call of the `ResponseExecutor`; none for a command type that is not
recognized. -/
def analyzeResponse (message : List UInt8) :
    Except JavaException (Option ResponseExecutor) := do
  let commandType ← byteListToInt (← subList message 0 4)
  if commandType = 0 then do
    let sensors ← constructSensors (← subList message 4 message.length)
    return some (.executeResponseGetAllSensors sensors)
  else if commandType = 1 then do
    let measurements ← constructMeasurements (← subList message 4 message.length)
    return some (.executeResponseGetSetOfMeasurements measurements)
  else return none

/-- The sensors that the two sides can name: 32-bit integers and 7-bit
characters. -/
structure PlainSensor (sensor : SensorManager.Sensor) : Prop where
  id : IsInt sensor.id
  name : IsAscii sensor.name
  ip : IsAscii sensor.ip
  port : IsInt sensor.port
  value : IsInt sensor.currentMeasurement.value

structure PlainMeasurement (measurement : SensorManager.Measurement) : Prop where
  value : IsInt measurement.value
  label : IsAscii measurement.label

/-- The values of a response that its command type sends are such. -/
def Sendable (response : MonitoringResponse) : Prop :=
  match response.commandType with
  | .getAllSensorsMonitoring => ∀ sensor ∈ response.sensors, PlainSensor sensor
  | .getSetOfMeasurements =>
      IsInt response.sensorId ∧ ∀ measurement ∈ response.measurements, PlainMeasurement measurement

/-- The same sensor in the client. -/
def ofServer (sensor : SensorManager.Sensor) : Sensor :=
  { id := sensor.id
    name := ascii sensor.name
    ip := ascii sensor.ip
    port := sensor.port
    currentMeasurement := sensor.currentMeasurement.value }

/-- The same measurement in the client, tagged with a sensor id. -/
def tagged (sensorId : Int) (measurement : SensorManager.Measurement) : Measurement :=
  { id := sensorId, value := measurement.value, label := ascii measurement.label }

/-- The call with the values of a response. -/
def executed (response : MonitoringResponse) : ResponseExecutor :=
  match response.commandType with
  | .getAllSensorsMonitoring => .executeResponseGetAllSensors (response.sensors.map ofServer)
  | .getSetOfMeasurements =>
      .executeResponseGetSetOfMeasurements (response.measurements.map (tagged response.sensorId))

/-- The fields of a sensor are read in the order in which they are written. -/
theorem constructSensorFromByteMessage_serialized {sensor : SensorManager.Sensor}
    (plain : PlainSensor sensor) (holds : (constructSensorMessage sensor).length < 2 ^ 31) :
    constructSensorFromByteMessage (constructSensorMessage sensor) = .ok (ofServer sensor) := by
  have written : constructSensorMessage sensor =
      sized (intToByte sensor.id) ++ (sized sensor.name ++ (sized sensor.ip ++
        (sized (intToByte sensor.port) ++
          sized (intToByte sensor.currentMeasurement.value)))) := by
    rw [constructSensorMessage, constructIntMessageWithSize_eq, constructIntMessageWithSize_eq,
      constructIntMessageWithSize_eq, constructStringMessageWithSize_eq,
      constructStringMessageWithSize_eq]
    simp only [List.append_assoc]
  have start := at_start holds
  rw [written] at start ⊢
  simp only [List.append_assoc] at start
  obtain ⟨atName, readId, start⟩ := start.readSized (constructInt_intToByte plain.id)
  obtain ⟨atIp, readName, start⟩ := start.readSized (constructString_ascii plain.name)
  obtain ⟨atPort, readIp, start⟩ := start.readSized (constructString_ascii plain.ip)
  obtain ⟨atValue, readPort, start⟩ := start.readSized (constructInt_intToByte plain.port)
  obtain ⟨atEnd, readValue, -⟩ := start.readSized (constructInt_intToByte plain.value)
  refine except_bind_eq_ok.mpr ⟨_, readId, ?_⟩
  refine except_bind_eq_ok.mpr ⟨_, readName, ?_⟩
  refine except_bind_eq_ok.mpr ⟨_, readIp, ?_⟩
  refine except_bind_eq_ok.mpr ⟨_, readPort, ?_⟩
  exact except_bind_eq_ok.mpr ⟨_, readValue, rfl⟩

theorem constructSensors_serialized {sensors : List SensorManager.Sensor}
    (plain : ∀ sensor ∈ sensors, PlainSensor sensor)
    (holds : (constructSensorListMessage sensors).length < 2 ^ 31) :
    constructSensors (constructSensorListMessage sensors) = .ok (sensors.map ofServer) := by
  apply (at_start holds).readList
  exact fun sensor member fits => constructSensorFromByteMessage_serialized (plain sensor member) fits

theorem constructMeasurementFromByteMessage_serialized {sensorId : Int}
    {measurement : SensorManager.Measurement} (plain : PlainMeasurement measurement)
    (holds : (constructMeasurementMessage measurement).length < 2 ^ 31) :
    constructMeasurementFromByteMessage sensorId (constructMeasurementMessage measurement) =
      .ok (tagged sensorId measurement) := by
  have written : constructMeasurementMessage measurement =
      sized (intToByte measurement.value) ++ sized measurement.label := by
    rw [constructMeasurementMessage, constructIntMessageWithSize_eq,
      constructStringMessageWithSize_eq]
  have start := at_start holds
  rw [written] at start ⊢
  rw [List.append_assoc] at start
  obtain ⟨atLabel, readValue, start⟩ := start.readSized (constructInt_intToByte plain.value)
  obtain ⟨atEnd, readLabel, -⟩ := start.readSized (constructString_ascii plain.label)
  refine except_bind_eq_ok.mpr ⟨_, readValue, ?_⟩
  exact except_bind_eq_ok.mpr ⟨_, readLabel, rfl⟩

theorem constructMeasurements_serialized {sensorId : Int} (int : IsInt sensorId)
    {measurements : List SensorManager.Measurement}
    (plain : ∀ measurement ∈ measurements, PlainMeasurement measurement)
    (holds : (intToByte sensorId ++ constructMeasurementsListMessage measurements).length <
      2 ^ 31) :
    constructMeasurements (intToByte sensorId ++ constructMeasurementsListMessage measurements) =
      .ok (measurements.map (tagged sensorId)) := by
  have start := at_start holds
  rw [List.append_assoc] at start
  obtain ⟨-, list⟩ := start.readInt int
  refine except_bind_eq_ok.mpr ⟨_, subList_front sensorId _, ?_⟩
  refine except_bind_eq_ok.mpr ⟨_, constructInt_intToByte int, ?_⟩
  apply list.readList
  exact fun measurement member fits =>
    constructMeasurementFromByteMessage_serialized (plain measurement member) fits

/-- The call that the branch of a command type makes of the rest of a message. -/
def branch (rest : List UInt8) : MonitoringCommandTypes → Except JavaException ResponseExecutor
  | .getAllSensorsMonitoring => return .executeResponseGetAllSensors (← constructSensors rest)
  | .getSetOfMeasurements =>
      return .executeResponseGetSetOfMeasurements (← constructMeasurements rest)

/-- A message is taken by the branch of the command type at its front. -/
theorem analyzeResponse_branch {command : MonitoringCommandTypes} {rest : List UInt8}
    {call : ResponseExecutor} (called : branch rest command = .ok call) :
    analyzeResponse (intToByte command.toInt ++ rest) = .ok (some call) := by
  have int : IsInt command.toInt := by
    cases command <;> decide
  refine except_bind_eq_ok.mpr ⟨_, subList_front command.toInt rest, ?_⟩
  refine except_bind_eq_ok.mpr ⟨_, byteListToInt_intToByte int, ?_⟩
  cases command with
  | getAllSensorsMonitoring =>
      rw [if_pos (by decide)]
      exact called_afterInt called
  | getSetOfMeasurements =>
      rw [if_neg (by decide), if_pos (by decide)]
      exact called_afterInt called

/-- Behind the command type, a response is what its branch reads. -/
theorem branch_serialized {response : MonitoringResponse} (sendable : Sendable response)
    (holds : (serializeResponseMessage response).length < 2 ^ 31) :
    ∃ rest, serializeResponseMessage response = intToByte response.commandType.toInt ++ rest ∧
      branch rest response.commandType = .ok (executed response) := by
  obtain ⟨clientId, commandType, sensorId, sensors, measurements⟩ := response
  cases commandType with
  | getAllSensorsMonitoring =>
      have fits : (constructSensorListMessage sensors).length < 2 ^ 31 := by
        simp only [serializeResponseMessage, constructGetAllSensorsMessage,
          List.length_append] at holds
        omega
      exact ⟨_, rfl, except_bind_eq_ok.mpr ⟨_, constructSensors_serialized sendable fits, rfl⟩⟩
  | getSetOfMeasurements =>
      have written : serializeResponseMessage
          ⟨clientId, .getSetOfMeasurements, sensorId, sensors, measurements⟩ =
            intToByte 1 ++ (intToByte sensorId ++ constructMeasurementsListMessage measurements) :=
        List.append_assoc ..
      have fits : (intToByte sensorId ++ constructMeasurementsListMessage measurements).length <
          2 ^ 31 := by
        rw [written, List.length_append] at holds
        omega
      exact ⟨_, written, except_bind_eq_ok.mpr
        ⟨_, constructMeasurements_serialized sendable.1 sendable.2 fits, rfl⟩⟩

/-- What the server serialises for a response makes the client call the
`ResponseExecutor` with the values of the response, as long as a Java list can
hold the message. -/
theorem monitoringResponse_decodes {response : MonitoringResponse}
    (sendable : Sendable response)
    (holds : (serializeResponseMessage response).length < 2 ^ 31) :
    analyzeResponse (serializeResponseMessage response) = .ok (some (executed response)) := by
  obtain ⟨rest, written, called⟩ := branch_serialized sendable holds
  rw [written]
  exact analyzeResponse_branch called

/-- Two measurements, one with a negative value and an empty label. -/
theorem monitoringResponse_decodes_twoMeasurements :
    analyzeResponse (serializeResponseMessage
      { clientId := 0
        commandType := .getSetOfMeasurements
        sensorId := 7
        measurements := [{ value := 21, label := [67] }, { value := -3, label := [] }] }) =
      .ok (some (.executeResponseGetSetOfMeasurements
        [{ id := 7, value := 21, label := [67] }, { id := 7, value := -3, label := [] }])) := by
  apply monitoringResponse_decodes
  · refine ⟨by decide, ?_⟩
    intro measurement member
    rcases List.mem_cons.mp member with rfl | later
    · constructor <;> decide
    · obtain rfl := List.mem_singleton.mp later
      constructor <;> decide
  · decide

end SensorManager.JavaClient.Monitoring
