import SensorManager.Server.Requests

/-!
# Serialising the responses

The bytes of the answers to administrators and monitors.  Integers are written
with the most significant byte first, and strings and integers carry a length.
-/

namespace SensorManager

namespace SerializerMessage

def intToByte (value : Int) : List UInt8 :=
  (Bytes.ofInt 4 value).reverse

def stringToByte (value : ByteString) : List UInt8 :=
  value

def boolToByte (value : Bool) : List UInt8 :=
  [if value then 1 else 0]

def constructIntMessageWithSize (value : Int) : List UInt8 :=
  intToByte 4 ++ intToByte value

def constructStringMessageWithSize (value : ByteString) : List UInt8 :=
  intToByte value.length ++ stringToByte value

def constructBoolMessageWithSize (value : Bool) : List UInt8 :=
  intToByte 1 ++ boolToByte value

/-- A list of records: their number, then each record behind its length. -/
def constructListMessage {α : Type} (construct : α → List UInt8) (items : List α) :
    List UInt8 :=
  intToByte items.length ++
    items.flatMap fun item => intToByte (construct item).length ++ construct item

end SerializerMessage

open SerializerMessage

namespace SerializerAdministratorMessage

def constructSensorMessage (sensor : Sensor) : List UInt8 :=
  constructIntMessageWithSize sensor.id ++
    constructStringMessageWithSize sensor.name ++
    constructStringMessageWithSize sensor.ip ++
    constructIntMessageWithSize sensor.port ++
    constructBoolMessageWithSize sensor.connected

def constructSensorListMessage (sensors : List Sensor) : List UInt8 :=
  constructListMessage constructSensorMessage sensors

def constructGetAllSensorsMessage (sensors : List Sensor) : List UInt8 :=
  intToByte AdministratorCommandTypes.getAllSensors.toInt ++
    constructSensorListMessage sensors

def constructUpdateSensorNameMessage (updatedSensorId : Int) : List UInt8 :=
  intToByte AdministratorCommandTypes.updateSensorName.toInt ++
    intToByte updatedSensorId

def constructRevokeSensorMessage (revokedSensorId : Int) : List UInt8 :=
  intToByte AdministratorCommandTypes.revokeSensor.toInt ++
    intToByte revokedSensorId

def constructDisconnectSensorMessage (disconnectedSensorId : Int) : List UInt8 :=
  intToByte AdministratorCommandTypes.disconnectSensor.toInt ++
    intToByte disconnectedSensorId

def constructGenerateTokenMessage (token : ByteString) : List UInt8 :=
  intToByte AdministratorCommandTypes.generateToken.toInt ++
    constructStringMessageWithSize token

def serializeResponseMessage (response : AdministratorResponse) : List UInt8 :=
  match response.commandType with
  | .getAllSensors => constructGetAllSensorsMessage response.sensors
  | .updateSensorName => constructUpdateSensorNameMessage response.sensorId
  | .revokeSensor => constructRevokeSensorMessage response.sensorId
  | .disconnectSensor => constructDisconnectSensorMessage response.sensorId
  | .generateToken => constructGenerateTokenMessage response.token

end SerializerAdministratorMessage

namespace SerializerMonitoringMessage

def constructSensorMessage (sensor : Sensor) : List UInt8 :=
  constructIntMessageWithSize sensor.id ++
    constructStringMessageWithSize sensor.name ++
    constructStringMessageWithSize sensor.ip ++
    constructIntMessageWithSize sensor.port ++
    constructIntMessageWithSize sensor.currentMeasurement.value

def constructSensorListMessage (sensors : List Sensor) : List UInt8 :=
  constructListMessage constructSensorMessage sensors

def constructGetAllSensorsMessage (sensors : List Sensor) : List UInt8 :=
  intToByte MonitoringCommandTypes.getAllSensorsMonitoring.toInt ++
    constructSensorListMessage sensors

def constructMeasurementMessage (measurement : Measurement) : List UInt8 :=
  constructIntMessageWithSize measurement.value ++
    constructStringMessageWithSize measurement.label

def constructMeasurementsListMessage (measurements : List Measurement) : List UInt8 :=
  constructListMessage constructMeasurementMessage measurements

def constructGetSetOfMeasurements (id : Int) (measurements : List Measurement) :
    List UInt8 :=
  intToByte MonitoringCommandTypes.getSetOfMeasurements.toInt ++
    intToByte id ++ constructMeasurementsListMessage measurements

def serializeResponseMessage (response : MonitoringResponse) : List UInt8 :=
  match response.commandType with
  | .getAllSensorsMonitoring => constructGetAllSensorsMessage response.sensors
  | .getSetOfMeasurements =>
      constructGetSetOfMeasurements response.sensorId response.measurements

end SerializerMonitoringMessage

@[simp] theorem SerializerMessage.length_intToByte (value : Int) :
    (intToByte value).length = 4 := by
  simp [intToByte]

/-- A response is never empty. -/
theorem SerializerAdministratorMessage.serializeResponseMessage_ne_nil
    (response : AdministratorResponse) : serializeResponseMessage response ≠ [] := by
  apply List.ne_nil_of_length_pos
  cases command : response.commandType <;>
    simp [serializeResponseMessage, command, constructGetAllSensorsMessage,
      constructUpdateSensorNameMessage, constructRevokeSensorMessage,
      constructDisconnectSensorMessage, constructGenerateTokenMessage]

theorem SerializerMonitoringMessage.serializeResponseMessage_ne_nil
    (response : MonitoringResponse) : serializeResponseMessage response ≠ [] := by
  apply List.ne_nil_of_length_pos
  cases command : response.commandType <;>
    simp [serializeResponseMessage, command, constructGetAllSensorsMessage,
      constructGetSetOfMeasurements]

end SensorManager
