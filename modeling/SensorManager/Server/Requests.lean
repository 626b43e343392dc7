import SensorManager.Lib.Bytes

/-!
# Requests, responses and the records they carry

A `std::string` is the list of its bytes.
-/

namespace SensorManager

abbrev ByteString := List UInt8

inductive AdministratorCommandTypes where
  | getAllSensors
  | updateSensorName
  | revokeSensor
  | disconnectSensor
  | generateToken
  deriving DecidableEq, Repr

/-- The numbers of the enumeration. -/
def AdministratorCommandTypes.toInt : AdministratorCommandTypes → Int
  | .getAllSensors => 0
  | .updateSensorName => 1
  | .revokeSensor => 2
  | .disconnectSensor => 3
  | .generateToken => 4

inductive MonitoringCommandTypes where
  | getAllSensorsMonitoring
  | getSetOfMeasurements
  deriving DecidableEq, Repr

def MonitoringCommandTypes.toInt : MonitoringCommandTypes → Int
  | .getAllSensorsMonitoring => 0
  | .getSetOfMeasurements => 1

structure Measurement where
  value : Int
  label : ByteString
  deriving DecidableEq, Repr

structure Sensor where
  id : Int
  name : ByteString
  ip : ByteString
  port : Int
  connected : Bool := false
  currentMeasurement : Measurement := { value := 0, label := [] }
  deriving DecidableEq, Repr

structure SensorMeasurement where
  sensorId : Int := -1
  measurements : List Measurement := []
  deriving DecidableEq, Repr

/-- The three classes derived from `SensorRequest`. -/
inductive SensorRequest where
  | measurement (clientId value timestamp : Int)
  | onConnected (clientId : Int) (ip : ByteString) (port : Int) (token : ByteString)
  | onDisconnected (clientId : Int)
  deriving DecidableEq, Repr

namespace SensorRequest

def clientId : SensorRequest → Int
  | .measurement clientId _ _ => clientId
  | .onConnected clientId _ _ _ => clientId
  | .onDisconnected clientId => clientId

def isMeasurement : SensorRequest → Bool
  | .measurement .. => true
  | _ => false

def isOnConnected : SensorRequest → Bool
  | .onConnected .. => true
  | _ => false

def isOnDisconnected : SensorRequest → Bool
  | .onDisconnected _ => true
  | _ => false

end SensorRequest

structure AdministratorRequest where
  clientId : Int
  commandType : AdministratorCommandTypes
  sensorId : Int := 0
  sensorName : ByteString := []
  tokenName : ByteString := []
  deriving DecidableEq, Repr

structure MonitoringRequest where
  clientId : Int
  commandType : MonitoringCommandTypes
  sensorId : Int := 0
  type : Int := 0
  deriving DecidableEq, Repr

structure AdministratorResponse where
  clientId : Int
  commandType : AdministratorCommandTypes
  sensorId : Int := 0
  sensors : List Sensor := []
  token : ByteString := []
  deriving DecidableEq, Repr

structure MonitoringResponse where
  clientId : Int
  commandType : MonitoringCommandTypes
  sensorId : Int := 0
  sensors : List Sensor := []
  measurements : List Measurement := []
  deriving DecidableEq, Repr

end SensorManager
