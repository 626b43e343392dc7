import SensorManager.Server.HandlerCases
import SensorManager.SensorClient.SensorLoop

/-!
# A measurement on its way to the database

The sensor program writes a time in milliseconds and a value into an 'm' frame,
the listener reads them and queues them with the time in seconds, and the
executor passes them on to the database.
-/

namespace SensorManager

open BytesParser Exec

/-- A field is read back where it was appended. -/
theorem BytesParser.parse_appendBytes {size : Nat} {bytes : List UInt8} {value : Int}
    (lower : -(256 ^ size : Nat) ≤ value * 2) (upper : value * 2 < (256 ^ size : Nat))
    (rest : List UInt8) (beyond : Memory) :
    parse size (appendBytes size bytes value ++ rest) bytes.length beyond = value := by
  have inside : bytes.length + size ≤ (appendBytes size bytes value ++ rest).length := by
    simp [appendBytes, toBytes]
  have field : ((appendBytes size bytes value ++ rest).drop bytes.length).take size =
      toBytes size value := by
    simp [appendBytes, toBytes]
  rw [parse_of_inside inside, field]
  exact Bytes.toInt_ofInt lower upper

namespace Server

open SensorListener

/-- The frame gives one request, is acknowledged with its own time, and the
executor stores its value and its time in seconds when it comes to the
request. -/
def Unaltered (timestamp value : Int) : Prop :=
  ∀ {δ : Type} (database : IDatabaseConnection δ) (server : Server δ) (clientId sent : Int)
    (beyond : Memory) (conn cause : Nat), ∃ request,
    onGotRequest server clientId (measureMsg timestamp value) beyond sent conn cause =
      (server.send .sensor clientId (measureAnswer timestamp) sent).addSensorRequestToExecute
        request ∧
    NetworkListener.onGotRequest (measureAnswer timestamp) beyond = .lastAccepted timestamp ∧
    ∀ (later : Server δ) (sensorId serverTime answer : Int),
      later.clientToSensorId clientId = some sensorId →
      ((executeSensorRequest database request serverTime answer).runOn later).map
          (fun ran => (ran.1, ran.2.database)) =
        (database.addMeasurement sensorId value (timestamp / 1000)).runOn later.database

section Frame

variable {timestamp value : Int}

theorem measureTimestamp_measureMsg (lower : -2 ^ 63 ≤ timestamp) (upper : timestamp < 2 ^ 63)
    (value : Int) (beyond : Memory) :
    measureTimestamp (measureMsg timestamp value) beyond = timestamp :=
  @parse_appendBytes 8 (appendBytes 1 [] 109) timestamp (by norm_num; omega)
    (by norm_num; omega) (toBytes 4 value) beyond

theorem measureValue_measureMsg (lower : -2 ^ 31 ≤ value) (upper : value < 2 ^ 31)
    (timestamp : Int) (beyond : Memory) :
    measureValue (measureMsg timestamp value) beyond = value := by
  have read := @parse_appendBytes 4 (appendBytes 8 (appendBytes 1 [] 109) timestamp) value
    (by norm_num; omega) (by norm_num; omega) [] beyond
  have place : (appendBytes 8 (appendBytes 1 [] 109) timestamp).length = 9 := by
    simp [appendBytes, toBytes]
  rwa [List.append_nil, place] at read

/-- The sensor reads the time of its frame in the acknowledgement. -/
theorem onGotRequest_measureAnswer (lower : -2 ^ 63 ≤ timestamp) (upper : timestamp < 2 ^ 63)
    (beyond : Memory) :
    NetworkListener.onGotRequest (measureAnswer timestamp) beyond = .lastAccepted timestamp := by
  have status : parse 1 (measureAnswer timestamp) 0 beyond = 49 :=
    @parse_appendBytes 1 [] 49 (by decide) (by decide) (toBytes 8 timestamp) beyond
  have answered := @parse_appendBytes 8 (appendBytes 1 [] 49) timestamp
    (by norm_num; omega) (by norm_num; omega) [] beyond
  rw [List.append_nil] at answered
  unfold NetworkListener.onGotRequest
  rw [status, if_pos rfl]
  exact congrArg NetworkListener.Status.lastAccepted answered

/-- The listener acknowledges the frame and queues what it holds. -/
theorem onGotRequest_measureMsg {δ : Type} (server : Server δ) (clientId sent : Int)
    (beyond : Memory) (conn cause : Nat)
    (value32 : -2 ^ 31 ≤ value ∧ value < 2 ^ 31)
    (timestamp64 : 0 ≤ timestamp ∧ timestamp < 2 ^ 63) :
    onGotRequest server clientId (measureMsg timestamp value) beyond sent conn cause =
      (server.send .sensor clientId (measureAnswer timestamp) sent).addSensorRequestToExecute
        { request := .measurement clientId value (timestamp / 1000)
          conn := conn
          cause := cause } := by
  have type : parse 1 (measureMsg timestamp value) 0 beyond = 109 :=
    @parse_appendBytes 1 [] 109 (by decide) (by decide)
      (toBytes 8 timestamp ++ toBytes 4 value) beyond
  have seconds : timestamp.tdiv 1000 = timestamp / 1000 :=
    Int.tdiv_eq_ediv_of_nonneg timestamp64.1
  have handled : onGotRequest server clientId (measureMsg timestamp value) beyond sent conn
      cause =
        handleMeasureMsg server clientId (measureMsg timestamp value) beyond sent conn cause := by
    rw [onGotRequest, type]
    rfl
  rw [handled, handleMeasureMsg, measureTimestamp_measureMsg (by omega) timestamp64.2,
    measureValue_measureMsg value32.1 value32.2, ← seconds]

end Frame

/-- The executor narrows the time to an `int`. -/
theorem executeSensorRequest_measurement {δ : Type} (database : IDatabaseConnection δ)
    (server : Server δ) {clientId sensorId : Int} (value time serverTime sent : Int)
    (conn cause : Nat) (mapped : server.clientToSensorId clientId = some sensorId) :
    ((executeSensorRequest database ⟨.measurement clientId value time, conn, cause⟩ serverTime
        sent).runOn server).map (fun ran => (ran.1, ran.2.database)) =
      (database.addMeasurement sensorId value (toInt32 time)).runOn server.database := by
  simp only [executeSensorRequest, executeSensorMeasurementRequest, runOn_get_bind, mapped,
    recordMeasurement, runOn_modify_bind, callDatabase, runOn_zoom, Option.map_map]
  exact Option.map_id_apply

/-- A database that lists the measurements it is given. -/
def recorder : IDatabaseConnection (List (Int × Int × Int)) where
  getAllSensors := blocked
  getAllSensorsWithMeasurements := blocked
  getLastHour _ := blocked
  getLastDay _ := blocked
  getLastMonth _ := blocked
  addSensor _ _ _ := blocked
  initializeSensor _ := blocked
  getSensorId _ := blocked
  checkIfTokenExists _ := blocked
  checkIfTokenIsWhitelisted _ := blocked
  revokeSensor _ := blocked
  connectSensor _ := blocked
  disconnectSensor _ := blocked
  editSensor _ _ := blocked
  getSensor _ := blocked
  addMeasurement sensorId measure timestamp := modify (· ++ [(sensorId, measure, timestamp)])

theorem toInt32_eq_iff {time : Int} (nonneg : 0 ≤ time) : toInt32 time = time ↔ time < 2 ^ 31 := by
  unfold toInt32
  constructor
  · intro same
    have below := Int.bmod_lt (x := time) (m := 2 ^ 32) (by norm_num)
    omega
  · intro small
    exact Int.bmod_eq_of_le_mul_two (by norm_num; omega) (by norm_num; omega)

section Times

variable {timestamp value : Int}

/-- The times that a database is given, compared with those of the recorder. -/
theorem Unaltered.toInt32_eq (unaltered : Unaltered timestamp value)
    (value32 : -2 ^ 31 ≤ value ∧ value < 2 ^ 31)
    (timestamp64 : 0 ≤ timestamp ∧ timestamp < 2 ^ 63) :
    toInt32 (timestamp / 1000) = timestamp / 1000 := by
  obtain ⟨request, queued, -, stored⟩ := unaltered recorder (.start []) 0 0 (fun _ => 0) 0 0
  rw [onGotRequest_measureMsg _ _ _ _ _ _ value32 timestamp64] at queued
  have queues := congrArg Server.sensorRequestsQueue queued
  obtain rfl := List.singleton_injective (List.append_cancel_left queues)
  let later : Server (List (Int × Int × Int)) :=
    { Server.start [] with clientToSensorId := IntMap.empty.insert 0 1 }
  have mapped : later.clientToSensorId 0 = some 1 := rfl
  have given := stored later 1 0 0 mapped
  rw [executeSensorRequest_measurement recorder later _ _ 0 0 0 0 mapped] at given
  simpa [recorder, later, Server.start] using given

theorem toInt32_seconds_iff (nonneg : 0 ≤ timestamp) :
    toInt32 (timestamp / 1000) = timestamp / 1000 ↔ timestamp < 2 ^ 31 * 1000 := by
  rw [toInt32_eq_iff (by omega)]
  omega

/-- A measurement reaches the database unaltered exactly up to the last second
of an `int`. -/
theorem unaltered_iff (value32 : -2 ^ 31 ≤ value ∧ value < 2 ^ 31)
    (timestamp64 : 0 ≤ timestamp ∧ timestamp < 2 ^ 63) :
    Unaltered timestamp value ↔ timestamp < 2 ^ 31 * 1000 := by
  rw [← toInt32_seconds_iff timestamp64.1]
  constructor
  · exact fun unaltered => unaltered.toInt32_eq value32 timestamp64
  · intro same δ database server clientId sent beyond conn cause
    refine ⟨_, onGotRequest_measureMsg server clientId sent beyond conn cause value32 timestamp64,
      onGotRequest_measureAnswer (by omega) timestamp64.2 beyond, ?_⟩
    intro later sensorId serverTime answer mapped
    rw [executeSensorRequest_measurement database later _ _ serverTime answer conn cause mapped,
      same]

/-- The first second that an `int` cannot hold, in January 2038. -/
theorem unaltered_fails : ¬ Unaltered 2147483648000 21 := by
  intro unaltered
  have same := unaltered.toInt32_eq (by decide) (by decide)
  exact absurd same (by decide)

/-- A value below zero, in May 2020. -/
theorem unaltered_iff_2020 : Unaltered 1589500800123 (-40) :=
  (unaltered_iff (by decide) (by decide)).mpr (by decide)

end Times

end Server

end SensorManager
