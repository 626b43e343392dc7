import Mathlib.Data.List.Nodup
import Mathlib.Data.List.Sort
import SensorManager.Server.RegistryRuns

/-!
# The overview of the monitors

`getAllSensorsWithMeasurements` joins every active sensor with its measurements
and keeps those of the greatest second.  A second may hold several measurements
of one sensor, and then the sensor is listed several times.
-/

namespace SensorManager

/-- A sorted list without repetition of keys. -/
theorem pairwise_lt_iff_nodup {keys : List Int} (sorted : keys.Pairwise (· ≤ ·)) :
    keys.Pairwise (· < ·) ↔ keys.Nodup := by
  constructor
  · intro ascending
    exact ascending.imp fun less => ne_of_lt less
  · intro distinct
    exact (List.pairwise_and_iff.mpr ⟨sorted, distinct⟩).imp
      fun ⟨less, different⟩ => lt_of_le_of_ne less different

/-- The keys of rows, each repeated as often as something is found for it. -/
theorem nodup_flatMap_key {α β κ : Type} {key : α → κ} {rows : List α} {found : α → List β}
    (distinct : (rows.map key).Nodup) :
    (rows.flatMap fun row => (found row).map fun _ => key row).Nodup ↔
      ∀ row ∈ rows, (found row).length ≤ 1 := by
  rw [List.nodup_flatMap]
  constructor
  · rintro ⟨single, -⟩ row member
    have repeated := single row member
    rwa [List.map_const', List.nodup_replicate] at repeated
  · intro single
    refine ⟨?_, ?_⟩
    · intro row member
      rw [List.map_const', List.nodup_replicate]
      exact single row member
    · refine (List.pairwise_map.mp distinct).imp fun different => ?_
      intro same left right
      obtain ⟨_, -, rfl⟩ := List.mem_map.mp left
      obtain ⟨_, -, equal⟩ := List.mem_map.mp right
      exact different equal.symm

namespace Registry

/-- `SELECT MAX(ms.timestamp)` of the measurements of a sensor. -/
def greatestTimestamp (registry : Registry) (sensorId : Int) : Option Int :=
  ((registry.measurements.filter (·.1 = sensorId)).map (·.2.2)).max?

/-- The measurements that the query joins to the row of a sensor. -/
def newest (registry : Registry) (sensorId : Int) : List (Int × Int × Int) :=
  registry.measurements.filter fun measurement =>
    measurement.1 = sensorId &&
      some measurement.2.2 = registry.greatestTimestamp sensorId

/-- The columns of a joined row.  `toChar` writes a time in seconds down as
`to_char` does with the time it stands for. -/
def overviewSensor (toChar : Int → ByteString) (row : SensorRow)
    (measurement : Int × Int × Int) : Sensor :=
  { row.toSensor with
    currentMeasurement := { value := measurement.2.1, label := toChar measurement.2.2 } }

/-- The joined rows of active sensors. -/
def joined (toChar : Int → ByteString) (registry : Registry) : List Sensor :=
  (registry.rows.filter (·.columns.status = .active)).flatMap fun row =>
    (registry.newest row.id).map (overviewSensor toChar row)

/-- `ORDER BY s.id ASC`, which leaves the order among rows of one id open. -/
structure OrderById where
  arrange : List Sensor → List Sensor
  perm : ∀ sensors, (arrange sensors).Perm sensors
  ascending : ∀ sensors, (arrange sensors).Pairwise (·.id ≤ ·.id)

def getAllSensorsWithMeasurements (order : OrderById) (toChar : Int → ByteString) :
    DatabaseCall Registry (List Sensor) :=
  executeQuery fun registry => order.arrange (registry.joined toChar)

/-- The contents of the tables that the calls lead to, from rows with ids of
their own and no measurement. -/
inductive Written (database : IDatabaseConnection Registry) : Registry → Prop
  | start {rows : List SensorRow} {faults : List (Option Fault)}
      (distinct : (rows.map (·.id)).Nodup) : Written database { rows := rows, faults := faults }
  | sent {α : Type} {call : DatabaseCall Registry α} {before after : Registry}
      {result : Except SQLException α} (written : Written database before)
      (sends : database.Sends call) (ran : call.runOn before = some (result, after)) :
      Written database after

/-- One entry for each active sensor with a measurement, with a measurement of
its greatest timestamp, and no other entry. -/
structure ListsOnce (toChar : Int → ByteString) (registry : Registry) (sensors : List Sensor) :
    Prop where
  ascending : (sensors.map (·.id)).Pairwise (· < ·)
  listed : ∀ row ∈ registry.rows, row.columns.status = .active →
    (∃ measurement ∈ registry.measurements, measurement.1 = row.id) →
    ∃ sensor ∈ sensors, sensor.id = row.id
  only : ∀ sensor ∈ sensors, ∃ row ∈ registry.rows, row.columns.status = .active ∧
    ∃ measurement ∈ registry.measurements, measurement.1 = row.id ∧
      (∀ other ∈ registry.measurements, other.1 = row.id → other.2.2 ≤ measurement.2.2) ∧
      sensor = overviewSensor toChar row measurement

/-- No active sensor has two measurements of its greatest timestamp. -/
def OneNewest (registry : Registry) : Prop :=
  ∀ row ∈ registry.rows, row.columns.status = .active → (registry.newest row.id).length ≤ 1

variable {ids : IdSource} {readings : Readings} {registry after : Registry}
  {toChar : Int → ByteString} {order : OrderById}

theorem Written.ids_nodup (written : Written (connection ids readings) registry) :
    (registry.rows.map (·.id)).Nodup := by
  induction written with
  | start distinct => exact distinct
  | sent _ sends ran ih =>
      rw [((keepsRows_sends sends).retains ran).ids]
      exact ih

theorem mem_newest {sensorId : Int} {measurement : Int × Int × Int} :
    measurement ∈ registry.newest sensorId ↔
      measurement ∈ registry.measurements ∧ measurement.1 = sensorId ∧
        ∀ other ∈ registry.measurements, other.1 = sensorId → other.2.2 ≤ measurement.2.2 := by
  have greatest : some measurement.2.2 = registry.greatestTimestamp sensorId ↔
      (∃ one ∈ registry.measurements, one.1 = sensorId ∧ one.2.2 = measurement.2.2) ∧
        ∀ other ∈ registry.measurements, other.1 = sensorId →
          other.2.2 ≤ measurement.2.2 := by
    rw [eq_comm, greatestTimestamp, List.max?_eq_some_iff, List.forall_mem_map, List.mem_map]
    simp only [List.mem_filter, decide_eq_true_eq, and_imp, and_assoc]
  rw [newest, List.mem_filter, Bool.and_eq_true, decide_eq_true_eq, decide_eq_true_eq, greatest]
  constructor
  · rintro ⟨member, isSensor, -, most⟩
    exact ⟨member, isSensor, most⟩
  · rintro ⟨member, isSensor, most⟩
    exact ⟨member, isSensor, ⟨measurement, member, isSensor, rfl⟩, most⟩

/-- A sensor with a measurement has one of its greatest timestamp. -/
theorem newest_ne_nil {sensorId : Int} {measurement : Int × Int × Int}
    (member : measurement ∈ registry.measurements) (isSensor : measurement.1 = sensorId) :
    ∃ greatest, greatest ∈ registry.newest sensorId := by
  have present : measurement.2.2 ∈
      (registry.measurements.filter (·.1 = sensorId)).map (·.2.2) :=
    List.mem_map.mpr ⟨measurement, by simp [member, isSensor], rfl⟩
  cases found : registry.greatestTimestamp sensorId with
  | none =>
      rw [greatestTimestamp, List.max?_eq_none_iff] at found
      rw [found] at present
      cases present
  | some timestamp =>
      have isGreatest := found
      rw [greatestTimestamp, List.max?_eq_some_iff] at isGreatest
      obtain ⟨greatest, kept, rfl⟩ := List.mem_map.mp isGreatest.1
      obtain ⟨inTable, ofSensor⟩ := List.mem_filter.mp kept
      refine ⟨greatest, List.mem_filter.mpr ⟨inTable, ?_⟩⟩
      simp [found, of_decide_eq_true ofSensor]

theorem mem_joined {sensor : Sensor} :
    sensor ∈ registry.joined toChar ↔
      ∃ row ∈ registry.rows, row.columns.status = .active ∧
        ∃ measurement ∈ registry.newest row.id,
          sensor = overviewSensor toChar row measurement := by
  simp only [joined, List.mem_flatMap, List.mem_filter, List.mem_map, decide_eq_true_eq,
    and_assoc, @eq_comm _ sensor]

/-- The ids of the joined rows. -/
theorem joined_ids (registry : Registry) :
    (registry.joined toChar).map (·.id) =
      (registry.rows.filter (·.columns.status = .active)).flatMap fun row =>
        (registry.newest row.id).map fun _ => row.id := by
  rw [joined, List.map_flatMap]
  simp only [List.map_map]
  rfl

/-- The ids of the joined rows are distinct when no sensor has two newest
measurements. -/
theorem joined_nodup_iff (distinct : (registry.rows.map (·.id)).Nodup) :
    ((registry.joined toChar).map (·.id)).Nodup ↔ registry.OneNewest := by
  have active : ((registry.rows.filter (·.columns.status = .active)).map (·.id)).Nodup :=
    distinct.sublist (List.filter_sublist.map _)
  rw [joined_ids, nodup_flatMap_key active]
  simp only [List.mem_filter, decide_eq_true_eq, and_imp, OneNewest]

/-- The overview lists each sensor once if and only if no active sensor has two
measurements of its greatest timestamp. -/
theorem listsOnce_iff {sensors : List Sensor}
    (written : Written (connection ids readings) registry)
    (ran : (getAllSensorsWithMeasurements order toChar).runOn registry =
      some (.ok sensors, after)) :
    ListsOnce toChar registry sensors ↔ registry.OneNewest := by
  obtain ⟨faults, rfl, rfl⟩ := executeQuery_returns ran
  change ListsOnce toChar registry (order.arrange (registry.joined toChar)) ↔ _
  have arranged := order.perm (registry.joined toChar)
  have sorted := List.pairwise_map.mpr (order.ascending (registry.joined toChar))
  have single : ((order.arrange (registry.joined toChar)).map (·.id)).Pairwise (· < ·) ↔
      registry.OneNewest := by
    rw [pairwise_lt_iff_nodup sorted, (arranged.map _).nodup_iff,
      joined_nodup_iff written.ids_nodup]
  constructor
  · exact fun lists => single.mp lists.ascending
  · intro oneNewest
    refine ⟨single.mpr oneNewest, ?_, ?_⟩
    · rintro row member active ⟨measurement, inTable, isSensor⟩
      obtain ⟨greatest, isNewest⟩ := newest_ne_nil inTable isSensor
      refine ⟨overviewSensor toChar row greatest, arranged.mem_iff.mpr ?_, rfl⟩
      exact mem_joined.mpr ⟨row, member, active, greatest, isNewest, rfl⟩
    · intro sensor member
      obtain ⟨row, inTable, active, measurement, isNewest, rfl⟩ :=
        mem_joined.mp (arranged.mem_iff.mp member)
      obtain ⟨taken, isSensor, most⟩ := mem_newest.mp isNewest
      exact ⟨row, inTable, active, measurement, taken, isSensor, most, rfl⟩

/-- `ORDER BY` that keeps rows of one id in their order. -/
def OrderById.stable : OrderById where
  arrange sensors := sensors.insertionSort (·.id ≤ ·.id)
  perm sensors := List.perm_insertionSort _ sensors
  ascending sensors := by
    have total : Std.Total fun left right : Sensor => left.id ≤ right.id :=
      ⟨fun left right => le_total left.id right.id⟩
    have trans : IsTrans Sensor fun left right => left.id ≤ right.id :=
      ⟨fun _ _ _ => le_trans⟩
    exact List.pairwise_insertionSort _ sensors

/-- The calls that make a sensor active and store two of its measurements in
one second. -/
def sameSecond : Registry :=
  { rows := [{ id := 1, token := [116], columns := { ip := [49], port := 7, status := .active } }]
    measurements := [(1, 20, 1000), (1, 21, 1000)] }

theorem written_addSensor :
    Written (connection .counting .nothing)
      { rows := [{ id := 1, token := [116],
                   columns := { ip := [49], port := 7, status := .active } }] } := by
  have started : Written (connection .counting .nothing)
      { rows := [{ id := 1, token := [116], columns := {} }] } := .start (by decide)
  exact started.sent (.addSensor [49] 7 [116]) rfl

theorem written_sameSecond : Written (connection .counting .nothing) sameSecond :=
  (written_addSensor.sent (.addMeasurement 1 20 1000) rfl).sent (.addMeasurement 1 21 1000) rfl

/-- The sensor is listed twice. -/
theorem listsOnce_fails :
    Written (connection .counting .nothing) sameSecond ∧
      ∃ sensors, (getAllSensorsWithMeasurements .stable fun _ => []).runOn sameSecond =
          some (.ok sensors, sameSecond) ∧
        sensors.map (fun sensor => (sensor.id, sensor.currentMeasurement.value)) =
          [(1, 20), (1, 21)] ∧
        ¬ ListsOnce (fun _ => []) sameSecond sensors := by
  refine ⟨written_sameSecond, _, rfl, by decide, ?_⟩
  intro lists
  have ascending := lists.ascending
  revert ascending
  decide

/-- A measurement a second later. -/
theorem listsOnce_iff_later :
    ∃ sensors, ListsOnce (fun _ => []) { sameSecond with
        measurements := [(1, 20, 1000), (1, 21, 1001)] } sensors ∧
      sensors.map (fun sensor => (sensor.id, sensor.currentMeasurement.value)) = [(1, 21)] := by
  have written := (written_addSensor.sent (.addMeasurement 1 20 1000) rfl).sent
    (.addMeasurement 1 21 1001) rfl
  refine ⟨_, (@listsOnce_iff _ _ _ _ _ .stable _ written rfl).mpr ?_, by decide⟩
  intro row member active
  obtain rfl := List.mem_singleton.mp member
  decide

end Registry

end SensorManager
