import SensorManager.Server.RegistryRuns

/-!
# What the threads store

Only `addMeasurement` touches the table of the measurements, and it puts one
row behind those that are there.  So whatever the order of the calls, what has
been stored stays where it is.
-/

namespace SensorManager

open Process Server

/-- The values of an `int`. -/
def IsInt (value : Int) : Prop :=
  -2 ^ 31 ≤ value ∧ value < 2 ^ 31

theorem isInt_toInt32 (value : Int) : IsInt (toInt32 value) := by
  have lower := Int.le_bmod (x := value) (m := 2 ^ 32) (by decide)
  have upper := Int.bmod_lt (x := value) (m := 2 ^ 32) (by decide)
  unfold IsInt toInt32
  omega

namespace Registry

variable {α : Type} {ids : IdSource} {readings : Readings}

/-- More may be stored, with timestamps that are of the type `int`. -/
def Stores (before after : Registry) : Prop :=
  ∃ added, after.measurements = before.measurements ++ added ∧
    ∀ row ∈ added, IsInt row.2.2

theorem Stores.of_eq {before after : Registry}
    (same : after.measurements = before.measurements) : Stores before after := by
  refine ⟨[], ?_, by simp⟩
  rw [same, List.append_nil]

theorem Stores.refl (registry : Registry) : Stores registry registry :=
  .of_eq rfl

theorem Stores.trans {first second third : Registry} (left : Stores first second)
    (right : Stores second third) : Stores first third := by
  obtain ⟨added, isSecond, ints⟩ := left
  obtain ⟨more, isThird, others⟩ := right
  refine ⟨added ++ more, ?_, ?_⟩
  · rw [isThird, isSecond, List.append_assoc]
  · intro row member
    rcases List.mem_append.mp member with old | new
    · exact ints row old
    · exact others row new

/-- The timestamps are of the type `int`. -/
def Timed (registry : Registry) : Prop :=
  ∀ row ∈ registry.measurements, IsInt row.2.2

theorem Timed.of_stores {before after : Registry} (timed : before.Timed)
    (stores : Stores before after) : after.Timed := by
  obtain ⟨added, isAfter, ints⟩ := stores
  intro row member
  rw [isAfter] at member
  rcases List.mem_append.mp member with old | new
  · exact timed row old
  · exact ints row new

/-- The call does not touch the measurements. -/
def Spares (call : DatabaseCall Registry α) : Prop :=
  ∀ stored, call.Keeps fun registry => registry.measurements = stored

theorem Spares.bind {β : Type} {call : DatabaseCall Registry α}
    {next : α → DatabaseCall Registry β} (first : Spares call)
    (second : ∀ value, Spares (next value)) : Spares (call >>= next) := fun stored =>
  Exec.keeps_bind (first stored) fun value => second value stored

theorem spares_pure (value : α) : Spares (pure value) := fun _ =>
  Exec.keeps_pure value

theorem spares_nextFault : Spares nextFault := by
  intro stored
  refine Exec.keeps_get_bind fun registry holds => ?_
  cases registry.faults with
  | nil => exact Exec.keeps_pure none
  | cons fault faults =>
      exact Exec.keeps_bind (Exec.keeps_modify fun _ holds => holds) fun _ => Exec.keeps_pure fault

theorem spares_executeQuery (query : Registry → α) : Spares (executeQuery query) := by
  refine spares_nextFault.bind fun fault stored => ?_
  cases fault with
  | none => exact Exec.keeps_get_bind fun registry _ => Exec.keeps_pure _
  | some fault => exact Exec.keeps_throw _

theorem spares_firstRow (select : SensorRow → Bool) : Spares (firstRow select) := by
  refine (spares_executeQuery _).bind fun found stored => ?_
  cases found with
  | none => exact Exec.keeps_throw _
  | some row => exact Exec.keeps_pure row

theorem spares_executeUpdate (change : Registry → Registry)
    (same : ∀ registry, (change registry).measurements = registry.measurements) :
    Spares (executeUpdate change) := by
  have changes : Spares (modify change : DatabaseCall Registry PUnit) := fun stored =>
    Exec.keeps_modify fun registry holds => (same registry).trans holds
  refine spares_nextFault.bind fun fault stored => ?_
  cases fault with
  | none => exact changes stored
  | some fault =>
      refine Exec.keeps_ite (fun _ => ?_) fun _ => Exec.keeps_throw _
      exact Exec.keeps_bind (changes stored) fun _ => Exec.keeps_throw _

theorem spares_getSensor (id : Int) : Spares (getSensor id) :=
  (spares_firstRow _).bind fun row => spares_pure row.toSensor

/-- An update of the sensors, and a query behind it. -/
theorem spares_update {select : SensorRow → Bool} {change : SensorColumns → SensorColumns}
    {query : DatabaseCall Registry α} (spares : Spares query) :
    Spares (do executeUpdate (update select change); query) :=
  (spares_executeUpdate (update select change) fun _ => rfl).bind fun _ => spares

theorem spares_addSensor (ip : ByteString) (port : Int) (token : ByteString) :
    Spares (addSensor ip port token) :=
  spares_update ((spares_firstRow _).bind fun row => spares_pure row.toSensor)

theorem spares_initializeSensor (token : ByteString) : Spares (initializeSensor ids token) :=
  (spares_executeUpdate (insert ids token) fun _ => rfl).bind fun _ =>
    (spares_firstRow _).bind fun row => spares_pure row.id

theorem spares_getReport (report : Registry → Int → List Measurement) (id : Int) :
    Spares (getReport report id) :=
  (spares_executeQuery _).bind fun _ => spares_pure _

theorem Spares.stores {call : DatabaseCall Registry α} (spares : Spares call)
    {before after : Registry} {result : Except SQLException α}
    (ran : call.runOn before = some (result, after)) : Stores before after :=
  .of_eq (spares before.measurements before result after rfl ran)

theorem stores_addMeasurement {sensorId measure timestamp : Int} {before after : Registry}
    {result : Except SQLException Unit} (isInt : IsInt timestamp)
    (ran : (addMeasurement sensorId measure timestamp).runOn before = some (result, after)) :
    Stores before after := by
  obtain ⟨faults, rfl | rfl⟩ := executeUpdate_cases ran
  · exact .of_eq rfl
  · refine ⟨[(sensorId, measure, timestamp)], rfl, ?_⟩
    intro row member
    obtain rfl := List.mem_singleton.mp member
    exact isInt

end Registry

namespace Pass

open Registry

variable {α : Type} {ids : IdSource} {readings : Readings}

/-- What a thread does to the measurements. -/
def Storing (before after : Server Registry) : Prop :=
  Stores before.database after.database

theorem Storing.of_database {before after : Server Registry}
    (same : after.database = before.database) : Storing before after := by
  unfold Storing
  rw [same]
  exact .refl _

theorem storing_spares {call : DatabaseCall Registry α} (spares : Spares call) :
    Always Storing (Process.call (callDatabase call)) := by
  apply always_call
  intro before result after ran
  obtain ⟨changed, queried, rfl⟩ := Exec.runOn_zoom_eq_some.mp ran
  exact spares.stores queried

theorem storing_modify {change : Server Registry → Server Registry}
    (quiet : ∀ server, Quiet server (change server)) :
    Always Storing (Process.call (modify change) : Pass Registry Unit) := by
  apply always_call
  intro before result after ran
  cases ran
  exact .of_database (quiet before).database

theorem storing_get : Always Storing (Process.call get : Pass Registry (Server Registry)) := by
  apply always_call
  intro before result after ran
  cases ran
  exact .of_database rfl

theorem storing_executeSensorRequest (stamped : Stamped SensorRequest) (serverTime sent : Int) :
    Always Storing (executeSensorRequest (connection ids readings) stamped serverTime sent) := by
  unfold executeSensorRequest
  cases stamped.request with
  | measurement clientId value timestamp =>
      refine always_bind storing_get fun server => ?_
      cases server.clientToSensorId clientId with
      | none => exact always_pure ()
      | some sensorId =>
          apply always_call
          intro before result after ran
          obtain ⟨changed, inserted, rfl⟩ := (recordMeasurement_eq_some _).mp ran
          exact stores_addMeasurement (isInt_toInt32 timestamp) inserted
  | onConnected clientId ip port token =>
      refine always_bind (storing_spares ?_) fun whitelisted => ?_
      · exact (spares_firstRow _).bind fun row => spares_pure row.notRevoked
      refine always_ite (storing_modify fun server => quiet_killSensor ..) ?_
      refine always_bind (storing_spares ?_) fun sensorId => ?_
      · exact (spares_firstRow _).bind fun row => spares_pure row.id
      refine always_bind storing_get fun server => ?_
      refine always_ite (storing_modify fun server => quiet_killSensor ..) ?_
      refine always_bind (storing_spares (spares_addSensor ip port token)) fun sensor => ?_
      refine always_bind (storing_modify fun server => ⟨⟨rfl, rfl, rfl, rfl⟩, rfl⟩) fun _ => ?_
      exact storing_modify fun server => quiet_send ..
  | onDisconnected clientId =>
      refine always_bind storing_get fun server => ?_
      cases server.clientToSensorId clientId with
      | none => exact always_pure ()
      | some sensorId =>
          refine always_bind (storing_spares ?_) fun sensor => ?_
          · exact spares_update (spares_getSensor sensorId)
          · exact storing_modify fun server => ⟨⟨rfl, rfl, rfl, rfl⟩, rfl⟩

theorem storing_generateFreshToken (rands : List (Vector Nat 15)) :
    Always Storing (generateFreshToken (connection ids readings) rands) := by
  induction rands with
  | nil =>
      apply always_call
      rintro before result after ⟨⟩
  | cons first rands ih =>
      refine always_bind (storing_spares (spares_executeQuery _)) fun found => ?_
      exact always_ite ih (always_pure _)

theorem storing_executeAdministratorRequest (request : AdministratorRequest)
    (rands : List (Vector Nat 15)) (sent : Int) :
    Always Storing (executeAdministratorRequest (connection ids readings) request rands sent) := by
  unfold executeAdministratorRequest
  cases request.commandType with
  | getAllSensors =>
      exact always_bind (storing_spares (spares_executeQuery _)) fun _ => always_pure _
  | updateSensorName =>
      refine always_bind (storing_spares ?_) fun _ => always_pure _
      exact spares_update (spares_getSensor _)
  | revokeSensor =>
      refine always_bind (storing_spares ?_) fun sensor => ?_
      · exact spares_update (spares_getSensor _)
      · exact always_bind (storing_modify fun server => quiet_killMapped ..) fun _ => always_pure _
  | disconnectSensor =>
      refine always_bind (storing_spares ?_) fun sensor => ?_
      · exact spares_update (spares_getSensor _)
      · exact always_bind (storing_modify fun server => quiet_killMapped ..) fun _ => always_pure _
  | generateToken =>
      refine always_bind (storing_generateFreshToken rands) fun token => ?_
      refine always_bind (storing_spares ?_) fun _ => always_pure _
      exact spares_initializeSensor token

theorem storing_executeMonitoringRequest (request : MonitoringRequest) :
    Always Storing (executeMonitoringRequest (connection ids readings) request) := by
  unfold executeMonitoringRequest
  cases request.commandType with
  | getAllSensorsMonitoring =>
      exact always_bind (storing_spares (spares_executeQuery _)) fun _ => always_pure _
  | getSetOfMeasurements =>
      refine always_bind ?_ fun _ => always_pure _
      refine always_ite (storing_spares (spares_getReport _ _)) ?_
      refine always_ite (storing_spares (spares_getReport _ _)) ?_
      exact always_ite (storing_spares (spares_getReport _ _)) (always_pure _)

end Pass

namespace Side

open Pass

variable {κ α : Type} {lane : Lane Registry κ α} {side after : Side Registry κ α}
  {server changed : Server Registry}

/-- The pass under way does no more to the measurements than store some. -/
def Keeps (side : Side Registry κ α) (server : Server Registry) : Prop :=
  ∀ stamped process, side.executor = some (stamped, process) →
    process.Safe (fun _ _ => True) Storing server

theorem Keeps.of_executor (keeps : side.Keeps server)
    (executor : after.executor = side.executor) : after.Keeps changed := by
  intro stamped process busy
  rw [executor] at busy
  exact (keeps stamped process busy).of_rely trivial

theorem keeps_take {execute : Stamped κ → Pass Registry α}
    (always : ∀ stamped, Always Storing (execute stamped)) (spares : lane.Spares)
    (taken : side.take lane execute server = some (after, changed)) :
    after.Keeps changed ∧ Storing server changed := by
  unfold Side.take at taken
  split at taken
  · next first queue _ _ =>
      cases taken
      refine ⟨?_, .of_database (spares.setRequests server queue)⟩
      intro stamped process busy
      cases busy
      exact (always first).safe _
  · cases taken

theorem Keeps.execute (keeps : side.Keeps server) (spares : lane.Spares)
    (executed : side.execute lane server = some (after, changed)) :
    after.Keeps changed ∧ Storing server changed := by
  unfold Side.execute at executed
  split at executed
  · cases executed
  · cases executed
    exact ⟨by simp [Keeps], .of_database (spares.setResponses _ _)⟩
  · cases executed
    exact ⟨by simp [Keeps], .of_database rfl⟩
  · next stamped process _ _ busy =>
      obtain ⟨⟨later, reached⟩, stepped, same⟩ := Option.map_eq_some_iff.mp executed
      cases same
      obtain ⟨stores, goesOn⟩ := (keeps stamped process busy).of_step stepped
      refine ⟨?_, stores⟩
      intro other next working
      cases working
      exact goesOn

end Side

namespace Threads

open Pass Registry

variable {ids : IdSource} {readings : Readings} {threads after : Threads Registry}

/-- The passes under way do no more to the measurements than store some. -/
structure Keeping (threads : Threads Registry) : Prop where
  sensorExecutor : ∀ process, threads.sensorExecutor = some process →
    process.Safe (fun _ _ => True) Storing threads.server
  administrators : threads.administrators.Keeps threads.server
  monitoring : threads.monitoring.Keeps threads.server

theorem keeping_start (content : Registry) : (start content).Keeping :=
  ⟨by simp [start], by simp [Side.Keeps, start], by simp [Side.Keeps, start]⟩

/-- A step that no pass takes part in. -/
theorem Keeping.of_executors (keeping : threads.Keeping)
    (sensorExecutor : after.sensorExecutor = threads.sensorExecutor)
    (administrators : after.administrators.executor = threads.administrators.executor)
    (monitoring : after.monitoring.executor = threads.monitoring.executor) : after.Keeping where
  sensorExecutor := by
    intro process busy
    rw [sensorExecutor] at busy
    exact (keeping.sensorExecutor process busy).of_rely trivial
  administrators := keeping.administrators.of_executor administrators
  monitoring := keeping.monitoring.of_executor monitoring

theorem Keeping.network {label : Label} {database : IDatabaseConnection Registry}
    (keeping : threads.Keeping) (stepped : network database label threads = some after) :
    after.Keeping ∧ Storing threads.server after.server := by
  unfold Threads.network at stepped
  split at stepped
  · next isNetwork =>
      split at stepped
      · next server ran =>
          cases stepped
          have stores : Storing threads.server server := by
            apply Storing.of_database
            rcases network_queues isNetwork ran with quiet | ⟨stamped, -, rfl⟩ | ⟨stamped, -, rfl⟩
            · exact quiet.database
            · rfl
            · rfl
          exact ⟨keeping.of_executors rfl rfl rfl, stores⟩
      · cases stepped
  · cases stepped

/-- A step of the executor of the sensors' requests. -/
theorem Keeping.of_sensors (keeping : threads.Keeping)
    (administrators : after.administrators = threads.administrators)
    (monitoring : after.monitoring = threads.monitoring)
    (sensorExecutor : ∀ process, after.sensorExecutor = some process →
      process.Safe (fun _ _ => True) Storing after.server) : after.Keeping :=
  ⟨sensorExecutor, keeping.administrators.of_executor (by rw [administrators]),
    keeping.monitoring.of_executor (by rw [monitoring])⟩

theorem Keeping.takeSensor {serverTime sent : Int} (keeping : threads.Keeping)
    (stepped : takeSensor (connection ids readings) serverTime sent threads = some after) :
    after.Keeping ∧ Storing threads.server after.server := by
  unfold Threads.takeSensor at stepped
  split at stepped
  · next stamped queue _ _ =>
      cases stepped
      have stores : Storing threads.server { threads.server with sensorRequestsQueue := queue } :=
        .of_database rfl
      refine ⟨keeping.of_sensors rfl rfl ?_, stores⟩
      intro process busy
      cases busy
      exact (storing_executeSensorRequest stamped serverTime sent).safe _
  · cases stepped

theorem Keeping.executeSensor (keeping : threads.Keeping)
    (stepped : executeSensor threads = some after) :
    after.Keeping ∧ Storing threads.server after.server := by
  unfold Threads.executeSensor at stepped
  split at stepped
  · cases stepped
  · cases stepped
    have stores : Storing threads.server threads.server := .of_database rfl
    exact ⟨keeping.of_sensors rfl rfl (by simp), stores⟩
  · next process _ busy =>
      obtain ⟨⟨later, server⟩, moved, rfl⟩ := Option.map_eq_some_iff.mp stepped
      obtain ⟨stores, goesOn⟩ := (keeping.sensorExecutor process busy).of_step moved
      refine ⟨keeping.of_sensors rfl rfl ?_, stores⟩
      intro next working
      cases working
      exact goesOn

theorem Keeping.of_administrators (keeping : threads.Keeping)
    (sensorExecutor : after.sensorExecutor = threads.sensorExecutor)
    (monitoring : after.monitoring = threads.monitoring)
    (administrators : after.administrators.Keeps after.server) : after.Keeping where
  sensorExecutor := by
    intro process busy
    rw [sensorExecutor] at busy
    exact (keeping.sensorExecutor process busy).of_rely trivial
  administrators := administrators
  monitoring := keeping.monitoring.of_executor (by rw [monitoring])

theorem Keeping.of_monitoring (keeping : threads.Keeping)
    (sensorExecutor : after.sensorExecutor = threads.sensorExecutor)
    (administrators : after.administrators = threads.administrators)
    (monitoring : after.monitoring.Keeps after.server) : after.Keeping where
  sensorExecutor := by
    intro process busy
    rw [sensorExecutor] at busy
    exact (keeping.sensorExecutor process busy).of_rely trivial
  administrators := keeping.administrators.of_executor (by rw [administrators])
  monitoring := monitoring

/-- Every step does no more to the measurements than store some. -/
theorem Keeping.step {label : ThreadLabel} (keeping : threads.Keeping)
    (stepped : step (connection ids readings) label threads = some after) :
    after.Keeping ∧ Storing threads.server after.server := by
  cases label with
  | network label => exact keeping.network stepped
  | takeSensor serverTime sent => exact keeping.takeSensor stepped
  | executeSensor => exact keeping.executeSensor stepped
  | takeAdministrator rands sent =>
      obtain ⟨⟨side, server⟩, taken, rfl⟩ := Option.map_eq_some_iff.mp stepped
      obtain ⟨administrators, stores⟩ := Side.keeps_take
        (fun stamped => storing_executeAdministratorRequest stamped.request rands sent)
        administratorLane_spares taken
      exact ⟨keeping.of_administrators rfl rfl administrators, stores⟩
  | executeAdministrator =>
      obtain ⟨⟨side, server⟩, executed, rfl⟩ := Option.map_eq_some_iff.mp stepped
      obtain ⟨administrators, stores⟩ :=
        keeping.administrators.execute administratorLane_spares executed
      exact ⟨keeping.of_administrators rfl rfl administrators, stores⟩
  | pickAdministrator =>
      obtain ⟨⟨side, server⟩, picked, rfl⟩ := Option.map_eq_some_iff.mp stepped
      obtain ⟨executor, same⟩ := Side.pick_executor administratorLane_spares picked
      have stores : Storing threads.server server := .of_database same
      exact ⟨keeping.of_executors rfl executor rfl, stores⟩
  | handAdministrator sent =>
      obtain ⟨⟨side, server⟩, handed, rfl⟩ := Option.map_eq_some_iff.mp stepped
      obtain ⟨executor, same⟩ := Side.hand_executor administratorLane_spares handed
      have stores : Storing threads.server server := .of_database same
      exact ⟨keeping.of_executors rfl executor rfl, stores⟩
  | takeMonitoring =>
      obtain ⟨⟨side, server⟩, taken, rfl⟩ := Option.map_eq_some_iff.mp stepped
      obtain ⟨monitoring, stores⟩ := Side.keeps_take
        (fun stamped => storing_executeMonitoringRequest stamped.request)
        monitoringLane_spares taken
      exact ⟨keeping.of_monitoring rfl rfl monitoring, stores⟩
  | executeMonitoring =>
      obtain ⟨⟨side, server⟩, executed, rfl⟩ := Option.map_eq_some_iff.mp stepped
      obtain ⟨monitoring, stores⟩ := keeping.monitoring.execute monitoringLane_spares executed
      exact ⟨keeping.of_monitoring rfl rfl monitoring, stores⟩
  | pickMonitoring =>
      obtain ⟨⟨side, server⟩, picked, rfl⟩ := Option.map_eq_some_iff.mp stepped
      obtain ⟨executor, same⟩ := Side.pick_executor monitoringLane_spares picked
      have stores : Storing threads.server server := .of_database same
      exact ⟨keeping.of_executors rfl rfl executor, stores⟩
  | handMonitoring sent =>
      obtain ⟨⟨side, server⟩, handed, rfl⟩ := Option.map_eq_some_iff.mp stepped
      obtain ⟨executor, same⟩ := Side.hand_executor monitoringLane_spares handed
      have stores : Storing threads.server server := .of_database same
      exact ⟨keeping.of_executors rfl rfl executor, stores⟩

end Threads

end SensorManager
