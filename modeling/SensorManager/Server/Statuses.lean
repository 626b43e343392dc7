import SensorManager.Server.DatabaseSpec
import SensorManager.Server.Outcome

/-!
# The statuses of the sensors and the map to their slots

The handlers write the column `status` and the map `sensorToClientId`
together.  `TableChange` lists the ways in which a step that throws nothing
changes the two.
-/

namespace SensorManager

open DatabaseConnection

/-- The texts of a request that become part of a statement. -/
def SensorRequest.Unquoted : SensorRequest → Prop
  | .onConnected _ ip _ token => quoted ip = false ∧ quoted token = false
  | _ => True

namespace Server

/-- The request that an executor takes has no quote in a text that becomes part
of a statement. -/
def Plain {δ : Type} : Label → Server δ → Prop
  | .executeSensor _ _, server => ∀ stamped queue,
      server.sensorRequestsQueue = stamped :: queue → stamped.request.Unquoted
  | .executeAdministrator _ _, server => ∀ stamped queue,
      server.administratorRequestsQueue = stamped :: queue →
      quoted stamped.request.sensorName = false
  | _, _ => True

/-- `Plain` as a test. -/
def unquoted {δ : Type} : Label → Server δ → Bool
  | .executeSensor _ _, server => server.sensorRequestsQueue.head?.all fun stamped =>
      match stamped.request with
      | .onConnected _ ip _ token => !quoted ip && !quoted token
      | _ => true
  | .executeAdministrator _ _, server => server.administratorRequestsQueue.head?.all
      fun stamped => !quoted stamped.request.sensorName
  | _, _ => true

theorem plain_of_unquoted {δ : Type} {label : Label} {server : Server δ}
    (checked : unquoted label server = true) : Plain label server := by
  cases label with
  | executeSensor serverTime sent =>
      rintro ⟨request, conn, cause⟩ queue queued
      cases request with
      | onConnected slot ip port token =>
          simpa [unquoted, queued, SensorRequest.Unquoted] using checked
      | _ => trivial
  | executeAdministrator rands sent =>
      intro stamped queue queued
      simpa [unquoted, queued] using checked
  | _ => trivial

/-- What a step does to the table of sensors and to the map to their slots. -/
inductive TableChange (table : SensorTable) (map : IntMap) (later : SensorTable) :
    IntMap → Prop
  | kept (grows : table.Grows later) : TableChange table map later map
  | opened (sensorId slot : Int) (free : map sensorId = none)
      (was : table.status sensorId ≠ some .revoked)
      (status : later.status sensorId = some .active)
      (others : ∀ other, other ≠ sensorId → later.status other = table.status other)
      (idOf : ∀ token, later.idOf token = table.idOf token) :
      TableChange table map later (map.insert sensorId slot)
  | closed (sensorId : Int)
      (status : later.status sensorId = some .revoked ∨
        table.status sensorId ≠ some .revoked ∧
          later.status sensorId = some .disconnected)
      (others : ∀ other, other ≠ sensorId → later.status other = table.status other)
      (idOf : ∀ token, later.idOf token = table.idOf token) :
      TableChange table map later (map.erase sensorId)

variable {reports : Reports} {rogue : IDatabaseConnection Database}
  {server : Server Database} {label : Label} {actions : List Action} {changed : Database}

/-- An init request that is accepted finds its sensor under its token. -/
theorem accepted_tables {ip token : ByteString} {port sensorId : Int} {sensor : Sensor}
    {before first second : Database} (unquoted : quoted ip = false ∧ quoted token = false)
    (listed : ((connection reports rogue).checkIfTokenIsWhitelisted token).runOn before =
      some (.ok true, first))
    (found : ((connection reports rogue).getSensorId token).runOn first =
      some (.ok sensorId, second))
    (added : ((connection reports rogue).addSensor ip port token).runOn second =
      some (.ok sensor, changed)) :
    sensor.id = sensorId ∧ before.sensors.idOf token = some sensorId ∧
      before.sensors.status sensorId ≠ some .revoked ∧
      changed.sensors.status sensorId = some .active ∧
      (∀ other, other ≠ sensorId →
        changed.sensors.status other = before.sensors.status other) ∧
      ∀ other, changed.sensors.idOf other = before.sensors.idOf other := by
  rw [connection_checkIfTokenIsWhitelisted unquoted.2] at listed
  rw [connection_getSensorId unquoted.2] at found
  rw [connection_addSensor unquoted.1 unquoted.2] at added
  obtain ⟨-, rfl, row, byToken, spared⟩ := checkIfTokenIsWhitelisted_ok.mp listed
  obtain ⟨-, rfl, isId⟩ := getSensorId_ok.mp found
  obtain ⟨⟨same, sameToken, isSensor, status⟩, others, idOf⟩ := addSensor_ok added
  have sameRow : same = row := Option.some.inj (sameToken.symm.trans byToken)
  subst sameRow
  have isRow : same.id = sensorId := by
    have known : before.sensors.idOf token = some same.id := by
      rw [SensorTable.idOf, byToken]
      rfl
    exact Option.some.inj (known.symm.trans isId)
  rw [isSensor, isRow] at others
  rw [isSensor, isRow, ← spared] at status
  refine ⟨isSensor.trans isRow, isId, ?_, status, others, idOf⟩
  intro revoked
  rw [SensorTable.status_of_byToken byToken isId] at revoked
  simp [SensorRow.notRevoked] at spared
  exact spared (Option.some.inj revoked)

/-- The acceptance of an init request whose texts have no quotes. -/
theorem Outcome.accept_plain {result : Except SQLException Unit} (plain : Plain label server)
    (outcome : Outcome (connection reports rogue) server label result actions changed)
    {slot sensorId : Int} {conn cause : Nat}
    (accepts : .accept slot sensorId conn cause ∈ actions) :
    ∃ serverTime sent ip port token queue,
      label = .executeSensor serverTime sent ∧
      server.sensorRequestsQueue = ⟨.onConnected slot ip port token, conn, cause⟩ :: queue ∧
      server.database.sensors.idOf token = some sensorId ∧
      server.database.sensors.status sensorId ≠ some .revoked ∧
      server.sensorToClientId sensorId = none := by
  obtain ⟨serverTime, sent, ip, port, token, queue, first, second, found, sensor, rfl, queued,
    listed, isFound, free, added, rfl⟩ := outcome.accept_init accepts
  obtain ⟨isSensor, known, was, -⟩ := accepted_tables (plain _ _ queued) listed isFound added
  rw [isSensor]
  exact ⟨serverTime, sent, ip, port, token, queue, rfl, queued, known, was,
    IntMap.contains_eq_false.mp free⟩

/-- A step that throws nothing changes the table and the map together. -/
theorem Outcome.tableChange (plain : Plain label server)
    (outcome : Outcome (connection reports rogue) server label (.ok ()) actions changed) :
    TableChange server.database.sensors server.sensorToClientId changed.sensors
      (server.sessions.perform actions).sensorToClientId := by
  have same : ∀ later map, later = server.database.sensors →
      map = server.sensorToClientId →
      TableChange server.database.sensors server.sensorToClientId later map := by
    rintro later map rfl rfl
    exact .kept (.refl _)
  generalize isOk : Except.ok () = result at outcome
  cases outcome with
  | accept | acceptSensor | lost | lostSensor | frame | unknownFrame | administratorFrame
  | monitoringFrame | unmapped => exact same _ _ rfl rfl
  | sentAdministrator | sentMonitoring => exact same _ _ rfl (maps_sendActions _ _ _ _ _).2
  | initThrew | disconnectThrew | killThrew => cases isOk
  | measured queued mapped called =>
      refine same _ _ ?_ rfl
      subst isOk
      obtain ⟨-, rfl⟩ := executeUpdate_ok.mp called
      rfl
  | incorrectToken queued listed =>
      refine same _ _ ?_ (maps_killActions _ _ _ _).2
      have unquoted := (plain _ _ queued).2
      rw [connection_checkIfTokenIsWhitelisted unquoted] at listed
      obtain ⟨-, rfl, -⟩ := checkIfTokenIsWhitelisted_ok.mp listed
      rfl
  | tokenActive queued listed found =>
      refine same _ _ ?_ (maps_killActions _ _ _ _).2
      have unquoted := (plain _ _ queued).2
      rw [connection_checkIfTokenIsWhitelisted unquoted] at listed
      rw [connection_getSensorId unquoted] at found
      obtain ⟨-, rfl, -⟩ := checkIfTokenIsWhitelisted_ok.mp listed
      obtain ⟨-, rfl, -⟩ := getSensorId_ok.mp found
      rfl
  | @accepted serverTime _ slot ip port token conn cause queue first second changed sensorId sensor
      queued listed found free added =>
      obtain ⟨isSensor, -, was, status, others, idOf⟩ :=
        accepted_tables (plain _ _ queued) listed found added
      have maps := server.maps_sendActions
        (server.sessions.act (.accept slot sensor.id conn cause)) .sensor slot
        (activeMessage serverTime)
      rw [Sessions.perform, List.foldl_cons]
      refine maps.2.symm ▸ ?_
      rw [isSensor]
      exact .opened sensorId slot (IntMap.contains_eq_false.mp free) was status others idOf
  | @disconnected _ _ slot conn cause queue sensorId sensor changed queued mapped called =>
      obtain ⟨status, others, idOf⟩ := disconnectSensor_ok called
      exact .closed sensorId status others idOf
  | @killed _ _ stamped queue call reason sensor changed queued kills called =>
      rw [(server.maps_killMappedActions stamped.request.sensorId reason).2]
      cases command : stamped.request.commandType with
      | revokeSensor =>
          rw [command] at kills
          cases kills
          obtain ⟨status, others, idOf⟩ := revokeSensor_ok called
          exact .closed stamped.request.sensorId (.inl status) others idOf
      | disconnectSensor =>
          rw [command] at kills
          cases kills
          obtain ⟨status, others, idOf⟩ := disconnectSensor_ok called
          exact .closed stamped.request.sensorId status others idOf
      | _ => simp [killCall, command] at kills
  | administered queued spares kept =>
      exact .kept (housekept_grows (plain _ _ queued) kept)
  | monitored kept => exact .kept (housekept_grows rfl kept)

/-- A sensor that is mapped to a slot is active. -/
def MappedActive (server : Server Database) : Prop :=
  ∀ sensorId slot, server.sensorToClientId sensorId = some slot →
    server.database.sensors.status sensorId = some .active

/-- An active sensor is mapped to a slot. -/
def ActiveMapped (server : Server Database) : Prop :=
  ∀ sensorId, server.database.sensors.status sensorId = some .active →
    ∃ slot, server.sensorToClientId sensorId = some slot

theorem SensorTable.status_of_revoked_or_disconnected {status : Option Status}
    {was : Prop} (closed : status = some .revoked ∨ was ∧ status = some .disconnected) :
    status ≠ some .active := by
  rcases closed with rfl | ⟨-, rfl⟩ <;> simp

theorem TableChange.mappedActive {table later : SensorTable} {map next : IntMap}
    (change : TableChange table map later next)
    (holds : ∀ sensorId slot, map sensorId = some slot →
      table.status sensorId = some .active)
    (sensorId slot : Int) (mapped : next sensorId = some slot) :
    later.status sensorId = some .active := by
  cases change with
  | kept grows =>
      have active := holds sensorId slot mapped
      rcases grows.status sensorId with same | ⟨absent, -⟩
      · exact same.trans active
      · simp [active] at absent
  | opened opened openedSlot free was status others idOf =>
      rcases IntMap.of_insert mapped with ⟨rfl, -⟩ | ⟨different, before⟩
      · exact status
      · exact (others sensorId different).trans (holds sensorId slot before)
  | closed closed status others idOf =>
      obtain ⟨different, before⟩ := IntMap.of_erase mapped
      exact (others sensorId different).trans (holds sensorId slot before)

theorem TableChange.activeMapped {table later : SensorTable} {map next : IntMap}
    (change : TableChange table map later next)
    (holds : ∀ sensorId, table.status sensorId = some .active →
      ∃ slot, map sensorId = some slot)
    (sensorId : Int) (active : later.status sensorId = some .active) :
    ∃ slot, next sensorId = some slot := by
  cases change with
  | kept grows =>
      rcases grows.status sensorId with same | ⟨-, initial⟩
      · exact holds sensorId (same.symm.trans active)
      · simp [initial] at active
  | opened opened slot free was status others idOf =>
      by_cases same : sensorId = opened
      · exact ⟨slot, by simp [same]⟩
      · obtain ⟨found, mapped⟩ := holds sensorId ((others sensorId same).symm.trans active)
        exact ⟨found, (IntMap.insert_other map same slot).trans mapped⟩
  | closed closed status others idOf =>
      by_cases same : sensorId = closed
      · subst same
        exact absurd active (SensorTable.status_of_revoked_or_disconnected status)
      · obtain ⟨found, mapped⟩ := holds sensorId ((others sensorId same).symm.trans active)
        exact ⟨found, (IntMap.erase_other map same).trans mapped⟩

/-- A revoked sensor stays revoked, and is not mapped again. -/
theorem TableChange.revoked {table later : SensorTable} {map next : IntMap}
    (change : TableChange table map later next) {sensorId : Int}
    (revoked : table.status sensorId = some .revoked) :
    later.status sensorId = some .revoked ∧
      (map sensorId = none → next sensorId = none) := by
  cases change with
  | kept grows =>
      rcases grows.status sensorId with same | ⟨absent, -⟩
      · exact ⟨same.trans revoked, id⟩
      · simp [revoked] at absent
  | opened opened slot free was status others idOf =>
      have different : sensorId ≠ opened := by
        rintro rfl
        exact was revoked
      exact ⟨(others sensorId different).trans revoked,
        (IntMap.insert_other map different slot).trans⟩
  | closed closed status others idOf =>
      by_cases same : sensorId = closed
      · subst same
        rcases status with stays | ⟨was, -⟩
        · exact ⟨stays, fun _ => IntMap.erase_same map sensorId⟩
        · exact absurd revoked was
      · exact ⟨(others sensorId same).trans revoked, (IntMap.erase_other map same).trans⟩

/-- A step that throws nothing changes the two stores as `TableChange` says. -/
theorem Steps.tableChange {after : Server Database} (plain : Plain label server)
    (steps : Steps (connection reports rogue) label server (.ok ()) after) :
    TableChange server.database.sensors server.sensorToClientId after.database.sensors
      after.sensorToClientId := by
  obtain ⟨actions, outcome, sessions_eq⟩ := steps.outcome
  have change := outcome.tableChange plain
  rw [← sessions_eq] at change
  exact change

/-- The request of a slot is refused: its holder is told the reason and
disconnected, and the maps stay as they are. -/
def Refuses (server : Server Database) (slot reason : Int) (after : Server Database) : Prop :=
  after.log = server.log ++ server.killEffects slot reason ∧
    after.holder .sensor = Function.update (server.holder .sensor) slot none ∧
    after.clientToSensorId = server.clientToSensorId ∧
    after.sensorToClientId = server.sensorToClientId

theorem refuses_of_sessions {slot reason : Int} {after : Server Database}
    (sessions_eq : after.sessions =
      (server.sessions.act .discard).perform (server.killActions slot reason)) :
    Refuses server slot reason after := by
  have discarded : (server.sessions.act .discard).holder = server.holder .sensor := rfl
  obtain ⟨log, holder⟩ := perform_killActions discarded slot reason
  have maps := server.maps_killActions (server.sessions.act .discard) slot reason
  exact ⟨(congrArg Sessions.log sessions_eq).trans log,
    (congrArg Sessions.holder sessions_eq).trans holder,
    (congrArg Sessions.clientToSensorId sessions_eq).trans maps.1,
    (congrArg Sessions.sensorToClientId sessions_eq).trans maps.2⟩

/-- The request of a slot is accepted: both maps are written, and the holder of
the slot is told. -/
structure Accepts (server : Server Database) (slot sensorId : Int) (conn cause : Nat)
    (serverTime : Int) (after : Server Database) : Prop where
  log : after.log = server.log ++ .accepted conn sensorId cause ::
    server.sendEffects .sensor slot (activeMessage serverTime)
  holder : after.holder .sensor = server.holder .sensor
  clientToSensorId : after.clientToSensorId = server.clientToSensorId.insert slot sensorId
  sensorToClientId : after.sensorToClientId = server.sensorToClientId.insert sensorId slot
  status : after.database.sensors.status sensorId = some .active

theorem accepts_of_sessions {slot sensorId serverTime : Int} {conn cause : Nat}
    {after : Server Database}
    (sessions_eq : after.sessions = (server.sessions.act (.accept slot sensorId conn cause)).perform
      (server.sendActions .sensor slot (activeMessage serverTime)))
    (status : after.database.sensors.status sensorId = some .active) :
    Accepts server slot sensorId conn cause serverTime after := by
  let accepted := server.sessions.act (.accept slot sensorId conn cause)
  have log := server.log_sendActions accepted .sensor slot (activeMessage serverTime)
  have holder := server.holder_sendActions accepted .sensor slot (activeMessage serverTime)
  have maps := server.maps_sendActions accepted .sensor slot (activeMessage serverTime)
  refine ⟨?_, (congrArg Sessions.holder sessions_eq).trans holder,
    (congrArg Sessions.clientToSensorId sessions_eq).trans maps.1,
    (congrArg Sessions.sensorToClientId sessions_eq).trans maps.2, status⟩
  rw [← List.singleton_append, ← List.append_assoc]
  exact (congrArg Sessions.log sessions_eq).trans log

/-- What an init request with the token of a sensor comes to: it is refused
when the sensor is revoked or mapped to a slot, and accepted otherwise. -/
theorem Steps.init_cases {serverTime sent slot port sensorId : Int} {ip token : ByteString}
    {conn cause : Nat} {queue : List (Stamped SensorRequest)} {after : Server Database}
    (plain : Plain (.executeSensor serverTime sent) server)
    (steps : Steps (connection reports rogue) (.executeSensor serverTime sent) server (.ok ())
      after)
    (queued : server.sensorRequestsQueue = ⟨.onConnected slot ip port token, conn, cause⟩ :: queue)
    (known : server.database.sensors.idOf token = some sensorId) :
    (server.database.sensors.status sensorId = some .revoked ∧
      Refuses server slot killSensorIncorrectToken after) ∨
    (server.database.sensors.status sensorId ≠ some .revoked ∧
      server.sensorToClientId sensorId ≠ none ∧
      Refuses server slot killSensorTokenActive after) ∨
    (server.database.sensors.status sensorId ≠ some .revoked ∧
      server.sensorToClientId sensorId = none ∧
      Accepts server slot sensorId conn cause serverTime after) := by
  obtain ⟨actions, outcome, sessions_eq⟩ := steps.outcome
  have unquoted := plain _ _ queued
  generalize isOk : Except.ok () = result at outcome
  generalize isChanged : after.database = changed at outcome
  cases outcome with
  | measured other =>
      cases queued.symm.trans other
  | unmapped other opened =>
      cases queued.symm.trans other
      cases opened
  | disconnected other =>
      cases queued.symm.trans other
  | initThrew => cases isOk
  | disconnectThrew => cases isOk
  | incorrectToken other listed =>
      cases queued.symm.trans other
      rw [connection_checkIfTokenIsWhitelisted unquoted.2] at listed
      obtain ⟨-, -, row, found, revoked⟩ := checkIfTokenIsWhitelisted_ok.mp listed
      have isRevoked : row.columns.status = .revoked := by
        simpa [SensorRow.notRevoked] using revoked.symm
      left
      have status := SensorTable.status_of_byToken found known
      rw [isRevoked] at status
      exact ⟨status, refuses_of_sessions sessions_eq⟩
  | tokenActive other listed found isActive =>
      cases queued.symm.trans other
      rw [connection_checkIfTokenIsWhitelisted unquoted.2] at listed
      rw [connection_getSensorId unquoted.2] at found
      obtain ⟨-, rfl, row, isRow, spared⟩ := checkIfTokenIsWhitelisted_ok.mp listed
      obtain ⟨-, -, isId⟩ := getSensorId_ok.mp found
      obtain rfl := Option.some.inj (known.symm.trans isId)
      have notRevoked : row.columns.status ≠ .revoked := by
        simpa [SensorRow.notRevoked] using spared.symm
      right
      left
      refine ⟨?_, ?_, refuses_of_sessions sessions_eq⟩
      · rw [SensorTable.status_of_byToken isRow known]
        simpa using notRevoked
      · obtain ⟨target, mapped⟩ := IntMap.contains_eq_true.mp isActive
        simp [mapped]
  | accepted other listed found free added =>
      cases queued.symm.trans other
      obtain ⟨isSensor, isId, was, status, -, -⟩ :=
        accepted_tables unquoted listed found added
      obtain rfl := Option.some.inj (known.symm.trans isId)
      right
      right
      rw [isSensor] at sessions_eq
      exact ⟨was, IntMap.contains_eq_false.mp free,
        accepts_of_sessions sessions_eq (isChanged ▸ status)⟩

end Server

end SensorManager
