import SensorManager.Server.Exclusion

/-!
# Agreement of the maps, the connections and the table

When nothing is queued, each of the two maps is the inverse of the other, the
mapped slots are live, and the mapped sensors are the active ones.  This needs
more than exclusive sessions: a connection must not be accepted as a second
sensor while the first is mapped to its slot.  A pass of an executor is one step, so
the statement is about the states between two passes.
-/

namespace SensorManager

namespace Sessions

/-- Each sensor is mapped to a slot that is mapped to it. -/
def Backed (sessions : Sessions) : Prop :=
  ∀ sensorId slot, sessions.sensorToClientId sensorId = some slot →
    sessions.clientToSensorId slot = some sensorId

/-- A slot is given to one sensor at a time. -/
def KeepsBacked (sessions : Sessions) : Action → Prop
  | .accept slot _ _ _ => ∀ other, sessions.sensorToClientId other ≠ some slot
  | _ => True

variable {sessions : Sessions}

theorem Backed.act (backed : sessions.Backed) {action : Action}
    (permitted : sessions.Permits action) (guarded : sessions.KeepsBacked action) :
    (sessions.act action).Backed := by
  cases action with
  | accept slot sensorId conn cause =>
      intro other otherSlot mapped
      rcases IntMap.of_insert mapped with ⟨rfl, rfl⟩ | ⟨-, before⟩
      · exact IntMap.insert_same _ otherSlot other
      · have different : otherSlot ≠ slot := by
          rintro rfl
          exact guarded other before
        exact (IntMap.insert_other _ different sensorId).trans (backed other otherSlot before)
  | unmap slot sensorId =>
      obtain ⟨_, _, _, -, mapped⟩ := permitted
      intro other otherSlot found
      obtain ⟨otherSensor, before⟩ := IntMap.of_erase found
      have isOther := backed other otherSlot before
      have different : otherSlot ≠ slot := by
        rintro rfl
        rw [mapped] at isOther
        exact otherSensor (Option.some.inj isOther).symm
      exact (IntMap.erase_other _ different).trans isOther
  | eraseSensor sensorId =>
      intro other otherSlot found
      exact backed other otherSlot (IntMap.of_erase found).2
  | _ => exact backed

end Sessions

namespace Server

open DatabaseConnection

variable {reports : Reports} {rogue : IDatabaseConnection Database}
  {server : Server Database} {label : Label}

/-- An init request is accepted only on a slot that no sensor is mapped to. -/
def Unclaimed : Label → Server Database → Prop
  | .executeSensor _ _, server => ∀ slot ip port token conn cause queue sensorId,
      server.sensorRequestsQueue = ⟨.onConnected slot ip port token, conn, cause⟩ :: queue →
      server.database.sensors.idOf token = some sensorId →
      server.database.sensors.status sensorId ≠ some .revoked →
      server.sensorToClientId sensorId = none →
      ∀ other, server.sensorToClientId other ≠ some slot
  | _, _ => True

/-- The steps of the runs after which everything agrees. -/
def Separately (label : Label) (server : Server Database)
    (result : Except SQLException Unit) : Prop :=
  Exclusively label server result ∧ Unclaimed label server

theorem Steps.backed {result : Except SQLException Unit} {after : Server Database}
    (steps : Steps (connection reports rogue) label server result after)
    (plain : Plain label server) (unclaimed : Unclaimed label server)
    (backed : server.sessions.Backed) : after.sessions.Backed := by
  obtain ⟨actions, outcome, sessions_eq⟩ := steps.outcome
  have permitted : server.sessions.Permitted Sessions.KeepsBacked actions := by
    apply outcome.permitted
    · intro sessions action calm
      cases action <;> simp_all [Action.calm, Sessions.KeepsBacked]
    · intro slot sensorId conn cause accepts
      obtain ⟨_, _, ip, port, token, queue, rfl, queued, known, was, free⟩ :=
        outcome.accept_plain plain accepts
      exact unclaimed _ _ _ _ _ _ _ _ queued known was free
    · intro _
      trivial
    · intro _ _ _
      trivial
  rw [sessions_eq]
  exact permitted.keeps (fun _ _ backed permits guarded => backed.act permits guarded) backed

/-- Neither executor that writes the maps has anything to do. -/
def Idle (server : Server Database) : Prop :=
  server.sensorRequestsQueue = [] ∧ server.administratorRequestsQueue = []

structure Consistent (server : Server Database) : Prop where
  inverse : ∀ slot sensorId, server.clientToSensorId slot = some sensorId ↔
    server.sensorToClientId sensorId = some slot
  live : ∀ slot sensorId, server.clientToSensorId slot = some sensorId →
    ∃ conn cause, server.holder .sensor slot = some conn ∧
      lastAccepted server.log conn = some (sensorId, cause)
  active : ∀ sensorId, server.database.sensors.status sensorId = some .active ↔
    ∃ slot, server.sensorToClientId sensorId = some slot

/-- The last acceptance of no live connection was as the sensor. -/
def Gone (server : Server Database) (sensorId : Int) : Prop :=
  ∀ slot conn cause, server.holder .sensor slot = some conn →
    lastAccepted server.log conn ≠ some (sensorId, cause)

/-- Whatever slot the token of the sensor comes from next, the executor accepts
it there, unless the database throws. -/
def Reconnects (database : IDatabaseConnection Database) (server : Server Database)
    (sensorId : Int) (token : ByteString) : Prop :=
  ∀ slot beyond sent asked serverTime answered after,
    Steps database (.sensorFrame slot (105 :: token) beyond sent) server (.ok ()) asked →
    Plain (.executeSensor serverTime answered) asked →
    Steps database (.executeSensor serverTime answered) asked (.ok ()) after →
    after.clientToSensorId slot = some sensorId ∧
      after.sensorToClientId sensorId = some slot ∧
      after.database.sensors.status sensorId = some .active

/-- What holds throughout the runs whose steps are all `Separately`. -/
structure Agreeing (server : Server Database) : Prop where
  orderly : server.sessions.Orderly
  exclusive : server.sessions.Exclusive
  backed : server.sessions.Backed
  mappedActive : MappedActive server
  activeMapped : ActiveMapped server

theorem agreeing_start {initial : Database}
    (inactive : ∀ sensorId, initial.sensors.status sensorId ≠ some .active) :
    (start initial).Agreeing := by
  constructor
  · exact orderly_start initial
  · exact exclusive_start initial
  · intro sensorId slot mapped
    cases mapped
  · intro sensorId slot mapped
    cases mapped
  · intro sensorId active
    exact absurd active (inactive sensorId)

theorem Steps.agreeing {result : Except SQLException Unit} {after : Server Database}
    (steps : Steps (connection reports rogue) label server result after)
    (admitted : Separately label server result) (agreeing : server.Agreeing) :
    after.Agreeing := by
  obtain ⟨orderly, exclusive⟩ := steps.exclusive admitted.1 ⟨agreeing.orderly, agreeing.exclusive⟩
  have backed := steps.backed admitted.1.2.1 admitted.2 agreeing.backed
  obtain ⟨⟨rfl, plain, -⟩, -⟩ := admitted
  have change := steps.tableChange plain
  exact ⟨orderly, exclusive, backed, change.mappedActive agreeing.mappedActive,
    change.activeMapped agreeing.activeMapped⟩

/-- With nothing queued, the connection a slot is mapped for still holds it. -/
theorem Agreeing.consistent (agreeing : server.Agreeing)
    (idle : server.sensorRequestsQueue = []) : server.Consistent := by
  have live : ∀ slot sensorId, server.clientToSensorId slot = some sensorId →
      ∃ conn cause, server.holder .sensor slot = some conn ∧
        lastAccepted server.log conn = some (sensorId, cause) := by
    intro slot sensorId mapped
    obtain ⟨conn, cause, next, accepted⟩ := agreeing.orderly.owned slot sensorId mapped
    have isHolder : server.sessions.next slot = server.holder .sensor slot := by
      rw [Sessions.next, show server.sessions.queue = [] from idle, SlotQueue.front_nil]
      rfl
    exact ⟨conn, cause, isHolder ▸ next, accepted⟩
  refine ⟨?_, live, ?_⟩
  · intro slot sensorId
    constructor
    · intro mapped
      obtain ⟨conn, cause, held, accepted⟩ := live slot sensorId mapped
      exact agreeing.exclusive.held slot conn sensorId cause held (mem_of_lastAccepted accepted)
    · exact agreeing.backed sensorId slot
  · intro sensorId
    constructor
    · exact agreeing.activeMapped sensorId
    · rintro ⟨slot, mapped⟩
      exact agreeing.mappedActive sensorId slot mapped

theorem Consistent.unmapped (consistent : server.Consistent) {sensorId : Int}
    (gone : server.Gone sensorId) : server.sensorToClientId sensorId = none := by
  cases mapped : server.sensorToClientId sensorId with
  | none => rfl
  | some slot =>
      have isSensor := (consistent.inverse slot sensorId).mpr mapped
      obtain ⟨conn, cause, held, accepted⟩ := consistent.live slot sensorId isSensor
      exact absurd accepted (gone slot conn cause held)

/-- An init frame becomes an init request, and changes neither the maps nor the
database. -/
theorem Steps.initFrame {δ : Type} {database : IDatabaseConnection δ} {server asked : Server δ}
    {slot : Int} {token : ByteString} {beyond : BytesParser.Memory} {sent : Int}
    (steps : Steps database (.sensorFrame slot (105 :: token) beyond sent) server (.ok ())
      asked) :
    ∃ ip port conn cause,
      asked.sensorRequestsQueue =
        server.sensorRequestsQueue ++ [⟨.onConnected slot ip port token, conn, cause⟩] ∧
      asked.clientToSensorId = server.clientToSensorId ∧
      asked.sensorToClientId = server.sensorToClientId ∧
      asked.database = server.database := by
  obtain ⟨conn, held, -, -, rfl⟩ := Steps.sensorFrame steps
  obtain ⟨ip, port, received⟩ := sessions_initFrame held token beyond sent
  exact ⟨ip, port, conn, _, congrArg Sessions.queue received,
    congrArg Sessions.clientToSensorId received,
    congrArg Sessions.sensorToClientId received, database_receiveSensorFrame held⟩

theorem reconnects_of_unmapped {sensorId : Int} {token : ByteString}
    (idle : server.sensorRequestsQueue = [])
    (known : server.database.sensors.idOf token = some sensorId)
    (spared : server.database.sensors.status sensorId ≠ some .revoked)
    (unmapped : server.sensorToClientId sensorId = none) :
    Reconnects (connection reports rogue) server sensorId token := by
  intro slot beyond sent asked serverTime answered after frame plain executed
  obtain ⟨ip, port, conn, cause, queued, slots, sensors, database⟩ := frame.initFrame
  rw [idle, List.nil_append] at queued
  rw [← database] at known spared
  rcases executed.init_cases plain queued known with ⟨revoked, -⟩ | ⟨-, mapped, -⟩ |
    ⟨-, -, accepts⟩
  · exact absurd revoked spared
  · rw [sensors] at mapped
    exact absurd unmapped mapped
  · rw [accepts.clientToSensorId, accepts.sensorToClientId]
    exact ⟨IntMap.insert_same _ slot sensorId, IntMap.insert_same _ sensorId slot,
      accepts.status⟩

/-- In a run that starts without active sensors, and in which sensors are
accepted only when neither they nor their slots are mapped any more, the maps,
the connections and the table agree whenever the server is idle, and a sensor
that is gone can connect again. -/
theorem consistent_of_idle {initial : Database} {server : Server Database}
    (inactive : ∀ sensorId, initial.sensors.status sensorId ≠ some .active)
    (runs : Runs (connection reports rogue) Separately (start initial) server)
    (idle : server.Idle) :
    server.Consistent ∧
    ∀ sensorId token, server.database.sensors.idOf token = some sensorId →
      server.database.sensors.status sensorId ≠ some .revoked → server.Gone sensorId →
      Reconnects (connection reports rogue) server sensorId token := by
  have agreeing : server.Agreeing :=
    runs.keeps Agreeing (agreeing_start inactive) fun steps => steps.agreeing
  have consistent := agreeing.consistent idle.1
  refine ⟨consistent, ?_⟩
  intro sensorId token known spared gone
  exact reconnects_of_unmapped idle.1 known spared (consistent.unmapped gone)

/-- While the server agrees, a sensor that is not mapped is gone. -/
theorem Agreeing.gone_of_unmapped (agreeing : server.Agreeing) {sensorId : Int}
    (unmapped : server.sensorToClientId sensorId = none) : server.Gone sensorId := by
  intro slot conn cause held accepted
  have mapped := agreeing.exclusive.held slot conn sensorId cause held
    (mem_of_lastAccepted accepted)
  cases unmapped.symm.trans mapped

theorem separately_of_firstTime (agreeing : server.Agreeing)
    (first : firstTime label server = true) : Separately label server (.ok ()) := by
  refine ⟨⟨rfl, plain_of_firstTime first, ?_⟩, ?_⟩
  · cases label with
    | executeSensor serverTime sent =>
        intro slot ip port token conn cause queue sensorId queued known _ _ other mapped
        have free := unmapped_of_firstTime agreeing.orderly first queued known
        exact absurd mapped (free.2 other)
    | _ => trivial
  · cases label with
    | executeSensor serverTime sent =>
        intro slot ip port token conn cause queue sensorId queued known _ _ other mapped
        have free := unmapped_of_firstTime agreeing.orderly first queued known
        have isOther := agreeing.backed other slot mapped
        cases free.1.symm.trans isOther
    | _ => trivial

theorem sample_inactive (sensorId : Int) :
    Database.sample.sensors.status sensorId ≠ some .active := by
  have initial : ∀ row ∈ Database.sample.sensors.rows, row.columns.status ≠ .active := by
    decide
  intro active
  obtain ⟨row, found, isActive⟩ := Option.map_eq_some_iff.mp active
  exact initial row (SensorTable.byId_eq_some.mp found).1 isActive

/-- Two sensors connect, and the first one goes. -/
def comesAndGoes : List Label :=
  [.accept .sensor 0 5 .zero, .sensorFrame 0 [105, 84] (fun _ => 0) 0, .executeSensor 0 0,
    .accept .sensor 1 6 .zero, .sensorFrame 1 [105, 85] (fun _ => 0) 0, .executeSensor 0 0,
    .lost .sensor 0, .executeSensor 0 0]

theorem consistent_of_idle_comesAndGoes :
    ∃ server, Runs DatabaseConnection.sample Separately (start Database.sample) server ∧
      server.clientToSensorId 1 = some 2 ∧ server.Consistent ∧
      Reconnects DatabaseConnection.sample server 1 [84] := by
  let played := playIf DatabaseConnection.sample firstTime comesAndGoes (start Database.sample)
  have finished : played.isSome = true := by decide +kernel
  obtain ⟨server, reached⟩ := Option.isSome_iff_exists.mp finished
  have runs : Runs DatabaseConnection.sample Separately (start Database.sample) server := by
    refine Runs.of_playIf .refl ?_ reached
    intro label before runs first
    exact separately_of_firstTime
      (runs.keeps Agreeing (agreeing_start sample_inactive) fun steps => steps.agreeing) first
  have queues : played.map (fun server => (server.sensorRequestsQueue,
      server.administratorRequestsQueue)) = some ([], []) := by decide +kernel
  have facts : played.map (fun server => (server.clientToSensorId 1, server.sensorToClientId 1,
      server.database.sensors.idOf [84], server.database.sensors.status 1)) =
      some (some 2, none, some 1, some .disconnected) := by decide +kernel
  rw [reached] at queues facts
  simp only [Option.map_some, Option.some.injEq, Prod.mk.injEq] at queues facts
  obtain ⟨idle, noCommand⟩ := queues
  obtain ⟨mapped, unmapped, known, status⟩ := facts
  obtain ⟨consistent, reconnects⟩ :=
    consistent_of_idle sample_inactive runs ⟨idle, noCommand⟩
  have agreeing : server.Agreeing :=
    runs.keeps Agreeing (agreeing_start sample_inactive) fun steps => steps.agreeing
  exact ⟨server, runs, mapped, consistent, reconnects 1 [84] known (by rw [status]; decide)
    (agreeing.gone_of_unmapped unmapped)⟩

/-- One connection sends the tokens of both sensors. -/
def twoTokens : List Label :=
  [.accept .sensor 0 5 .zero, .sensorFrame 0 [105, 84] (fun _ => 0) 0, .executeSensor 0 0,
    .sensorFrame 0 [105, 85] (fun _ => 0) 0, .executeSensor 0 0]

theorem not_consistent_of_twoTokens :
    ¬ ∀ server, Runs DatabaseConnection.sample Undisturbed (start Database.sample) server →
      server.Idle →
      server.Consistent ∧
      ∀ sensorId token, server.database.sensors.idOf token = some sensorId →
        server.database.sensors.status sensorId ≠ some .revoked → server.Gone sensorId →
        Reconnects DatabaseConnection.sample server sensorId token := by
  intro claimed
  let played := play DatabaseConnection.sample twoTokens (start Database.sample)
  have finished : played.isSome = true := by decide +kernel
  obtain ⟨server, reached⟩ := Option.isSome_iff_exists.mp finished
  have facts : played.map (fun server => (server.sensorRequestsQueue,
      server.administratorRequestsQueue, server.sensorToClientId 1, server.clientToSensorId 0)) =
      some ([], [], some 0, some 2) := by decide +kernel
  rw [reached] at facts
  simp only [Option.map_some, Option.some.injEq, Prod.mk.injEq] at facts
  obtain ⟨idle, noCommand, mapped, isSecond⟩ := facts
  obtain ⟨consistent, -⟩ := claimed server (Runs.of_play reached) ⟨idle, noCommand⟩
  have isFirst := (consistent.inverse 0 1).mpr mapped
  cases isSecond.symm.trans isFirst

end Server

end SensorManager
