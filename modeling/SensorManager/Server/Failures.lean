import SensorManager.Server.Statuses
import SensorManager.Server.Targets

/-!
# What a database exception leaves behind

An executor catches the exception and drops the request.  What its handler had
done by then stays: statuses that were committed, and entries of the maps that
were to be erased.  A pass is one step, also when it ends in the exception.
-/

namespace SensorManager.Server

open Exec DatabaseConnection

variable {reports : Reports} {rogue : IDatabaseConnection Database}
  {server : Server Database} {label : Label}

/-- Every slot is mapped to the sensor that a connection was accepted as which
holds the slot, or whose disconnect request is queued. -/
def Attributed {δ : Type} (server : Server δ) : Prop :=
  ∀ slot sensorId, server.clientToSensorId slot = some sensorId →
    ∃ conn cause, lastAccepted server.log conn = some (sensorId, cause) ∧
      (server.holder .sensor slot = some conn ∨
        ∃ item ∈ server.sensorRequestsQueue,
          item.request = .onDisconnected slot ∧ item.conn = conn)

/-- No live connection was accepted as a sensor whose row the step has committed
as revoked or disconnected. -/
def ClosesCommitted (server after : Server Database) : Prop :=
  ∃ commits, after.database.committed = server.database.committed ++ commits ∧
    ∀ sensorId status, (sensorId, status) ∈ commits →
      status = .revoked ∨ status = .disconnected →
      ∀ conn, ¬ after.LiveAs sensorId conn

/-- The steps that handle a request of a sensor, REVOKE_SENSOR or
DISCONNECT_SENSOR. -/
def HandlesSensor : Label → Server Database → Prop
  | .executeSensor _ _, _ => True
  | .executeAdministrator _ _, server => ∃ stamped queue,
      server.administratorRequestsQueue = stamped :: queue ∧
        (stamped.request.commandType = .revokeSensor ∨
          stamped.request.commandType = .disconnectSensor)
  | _, _ => False

def Throws {α : Type} (call : DatabaseCall Database α) (database : Database) : Prop :=
  ∃ error changed, call.runOn database = some (.error error, changed)

def CommitsAndThrows {α : Type} (call : DatabaseCall Database α) (database : Database) :
    Prop :=
  ∃ error changed, call.runOn database = some (.error error, changed) ∧
    changed.committed ≠ database.committed

/-- The disconnect handler of a mapped slot is not left by an exception, and a
command that has committed its status is left by one only when no live
connection was accepted as its sensor. -/
def Tolerates (database : IDatabaseConnection Database) : Label → Server Database → Prop
  | .executeSensor _ _, server => ∀ slot conn cause queue sensorId,
      server.sensorRequestsQueue = Sessions.closing slot conn cause :: queue →
      server.clientToSensorId slot = some sensorId →
      ¬ Throws (database.disconnectSensor sensorId) server.database
  | .executeAdministrator _ _, server => ∀ stamped queue call reason,
      server.administratorRequestsQueue = stamped :: queue →
      killCall database stamped.request.commandType = some (call, reason) →
      CommitsAndThrows (call stamped.request.sensorId) server.database →
      ∀ conn, ¬ server.LiveAs stamped.request.sensorId conn
  | _, _ => True

/-- The connection that a slot is mapped for holds it or has its disconnect
request queued. -/
theorem attributed_of_orderly {δ : Type} {server : Server δ}
    (orderly : server.sessions.Orderly) : Attributed server := by
  intro slot sensorId mapped
  obtain ⟨conn, cause, next, accepted⟩ := orderly.owned slot sensorId mapped
  refine ⟨conn, cause, accepted, ?_⟩
  rcases (orderly.ordered slot).holder_or_closing next with held | ⟨item, member, isSlot, isConn,
    closes⟩
  · exact .inl held
  · refine .inr ⟨item, member, ?_, isConn⟩
    have isItem : item.request.clientId = slot := isSlot
    have isClosing : item.request.isOnDisconnected = true := closes
    cases request : item.request with
    | onDisconnected clientId =>
        rw [request] at isItem
        rw [← isItem]
        rfl
    | measurement clientId value timestamp => simp [request, SensorRequest.isOnDisconnected] at isClosing
    | onConnected clientId ip port token => simp [request, SensorRequest.isOnDisconnected] at isClosing

/-- A call of REVOKE_SENSOR or DISCONNECT_SENSOR commits a status of its sensor,
if any. -/
theorem killCall_commits {commandType : AdministratorCommandTypes}
    {call : Int → DatabaseCall Database Sensor} {reason sensorId : Int}
    {result : Except SQLException Sensor} {before changed : Database}
    (kills : killCall (connection reports rogue) commandType = some (call, reason))
    (called : (call sensorId).runOn before = some (result, changed)) :
    ∃ commits, changed.committed = before.committed ++ commits ∧
      ∀ entry ∈ commits, entry.1 = sensorId := by
  cases commandType with
  | revokeSensor =>
      cases kills
      obtain ⟨commits, committed, each⟩ := revokeSensor_commits called
      exact ⟨commits, committed, fun entry member => by rw [each entry member]⟩
  | disconnectSensor =>
      cases kills
      obtain ⟨commits, committed, each⟩ := disconnectSensor_commits called
      exact ⟨commits, committed, fun entry member => by rw [each entry member]⟩
  | _ => cases kills

theorem closesCommitted_of_same {after : Server Database}
    (same : after.database.committed = server.database.committed) :
    ClosesCommitted server after :=
  ⟨[], by simpa using same, by simp⟩

/-- An init request that fails commits at most that its sensor is active. -/
theorem InitThrew.commits {ip token : ByteString} {port : Int} {map : IntMap}
    {error : SQLException} {before changed : Database}
    (unquoted : quoted ip = false ∧ quoted token = false)
    (threw : InitThrew (connection reports rogue) map ip port token before error changed) :
    ∃ commits, changed.committed = before.committed ++ commits ∧
      ∀ entry ∈ commits, entry.2 = .active := by
  have nothing : changed.committed = before.committed →
      ∃ commits, changed.committed = before.committed ++ commits ∧
        ∀ entry ∈ commits, entry.2 = .active :=
    fun same => ⟨[], by simpa using same, by simp⟩
  cases threw with
  | listing listed =>
      rw [connection_checkIfTokenIsWhitelisted unquoted.2] at listed
      apply nothing
      rw [checkIfTokenIsWhitelisted_error listed]
      rfl
  | finding listed found =>
      rw [connection_checkIfTokenIsWhitelisted unquoted.2] at listed
      rw [connection_getSensorId unquoted.2] at found
      obtain ⟨-, rfl, -⟩ := checkIfTokenIsWhitelisted_ok.mp listed
      apply nothing
      rw [getSensorId_error found]
      rfl
  | adding listed found _ added =>
      rw [connection_checkIfTokenIsWhitelisted unquoted.2] at listed
      rw [connection_getSensorId unquoted.2] at found
      rw [connection_addSensor unquoted.1 unquoted.2] at added
      obtain ⟨-, rfl, -⟩ := checkIfTokenIsWhitelisted_ok.mp listed
      obtain ⟨-, rfl, -⟩ := getSensorId_ok.mp found
      obtain ⟨commits, committed, each⟩ := addSensor_commits added
      exact ⟨commits, committed, each⟩

/-- The steps of runs in which the database may throw, as far as `Tolerates`
allows, and without quotes in the texts of the requests. -/
def Tolerably (database : IDatabaseConnection Database) (label : Label)
    (server : Server Database) (_ : Except SQLException Unit) : Prop :=
  Plain label server ∧ Tolerates database label server

/-- What is committed by a step that fails is of no live connection's sensor. -/
theorem Steps.closesCommitted {error : SQLException} {after : Server Database}
    (steps : Steps (connection reports rogue) label server (.error error) after)
    (admitted : Tolerably (connection reports rogue) label server (.error error))
    (handles : HandlesSensor label server) : ClosesCommitted server after := by
  obtain ⟨plain, tolerates⟩ := admitted
  obtain ⟨actions, outcome, sessions_eq⟩ := steps.outcome
  generalize isError : Except.error error = result at outcome
  generalize isChanged : after.database = changed at outcome
  cases outcome with
  | measured queued mapped called =>
      subst isError
      obtain ⟨_, -, -, spent⟩ := executeUpdate_error.mp called
      apply closesCommitted_of_same
      rw [isChanged, spent]
      rfl
  | initThrew queued threw =>
      obtain ⟨commits, committed, each⟩ := threw.commits (plain _ _ queued)
      refine ⟨commits, by rw [isChanged, committed], ?_⟩
      intro sensorId status member isClosed
      have active : status = .active := each _ member
      rcases isClosed with rfl | rfl <;> cases active
  | disconnectThrew queued mapped called =>
      exact absurd ⟨_, _, called⟩ (tolerates _ _ _ _ _ queued mapped)
  | @killThrew _ _ stamped queue call reason _ changed queued kills called =>
      obtain ⟨commits, committed, each⟩ := killCall_commits kills called
      refine ⟨commits, by rw [isChanged, committed], ?_⟩
      intro sensorId status member _ conn live
      obtain rfl : sensorId = stamped.request.sensorId := each _ member
      have isHalf : CommitsAndThrows (call stamped.request.sensorId) server.database := by
        refine ⟨_, changed, called, ?_⟩
        rw [committed]
        intro same
        rw [List.append_right_eq_self] at same
        rw [same] at member
        cases member
      apply tolerates stamped queue call reason queued kills isHalf conn
      obtain ⟨⟨slot, held⟩, cause, accepted⟩ := live
      have holder : after.holder .sensor = server.holder .sensor :=
        congrArg Sessions.holder sessions_eq
      have log : after.log = server.log := congrArg Sessions.log sessions_eq
      exact ⟨⟨slot, by rw [← holder]; exact held⟩, cause, by rw [← log]; exact accepted⟩
  | administered queued spares =>
      obtain ⟨stamped, queue, isHead, kill⟩ := handles
      cases isHead.symm.trans queued
      rcases kill with isKill | isKill <;> simp [killCall, isKill] at spares
  | monitored => exact handles.elim
  | _ => cases isError

theorem Steps.orderly_traced_of_tolerates {result : Except SQLException Unit}
    {after : Server Database}
    (steps : Steps (connection reports rogue) label server result after)
    (tolerates : Tolerates (connection reports rogue) label server)
    (holds : server.sessions.Orderly ∧ server.sessions.Traced) :
    after.sessions.Orderly ∧ after.sessions.Traced := by
  obtain ⟨actions, outcome, sessions_eq⟩ := steps.outcome
  rw [sessions_eq]
  refine outcome.orderly_traced ?_ holds
  intro abandons
  obtain ⟨_, _, slot, conn, cause, queue, sensorId, error, rfl, queued, mapped, called, -⟩ :=
    outcome.abandon_throws abandons
  exact tolerates slot conn cause queue sensorId queued mapped ⟨error, _, called⟩

/-- In a run whose exceptions are all tolerable, every slot is attributed at all
times, so that measurements are authentic, and a handler that fails has closed
the connections of the sensors that it has committed as revoked or
disconnected. -/
theorem failures_keep_sessions {initial : Database} {server : Server Database}
    (runs : Runs (connection reports rogue) (Tolerably (connection reports rogue))
      (start initial) server) :
    Attributed server ∧
    (∀ index sensorId measure timestamp cause,
      server.log[index]? = some (.addMeasurement sensorId measure timestamp cause) →
      Authentic (server.log.take index) sensorId measure timestamp cause) ∧
    ∀ label error after,
      Tolerably (connection reports rogue) label server (.error error) →
      Steps (connection reports rogue) label server (.error error) after →
      HandlesSensor label server → Attributed after ∧ ClosesCommitted server after := by
  have invariant : server.sessions.Orderly ∧ server.sessions.Traced := by
    refine runs.keeps (fun server => server.sessions.Orderly ∧ server.sessions.Traced)
      ⟨orderly_start initial, traced_start initial⟩ ?_
    intro label result before after steps admitted holds
    exact steps.orderly_traced_of_tolerates admitted.2 holds
  refine ⟨attributed_of_orderly invariant.1, invariant.2.authentic, ?_⟩
  intro label error after admitted steps handles
  have kept := steps.orderly_traced_of_tolerates admitted.2 invariant
  exact ⟨attributed_of_orderly kept.1, steps.closesCommitted admitted handles⟩

/-- No disconnect request and no command of an administrator is handled. -/
def spared (label : Label) (server : Server Database) : Bool :=
  unquoted label server &&
    match label with
    | .executeSensor _ _ =>
        server.sensorRequestsQueue.head?.all fun stamped => !stamped.request.isOnDisconnected
    | .executeAdministrator _ _ => false
    | _ => true

theorem tolerably_of_spared {database : IDatabaseConnection Database}
    {result : Except SQLException Unit} (isSpared : spared label server = true) :
    Tolerably database label server result := by
  have plain : Plain label server := plain_of_unquoted (Bool.and_elim_left isSpared)
  have rest := Bool.and_elim_right isSpared
  refine ⟨plain, ?_⟩
  cases label with
  | executeSensor serverTime sent =>
      intro slot conn cause queue sensorId queued
      simp [queued, Sessions.closing, SensorRequest.isOnDisconnected] at rest
  | executeAdministrator rands sent => cases rest
  | _ => trivial

/-- The sample database, of which one statement fails after some others. -/
def failingSample (statements : Nat) : Database :=
  { Database.sample with faults := List.replicate statements none ++ [some 3113] }

/-- Sensor 1 is connected when an administrator revokes sensor 2. -/
def revokesOther : List Label :=
  [.accept .sensor 0 5 .zero, .sensorFrame 0 [105, 84] (fun _ => 0) 0, .executeSensor 0 0,
    .accept .administrator 0 6 .zero,
    .administratorFrame 0 { clientId := 0, commandType := .revokeSensor, sensorId := 2 }]

theorem failures_keep_sessions_revokesOther :
    ∃ server error after,
      Runs DatabaseConnection.sample (Tolerably DatabaseConnection.sample)
        (start (failingSample 5)) server ∧
      Steps DatabaseConnection.sample (.executeAdministrator [] 0) server (.error error) after ∧
      after.database.committed = [(1, .active), (2, .revoked)] ∧
      Attributed after ∧ ClosesCommitted server after := by
  let played := playIf DatabaseConnection.sample spared revokesOther
    (start (failingSample 5))
  let next := played.bind fun server =>
    (step DatabaseConnection.sample (.executeAdministrator [] 0)).runOn server
  have moved : next.map (fun result => (decide (result.1 = .error (.failed 3113)),
      result.2.database.committed)) = some (true, [(1, .active), (2, .revoked)]) := by
    decide +kernel
  have facts : played.map (fun server =>
      (server.administratorRequestsQueue.map (·.request), server.log)) =
      some ([{ clientId := 0, commandType := .revokeSensor, sensorId := 2 }],
        [.received 0 [105, 84], .accepted 0 1 0, .sent .sensor 0 (activeMessage 0)]) := by
    decide +kernel
  obtain ⟨⟨result, after⟩, isNext, isMoved⟩ := Option.map_eq_some_iff.mp moved
  obtain ⟨server, reached, steps⟩ := Option.bind_eq_some_iff.mp isNext
  rw [reached] at facts
  simp only [Option.map_some, Option.some.injEq, Prod.mk.injEq, decide_eq_true_eq,
    List.map_eq_singleton_iff] at facts isMoved
  obtain ⟨⟨stamped, queued, request⟩, log⟩ := facts
  obtain ⟨rfl, committed⟩ := isMoved
  have runs : Runs DatabaseConnection.sample (Tolerably DatabaseConnection.sample)
      (start (failingSample 5)) server :=
    .of_playIf .refl (fun _ _ _ isSpared => tolerably_of_spared isSpared) reached
  have admitted : Tolerably DatabaseConnection.sample (.executeAdministrator [] 0) server
      (.error (.failed 3113)) := by
    constructor
    · intro head queue isHead
      obtain ⟨rfl, -⟩ := List.cons_eq_cons.mp (queued.symm.trans isHead)
      rw [request]
      rfl
    · rintro head queue call reason isHead - - conn ⟨-, cause, accepted⟩
      obtain ⟨rfl, -⟩ := List.cons_eq_cons.mp (queued.symm.trans isHead)
      rw [request] at accepted
      simp [log] at accepted
  have handles : HandlesSensor (.executeAdministrator [] 0) server :=
    ⟨stamped, [], queued, .inl (by rw [request])⟩
  obtain ⟨attributed, closes⟩ :=
    (failures_keep_sessions runs).2.2 _ _ after admitted steps handles
  exact ⟨server, _, after, runs, steps, committed, attributed, closes⟩

/-- The connection of sensor 1 is lost. -/
def lostSensor : List Label :=
  [.accept .sensor 0 5 .zero, .sensorFrame 0 [105, 84] (fun _ => 0) 0, .executeSensor 0 0,
    .lost .sensor 0]

theorem failure_leaves_entry :
    ¬ ∀ initial server,
      Runs DatabaseConnection.sample (fun _ _ _ => True) (start initial) server →
      ∀ label error after,
        Steps DatabaseConnection.sample label server (.error error) after →
        HandlesSensor label server → Attributed after ∧ ClosesCommitted server after := by
  intro claimed
  let played := play DatabaseConnection.sample lostSensor (start (failingSample 4))
  let next := played.bind fun server =>
    (step DatabaseConnection.sample (.executeSensor 0 0)).runOn server
  have moved : next.map (fun result => (decide (result.1 = .error (.failed 3113)),
      result.2.clientToSensorId 0, result.2.holder .sensor 0,
      result.2.sensorRequestsQueue)) = some (true, some 1, none, []) := by decide +kernel
  obtain ⟨⟨result, after⟩, isNext, isMoved⟩ := Option.map_eq_some_iff.mp moved
  obtain ⟨server, reached, steps⟩ := Option.bind_eq_some_iff.mp isNext
  simp only [Prod.mk.injEq, decide_eq_true_eq] at isMoved
  obtain ⟨rfl, mapped, free, idle⟩ := isMoved
  have runs := (Runs.of_play reached).mono fun _ _ _ _ => trivial
  obtain ⟨attributed, -⟩ := claimed _ server runs _ _ after steps trivial
  obtain ⟨conn, cause, -, held | ⟨item, member, -⟩⟩ := attributed 0 1 mapped
  · cases free.symm.trans held
  · rw [idle] at member
    cases member

end SensorManager.Server
