import SensorManager.Server.Statuses

/-!
# What becomes of an init request

Every request to connect should be accepted or rejected.  The handler asks for
the status of the row of the token, and where no row has the token it reads a
column that is not there.  The executor swallows the exception and the client
hears nothing.
-/

namespace SensorManager

open Exec DatabaseConnection

/-- What an init request deserves. -/
inductive Verdict where
  | accept (sensorId : Int)
  | reject (reason : Int)
  deriving DecidableEq, Repr

/-- The digits and dots that `inet_ntoa` prints. -/
def Dotted (ip : ByteString) : Prop :=
  ip ≠ [] ∧ ∀ byte ∈ ip, byte = 46 ∨ 48 ≤ byte ∧ byte ≤ 57

theorem Dotted.unquoted {ip : ByteString} (dotted : Dotted ip) : quoted ip = false := by
  rw [quoted, List.contains_eq_any_beq, List.any_eq_false]
  intro byte member isQuote
  obtain rfl := eq_of_beq isQuote
  rcases dotted.2 39 member with isDot | isDigit
  · exact absurd isDot (by decide)
  · exact absurd isDigit (by decide)

/-- None of the next statements fails. -/
def Database.Steady (statements : Nat) (database : Database) : Prop :=
  ∀ fault ∈ database.faults.take statements, fault = none

theorem Database.Steady.next {statements : Nat} {database : Database}
    (steady : database.Steady (statements + 1)) :
    database.fault = none ∧ database.spent.Steady statements := by
  unfold Steady at steady ⊢
  unfold fault spent
  cases faults : database.faults with
  | nil => simp
  | cons first rest =>
      rw [faults, List.take_succ_cons] at steady
      refine ⟨?_, fun fault member => steady fault (.tail _ member)⟩
      rw [steady first (.head _)]
      rfl

namespace DatabaseConnection

variable {database : Database} {token : ByteString} {row : SensorRow}

/-- `addSensor` finds the row that it has just updated. -/
theorem addSensor_returns (steady : database.Steady 2) {ip : ByteString} (nonempty : ip ≠ [])
    (port : Int) (found : database.sensors.byToken token = some row)
    (spared : row.notRevoked = true) :
    ∃ sensor after, (addSensor ip port token).runOn database = some (.ok sensor, after) := by
  obtain ⟨fine, steady⟩ := steady.next
  obtain ⟨member, isToken⟩ := SensorTable.byToken_eq_some.mp found
  let change (columns : SensorColumns) : SensorColumns :=
    { columns with ip := ip, port := port, status := .active }
  let select (row : SensorRow) : Bool :=
    ip ≠ [] && row.columns.ip = ip && row.columns.port = port && row.hasToken token
  have hasToken : row.hasToken token = true := SensorRow.hasToken_iff.mpr isToken
  have updated : { row with columns := change row.columns } ∈
      (database.sensors.update (fun row => row.hasToken token && row.notRevoked) change).rows := by
    refine List.mem_map.mpr ⟨row, member, ?_⟩
    simp [hasToken, spared]
  have selected : select { row with columns := change row.columns } = true := by
    simp [select, change, nonempty, SensorRow.hasToken, isToken]
  obtain ⟨first, isFirst⟩ :=
    Option.isSome_iff_exists.mp (List.find?_isSome.mpr ⟨_, updated, selected⟩)
  let changed := setStatus (fun row => row.hasToken token && row.notRevoked)
    (fun columns => { columns with ip := ip, port := port }) .active database.spent
  have queried : (executeQuery select).runOn changed = some (.ok first, changed.spent) :=
    executeQuery_ok.mpr ⟨steady.next.1, isFirst, rfl⟩
  refine ⟨first.toSensor, changed.spent, ?_⟩
  rw [addSensor, runOn_bind, executeUpdate_ok.mpr ⟨fine, rfl⟩]
  exact runOn_bind_eq_some.mpr (.inl ⟨first, _, queried, rfl⟩)

end DatabaseConnection

namespace Server

variable {δ : Type} {reports : Reports}

/-- A handler goes on with what the database has returned. -/
theorem runOn_callDatabase_bind {α β : Type} {call : DatabaseCall δ α} {value : α} {changed : δ}
    (server : Server δ) (ran : call.runOn server.database = some (.ok value, changed))
    (next : α → Handler δ β) :
    (callDatabase call >>= next).runOn server = (next value).runOn (server.withDatabase changed) := by
  rw [runOn_bind, callDatabase_eq_some.mpr ⟨changed, ran, rfl⟩]
  rfl

/-- A handler ends with what the database has thrown. -/
theorem runOn_callDatabase_throws {α β : Type} {call : DatabaseCall δ α} {error : SQLException}
    {changed : δ} (server : Server δ)
    (ran : call.runOn server.database = some (.error error, changed)) (next : α → Handler δ β) :
    (callDatabase call >>= next).runOn server = some (.error error, server.withDatabase changed) := by
  rw [runOn_bind, callDatabase_eq_some.mpr ⟨changed, ran, rfl⟩]
  rfl

/-- Whatever the list of outcomes has is an outcome of the handler. -/
theorem runOn_executeSensorOnConnectedRequest {database : IDatabaseConnection δ}
    {server after : Server δ} {clientId port serverTime sent : Int} {ip token : ByteString}
    {conn cause : Nat} {result : Except SQLException Unit}
    (onConnected : OnConnected database server clientId ip port token conn cause serverTime sent
      result after) :
    (executeSensorOnConnectedRequest database clientId ip port token conn cause serverTime
      sent).runOn server = some (result, after) := by
  unfold executeSensorOnConnectedRequest
  cases onConnected with
  | incorrectToken listed =>
      rw [runOn_callDatabase_bind server listed]
      rfl
  | @tokenActive middle _ _ listed found active =>
      rw [runOn_callDatabase_bind server listed, if_neg (by simp),
        runOn_callDatabase_bind (server.withDatabase middle) found, runOn_get_bind,
        if_pos (by simpa [withDatabase] using active)]
      rfl
  | @accepted first second _ _ _ listed found free added =>
      rw [runOn_callDatabase_bind server listed, if_neg (by simp),
        runOn_callDatabase_bind (server.withDatabase first) found, runOn_get_bind,
        if_neg (by simpa [withDatabase] using free),
        runOn_callDatabase_bind ((server.withDatabase first).withDatabase second) added]
      rfl
  | threw threw =>
      cases threw with
      | listing listed => exact runOn_callDatabase_throws server listed _
      | @finding middle _ _ listed found =>
          rw [runOn_callDatabase_bind server listed, if_neg (by simp)]
          exact runOn_callDatabase_throws (server.withDatabase middle) found _
      | @adding first second _ _ _ listed found free added =>
          rw [runOn_callDatabase_bind server listed, if_neg (by simp),
            runOn_callDatabase_bind (server.withDatabase first) found, runOn_get_bind,
            if_neg (by simpa [withDatabase] using free)]
          exact runOn_callDatabase_throws (server.withDatabase second) added _

variable {server : Server Database} {slot port : Int} {ip token : ByteString}
  {conn cause : Nat} {queue : List (Stamped SensorRequest)}

/-- What the request of a token deserves: acceptance if the token belongs to a
row that is not revoked and whose sensor has no client. -/
def verdict (server : Server Database) (token : ByteString) : Verdict :=
  match server.database.sensors.byToken token with
  | none => .reject killSensorIncorrectToken
  | some row =>
      if row.notRevoked = false then .reject killSensorIncorrectToken
      else if server.sensorToClientId.contains row.id then .reject killSensorTokenActive
      else .accept row.id

/-- The client of a connection is told the verdict, and the maps, the slot and
the status of the sensor are left accordingly. -/
def CarriesOut (server : Server Database) (slot : Int) (conn cause : Nat) (serverTime : Int)
    (after : Server Database) : Verdict → Prop
  | .accept sensorId =>
      after.log = server.log ++
        [.accepted conn sensorId cause, .sent .sensor conn (activeMessage serverTime)] ∧
      after.holder .sensor = server.holder .sensor ∧
      after.clientToSensorId = server.clientToSensorId.insert slot sensorId ∧
      after.sensorToClientId = server.sensorToClientId.insert sensorId slot ∧
      after.database.sensors.status sensorId = some .active
  | .reject reason =>
      after.log = server.log ++
        [.sent .sensor conn (killMessage reason), .closed .sensor conn] ∧
      after.holder .sensor = Function.update (server.holder .sensor) slot none ∧
      after.clientToSensorId = server.clientToSensorId ∧
      after.sensorToClientId = server.sensorToClientId

/-- The executor comes to the end of the request and has carried out its
verdict. -/
def InitDecided (database : IDatabaseConnection Database) (server : Server Database)
    (slot : Int) (token : ByteString) (conn cause : Nat) (serverTime sent : Int) : Prop :=
  ∃ result after, Steps database (.executeSensor serverTime sent) server result after ∧
    CarriesOut server slot conn cause serverTime after (server.verdict token)

/-- What the handler comes to, the step comes to. -/
theorem steps_of_onConnected {database : IDatabaseConnection δ} {server after : Server δ}
    {serverTime sent : Int} {result : Except SQLException Unit}
    (queued : server.sensorRequestsQueue = ⟨.onConnected slot ip port token, conn, cause⟩ :: queue)
    (onConnected : OnConnected database { server with sensorRequestsQueue := queue } slot ip port
      token conn cause serverTime sent result after) :
    Steps database (.executeSensor serverTime sent) server result after :=
  executeSensorRequests_eq_some.mpr
    ⟨_, queue, queued, runOn_executeSensorOnConnectedRequest onConnected⟩

/-- With a row for the token, the handler returns. -/
theorem steps_of_row {row : SensorRow} {rogue : IDatabaseConnection Database}
    (queued : server.sensorRequestsQueue = ⟨.onConnected slot ip port token, conn, cause⟩ :: queue)
    (dotted : Dotted ip) (steady : server.database.Steady 4)
    (unquoted : quoted token = false)
    (found : server.database.sensors.byToken token = some row) (serverTime sent : Int) :
    ∃ after, Steps (connection reports rogue) (.executeSensor serverTime sent) server (.ok ())
      after := by
  obtain ⟨fine, steady⟩ := steady.next
  have listed : ∀ isListed, isListed = row.notRevoked →
      ((connection reports rogue).checkIfTokenIsWhitelisted token).runOn server.database =
        some (.ok isListed, server.database.spent) := by
    intro isListed same
    rw [connection_checkIfTokenIsWhitelisted unquoted]
    exact checkIfTokenIsWhitelisted_ok.mpr ⟨fine, rfl, row, found, same⟩
  cases spared : row.notRevoked with
  | false => exact ⟨_, steps_of_onConnected queued (.incorrectToken (listed false spared.symm))⟩
  | true =>
      obtain ⟨fine, steady⟩ := steady.next
      have isFound : ((connection reports rogue).getSensorId token).runOn
          server.database.spent = some (.ok row.id, server.database.spent.spent) := by
        rw [connection_getSensorId unquoted]
        refine getSensorId_ok.mpr ⟨fine, rfl, ?_⟩
        change (server.database.sensors.byToken token).map (·.id) = _
        rw [found]
        rfl
      cases active : server.sensorToClientId.contains row.id with
      | true =>
          exact ⟨_, steps_of_onConnected queued
            (.tokenActive (listed true spared.symm) isFound active)⟩
      | false =>
          obtain ⟨sensor, changed, added⟩ := addSensor_returns steady dotted.1 port found spared
          rw [← connection_addSensor dotted.unquoted unquoted] at added
          exact ⟨_, steps_of_onConnected queued
            (.accepted (listed true spared.symm) isFound active added)⟩

/-- With a row for the token, the verdict is carried out. -/
theorem initDecided_of_row {row : SensorRow} {rogue : IDatabaseConnection Database}
    (queued : server.sensorRequestsQueue = ⟨.onConnected slot ip port token, conn, cause⟩ :: queue)
    (live : server.holder .sensor slot = some conn) (dotted : Dotted ip)
    (steady : server.database.Steady 4) (unquoted : quoted token = false)
    (found : server.database.sensors.byToken token = some row) (serverTime sent : Int) :
    InitDecided (connection reports rogue) server slot token conn cause serverTime sent := by
  obtain ⟨after, steps⟩ := @steps_of_row reports server slot port ip token conn cause queue row
    rogue queued dotted steady unquoted found serverTime sent
  refine ⟨_, after, steps, ?_⟩
  have plain : Plain (.executeSensor serverTime sent) server := by
    intro stamped rest isHead
    cases queued.symm.trans isHead
    exact ⟨dotted.unquoted, unquoted⟩
  have known : server.database.sensors.idOf token = some row.id := by
    rw [SensorTable.idOf, found]
    rfl
  have status := SensorTable.status_of_byToken found known
  have rejects : ∀ reason, Refuses server slot reason after →
      CarriesOut server slot conn cause serverTime after (.reject reason) := by
    intro reason refuses
    unfold Refuses killEffects at refuses
    rw [live] at refuses
    exact refuses
  have revoked_iff : server.database.sensors.status row.id = some .revoked ↔
      row.notRevoked = false := by
    simp [status, SensorRow.notRevoked]
  unfold verdict
  rw [found]
  dsimp only
  rcases steps.init_cases plain queued known with
    ⟨revoked, refuses⟩ | ⟨spared, mapped, refuses⟩ | ⟨spared, free, accepts⟩
  · rw [if_pos (revoked_iff.mp revoked)]
    exact rejects _ refuses
  · rw [if_neg (mt revoked_iff.mpr spared)]
    rw [if_pos (by simpa [IntMap.contains, Option.isSome_iff_ne_none] using mapped)]
    exact rejects _ refuses
  · rw [if_neg (mt revoked_iff.mpr spared), if_neg (by simp [IntMap.contains, free])]
    have log := accepts.log
    unfold sendEffects at log
    rw [live] at log
    exact ⟨log, accepts.holder, accepts.clientToSensorId, accepts.sensorToClientId,
      accepts.status⟩

/-- A handler that throws has told the client nothing. -/
theorem not_initDecided_of_listing {database : IDatabaseConnection Database} {changed : Database}
    {error : SQLException}
    (queued : server.sensorRequestsQueue = ⟨.onConnected slot ip port token, conn, cause⟩ :: queue)
    (listed : (database.checkIfTokenIsWhitelisted token).runOn server.database =
      some (.error error, changed)) (serverTime sent : Int) :
    ¬ InitDecided database server slot token conn cause serverTime sent := by
  rintro ⟨result, after, steps, carried⟩
  have threw : Steps database (.executeSensor serverTime sent) server (.error error)
      ({ server with sensorRequestsQueue := queue }.withDatabase changed) :=
    steps_of_onConnected queued (.threw (.listing listed))
  cases steps.symm.trans threw
  have silent : ∀ effects, server.log = server.log ++ effects → effects = [] := by
    intro effects same
    exact List.append_right_eq_self.mp same.symm
  unfold CarriesOut at carried
  split at carried
  · cases silent _ carried.1
  · cases silent _ carried.1

/-- A token that belongs to no row. -/
theorem not_initDecided_of_unknown {rogue : IDatabaseConnection Database}
    (queued : server.sensorRequestsQueue = ⟨.onConnected slot ip port token, conn, cause⟩ :: queue)
    (fine : server.database.fault = none) (unquoted : quoted token = false)
    (absent : server.database.sensors.byToken token = none) (serverTime sent : Int) :
    ¬ InitDecided (connection reports rogue) server slot token conn cause serverTime sent := by
  have listed : ((connection reports rogue).checkIfTokenIsWhitelisted token).runOn
      server.database = some (.error .noCurrentRow, server.database.spent) := by
    rw [connection_checkIfTokenIsWhitelisted unquoted]
    refine runOn_bind_eq_some.mpr (.inr ⟨_, ?_, rfl⟩)
    exact executeQuery_error.mpr ⟨rfl, .inr ⟨fine, absent, rfl⟩⟩
  exact not_initDecided_of_listing queued listed serverTime sent

/-- Statements that fail when a quote has changed them. -/
def failing (reports : Reports) : IDatabaseConnection Database :=
  { plain reports with checkIfTokenIsWhitelisted := fun _ => throw (.failed 1756) }

/-- Whatever statements with a quote in them do: a request from a live
connection is decided if and only if its token has no quote and belongs to a
sensor. -/
theorem initDecided_iff
    (queued : server.sensorRequestsQueue = ⟨.onConnected slot ip port token, conn, cause⟩ :: queue)
    (live : server.holder .sensor slot = some conn) (dotted : Dotted ip)
    (steady : server.database.Steady 4) (serverTime sent : Int) :
    (∀ rogue, InitDecided (connection reports rogue) server slot token conn cause serverTime
      sent) ↔
      quoted token = false ∧ (server.database.sensors.byToken token).isSome = true := by
  constructor
  · intro decided
    have unquoted : quoted token = false := by
      by_contra isQuoted
      have listed : ((connection reports (failing reports)).checkIfTokenIsWhitelisted
          token).runOn server.database = some (.error (.failed 1756), server.database) := by
        simp [connection, failing, isQuoted]
      exact not_initDecided_of_listing queued listed serverTime sent (decided _)
    refine ⟨unquoted, ?_⟩
    cases found : server.database.sensors.byToken token with
    | some row => rfl
    | none =>
        exact absurd (decided (plain reports))
          (not_initDecided_of_unknown queued steady.next.1 unquoted found serverTime sent)
  · rintro ⟨unquoted, present⟩ rogue
    obtain ⟨row, found⟩ := Option.isSome_iff_exists.mp present
    exact initDecided_of_row queued live dotted steady unquoted found serverTime sent

/-- A sensor connects to the sample server and sends a token. -/
def oneInit (token : ByteString) : List Label :=
  [.accept .sensor 0 5 .zero, .sensorFrame 0 (105 :: token) (fun _ => 0) 0]

/-- What the executor finds when it comes to a token. -/
structure InitFacts where
  requests : List (Stamped SensorRequest)
  holder : Option Nat
  faults : List (Option Int)
  known : Option Int
  verdict : Verdict
  deriving DecidableEq

def initFacts (token : ByteString) : Option InitFacts :=
  (play DatabaseConnection.sample (oneInit token) (start Database.sample)).map fun server =>
    { requests := server.sensorRequestsQueue
      holder := server.holder .sensor 0
      faults := server.database.faults
      known := server.database.sensors.idOf token
      verdict := server.verdict token }

/-- A token that no row has: the client is not answered. -/
theorem initDecided_fails :
    ∃ server, Runs DatabaseConnection.sample Undisturbed (start Database.sample) server ∧
      server.sensorRequestsQueue = [⟨.onConnected 0 SockAddr.zero.ip 0 [88], 0, 0⟩] ∧
      server.holder .sensor 0 = some 0 ∧ server.verdict [88] = .reject killSensorIncorrectToken ∧
      ¬ InitDecided DatabaseConnection.sample server 0 [88] 0 0 0 0 := by
  have facts : initFacts [88] = some ⟨[⟨.onConnected 0 SockAddr.zero.ip 0 [88], 0, 0⟩], some 0,
      [], none, .reject killSensorIncorrectToken⟩ := by decide +kernel
  obtain ⟨server, reached, known⟩ := Option.map_eq_some_iff.mp facts
  simp only [InitFacts.mk.injEq] at known
  obtain ⟨queued, live, faults, absent, verdict⟩ := known
  refine ⟨server, Runs.of_play reached, queued, live, verdict, ?_⟩
  have fine : server.database.fault = none := by
    rw [Database.fault, faults]
    rfl
  exact not_initDecided_of_unknown queued fine (by decide) (Option.map_eq_none_iff.mp absent) 0 0

/-- The token of sensor 1. -/
theorem initDecided_iff_known :
    ∃ server, Runs DatabaseConnection.sample Undisturbed (start Database.sample) server ∧
      server.sensorRequestsQueue = [⟨.onConnected 0 SockAddr.zero.ip 0 [84], 0, 0⟩] ∧
      server.verdict [84] = .accept 1 ∧
      InitDecided DatabaseConnection.sample server 0 [84] 0 0 0 0 := by
  have facts : initFacts [84] = some ⟨[⟨.onConnected 0 SockAddr.zero.ip 0 [84], 0, 0⟩], some 0,
      [], some 1, .accept 1⟩ := by decide +kernel
  obtain ⟨server, reached, known⟩ := Option.map_eq_some_iff.mp facts
  simp only [InitFacts.mk.injEq] at known
  obtain ⟨queued, live, faults, isKnown, verdict⟩ := known
  refine ⟨server, Runs.of_play reached, queued, verdict, ?_⟩
  have dotted : Dotted SockAddr.zero.ip := ⟨by decide, by decide +kernel⟩
  have steady : server.database.Steady 4 := by
    rw [Database.Steady, faults]
    simp
  obtain ⟨row, found, -⟩ := Option.map_eq_some_iff.mp isKnown
  exact (@initDecided_iff .silent _ _ _ _ _ _ _ _ queued live dotted steady 0 0).mpr
    ⟨by decide, Option.isSome_iff_exists.mpr ⟨row, found⟩⟩ (plain .silent)

end Server

end SensorManager
