import SensorManager.Server.Authenticity

/-!
# Whom a command of an administrator hits

REVOKE_SENSOR and DISCONNECT_SENSOR look the slot of their sensor up with
`operator[]`.  For a sensor that is not mapped it inserts an entry, and the
kill goes to slot 0, whoever holds it.  The pass over the command is one step, so the
slot is looked up and the kill sent in the same state.
-/

namespace SensorManager

/-- The connection that a message is put in the buffer of, or that is ended. -/
def Effect.reaches : Effect → Option (Channel × Nat)
  | .sent channel conn _ => some (channel, conn)
  | .closed channel conn => some (channel, conn)
  | _ => none

namespace Server

variable {δ : Type} {database : IDatabaseConnection δ} {server : Server δ}

/-- The connection holds a slot and was accepted as the sensor. -/
def LiveAs (server : Server δ) (sensorId : Int) (conn : Nat) : Prop :=
  (∃ slot, server.holder .sensor slot = some conn) ∧
    ∃ cause, .accepted conn sensorId cause ∈ server.log

/-- A step reaches live connections of the sensor alone, and when there are
none it leaves all connections, slots and entries of other sensors as they
are. -/
structure HitsOnly (server : Server δ) (sensorId : Int) (after : Server δ) : Prop where
  only : ∃ effects, after.log = server.log ++ effects ∧
    ∀ effect ∈ effects, ∀ channel conn, effect.reaches = some (channel, conn) →
      channel = .sensor ∧ server.LiveAs sensorId conn
  quiet : (∀ conn, ¬ server.LiveAs sensorId conn) →
    after.log = server.log ∧ after.holder .sensor = server.holder .sensor ∧
      after.clientToSensorId = server.clientToSensorId ∧
      ∀ other, other ≠ sensorId →
        after.sensorToClientId other = server.sensorToClientId other

/-- The slot that a kill of the sensor goes to is free, or held by a connection
that was accepted as the sensor. -/
def Aimed (server : Server δ) (sensorId : Int) : Prop :=
  ∀ conn, server.holder .sensor (server.killTarget sensorId) = some conn →
    ∃ cause, .accepted conn sensorId cause ∈ server.log

theorem killEffects_of_free {slot reason : Int} (free : server.holder .sensor slot = none) :
    server.killEffects slot reason = [] := by
  rw [killEffects, free]

theorem killEffects_of_held {slot reason : Int} {conn : Nat}
    (held : server.holder .sensor slot = some conn) :
    server.killEffects slot reason =
      [.sent .sensor conn (killMessage reason), .closed .sensor conn] := by
  rw [killEffects, held]

/-- A kill reaches the holder of its slot alone. -/
theorem reaches_of_killEffects {slot reason : Int} {effect : Effect} {channel : Channel}
    {conn : Nat} (member : effect ∈ server.killEffects slot reason)
    (reaches : effect.reaches = some (channel, conn)) :
    channel = .sensor ∧ server.holder .sensor slot = some conn := by
  cases held : server.holder .sensor slot with
  | none => simp [killEffects_of_free held] at member
  | some holder =>
      rw [killEffects_of_held held] at member
      simp only [List.mem_cons, List.not_mem_nil, or_false] at member
      rcases member with rfl | rfl
      · cases reaches
        exact ⟨rfl, rfl⟩
      · cases reaches
        exact ⟨rfl, rfl⟩

/-- What REVOKE_SENSOR and DISCONNECT_SENSOR do to the sessions when the
database has changed the status. -/
theorem killed_sessions {sensorId reason : Int} {after : Server δ}
    (sessions_eq : after.sessions =
      server.sessions.perform (server.killMappedActions sensorId reason)) :
    after.log = server.log ++ server.killEffects (server.killTarget sensorId) reason ∧
      after.holder .sensor =
        Function.update (server.holder .sensor) (server.killTarget sensorId) none ∧
      after.clientToSensorId = server.clientToSensorId ∧
      after.sensorToClientId = server.sensorToClientId.erase sensorId := by
  have maps := server.maps_killMappedActions sensorId reason
  obtain ⟨log, holder⟩ := @perform_killActions _ server server.sessions rfl
    (server.killTarget sensorId) reason
  rw [killMappedActions, Sessions.perform_append] at sessions_eq maps
  exact ⟨(congrArg Sessions.log sessions_eq).trans log,
    (congrArg Sessions.holder sessions_eq).trans holder,
    (congrArg Sessions.clientToSensorId sessions_eq).trans maps.1,
    (congrArg Sessions.sensorToClientId sessions_eq).trans maps.2⟩

/-- Nothing happens to the sessions. -/
theorem hitsOnly_of_same {sensorId : Int} {after : Server δ}
    (sessions_eq : after.sessions = server.sessions) : HitsOnly server sensorId after := by
  have log : after.log = server.log := congrArg Sessions.log sessions_eq
  refine ⟨⟨[], by simpa using log, by simp⟩, fun _ => ⟨log, ?_, ?_, ?_⟩⟩
  · exact congrArg Sessions.holder sessions_eq
  · exact congrArg Sessions.clientToSensorId sessions_eq
  · intro other _
    exact congrFun (congrArg Sessions.sensorToClientId sessions_eq) other

theorem hitsOnly_iff_aimed {sensorId reason : Int} {after : Server δ}
    (sessions_eq : after.sessions =
      server.sessions.perform (server.killMappedActions sensorId reason)) :
    HitsOnly server sensorId after ↔ server.Aimed sensorId := by
  obtain ⟨log, holder, slots, sensors⟩ := killed_sessions sessions_eq
  constructor
  · intro hits conn held
    obtain ⟨effects, isLog, only⟩ := hits.only
    obtain rfl := List.append_cancel_left (log.symm.trans isLog)
    have reached := only (.closed .sensor conn)
      (by simp [killEffects_of_held held]) .sensor conn rfl
    exact reached.2.2
  · intro aimed
    refine ⟨⟨_, log, ?_⟩, ?_⟩
    · intro effect member channel conn reaches
      obtain ⟨isSensor, held⟩ := reaches_of_killEffects member reaches
      exact ⟨isSensor, ⟨_, held⟩, aimed conn held⟩
    · intro nobody
      have free : server.holder .sensor (server.killTarget sensorId) = none := by
        cases held : server.holder .sensor (server.killTarget sensorId) with
        | none => rfl
        | some conn => exact absurd ⟨⟨_, held⟩, aimed conn held⟩ (nobody conn)
      refine ⟨?_, ?_, slots, ?_⟩
      · rw [log, killEffects_of_free free, List.append_nil]
      · rw [holder, ← free, Function.update_eq_self]
      · intro other different
        rw [sensors, IntMap.erase_other _ different]

/-- A kill that the step makes hits only its sensor. -/
def KillHitsOnly (database : IDatabaseConnection δ) (label : Label)
    (server after : Server δ) : Prop :=
  ∀ rands sent stamped queue call reason, label = .executeAdministrator rands sent →
    server.administratorRequestsQueue = stamped :: queue →
    killCall database stamped.request.commandType = some (call, reason) →
    HitsOnly server stamped.request.sensorId after

/-- The database refuses to change the status of the sensor, or the kill is
aimed. -/
def KillAimed (database : IDatabaseConnection δ) (label : Label) (server : Server δ) : Prop :=
  ∀ rands sent stamped queue call reason, label = .executeAdministrator rands sent →
    server.administratorRequestsQueue = stamped :: queue →
    killCall database stamped.request.commandType = some (call, reason) →
    (∀ sensor changed, (call stamped.request.sensorId).runOn server.database ≠
      some (.ok sensor, changed)) ∨ server.Aimed stamped.request.sensorId

theorem Steps.killHitsOnly_iff {label : Label} {result : Except SQLException Unit}
    {after : Server δ} (steps : Steps database label server result after) :
    KillHitsOnly database label server after ↔ KillAimed database label server := by
  obtain ⟨actions, outcome, sessions_eq⟩ := steps.outcome
  refine forall₄_congr fun rands sent stamped queue => forall₂_congr fun call reason => ?_
  refine forall_congr' fun isLabel => forall₂_congr fun queued kills => ?_
  subst isLabel
  cases outcome with
  | killed isHead isKill called =>
      obtain ⟨rfl, rfl⟩ := List.cons_eq_cons.mp (queued.symm.trans isHead)
      cases kills.symm.trans isKill
      rw [hitsOnly_iff_aimed sessions_eq]
      constructor
      · exact .inr
      · rintro (refused | aimed)
        · exact absurd called (refused _ _)
        · exact aimed
  | killThrew isHead isKill called =>
      obtain ⟨rfl, rfl⟩ := List.cons_eq_cons.mp (queued.symm.trans isHead)
      cases kills.symm.trans isKill
      refine iff_of_true (hitsOnly_of_same sessions_eq) (.inl ?_)
      intro sensor changed returned
      cases returned.symm.trans called
  | administered isHead spares =>
      obtain ⟨rfl, rfl⟩ := List.cons_eq_cons.mp (queued.symm.trans isHead)
      cases kills.symm.trans spares

/-- In every run, all kills hit only their sensors if and only if, whenever
REVOKE_SENSOR or DISCONNECT_SENSOR of a sensor is executed, the database refuses
to change the status or slot `sensorToClientId[sensorId]`, which is slot 0 for a
sensor without an entry, is free or held by a connection of the sensor. -/
theorem kills_hitOnly_iff {initial : δ} {taken : List (Transition (Server δ) Label)}
    (trace : Trace (Taken database) (start initial) taken server) :
    (∀ transition ∈ taken,
      KillHitsOnly database transition.label transition.before transition.after) ↔
    ∀ transition ∈ taken, KillAimed database transition.label transition.before :=
  trace.forall_iff trivial (fun _ _ _ _ _ => trivial) fun _ _ ⟨_, steps⟩ =>
    steps.killHitsOnly_iff

/-- A command of an administrator for a sensor, while sensor 1 is connected. -/
def commanded (sensorId : Int) : List Label :=
  [.accept .sensor 0 5 .zero, .sensorFrame 0 [105, 84] (fun _ => 0) 0, .executeSensor 0 0,
    .accept .administrator 0 6 .zero,
    .administratorFrame 0
      { clientId := 0, commandType := .disconnectSensor, sensorId := sensorId }]

/-- The holder of the slot that the next command is for was accepted as its
sensor. -/
def aims : Label → Server δ → Bool
  | .executeAdministrator _ _, server =>
      server.administratorRequestsQueue.head?.all fun stamped =>
        (server.holder .sensor (server.killTarget stamped.request.sensorId)).all fun conn =>
          server.log.any fun
            | .accepted other sensorId _ =>
                other = conn && sensorId = stamped.request.sensorId
            | _ => false
  | _, _ => true

theorem killAimed_of_aims {label : Label} (aimed : aims label server = true) :
    KillAimed database label server := by
  rintro rands sent stamped queue call reason rfl queued -
  right
  intro conn held
  simp only [aims, queued, List.head?_cons, Option.all_some, held, List.any_eq_true] at aimed
  obtain ⟨effect, member, same⟩ := aimed
  cases effect with
  | accepted other sensorId cause =>
      simp only [Bool.and_eq_true, decide_eq_true_eq] at same
      obtain ⟨rfl, rfl⟩ := same
      exact ⟨cause, member⟩
  | _ => cases same

theorem kills_hitOnly_iff_connected :
    ∃ taken server, Trace (Taken DatabaseConnection.sample) (start Database.sample) taken server ∧
      .closed .sensor 0 ∈ server.log ∧
      ∀ transition ∈ taken, KillHitsOnly DatabaseConnection.sample transition.label
        transition.before transition.after := by
  let played := playIf DatabaseConnection.sample aims
    (commanded 1 ++ [.executeAdministrator [] 0]) (start Database.sample)
  have closed : played.map (fun server => server.log.contains (.closed .sensor 0)) =
      some true := by decide +kernel
  obtain ⟨server, reached, isClosed⟩ := Option.map_eq_some_iff.mp closed
  have runs : Runs DatabaseConnection.sample
      (fun label server _ => KillAimed DatabaseConnection.sample label server)
      (start Database.sample) server :=
    .of_playIf .refl (fun _ _ _ aimed => killAimed_of_aims aimed) reached
  obtain ⟨taken, trace, each⟩ := runs.trace
  exact ⟨taken, server, trace, List.contains_iff_mem.mp isClosed,
    (kills_hitOnly_iff trace).mpr fun transition member => (each transition member).choose_spec⟩

theorem kills_hit_slot_zero :
    ¬ ∀ taken server, Trace (Taken DatabaseConnection.sample) (start Database.sample) taken server →
      ∀ transition ∈ taken, KillHitsOnly DatabaseConnection.sample transition.label
        transition.before transition.after := by
  intro claimed
  let played := play DatabaseConnection.sample (commanded 2) (start Database.sample)
  let next := played.bind fun server =>
    (step DatabaseConnection.sample (.executeAdministrator [] 0)).runOn server
  have finished : played.isSome = true := by decide +kernel
  obtain ⟨server, reached⟩ := Option.isSome_iff_exists.mp finished
  have facts : played.map (fun server => (server.administratorRequestsQueue.map (·.request),
      server.log)) =
      some ([{ clientId := 0, commandType := .disconnectSensor, sensorId := 2 }],
        [.received 0 [105, 84], .accepted 0 1 0, .sent .sensor 0 (activeMessage 0)]) := by
    decide +kernel
  have moved : next.map (fun result => result.2.log) =
      some [.received 0 [105, 84], .accepted 0 1 0, .sent .sensor 0 (activeMessage 0),
        .sent .sensor 0 (killMessage killSensorDisconnected), .closed .sensor 0] := by
    decide +kernel
  rw [reached] at facts
  simp only [Option.map_some, Option.some.injEq, Prod.mk.injEq, List.map_eq_singleton_iff]
    at facts
  obtain ⟨⟨stamped, queued, request⟩, log⟩ := facts
  simp only [next, reached, Option.bind_some, Option.map_eq_some_iff, Prod.exists] at moved
  obtain ⟨result, after, steps, logAfter⟩ := moved
  obtain ⟨taken, trace, -⟩ := (Runs.of_play reached).trace
  have kills : killCall DatabaseConnection.sample stamped.request.commandType =
      some (DatabaseConnection.sample.disconnectSensor, killSensorDisconnected) := by
    rw [request]
    rfl
  have hits := claimed _ after (trace.next ⟨result, steps⟩) ⟨server, _, after⟩ (by simp) [] 0
    stamped [] _ _ rfl queued kills
  rw [request] at hits
  have nobody : ∀ conn, ¬ server.LiveAs 2 conn := by
    rintro conn ⟨-, cause, accepted⟩
    simp [log] at accepted
  have same := (hits.quiet nobody).1
  simp [log, logAfter] at same

end Server

end SensorManager
