import SensorManager.Server.Targets

/-!
# Whom an answer reaches

A request remembers the slot it came from, not the connection.  By the time it
is answered the slot may have been given to another connection.  The sender takes an
answer and sends it in one step; the condition is on who holds the slot before it.
-/

namespace SensorManager.Server

open Exec

variable {δ : Type} {database : IDatabaseConnection δ} {server : Server δ} {label : Label}

/-- The connection whose request the step answers. -/
def asker : Label → Server δ → Option (Channel × Nat)
  | .executeSensor _ _, server =>
      server.sensorRequestsQueue.head?.map fun stamped => (.sensor, stamped.conn)
  | .sendAdministrator _, server =>
      server.administratorResponsesQueue.head?.map fun stamped =>
        (.administrator, stamped.conn)
  | .sendMonitoring _, server =>
      server.monitoringResponsesQueue.head?.map fun stamped => (.monitoring, stamped.conn)
  | _, _ => none

/-- The messages and the ends of connections that the answer consists of reach
the connection that asked, or nobody. -/
def ReachesAsker (label : Label) (server after : Server δ) : Prop :=
  ∀ asking, asker label server = some asking →
    ∃ effects, after.log = server.log ++ effects ∧
      ∀ effect ∈ effects, ∀ reached, effect.reaches = some reached → reached = asking

/-- The slot is free, or held by the connection. -/
def FreeOrHeldBy (server : Server δ) (channel : Channel) (slot : Int) (conn : Nat) : Prop :=
  ∀ holder, server.holder channel slot = some holder → holder = conn

/-- An init request is answered unless the database throws. -/
def InitThrows (database : IDatabaseConnection δ) (server : Server δ) (ip : ByteString)
    (port : Int) (token : ByteString) : Prop :=
  ∃ error changed, InitThrew database server.sensorToClientId ip port token server.database
    error changed

/-- When the step answers a request, no other connection holds the slot of the
request by then. -/
def AskerHolds (database : IDatabaseConnection δ) : Label → Server δ → Prop
  | .executeSensor _ _, server => ∀ slot ip port token conn cause queue,
      server.sensorRequestsQueue = ⟨.onConnected slot ip port token, conn, cause⟩ :: queue →
      InitThrows database server ip port token ∨ server.FreeOrHeldBy .sensor slot conn
  | .sendAdministrator _, server => ∀ stamped queue,
      server.administratorResponsesQueue = stamped :: queue →
      server.FreeOrHeldBy .administrator stamped.request.clientId stamped.conn
  | .sendMonitoring _, server => ∀ stamped queue,
      server.monitoringResponsesQueue = stamped :: queue →
      server.FreeOrHeldBy .monitoring stamped.request.clientId stamped.conn
  | _, _ => True

/-- What is logged first reaches nobody, and what follows reaches exactly the
holder of the slot. -/
theorem reachesAsker_iff {channel : Channel} {slot : Int} {conn : Nat} {after : Server δ}
    {silent effects : List Effect} (asked : asker label server = some (channel, conn))
    (log : after.log = server.log ++ (silent ++ effects))
    (nobody : ∀ effect ∈ silent, effect.reaches = none)
    (holder : ∀ effect ∈ effects, ∀ reached, effect.reaches = some reached →
      reached.1 = channel ∧ server.holder channel slot = some reached.2)
    (each : ∀ holder, server.holder channel slot = some holder →
      ∃ effect ∈ effects, effect.reaches = some (channel, holder)) :
    ReachesAsker label server after ↔ server.FreeOrHeldBy channel slot conn := by
  constructor
  · intro reaches other held
    obtain ⟨logged, isLog, onlyAsker⟩ := reaches _ asked
    obtain rfl := List.append_cancel_left (log.symm.trans isLog)
    obtain ⟨effect, member, reached⟩ := each other held
    have same := onlyAsker effect (List.mem_append_right silent member) _ reached
    exact congrArg Prod.snd same
  · intro free asking isAsking
    obtain rfl := Option.some.inj (asked.symm.trans isAsking)
    refine ⟨_, log, ?_⟩
    intro effect member reached isReached
    rcases List.mem_append.mp member with early | late
    · cases (nobody effect early).symm.trans isReached
    · obtain ⟨sameChannel, held⟩ := holder effect late reached isReached
      exact Prod.ext sameChannel (free reached.2 held)

theorem reachesAsker_iff_of_send {channel : Channel} {slot : Int} {conn : Nat}
    {msg : ByteString} {after : Server δ} {silent : List Effect}
    (asked : asker label server = some (channel, conn))
    (log : after.log = server.log ++ (silent ++ server.sendEffects channel slot msg))
    (nobody : ∀ effect ∈ silent, effect.reaches = none) :
    ReachesAsker label server after ↔ server.FreeOrHeldBy channel slot conn := by
  apply reachesAsker_iff asked log nobody
  · intro effect member reached isReached
    unfold sendEffects at member
    cases held : server.holder channel slot with
    | none => simp [held] at member
    | some holder =>
        simp only [held, List.mem_singleton] at member
        subst member
        cases isReached
        exact ⟨rfl, rfl⟩
  · intro holder held
    exact ⟨.sent channel holder msg, by simp [sendEffects, held], rfl⟩

theorem reachesAsker_iff_of_kill {slot reason : Int} {conn : Nat} {after : Server δ}
    (asked : asker label server = some (.sensor, conn))
    (log : after.log = server.log ++ server.killEffects slot reason) :
    ReachesAsker label server after ↔ server.FreeOrHeldBy .sensor slot conn := by
  have nobody : ∀ effect ∈ ([] : List Effect), effect.reaches = none := by simp
  apply reachesAsker_iff asked (log.trans (by rw [List.nil_append])) nobody
  · rintro effect member ⟨channel, holder⟩ reached
    exact reaches_of_killEffects member reached
  · intro holder held
    exact ⟨.closed .sensor holder, by simp [killEffects_of_held held], rfl⟩

/-- A step that logs nothing that reaches anybody. -/
theorem reachesAsker_of_silent {after : Server δ} {silent : List Effect}
    (log : after.log = server.log ++ silent)
    (nobody : ∀ effect ∈ silent, effect.reaches = none) : ReachesAsker label server after := by
  intro asking _
  refine ⟨silent, log, ?_⟩
  intro effect member reached isReached
  cases (nobody effect member).symm.trans isReached

/-- A step that logs nothing. -/
theorem reachesAsker_of_log_eq {after : Server δ} (log : after.log = server.log) :
    ReachesAsker label server after :=
  reachesAsker_of_silent (log.trans (List.append_nil _).symm) (by simp)

section Init

variable {slot port : Int} {ip token : ByteString} {conn cause : Nat}
  {queue : List (Stamped SensorRequest)}

theorem askerHolds_init {serverTime sent : Int} (queued : server.sensorRequestsQueue =
      ⟨.onConnected slot ip port token, conn, cause⟩ :: queue) :
    AskerHolds database (.executeSensor serverTime sent) server ↔
      InitThrows database server ip port token ∨ server.FreeOrHeldBy .sensor slot conn := by
  constructor
  · intro holds
    exact holds _ _ _ _ _ _ _ queued
  · intro holds _ _ _ _ _ _ _ isHead
    cases queued.symm.trans isHead
    exact holds

theorem not_initThrows_of_unlisted {changed : δ}
    (listed : (database.checkIfTokenIsWhitelisted token).runOn server.database =
      some (.ok false, changed)) : ¬ InitThrows database server ip port token := by
  rintro ⟨error, after, threw⟩
  cases threw with
  | listing other => cases listed.symm.trans other
  | finding other => cases listed.symm.trans other
  | adding other => cases listed.symm.trans other

theorem not_initThrows_of_active {first changed : δ} {sensorId : Int}
    (listed : (database.checkIfTokenIsWhitelisted token).runOn server.database =
      some (.ok true, first))
    (found : (database.getSensorId token).runOn first = some (.ok sensorId, changed))
    (active : server.sensorToClientId.contains sensorId = true) :
    ¬ InitThrows database server ip port token := by
  rintro ⟨error, after, threw⟩
  cases threw with
  | listing other => cases listed.symm.trans other
  | finding other otherFound =>
      cases listed.symm.trans other
      cases found.symm.trans otherFound
  | adding other otherFound free =>
      cases listed.symm.trans other
      cases found.symm.trans otherFound
      cases active.symm.trans free

theorem not_initThrows_of_added {first second changed : δ} {sensorId : Int} {sensor : Sensor}
    (listed : (database.checkIfTokenIsWhitelisted token).runOn server.database =
      some (.ok true, first))
    (found : (database.getSensorId token).runOn first = some (.ok sensorId, second))
    (added : (database.addSensor ip port token).runOn second = some (.ok sensor, changed)) :
    ¬ InitThrows database server ip port token := by
  rintro ⟨error, after, threw⟩
  cases threw with
  | listing other => cases listed.symm.trans other
  | finding other otherFound =>
      cases listed.symm.trans other
      cases found.symm.trans otherFound
  | adding other otherFound _ otherAdded =>
      cases listed.symm.trans other
      cases found.symm.trans otherFound
      cases added.symm.trans otherAdded

/-- Requests other than init requests are not answered by the executor. -/
theorem askerHolds_of_noInit {serverTime sent : Int} {head : Stamped SensorRequest}
    (queued : server.sensorRequestsQueue = head :: queue)
    (other : head.request.isOnConnected = false) :
    AskerHolds database (.executeSensor serverTime sent) server := by
  intro _ _ _ _ _ _ _ isHead
  cases queued.symm.trans isHead
  cases other

end Init

theorem log_refused (server : Server δ) (slot reason : Int) :
    (server.sessions.perform (.discard :: server.killActions slot reason)).log =
      server.log ++ server.killEffects slot reason := by
  have discarded : (server.sessions.act .discard).holder = server.holder .sensor := rfl
  exact (perform_killActions discarded slot reason).1

/-- The sender of a channel answers the head of its queue. -/
theorem reachesAsker_iff_of_response {α : Type} {channel : Channel}
    {queued queue : List (Stamped α)} {head : Stamped α} {msg : ByteString}
    {after : Server δ} (slot : α → Int) (isQueue : queued = head :: queue)
    (asked : asker label server = some (channel, head.conn))
    (log : after.log = server.log ++ server.sendEffects channel (slot head.request) msg) :
    ReachesAsker label server after ↔
      ∀ stamped rest, queued = stamped :: rest →
        server.FreeOrHeldBy channel (slot stamped.request) stamped.conn := by
  rw [@reachesAsker_iff_of_send _ _ _ _ _ _ _ _ [] asked log (by simp)]
  constructor
  · intro isHeld stamped rest other
    cases isQueue.symm.trans other
    exact isHeld
  · intro each
    exact each head queue isQueue

/-- An answer reaches whoever asked exactly when nobody else holds the slot. -/
theorem Steps.reachesAsker_iff {result : Except SQLException Unit} {after : Server δ}
    (steps : Steps database label server result after) :
    ReachesAsker label server after ↔ AskerHolds database label server := by
  obtain ⟨actions, outcome, sessions_eq⟩ := steps.outcome
  have log : after.log = (server.sessions.perform actions).log :=
    congrArg Sessions.log sessions_eq
  have unasked : asker label server = none → ReachesAsker label server after := by
    intro none asking asked
    cases none.symm.trans asked
  generalize after.database = changed at outcome
  cases outcome with
  | measured queued =>
      exact iff_of_true (reachesAsker_of_silent log (by simp [Effect.reaches]))
        (askerHolds_of_noInit queued rfl)
  | unmapped queued opened =>
      exact iff_of_true (reachesAsker_of_log_eq log) (askerHolds_of_noInit queued opened)
  | incorrectToken queued listed =>
      rw [askerHolds_init queued, or_iff_right (not_initThrows_of_unlisted listed)]
      exact reachesAsker_iff_of_kill (by simp [asker, queued])
        (log.trans (server.log_refused _ _))
  | tokenActive queued listed found active =>
      rw [askerHolds_init queued, or_iff_right (not_initThrows_of_active listed found active)]
      exact reachesAsker_iff_of_kill (by simp [asker, queued])
        (log.trans (server.log_refused _ _))
  | @accepted serverTime sent slot ip port token conn cause queue first second changed sensorId
      sensor queued listed found free added =>
      have isLog : after.log = server.log ++ ([.accepted conn sensor.id cause] ++
          server.sendEffects .sensor slot (activeMessage serverTime)) := by
        rw [log, Sessions.perform, List.foldl_cons, ← Sessions.perform, log_sendActions,
          ← List.append_assoc]
        rfl
      rw [askerHolds_init queued, or_iff_right (not_initThrows_of_added listed found added)]
      exact reachesAsker_iff_of_send (by simp [asker, queued]) isLog (by simp [Effect.reaches])
  | initThrew queued threw =>
      exact iff_of_true (reachesAsker_of_log_eq log) ((askerHolds_init queued).mpr (.inl ⟨_, _, threw⟩))
  | disconnected queued =>
      exact iff_of_true (reachesAsker_of_log_eq log) (askerHolds_of_noInit queued rfl)
  | disconnectThrew queued =>
      exact iff_of_true (reachesAsker_of_log_eq log) (askerHolds_of_noInit queued rfl)
  | @sentAdministrator sent stamped queue queued =>
      have isLog := log.trans (server.log_sendActions server.sessions .administrator
        stamped.request.clientId
        (SerializerAdministratorMessage.serializeResponseMessage stamped.request))
      have asked : asker (.sendAdministrator sent) server = some (.administrator, stamped.conn) := by
        simp [asker, queued]
      exact reachesAsker_iff_of_response AdministratorResponse.clientId queued asked isLog
  | @sentMonitoring sent stamped queue queued =>
      have isLog := log.trans (server.log_sendActions server.sessions .monitoring
        stamped.request.clientId
        (SerializerMonitoringMessage.serializeResponseMessage stamped.request))
      have asked : asker (.sendMonitoring sent) server = some (.monitoring, stamped.conn) := by
        simp [asker, queued]
      exact reachesAsker_iff_of_response MonitoringResponse.clientId queued asked isLog
  | _ => exact iff_of_true (unasked rfl) trivial

/-- In every run, all answers reach the connections that asked or nobody if and
only if, whenever an answer is given, its slot is free or still held by the
connection that asked. -/
theorem answers_reach_askers_iff {initial : δ} {taken : List (Transition (Server δ) Label)}
    (trace : Trace (Taken database) (start initial) taken server) :
    (∀ transition ∈ taken,
      ReachesAsker transition.label transition.before transition.after) ↔
    ∀ transition ∈ taken, AskerHolds database transition.label transition.before :=
  trace.forall_iff trivial (fun _ _ _ _ _ => trivial) fun _ _ ⟨_, steps⟩ =>
    steps.reachesAsker_iff

/-- The holder of the slot that the next answer goes to is the one that asked. -/
def stillHeld : Label → Server δ → Bool
  | .executeSensor _ _, server => server.sensorRequestsQueue.head?.all fun stamped =>
      (server.holder .sensor stamped.request.clientId).all fun holder => holder = stamped.conn
  | .sendAdministrator _, server => server.administratorResponsesQueue.head?.all fun stamped =>
      (server.holder .administrator stamped.request.clientId).all fun holder =>
        holder = stamped.conn
  | .sendMonitoring _, server => server.monitoringResponsesQueue.head?.all fun stamped =>
      (server.holder .monitoring stamped.request.clientId).all fun holder =>
        holder = stamped.conn
  | _, _ => true

theorem askerHolds_of_stillHeld (held : stillHeld label server = true) :
    AskerHolds database label server := by
  cases label with
  | executeSensor serverTime sent =>
      intro slot ip port token conn cause queue queued
      right
      intro holder isHolder
      simpa [stillHeld, queued, SensorRequest.clientId, isHolder] using held
  | sendAdministrator sent =>
      intro stamped queue queued holder isHolder
      simpa [stillHeld, queued, isHolder] using held
  | sendMonitoring sent =>
      intro stamped queue queued holder isHolder
      simpa [stillHeld, queued, isHolder] using held
  | _ => trivial

/-- An administrator asks for a token, and `between` happens before it is
answered. -/
def tokenAsked (between : List Label) : List Label :=
  [.accept .administrator 0 5 .zero,
    .administratorFrame 0 { clientId := 0, commandType := .generateToken }] ++ between ++
    [.executeAdministrator [Vector.replicate 15 0] 0, .sendAdministrator 0]

theorem answers_reach_askers_iff_token :
    ∃ taken server, Trace (Taken DatabaseConnection.sample) (start Database.sample) taken server ∧
      server.log.length = 1 ∧
      ∀ transition ∈ taken,
        ReachesAsker transition.label transition.before transition.after := by
  let played := playIf DatabaseConnection.sample stillHeld
    (tokenAsked [.accept .administrator 1 6 .zero]) (start Database.sample)
  have answered : played.map (fun server => server.log.length) = some 1 := by decide +kernel
  obtain ⟨server, reached, isAnswered⟩ := Option.map_eq_some_iff.mp answered
  have runs : Runs DatabaseConnection.sample
      (fun label server _ => AskerHolds DatabaseConnection.sample label server)
      (start Database.sample) server :=
    .of_playIf .refl (fun _ _ _ held => askerHolds_of_stillHeld held) reached
  obtain ⟨taken, trace, each⟩ := runs.trace
  exact ⟨taken, server, trace, isAnswered,
    (answers_reach_askers_iff trace).mpr fun transition member =>
      (each transition member).choose_spec⟩

/-- The administrator who asked is gone, and another one has its slot. -/
def slotTaken : List Label :=
  tokenAsked [.lost .administrator 0, .accept .administrator 0 6 .zero]

theorem answer_reaches_other :
    ¬ ∀ taken server, Trace (Taken DatabaseConnection.sample) (start Database.sample) taken server →
      ∀ transition ∈ taken,
        ReachesAsker transition.label transition.before transition.after := by
  intro claimed
  let played := play DatabaseConnection.sample slotTaken.dropLast (start Database.sample)
  let next := played.bind fun server =>
    (step DatabaseConnection.sample (.sendAdministrator 0)).runOn server
  have finished : played.isSome = true := by decide +kernel
  obtain ⟨server, reached⟩ := Option.isSome_iff_exists.mp finished
  have facts : played.map (fun server => (asker (.sendAdministrator 0) server, server.log)) =
      some (some (.administrator, 0), [.closed .administrator 0]) := by decide +kernel
  have moved : next.map (fun result => (result.2.log.length, result.2.log[1]?.bind Effect.reaches)) =
      some (2, some (.administrator, 1)) := by decide +kernel
  rw [reached] at facts
  simp only [Option.map_some, Option.some.injEq, Prod.mk.injEq] at facts
  obtain ⟨asked, log⟩ := facts
  simp only [next, reached, Option.bind_some, Option.map_eq_some_iff, Prod.exists,
    Prod.mk.injEq] at moved
  obtain ⟨result, after, steps, -, sent⟩ := moved
  obtain ⟨taken, trace, -⟩ := (Runs.of_play reached).trace
  obtain ⟨effects, logAfter, only⟩ := claimed _ after (trace.next ⟨result, steps⟩)
    ⟨server, _, after⟩ (by simp) _ asked
  rw [logAfter, log] at sent
  obtain ⟨effect, isEffect, reaches⟩ := Option.bind_eq_some_iff.mp sent
  have member : effect ∈ effects := List.mem_of_getElem? isEffect
  cases only effect member _ reaches

end SensorManager.Server
