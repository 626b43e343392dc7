import SensorManager.Server.Statuses
import SensorManager.Server.Targets

/-!
# What a revocation stops

The revocation of a sensor erases its entry of `sensorToClientId`, but the
measurements are stored by the other map.  `Silent` says that no measurement of
the sensor is queued and none can come any more.  It persists, and makes the
revocation effective.
-/

namespace SensorManager

namespace Sessions

/-- The connections that slots are mapped to the sensor for hold them no longer,
and have no measurement queued. -/
def Silent (sessions : Sessions) (sensorId : Int) : Prop :=
  ∀ slot conn, sessions.clientToSensorId slot = some sensorId →
    sessions.next slot = some conn →
    sessions.holder slot ≠ some conn ∧
      ∀ item ∈ sessions.queue, item.conn = conn → item.request.isMeasurement = false

/-- What an action needs in order to keep the sensor silent. -/
def KeepsSilent (sensorId : Int) (_ : Sessions) : Action → Prop
  | .accept _ accepted _ _ => accepted ≠ sensorId
  | .abandon => False
  | _ => True

variable {sessions : Sessions} {sensorId : Int}

/-- Nothing is added of what `Silent` excludes. -/
theorem Silent.shrink (silent : sessions.Silent sensorId) (other : Sessions)
    (mapped : ∀ slot, other.clientToSensorId slot = some sensorId →
      sessions.clientToSensorId slot = some sensorId)
    (next : ∀ slot conn, other.clientToSensorId slot = some sensorId →
      other.next slot = some conn → sessions.next slot = some conn)
    (holder : ∀ slot conn, sessions.next slot = some conn →
      other.holder slot = some conn → sessions.holder slot = some conn)
    (queue : ∀ item ∈ other.queue, item.request.isMeasurement = true →
      item ∈ sessions.queue) : other.Silent sensorId := by
  intro slot conn isMapped isNext
  have nextBefore := next slot conn isMapped isNext
  obtain ⟨gone, quiet⟩ := silent slot conn (mapped slot isMapped) nextBefore
  constructor
  · intro held
    exact gone (holder slot conn nextBefore held)
  · intro item member isConn
    cases measures : item.request.isMeasurement with
    | false => rfl
    | true => exact measures.symm.trans (quiet item (queue item member measures) isConn)

theorem Silent.bind (silent : sessions.Silent sensorId) (orderly : sessions.Orderly)
    {slot : Int} (free : sessions.holder slot = none) :
    (sessions.act (.bind slot)).Silent sensorId := by
  apply silent.shrink (sessions.act (.bind slot))
  · exact fun _ mapped => mapped
  · intro other conn mapped next
    obtain ⟨owner, _, isNext, -⟩ := orderly.owned other sensorId mapped
    by_cases same : other = slot
    · subst same
      simp only [Sessions.next, free] at isNext
      have stays := SlotQueue.front_of_none isNext (some sessions.connections)
      simp only [Sessions.next, Sessions.act, Function.update_self] at next ⊢
      rw [free, isNext, ← stays, next]
    · simpa [Sessions.next, Sessions.act, same] using next
  · intro other conn next held
    by_cases same : other = slot
    · subst same
      obtain rfl : sessions.connections = conn := by simpa [Sessions.act] using held
      have below := orderly.next_lt next
      omega
    · simpa [Sessions.act, same] using held
  · exact fun _ member _ => member

theorem Silent.release (silent : sessions.Silent sensorId) {slot : Int} {conn : Nat}
    (held : sessions.holder slot = some conn) :
    (sessions.act (.release slot conn)).Silent sensorId := by
  apply silent.shrink (sessions.act (.release slot conn))
  · exact fun _ mapped => mapped
  · intro other connection _ next
    rwa [next_release held] at next
  · intro other connection _ isHeld
    by_cases same : other = slot
    · simp [Sessions.act, same] at isHeld
    · simpa [Sessions.act, same] using isHeld
  · intro item member measures
    rcases List.mem_append.mp member with old | new
    · exact old
    · obtain rfl := List.mem_singleton.mp new
      cases measures

/-- A request comes from a connection that holds its slot, hence from none that
`Silent` is about. -/
theorem Silent.receive (silent : sessions.Silent sensorId) (orderly : sessions.Orderly)
    {conn : Nat} {msg : ByteString} {request : SensorRequest} {answers : List Effect}
    (held : sessions.holder request.clientId = some conn) :
    (sessions.act (.receive conn msg request answers)).Silent sensorId := by
  intro slot owner mapped next
  have nextBefore : sessions.next slot = some owner := by
    have same := @next_push sessions ⟨request, conn, sessions.log.length⟩ held slot
    exact same.symm.trans next
  obtain ⟨gone, quiet⟩ := silent slot owner mapped nextBefore
  refine ⟨gone, ?_⟩
  intro item member isOwner
  rcases List.mem_append.mp member with old | new
  · exact quiet item old isOwner
  · obtain rfl := List.mem_singleton.mp new
    obtain rfl : conn = owner := isOwner
    obtain ⟨home, -, holds, homes⟩ := orderly.next_home
    have sameSlot : slot = request.clientId :=
      (homes slot conn nextBefore).symm.trans (holds _ conn held)
    exact absurd held (sameSlot ▸ gone)

section Pop

variable {head : Stamped SensorRequest} {queue : List (Stamped SensorRequest)}

theorem Silent.pop (silent : sessions.Silent sensorId) (orderly : sessions.Orderly)
    (queued : sessions.queue = head :: queue)
    (opens : head.request.isOnDisconnected = false) :
    ({ sessions with queue := queue } : Sessions).Silent sensorId := by
  apply silent.shrink ({ sessions with queue := queue } : Sessions)
  · exact fun _ mapped => mapped
  · intro slot conn _ next
    rwa [orderly.next_pop queued opens] at next
  · exact fun _ _ _ held => held
  · intro item member _
    rw [queued]
    exact List.mem_cons_of_mem head member

/-- A disconnect request of a slot that is not mapped any more afterwards. -/
theorem Silent.popClosing (silent : sessions.Silent sensorId)
    (queued : sessions.queue = head :: queue) {map : IntMap}
    (unmapped : map head.request.clientId = none)
    (mapped : ∀ slot value, map slot = some value →
      sessions.clientToSensorId slot = some value) :
    ({ sessions with queue := queue, clientToSensorId := map } : Sessions).Silent sensorId := by
  apply silent.shrink ({ sessions with queue := queue, clientToSensorId := map } : Sessions)
  · exact fun slot isMapped => mapped slot sensorId isMapped
  · intro slot conn isMapped next
    have different : head.request.clientId ≠ slot := by
      rintro rfl
      cases unmapped.symm.trans isMapped
    have elsewhere : requestView.slot head ≠ slot := different
    rw [Sessions.next, queued, SlotQueue.front_cons_other elsewhere]
    exact next
  · exact fun _ _ _ held => held
  · intro item member _
    rw [queued]
    exact List.mem_cons_of_mem head member

end Pop

theorem Silent.act (silent : sessions.Silent sensorId) (orderly : sessions.Orderly)
    {action : Action} (permitted : sessions.Permits action)
    (guarded : sessions.KeepsSilent sensorId action) :
    (sessions.act action).Silent sensorId := by
  cases action with
  | note effect => exact silent
  | connect => exact silent
  | bind slot => exact silent.bind orderly permitted
  | release slot conn => exact silent.release permitted
  | receive conn msg request answers => exact silent.receive orderly permitted.1
  | discard =>
      obtain ⟨head, queue, queued, unmapped⟩ := permitted
      simp only [Sessions.act, queued, List.tail_cons]
      cases closes : head.request.isOnDisconnected with
      | false => exact silent.pop orderly queued closes
      | true => exact silent.popClosing queued (unmapped closes) fun _ _ mapped => mapped
  | measure measured value timestamp cause =>
      obtain ⟨slot, time, conn, queue, queued, -, -⟩ := permitted
      simp only [Sessions.act, queued, List.tail_cons]
      exact silent.pop orderly queued rfl
  | accept slot accepted conn cause =>
      obtain ⟨ip, port, token, queue, queued⟩ := permitted
      have popped := silent.pop orderly queued rfl
      simp only [Sessions.act, queued, List.tail_cons]
      have others : ∀ other, sessions.clientToSensorId.insert slot accepted other = some sensorId →
          sessions.clientToSensorId other = some sensorId := by
        intro other mapped
        rcases IntMap.of_insert mapped with ⟨-, rfl⟩ | ⟨-, before⟩
        · exact absurd rfl guarded
        · exact before
      intro other owner mapped next
      exact popped other owner (others other mapped) next
  | unmap slot unmapped =>
      obtain ⟨conn, cause, queue, queued, -⟩ := permitted
      simp only [Sessions.act, queued, List.tail_cons]
      exact silent.popClosing queued (IntMap.erase_same _ slot) fun _ _ mapped =>
        (IntMap.of_erase mapped).2
  | abandon => exact guarded.elim
  | eraseSensor erased => exact silent

/-- A silent sensor has no measurement stored. -/
theorem Silent.measure_ne (silent : sessions.Silent sensorId) {measured value timestamp : Int}
    {cause : Nat} (permitted : sessions.Permits (.measure measured value timestamp cause)) :
    measured ≠ sensorId := by
  rintro rfl
  obtain ⟨slot, time, conn, queue, queued, mapped, -⟩ := permitted
  have next := next_head queued
  obtain ⟨-, quiet⟩ := silent slot conn mapped next
  have head := quiet ⟨.measurement slot value time, conn, cause⟩ (by simp [queued]) rfl
  cases head

/-- What has come since an earlier state of the sessions: nothing that concerns
the sensor. -/
structure SilentSince (earlier : Sessions) (sensorId : Int) (sessions : Sessions) : Prop where
  orderly : sessions.Orderly
  silent : sessions.Silent sensorId
  unmeasured : ∃ effects, sessions.log = earlier.log ++ effects ∧
    ∀ value timestamp cause, .addMeasurement sensorId value timestamp cause ∉ effects
  entries : ∀ slot, sessions.clientToSensorId slot = some sensorId →
    earlier.clientToSensorId slot = some sensorId

theorem SilentSince.refl (orderly : sessions.Orderly) (silent : sessions.Silent sensorId) :
    SilentSince sessions sensorId sessions :=
  ⟨orderly, silent, ⟨[], by simp, by simp⟩, fun _ mapped => mapped⟩

/-- What an action logs. -/
theorem log_act (sessions : Sessions) (action : Action) :
    ∃ effects, (sessions.act action).log = sessions.log ++ effects ∧
      ∀ measured value timestamp cause, sessions.Permits action →
        .addMeasurement measured value timestamp cause ∈ effects →
        action = .measure measured value timestamp cause := by
  have nothing : ∀ effects : List Effect, (∀ effect ∈ effects, effect.plain = true) →
      ∀ measured value timestamp cause,
        Effect.addMeasurement measured value timestamp cause ∉ effects := by
    intro effects plain measured value timestamp cause member
    simpa [Effect.plain] using plain _ member
  cases action with
  | note effect =>
      refine ⟨[effect], rfl, ?_⟩
      intro measured value timestamp cause permitted member
      have plain : ∀ other ∈ [effect], other.plain = true := by
        simpa [Permits] using permitted
      exact absurd member (nothing _ plain measured value timestamp cause)
  | release slot conn => exact ⟨[.closed .sensor conn], rfl, by simp⟩
  | receive conn msg request answers =>
      refine ⟨.received conn msg :: answers, rfl, ?_⟩
      intro measured value timestamp cause permitted member
      rcases List.mem_cons.mp member with impossible | answer
      · cases impossible
      · exact absurd answer (nothing _ permitted.2.2 measured value timestamp cause)
  | measure sensor value timestamp cause =>
      refine ⟨[.addMeasurement sensor value timestamp cause], rfl, ?_⟩
      intro _ _ _ _ _ member
      cases List.mem_singleton.mp member
      rfl
  | accept slot sensor conn cause => exact ⟨[.accepted conn sensor cause], rfl, by simp⟩
  | _ => exact ⟨[], by simp [Sessions.act], by simp⟩

/-- The entries of a map that an action writes are of the sensor it accepts. -/
theorem entries_act {action : Action} (guarded : sessions.KeepsSilent sensorId action)
    {slot : Int} (mapped : (sessions.act action).clientToSensorId slot = some sensorId) :
    sessions.clientToSensorId slot = some sensorId := by
  cases action with
  | accept accepted sensor conn cause =>
      rcases IntMap.of_insert mapped with ⟨-, rfl⟩ | ⟨-, before⟩
      · exact absurd rfl guarded
      · exact before
  | unmap unmapped sensor => exact (IntMap.of_erase mapped).2
  | _ => exact mapped

theorem SilentSince.act {earlier : Sessions} (since : SilentSince earlier sensorId sessions)
    {action : Action} (permitted : sessions.Permits action)
    (guarded : sessions.KeepsSilent sensorId action) :
    SilentSince earlier sensorId (sessions.act action) := by
  obtain ⟨effects, log, unmeasured⟩ := since.unmeasured
  obtain ⟨added, logAdded, measures⟩ := sessions.log_act action
  refine ⟨since.orderly.act permitted ?_, since.silent.act since.orderly permitted guarded,
    ⟨effects ++ added, ?_, ?_⟩, ?_⟩
  · rintro rfl
    exact guarded
  · rw [logAdded, log, List.append_assoc]
  · intro value timestamp cause member
    rcases List.mem_append.mp member with old | new
    · exact unmeasured value timestamp cause old
    · obtain rfl := measures sensorId value timestamp cause permitted new
      exact since.silent.measure_ne permitted rfl
  · intro slot mapped
    exact since.entries slot (entries_act guarded mapped)

end Sessions

namespace Server

open DatabaseConnection

variable {reports : Reports} {rogue : IDatabaseConnection Database}
  {server : Server Database} {label : Label} {sensorId : Int}

/-- The steps of runs without database exceptions and without quotes in the
texts of the requests. -/
def Plainly (label : Label) (server : Server Database)
    (result : Except SQLException Unit) : Prop :=
  Undisturbed label server result ∧ Plain label server

/-- A revoked sensor of which nothing more can come. -/
structure Revoked (server : Server Database) (sensorId : Int) : Prop where
  orderly : server.sessions.Orderly
  silent : server.sessions.Silent sensorId
  unmapped : server.sensorToClientId sensorId = none
  status : server.database.sensors.status sensorId = some .revoked

/-- Nothing that the step does is for the sensor: it stores no measurement of it,
enters it in neither map, and answers no init request with its token by an 'a'
frame. -/
structure Ignores (sensorId : Int) (label : Label) (server after : Server Database) :
    Prop where
  unmeasured : ∃ effects, after.log = server.log ++ effects ∧
    ∀ value timestamp cause, .addMeasurement sensorId value timestamp cause ∉ effects
  entries : ∀ slot, after.clientToSensorId slot = some sensorId →
    server.clientToSensorId slot = some sensorId
  unmapped : after.sensorToClientId sensorId = none
  unanswered : ∀ serverTime sent slot ip port token conn cause queue,
    label = .executeSensor serverTime sent →
    server.sensorRequestsQueue = ⟨.onConnected slot ip port token, conn, cause⟩ :: queue →
    server.database.sensors.idOf token = some sensorId →
    ∃ effects, after.log = server.log ++ effects ∧
      ∀ reached time, .sent .sensor reached (activeMessage time) ∉ effects

theorem Steps.silentSince {result : Except SQLException Unit} {after : Server Database}
    (steps : Steps (connection reports rogue) label server result after)
    (admitted : Plainly label server result) (revoked : server.Revoked sensorId) :
    Sessions.SilentSince server.sessions sensorId after.sessions := by
  obtain ⟨rfl, plain⟩ := admitted
  obtain ⟨actions, outcome, sessions_eq⟩ := steps.outcome
  have permitted : server.sessions.Permitted (Sessions.KeepsSilent sensorId) actions := by
    apply outcome.permitted
    · intro sessions action calm
      cases action <;> simp_all [Action.calm, Sessions.KeepsSilent]
    · rintro slot accepted conn cause accepts rfl
      obtain ⟨_, _, _, _, _, _, -, -, -, was, -⟩ := outcome.accept_plain plain accepts
      exact was revoked.status
    · exact fun abandons => absurd abandons outcome.not_abandon
    · intro _ _ _
      trivial
  rw [sessions_eq]
  exact permitted.keeps (fun _ _ since permits guarded => since.act permits guarded)
    (.refl revoked.orderly revoked.silent)

theorem killMessage_ne_activeMessage (reason time : Int) :
    killMessage reason ≠ activeMessage time := by
  intro same
  have lengths := congrArg List.length same
  simp [killMessage, activeMessage, BytesParser.appendBytes, BytesParser.toBytes] at lengths

/-- A revoked sensor stays revoked, and every step ignores it. -/
theorem Steps.revoked {result : Except SQLException Unit} {after : Server Database}
    (steps : Steps (connection reports rogue) label server result after)
    (admitted : Plainly label server result) (revoked : server.Revoked sensorId) :
    after.Revoked sensorId ∧ Ignores sensorId label server after := by
  have since := steps.silentSince admitted revoked
  obtain ⟨rfl, plain⟩ := admitted
  have stays := (steps.tableChange plain).revoked revoked.status
  have unmapped := stays.2 revoked.unmapped
  refine ⟨⟨since.orderly, since.silent, unmapped, stays.1⟩, since.unmeasured, since.entries,
    unmapped, ?_⟩
  rintro serverTime sent slot ip port token conn cause queue rfl queued known
  rcases steps.init_cases plain queued known with ⟨-, refuses⟩ | ⟨spared, -⟩ | ⟨spared, -⟩
  · refine ⟨_, refuses.1, ?_⟩
    intro reached time member
    unfold killEffects at member
    cases held : server.holder .sensor slot with
    | none => simp [held] at member
    | some holder =>
        simp only [held, List.mem_cons, List.not_mem_nil, or_false, reduceCtorEq,
          Effect.sent.injEq] at member
        exact killMessage_ne_activeMessage _ time member.2.2.symm
  · exact absurd revoked.status spared
  · exact absurd revoked.status spared

/-- When the sensor is revoked, each connection that a slot is mapped to it for
has no measurement queued, and is killed or holds the slot no longer. -/
def Silenced (server : Server Database) (sensorId : Int) : Prop :=
  ∀ slot conn, server.clientToSensorId slot = some sensorId →
    server.sessions.next slot = some conn →
    (slot = server.killTarget sensorId ∨ server.holder .sensor slot ≠ some conn) ∧
      ∀ item ∈ server.sensorRequestsQueue, item.conn = conn →
        item.request.isMeasurement = false

theorem Silenced.killed (silenced : server.Silenced sensorId) (reason : Int) :
    (server.sessions.perform (server.killMappedActions sensorId reason)).Silent sensorId := by
  unfold killMappedActions killActions
  cases held : server.holder .sensor (server.killTarget sensorId) with
  | none =>
      intro slot conn mapped next
      obtain ⟨gone, quiet⟩ := silenced slot conn mapped next
      refine ⟨?_, quiet⟩
      rcases gone with rfl | gone
      · intro isHeld
        cases held.symm.trans isHeld
      · exact gone
  | some holder =>
      let noted := server.sessions.act (.note (.sent .sensor holder (killMessage reason)))
      have isHeld : noted.holder (server.killTarget sensorId) = some holder := held
      intro slot conn mapped next
      have nextBefore : server.sessions.next slot = some conn :=
        (Sessions.next_release isHeld slot).symm.trans next
      obtain ⟨gone, quiet⟩ := silenced slot conn mapped nextBefore
      constructor
      · intro stillHeld
        rcases gone with rfl | gone
        · simp [Sessions.perform, Sessions.act] at stillHeld
        · by_cases same : slot = server.killTarget sensorId
          · simp [Sessions.perform, Sessions.act, same] at stillHeld
          · have before : server.sessions.holder slot = some conn := by
              simpa [Sessions.perform, Sessions.act, same] using stillHeld
            exact gone before
      · intro item member isConn
        rcases List.mem_append.mp member with old | new
        · exact quiet item old isConn
        · obtain rfl := List.mem_singleton.mp new
          rfl

/-- REVOKE_SENSOR of an existing sensor. -/
structure Revokes (label : Label) (server : Server Database) (sensorId : Int) : Prop where
  isAdministrator : ∃ rands sent, label = .executeAdministrator rands sent
  request : ∃ stamped queue, server.administratorRequestsQueue = stamped :: queue ∧
    stamped.request.commandType = .revokeSensor ∧ stamped.request.sensorId = sensorId

theorem Steps.revoke {middle : Server Database} (orderly : middle.sessions.Orderly)
    (revokes : Revokes label server sensorId)
    (steps : Steps (connection reports rogue) label server (.ok ()) middle)
    (silenced : server.Silenced sensorId) : middle.Revoked sensorId := by
  obtain ⟨⟨rands, sent, rfl⟩, stamped, queue, queued, isRevoke, rfl⟩ := revokes
  obtain ⟨actions, outcome, sessions_eq⟩ := steps.outcome
  generalize isOk : Except.ok () = result at outcome
  generalize isChanged : middle.database = changed at outcome
  cases outcome with
  | killed isHead kills called =>
      obtain ⟨rfl, rfl⟩ := List.cons_eq_cons.mp (queued.symm.trans isHead)
      rw [isRevoke] at kills
      cases kills
      have maps := server.maps_killMappedActions stamped.request.sensorId killSensorRevoked
      constructor
      · exact orderly
      · rw [sessions_eq]
        exact silenced.killed killSensorRevoked
      · have same := congrArg Sessions.sensorToClientId sessions_eq
        rw [maps.2] at same
        exact (congrFun same _).trans (IntMap.erase_same _ _)
      · rw [isChanged]
        exact (revokeSensor_ok called).1
  | killThrew => cases isOk
  | administered isHead spares =>
      obtain ⟨rfl, rfl⟩ := List.cons_eq_cons.mp (queued.symm.trans isHead)
      rw [isRevoke] at spares
      cases spares

theorem Runs.revoked {after : Server Database}
    (runs : Runs (connection reports rogue) Plainly server after)
    (revoked : server.Revoked sensorId) : after.Revoked sensorId :=
  runs.keeps (Revoked · sensorId) revoked fun steps admitted before =>
    (steps.revoked admitted before).1

/-- Once a sensor is revoked and silenced, every later step of a run ignores
it. -/
theorem revocation_effective {initial : Database} {before middle server after : Server Database}
    {revoking label : Label} {result : Except SQLException Unit}
    (runs : Runs (connection reports rogue) Plainly (start initial) before)
    (revokes : Revokes revoking before sensorId)
    (revoked : Steps (connection reports rogue) revoking before (.ok ()) middle)
    (silenced : before.Silenced sensorId)
    (later : Runs (connection reports rogue) Plainly middle server)
    (steps : Steps (connection reports rogue) label server result after)
    (admitted : Plainly label server result) : Ignores sensorId label server after := by
  have traced := (runs.mono fun _ _ _ admitted => admitted.1).orderly_traced
  have orderly := (revoked.orderly_traced traced).1
  have isRevoked := later.revoked (revoked.revoke orderly revokes silenced)
  exact (steps.revoked admitted isRevoked).2

/-- Sensor 1 connects, something happens, and an administrator revokes it. -/
def revokedAfter (between : List Label) : List Label :=
  [.accept .sensor 0 5 .zero, .sensorFrame 0 [105, 84] (fun _ => 0) 0, .executeSensor 0 0,
    .accept .administrator 0 6 .zero] ++ between ++
    [.administratorFrame 0 { clientId := 0, commandType := .revokeSensor, sensorId := 1 }]

theorem plainly_of_playIf {database : IDatabaseConnection Database} {labels : List Label}
    {before after : Server Database}
    (played : playIf database unquoted labels before = some after) :
    Runs database Plainly before after :=
  .of_playIf .refl (fun _ _ _ checked => ⟨rfl, plain_of_unquoted checked⟩) played

/-- The killed connection's request is handled, and the token of sensor 1 comes
from a new connection. -/
def comesBack : List Label :=
  [.executeSensor 0 0, .accept .sensor 0 7 .zero, .sensorFrame 0 [105, 84] (fun _ => 0) 0]

theorem revocation_effective_comesBack :
    ∃ before middle server after,
      Runs DatabaseConnection.sample Plainly (start Database.sample) before ∧
      Steps DatabaseConnection.sample (.executeAdministrator [] 0) before (.ok ()) middle ∧
      Runs DatabaseConnection.sample Plainly middle server ∧
      Steps DatabaseConnection.sample (.executeSensor 0 0) server (.ok ()) after ∧
      Ignores 1 (.executeSensor 0 0) server after := by
  let played := playIf DatabaseConnection.sample unquoted (revokedAfter [])
    (start Database.sample)
  let revoking := played.bind fun before =>
    (step DatabaseConnection.sample (.executeAdministrator [] 0)).runOn before
  let continued := revoking.bind fun result =>
    playIf DatabaseConnection.sample unquoted comesBack result.2
  let refusing := continued.bind fun server =>
    (step DatabaseConnection.sample (.executeSensor 0 0)).runOn server
  have finished : refusing.map (fun result => decide (result.1 = .ok ())) = some true := by
    decide +kernel
  have checked : continued.map (unquoted (.executeSensor 0 0)) = some true := by
    decide +kernel
  have isRevoked : revoking.map (fun result => decide (result.1 = .ok ())) = some true := by
    decide +kernel
  have requests : played.map (fun before => (before.sensorRequestsQueue,
      before.administratorRequestsQueue.map (·.request))) =
      some ([], [{ clientId := 0, commandType := .revokeSensor, sensorId := 1 }]) := by
    decide +kernel
  have slots : played.map (fun before => (before.holder .sensor 0, before.killTarget 1,
      before.log)) =
      some (some 0, 0, [.received 0 [105, 84], .accepted 0 1 0,
        .sent .sensor 0 (activeMessage 0)]) := by decide +kernel
  obtain ⟨⟨result, after⟩, isRefusing, isOk⟩ := Option.map_eq_some_iff.mp finished
  obtain ⟨server, isContinued, refused⟩ := Option.bind_eq_some_iff.mp isRefusing
  obtain ⟨⟨revocation, middle⟩, isRevoking, later⟩ := Option.bind_eq_some_iff.mp isContinued
  obtain ⟨before, reached, steps⟩ := Option.bind_eq_some_iff.mp isRevoking
  rw [reached] at requests slots
  rw [isRevoking] at isRevoked
  simp only [Option.map_some, Option.some.injEq, Prod.mk.injEq, decide_eq_true_eq,
    List.map_eq_singleton_iff] at requests slots isRevoked isOk
  obtain ⟨noRequest, stamped, queued, request⟩ := requests
  obtain ⟨held, target, log⟩ := slots
  subst isRevoked isOk
  have runs := plainly_of_playIf reached
  have orderly := (runs.mono fun _ _ _ admitted => admitted.1).orderly_traced.1
  have nextZero : before.sessions.next 0 = some 0 := by
    rw [Sessions.next, show before.sessions.queue = [] from noRequest, SlotQueue.front_nil]
    exact held
  have revokes : Revokes (.executeAdministrator [] 0) before 1 :=
    ⟨⟨[], 0, rfl⟩, stamped, [], queued, by rw [request], by rw [request]⟩
  have silenced : before.Silenced 1 := by
    intro slot conn mapped next
    obtain ⟨owner, cause, isNext, accepted⟩ := orderly.owned slot 1 mapped
    obtain rfl := Option.some.inj (isNext.symm.trans next)
    have member : .accepted owner 1 cause ∈ before.log := mem_of_lastAccepted accepted
    obtain ⟨rfl, -⟩ : owner = 0 ∧ cause = 0 := by simpa [log] using member
    rw [target]
    refine ⟨.inl (orderly.slot_eq_of_next next nextZero), ?_⟩
    simp [noRequest]
  have admitted : Plainly (.executeSensor 0 0) server (.ok ()) := by
    rw [isContinued] at checked
    exact ⟨rfl, plain_of_unquoted (Option.some.inj checked)⟩
  exact ⟨before, middle, server, after, runs, steps, plainly_of_playIf later, refused,
    revocation_effective runs revokes steps silenced (plainly_of_playIf later) refused admitted⟩

/-- A measurement is queued when its sensor is revoked. -/
def queuedMeasurement : List Label :=
  revokedAfter [.sensorFrame 0 [109, 208, 7, 0, 0, 0, 0, 0, 0, 21, 0, 0, 0] (fun _ => 0) 0]

theorem revocation_ineffective :
    ¬ ∀ before middle server after revoking label sensorId,
      Runs DatabaseConnection.sample Undisturbed (start Database.sample) before →
      Revokes revoking before sensorId →
      Steps DatabaseConnection.sample revoking before (.ok ()) middle →
      Runs DatabaseConnection.sample Undisturbed middle server →
      Steps DatabaseConnection.sample label server (.ok ()) after →
      Ignores sensorId label server after := by
  intro claimed
  let played := play DatabaseConnection.sample queuedMeasurement (start Database.sample)
  let revoking := played.bind fun before =>
    (step DatabaseConnection.sample (.executeAdministrator [] 0)).runOn before
  let measuring := revoking.bind fun result =>
    (step DatabaseConnection.sample (.executeSensor 0 0)).runOn result.2
  have finished : measuring.map (fun result => (decide (result.1 = .ok ()), result.2.log[7]?)) =
      some (true, some (.addMeasurement 1 21 2 3)) := by decide +kernel
  have isRevoked : revoking.map (fun result => (decide (result.1 = .ok ()),
      result.2.log.length)) = some (true, 7) := by decide +kernel
  have requests : played.map (fun before =>
      before.administratorRequestsQueue.map (·.request)) =
      some [{ clientId := 0, commandType := .revokeSensor, sensorId := 1 }] := by
    decide +kernel
  obtain ⟨⟨result, after⟩, isMeasuring, facts⟩ := Option.map_eq_some_iff.mp finished
  obtain ⟨⟨revocation, middle⟩, isRevoking, measured⟩ := Option.bind_eq_some_iff.mp isMeasuring
  obtain ⟨before, reached, steps⟩ := Option.bind_eq_some_iff.mp isRevoking
  rw [reached] at requests
  rw [isRevoking] at isRevoked
  simp only [Option.map_some, Option.some.injEq, Prod.mk.injEq, decide_eq_true_eq,
    List.map_eq_singleton_iff] at requests isRevoked facts
  obtain ⟨stamped, queued, request⟩ := requests
  obtain ⟨rfl, length⟩ := isRevoked
  obtain ⟨rfl, stored⟩ := facts
  have revokes : Revokes (.executeAdministrator [] 0) before 1 :=
    ⟨⟨[], 0, rfl⟩, stamped, [], queued, by rw [request], by rw [request]⟩
  obtain ⟨effects, log, unmeasured⟩ := (claimed before middle middle after _ _ 1
    (Runs.of_play reached) revokes steps .refl measured).unmeasured
  rw [log, List.getElem?_append_right (by omega)] at stored
  exact unmeasured _ _ _ (List.mem_of_getElem? stored)

end Server

end SensorManager
