import SensorManager.Server.Authenticity
import SensorManager.Server.Statuses

/-!
# One live session for each sensor

An init frame is refused while `sensorToClientId` has an entry for its sensor.
The entry goes away with an administrator's command at once, but the entry of
`clientToSensorId` stays until the disconnect request of the slot is handled.
A sensor that is accepted in between is mapped twice.  `Exclusive` is the
invariant of the runs in which this does not happen.
-/

namespace SensorManager

namespace Sessions

/-- No sensor is mapped from two slots, and every live connection that was
accepted as a sensor is the one the sensor is mapped to. -/
structure Exclusive (sessions : Sessions) : Prop where
  single : ∀ slot other sensorId, sessions.clientToSensorId slot = some sensorId →
    sessions.clientToSensorId other = some sensorId → slot = other
  agrees : ∀ slot other sensorId, sessions.sensorToClientId sensorId = some slot →
    sessions.clientToSensorId other = some sensorId → slot = other
  held : ∀ slot conn sensorId cause, sessions.holder slot = some conn →
    .accepted conn sensorId cause ∈ sessions.log →
    sessions.sensorToClientId sensorId = some slot

/-- What an action needs in order to keep the sessions exclusive. -/
def KeepsExclusive (sessions : Sessions) : Action → Prop
  | .accept slot sensorId _ _ =>
      sessions.sensorToClientId sensorId = none ∧
        ∀ other, sessions.clientToSensorId other = some sensorId → other = slot
  | .eraseSensor sensorId =>
      ∀ slot conn cause, sessions.holder slot = some conn →
        .accepted conn sensorId cause ∉ sessions.log
  | .abandon => False
  | _ => True

variable {sessions : Sessions}

theorem Orderly.slot_eq_of_holder (orderly : sessions.Orderly) {slot other : Int}
    {conn : Nat} (held : sessions.holder slot = some conn)
    (next : sessions.next other = some conn) : slot = other := by
  obtain ⟨home, -, holds, homes⟩ := orderly.next_home
  rw [← holds slot conn held, homes other conn next]

/-- An entry that plain effects left in the log was there before. -/
theorem accepted_of_plains {log effects : List Effect} {conn : Nat} {sensorId : Int}
    {cause : Nat} (plain : ∀ effect ∈ effects, effect.plain = true)
    (member : .accepted conn sensorId cause ∈ log ++ effects) :
    .accepted conn sensorId cause ∈ log := by
  rcases List.mem_append.mp member with old | new
  · exact old
  · simpa [Effect.plain] using plain _ new

/-- Slots are given up, and effects other than acceptances logged. -/
theorem Exclusive.shrink (exclusive : sessions.Exclusive) (other : Sessions)
    (slots : other.clientToSensorId = sessions.clientToSensorId)
    (sensors : other.sensorToClientId = sessions.sensorToClientId)
    (holder : ∀ slot conn, other.holder slot = some conn →
      sessions.holder slot = some conn)
    (log : ∀ conn sensorId cause, .accepted conn sensorId cause ∈ other.log →
      .accepted conn sensorId cause ∈ sessions.log) : other.Exclusive := by
  constructor
  · rw [slots]
    exact exclusive.single
  · rw [slots, sensors]
    exact exclusive.agrees
  · intro slot conn sensorId cause held accepted
    rw [sensors]
    exact exclusive.held slot conn sensorId cause (holder slot conn held)
      (log conn sensorId cause accepted)

theorem Exclusive.bind (exclusive : sessions.Exclusive) (orderly : sessions.Orderly)
    (slot : Int) : (sessions.act (.bind slot)).Exclusive := by
  constructor
  · exact exclusive.single
  · exact exclusive.agrees
  · intro other conn sensorId cause held accepted
    by_cases same : other = slot
    · subst same
      obtain rfl : sessions.connections = conn := by simpa [Sessions.act] using held
      have below := orderly.accepted_lt _ sensorId cause accepted
      omega
    · apply exclusive.held other conn sensorId cause _ accepted
      simpa [Sessions.act, same] using held

theorem Exclusive.accept (exclusive : sessions.Exclusive) (orderly : sessions.Orderly)
    {slot sensorId : Int} {conn cause : Nat}
    (permitted : sessions.Permits (.accept slot sensorId conn cause))
    (guarded : sessions.KeepsExclusive (.accept slot sensorId conn cause)) :
    (sessions.act (.accept slot sensorId conn cause)).Exclusive := by
  obtain ⟨free, alone⟩ := guarded
  obtain ⟨ip, port, token, queue, queued⟩ := permitted
  have next : sessions.next slot = some conn := next_head queued
  constructor
  · intro first second sensor isFirst isSecond
    rcases IntMap.of_insert isFirst with ⟨rfl, rfl⟩ | ⟨firstOther, firstBefore⟩
    · rcases IntMap.of_insert isSecond with ⟨rfl, -⟩ | ⟨-, secondBefore⟩
      · rfl
      · exact (alone second secondBefore).symm
    · rcases IntMap.of_insert isSecond with ⟨rfl, rfl⟩ | ⟨-, secondBefore⟩
      · exact alone first firstBefore
      · exact exclusive.single first second sensor firstBefore secondBefore
  · intro first second sensor isFirst isSecond
    rcases IntMap.of_insert isFirst with ⟨rfl, rfl⟩ | ⟨sensorOther, firstBefore⟩
    · rcases IntMap.of_insert isSecond with ⟨rfl, -⟩ | ⟨-, secondBefore⟩
      · rfl
      · exact (alone second secondBefore).symm
    · rcases IntMap.of_insert isSecond with ⟨-, rfl⟩ | ⟨-, secondBefore⟩
      · exact absurd rfl sensorOther
      · exact exclusive.agrees first second sensor firstBefore secondBefore
  · intro other connection sensor otherCause held accepted
    simp only [Sessions.act, List.mem_append, List.mem_singleton] at accepted
    rcases accepted with old | new
    · have mapped := exclusive.held other connection sensor otherCause held old
      have different : sensor ≠ sensorId := by
        rintro rfl
        simp [free] at mapped
      exact (IntMap.insert_other _ different slot).trans mapped
    · cases new
      obtain rfl := orderly.slot_eq_of_holder held next
      exact IntMap.insert_same _ sensorId other

theorem Exclusive.unmap (exclusive : sessions.Exclusive) (orderly : sessions.Orderly)
    {slot sensorId : Int} (permitted : sessions.Permits (.unmap slot sensorId)) :
    (sessions.act (.unmap slot sensorId)).Exclusive := by
  obtain ⟨closed, closedCause, queue, queued, mapped⟩ := permitted
  constructor
  · intro first second sensor isFirst isSecond
    exact exclusive.single first second sensor (IntMap.of_erase isFirst).2
      (IntMap.of_erase isSecond).2
  · intro first second sensor isFirst isSecond
    exact exclusive.agrees first second sensor (IntMap.of_erase isFirst).2
      (IntMap.of_erase isSecond).2
  · intro other conn sensor cause held accepted
    have isMapped := exclusive.held other conn sensor cause held accepted
    have different : sensor ≠ sensorId := by
      rintro rfl
      obtain rfl := exclusive.agrees other slot sensor isMapped mapped
      have absent := orderly.not_live_of_closing queued rfl held
      have logged : Effect.accepted conn sensor cause ∈ sessions.log := accepted
      obtain ⟨value, found⟩ := lastAccepted_isSome logged
      rw [absent] at found
      cases found
    exact (IntMap.erase_other _ different).trans isMapped

theorem Exclusive.eraseSensor (exclusive : sessions.Exclusive) {sensorId : Int}
    (guarded : sessions.KeepsExclusive (.eraseSensor sensorId)) :
    (sessions.act (.eraseSensor sensorId)).Exclusive := by
  constructor
  · exact exclusive.single
  · intro first second sensor isFirst isSecond
    exact exclusive.agrees first second sensor (IntMap.of_erase isFirst).2 isSecond
  · intro slot conn sensor cause held accepted
    have different : sensor ≠ sensorId := by
      rintro rfl
      exact guarded slot conn cause held accepted
    exact (IntMap.erase_other _ different).trans
      (exclusive.held slot conn sensor cause held accepted)

theorem Exclusive.act (exclusive : sessions.Exclusive) (orderly : sessions.Orderly)
    {action : Action} (permitted : sessions.Permits action)
    (guarded : sessions.KeepsExclusive action) : (sessions.act action).Exclusive := by
  cases action with
  | note effect =>
      apply exclusive.shrink (sessions.act (.note effect)) rfl rfl (fun _ _ held => held)
      intro conn sensorId cause member
      exact accepted_of_plains (by simpa [Permits] using permitted) member
  | connect => exact ⟨exclusive.single, exclusive.agrees, exclusive.held⟩
  | bind slot => exact exclusive.bind orderly slot
  | release slot conn =>
      apply exclusive.shrink (sessions.act (.release slot conn)) rfl rfl
      · intro other connection held
        by_cases same : other = slot
        · simp [Sessions.act, same] at held
        · simpa [Sessions.act, same] using held
      · intro connection sensorId cause member
        have plain : ∀ effect ∈ [Effect.closed .sensor conn], effect.plain = true := by
          simp [Effect.plain]
        exact accepted_of_plains plain member
  | receive conn msg request answers =>
      apply exclusive.shrink (sessions.act (.receive conn msg request answers)) rfl rfl
        (fun _ _ held => held)
      intro connection sensorId cause member
      refine accepted_of_plains ?_ member
      intro effect isEffect
      rcases List.mem_cons.mp isEffect with rfl | answer
      · rfl
      · exact permitted.2.2 effect answer
  | discard =>
      exact exclusive.shrink (sessions.act .discard) rfl rfl (fun _ _ held => held)
        (fun _ _ _ accepted => accepted)
  | measure sensorId value timestamp cause =>
      exact exclusive.shrink (sessions.act (.measure sensorId value timestamp cause)) rfl rfl
        (fun _ _ held => held) (by simp [Sessions.act])
  | accept slot sensorId conn cause => exact exclusive.accept orderly permitted guarded
  | unmap slot sensorId => exact exclusive.unmap orderly permitted
  | abandon => exact guarded.elim
  | eraseSensor sensorId => exact exclusive.eraseSensor guarded

end Sessions

namespace Server

open DatabaseConnection

variable {reports : Reports} {rogue : IDatabaseConnection Database}
  {server : Server Database} {label : Label}

/-- An init request is accepted for a sensor only when no other slot is mapped
to the sensor any more. -/
def Alone : Label → Server Database → Prop
  | .executeSensor _ _, server => ∀ slot ip port token conn cause queue sensorId,
      server.sensorRequestsQueue = ⟨.onConnected slot ip port token, conn, cause⟩ :: queue →
      server.database.sensors.idOf token = some sensorId →
      server.database.sensors.status sensorId ≠ some .revoked →
      server.sensorToClientId sensorId = none →
      ∀ other, server.clientToSensorId other = some sensorId → other = slot
  | _, _ => True

/-- The steps of the runs in which the sessions of the sensors are exclusive. -/
def Exclusively (label : Label) (server : Server Database)
    (result : Except SQLException Unit) : Prop :=
  Undisturbed label server result ∧ Plain label server ∧ Alone label server

/-- After the kill of the slot a sensor is mapped to, no connection accepted as
the sensor is left. -/
theorem no_accepted_of_killed (exclusive : server.sessions.Exclusive)
    (sensorId reason : Int) :
    (server.sessions.perform
      (server.killActions (server.killTarget sensorId) reason)).KeepsExclusive
      (.eraseSensor sensorId) := by
  obtain ⟨log, holder⟩ := @perform_killActions _ server server.sessions rfl
    (server.killTarget sensorId) reason
  intro slot conn cause held accepted
  rw [log] at accepted
  rw [holder] at held
  by_cases same : slot = server.killTarget sensorId
  · simp [same] at held
  · rw [Function.update_of_ne same] at held
    have mapped := exclusive.held slot conn sensorId cause held
      (Sessions.accepted_of_plains plain_of_killEffects accepted)
    apply same
    exact (congrArg (·.getD 0) mapped).symm

theorem Steps.exclusive {result : Except SQLException Unit} {after : Server Database}
    (steps : Steps (connection reports rogue) label server result after)
    (admitted : Exclusively label server result)
    (holds : server.sessions.Orderly ∧ server.sessions.Exclusive) :
    after.sessions.Orderly ∧ after.sessions.Exclusive := by
  obtain ⟨rfl, plain, alone⟩ := admitted
  obtain ⟨actions, outcome, sessions_eq⟩ := steps.outcome
  have permitted : server.sessions.Permitted Sessions.KeepsExclusive actions := by
    apply outcome.permitted
    · intro sessions action calm
      cases action <;> simp_all [Action.calm, Sessions.KeepsExclusive]
    · intro slot sensorId conn cause accepts
      obtain ⟨_, _, ip, port, token, queue, rfl, queued, known, was, free⟩ :=
        outcome.accept_plain plain accepts
      exact ⟨free, alone _ _ _ _ _ _ _ _ queued known was free⟩
    · exact fun abandons => absurd abandons outcome.not_abandon
    · intro sensorId reason _
      exact no_accepted_of_killed holds.2 sensorId reason
  have keeps : ∀ sessions action, Sessions.Orderly sessions ∧ sessions.Exclusive →
      sessions.Permits action → sessions.KeepsExclusive action →
      (sessions.act action).Orderly ∧ (sessions.act action).Exclusive := by
    rintro sessions action ⟨orderly, exclusive⟩ permits guarded
    refine ⟨orderly.act permits ?_, exclusive.act orderly permits guarded⟩
    rintro rfl
    exact guarded
  rw [sessions_eq]
  exact permitted.keeps keeps holds

theorem exclusive_start (initial : Database) : (start initial).sessions.Exclusive := by
  constructor <;> simp [sessions, start, IntMap.empty]

/-- No two live connections are mapped to one sensor. -/
def SingleSession (server : Server Database) : Prop :=
  ∀ slot other sensorId conn otherConn,
    server.holder .sensor slot = some conn → server.holder .sensor other = some otherConn →
    server.clientToSensorId slot = some sensorId →
    server.clientToSensorId other = some sensorId → slot = other

/-- In a run in which sensors are accepted only when no other slot is mapped to
them, no two live connections are mapped to one sensor, and while a connection
is accepted as a sensor every further init request for the sensor is
refused. -/
theorem sessions_exclusive {initial : Database} {server : Server Database}
    (runs : Runs (connection reports rogue) Exclusively (start initial) server) :
    SingleSession server ∧
    ∀ live liveConn sensorId liveCause slot ip port token conn cause queue serverTime sent after,
      server.holder .sensor live = some liveConn →
      .accepted liveConn sensorId liveCause ∈ server.log →
      server.sensorRequestsQueue = ⟨.onConnected slot ip port token, conn, cause⟩ :: queue →
      server.database.sensors.idOf token = some sensorId →
      Plain (.executeSensor serverTime sent) server →
      Steps (connection reports rogue) (.executeSensor serverTime sent) server (.ok ()) after →
      Refuses server slot killSensorTokenActive after := by
  have invariant : (server.sessions.Orderly ∧ server.sessions.Exclusive) ∧
      MappedActive server := by
    refine runs.keeps (fun server => (server.sessions.Orderly ∧ server.sessions.Exclusive) ∧
      MappedActive server) ⟨⟨orderly_start initial, exclusive_start initial⟩, ?_⟩ ?_
    · intro sensorId slot mapped
      cases mapped
    · intro label result before after steps admitted holds
      refine ⟨steps.exclusive admitted holds.1, ?_⟩
      obtain ⟨rfl, plain, -⟩ := admitted
      exact (steps.tableChange plain).mappedActive holds.2
  obtain ⟨⟨orderly, exclusive⟩, mappedActive⟩ := invariant
  constructor
  · intro slot other sensorId conn otherConn _ _ mapped otherMapped
    exact exclusive.single slot other sensorId mapped otherMapped
  · intro live liveConn sensorId liveCause slot ip port token conn cause queue serverTime sent
      after held accepted queued known plain steps
    have mapped := exclusive.held live liveConn sensorId liveCause held accepted
    have active := mappedActive sensorId live mapped
    rcases steps.init_cases plain queued known with ⟨revoked, -⟩ | ⟨-, -, refuses⟩ | ⟨-, free, -⟩
    · rw [active] at revoked
      cases revoked
    · exact refuses
    · cases mapped.symm.trans free

/-- The request that the step takes has no quotes, and when it is an init
request, neither its connection nor its sensor was accepted before. -/
def firstTime (label : Label) (server : Server Database) : Bool :=
  unquoted label server &&
    match label, server.sensorRequestsQueue with
    | .executeSensor _ _, ⟨.onConnected _ _ _ token, conn, _⟩ :: _ =>
        server.log.all fun
          | .accepted other sensorId _ =>
              other ≠ conn && server.database.sensors.idOf token ≠ some sensorId
          | _ => true
    | _, _ => true

theorem plain_of_firstTime (first : firstTime label server = true) : Plain label server :=
  plain_of_unquoted (Bool.and_elim_left first)

/-- Neither the slot nor the sensor of such an init request is mapped from a
slot. -/
theorem unmapped_of_firstTime {serverTime sent slot port sensorId : Int}
    {ip token : ByteString} {conn cause : Nat} {queue : List (Stamped SensorRequest)}
    (orderly : server.sessions.Orderly)
    (first : firstTime (.executeSensor serverTime sent) server = true)
    (queued : server.sensorRequestsQueue = ⟨.onConnected slot ip port token, conn, cause⟩ :: queue)
    (known : server.database.sensors.idOf token = some sensorId) :
    server.clientToSensorId slot = none ∧
      ∀ other, server.clientToSensorId other ≠ some sensorId := by
  simp only [firstTime, queued, Bool.and_eq_true, List.all_eq_true] at first
  have never : ∀ connection sensor otherCause,
      .accepted connection sensor otherCause ∈ server.log →
      connection ≠ conn ∧ sensor ≠ sensorId := by
    intro connection sensor otherCause member
    have checked := first.2 _ member
    simp only [known, Option.some.injEq, ne_eq, Bool.and_eq_true, decide_eq_true_eq] at checked
    exact ⟨checked.1, Ne.symm checked.2⟩
  constructor
  · cases mapped : server.clientToSensorId slot with
    | none => rfl
    | some sensor =>
        obtain ⟨connection, otherCause, next, accepted⟩ := orderly.owned slot sensor mapped
        have isNext : server.sessions.next slot = some conn :=
          @Sessions.next_head server.sessions _ _ queued
        have different := (never _ _ _ (mem_of_lastAccepted accepted)).1
        exact absurd (Option.some.inj (next.symm.trans isNext)) different
  · intro other mapped
    obtain ⟨connection, otherCause, -, accepted⟩ := orderly.owned other sensorId mapped
    exact (never _ _ _ (mem_of_lastAccepted accepted)).2 rfl

/-- Sensor 1 connects, and its token comes again from another connection. -/
def secondInit : List Label :=
  [.accept .sensor 0 5 .zero, .sensorFrame 0 [105, 84] (fun _ => 0) 0, .executeSensor 0 0,
    .accept .sensor 1 6 .zero, .sensorFrame 1 [105, 84] (fun _ => 0) 0]

theorem sessions_exclusive_secondInit :
    ∃ server after,
      Runs DatabaseConnection.sample Exclusively (start Database.sample) server ∧
      Steps DatabaseConnection.sample (.executeSensor 0 0) server (.ok ()) after ∧
      server.holder .sensor 0 = some 0 ∧ SingleSession server ∧
      Refuses server 1 killSensorTokenActive after := by
  let played := playIf DatabaseConnection.sample firstTime secondInit (start Database.sample)
  have finished : played.isSome = true := by decide +kernel
  obtain ⟨server, reached⟩ := Option.isSome_iff_exists.mp finished
  have runs : Runs DatabaseConnection.sample Exclusively (start Database.sample) server := by
    refine Runs.of_playIf .refl ?_ reached
    intro label before runs first
    have orderly := (runs.mono fun _ _ _ admitted => admitted.1).orderly_traced.1
    refine ⟨rfl, plain_of_firstTime first, ?_⟩
    cases label with
    | executeSensor serverTime sent =>
        intro slot ip port token conn cause queue sensorId queued known _ _ other mapped
        exact absurd mapped ((unmapped_of_firstTime orderly first queued known).2 other)
    | _ => trivial
  let next := played.bind fun server =>
    (step DatabaseConnection.sample (.executeSensor 0 0)).runOn server
  have moved : next.map (fun result => decide (result.1 = .ok ())) = some true := by
    decide +kernel
  have facts : played.map (fun server => (server.holder .sensor 0,
      server.log.contains (.accepted 0 1 0), server.sensorRequestsQueue,
      server.database.sensors.idOf [84])) =
      some (some 0, true, [⟨.onConnected 1 SockAddr.zero.ip 0 [84], 1, 3⟩], some 1) := by
    decide +kernel
  rw [reached] at facts
  simp only [Option.map_some, Option.some.injEq, Prod.mk.injEq, List.contains_iff_mem] at facts
  obtain ⟨held, accepted, queued, known⟩ := facts
  simp only [next, reached, Option.bind_some, Option.map_eq_some_iff, Prod.exists,
    decide_eq_true_eq] at moved
  obtain ⟨result, after, steps, rfl⟩ := moved
  have plain : Plain (.executeSensor 0 0) server := by
    intro stamped queue isHead
    rw [queued] at isHead
    cases isHead
    exact ⟨by decide, by decide⟩
  obtain ⟨single, refuses⟩ := sessions_exclusive runs
  exact ⟨server, after, runs, steps, held, single,
    refuses _ _ _ _ _ _ _ _ _ _ _ _ _ _ held accepted queued known plain steps⟩

/-- The entry of slot 0 outlives the disconnect command for sensor 1.  The
sensor is accepted on slot 1 in between, and when the disconnect request of
slot 0 has erased its entry once more, it is accepted on slot 0 too. -/
def lateDisconnect : List Label :=
  [.accept .sensor 0 5 .zero, .sensorFrame 0 [105, 84] (fun _ => 0) 0, .executeSensor 0 0,
    .accept .sensor 1 6 .zero, .accept .administrator 0 7 .zero,
    .administratorFrame 0 { clientId := 0, commandType := .disconnectSensor, sensorId := 1 },
    .sensorFrame 1 [105, 84] (fun _ => 0) 0, .executeAdministrator [] 0,
    .executeSensor 0 0, .executeSensor 0 0,
    .accept .sensor 0 8 .zero, .sensorFrame 0 [105, 84] (fun _ => 0) 0, .executeSensor 0 0]

theorem sessions_not_exclusive :
    ¬ ∀ server, Runs DatabaseConnection.sample Undisturbed (start Database.sample) server →
      SingleSession server := by
  intro single
  let played := play DatabaseConnection.sample lateDisconnect (start Database.sample)
  have finished : played.isSome = true := by decide +kernel
  obtain ⟨server, reached⟩ := Option.isSome_iff_exists.mp finished
  have twice : played.map (fun server => (server.holder .sensor 0, server.holder .sensor 1,
      server.clientToSensorId 0, server.clientToSensorId 1)) =
      some (some 3, some 1, some 1, some 1) := by decide +kernel
  rw [reached] at twice
  simp only [Option.map_some, Option.some.injEq, Prod.mk.injEq] at twice
  obtain ⟨held, otherHeld, mapped, otherMapped⟩ := twice
  have same := single server (Runs.of_play reached) 0 1 1 3 1 held otherHeld mapped otherMapped
  cases same

end Server

end SensorManager
