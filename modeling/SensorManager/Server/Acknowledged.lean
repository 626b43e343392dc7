import SensorManager.Server.Authenticity

/-!
# What becomes of acknowledged measurements

A measurement is acknowledged when its frame arrives.  Its request is queued
behind the acknowledgement, and stored only when the slot is mapped at the time
the request is executed.  The pass that executes it is one step.
-/

namespace SensorManager

open SensorListener

/-- The acknowledgement that a connection gets for a frame. -/
def ackOf (conn : Nat) (msg : ByteString) (beyond : BytesParser.Memory) : Effect :=
  .sent .sensor conn (measureAnswer (measureTimestamp msg beyond))

/-- The request made of a frame that stands at `cause` in the log. -/
def measurementOf (slot : Int) (conn : Nat) (msg : ByteString) (beyond : BytesParser.Memory)
    (cause : Nat) : Stamped SensorRequest :=
  { request := .measurement slot (measureValue msg beyond)
      ((measureTimestamp msg beyond).tdiv 1000)
    conn := conn
    cause := cause }

/-- The call that stores the measurement of a frame. -/
def storingOf (sensorId : Int) (msg : ByteString) (beyond : BytesParser.Memory) (cause : Nat) :
    Effect :=
  .addMeasurement sensorId (measureValue msg beyond)
    (Server.toInt32 ((measureTimestamp msg beyond).tdiv 1000)) cause

/-- The frame at `cause` in the log is a measurement, and a '1' frame with the
timestamp went out to its connection next. -/
structure Acknowledged (log : List Effect) (conn : Nat) (msg : ByteString) (timestamp : Int)
    (cause : Nat) : Prop where
  received : log[cause]? = some (.received conn msg)
  isMeasure : msg.head? = some 109
  long : -2 ^ 63 ≤ timestamp ∧ timestamp < 2 ^ 63
  answered : log[cause + 1]? = some (.sent .sensor conn (measureAnswer timestamp))

/-- The measurement of the frame was stored, for the sensor that the connection
had been accepted as. -/
def Stored (log : List Effect) (conn : Nat) (msg : ByteString) (timestamp : Int) (cause : Nat) :
    Prop :=
  ∃ index sensorId beyond initCause,
    log[index]? = some (storingOf sensorId msg beyond cause) ∧
      timestamp = measureTimestamp msg beyond ∧
      lastAccepted (log.take index) conn = some (sensorId, initCause)

namespace Sessions

/-- Every measurement frame was answered, and is waiting, stored or lost. -/
def Accounted (lost : Nat → Prop) (sessions : Sessions) : Prop :=
  ∀ conn msg cause, sessions.log[cause]? = some (.received conn msg) → msg.head? = some 109 →
    ∃ beyond, sessions.log[cause + 1]? = some (ackOf conn msg beyond) ∧
      ((∃ slot, measurementOf slot conn msg beyond cause ∈ sessions.queue) ∨
        (∃ sensorId, storingOf sensorId msg beyond cause ∈ sessions.log) ∨ lost cause)

/-- An action that answers the measurement frame it logs, logs no other, and
takes only lost measurements out of the queue. -/
def Accounts (lost : Nat → Prop) (sessions : Sessions) : Action → Prop
  | .note effect => ∀ conn msg, effect = .received conn msg → msg.head? ≠ some 109
  | .receive conn msg request answers =>
      (∃ slot beyond, answers = [ackOf conn msg beyond] ∧
        request = (measurementOf slot conn msg beyond sessions.log.length).request) ∨
      (msg.head? ≠ some 109 ∧ answers = [])
  | .discard =>
      ∀ head queue, sessions.queue = head :: queue → head.request.isMeasurement = true →
        lost head.cause
  | _ => True

variable {sessions : Sessions} {lost : Nat → Prop}

/-- What is not in the queue any more was stored or lost, and what is logged is
no measurement frame. -/
theorem Accounted.extend (accounted : sessions.Accounted lost) {effects : List Effect}
    {other : Sessions} (logged : other.log = sessions.log ++ effects)
    (kept : ∀ slot value time conn cause,
      ⟨.measurement slot value time, conn, cause⟩ ∈ sessions.queue →
      ⟨.measurement slot value time, conn, cause⟩ ∈ other.queue ∨
        (∃ sensorId, .addMeasurement sensorId value (Server.toInt32 time) cause ∈ effects) ∨
        lost cause)
    (others : ∀ conn msg, .received conn msg ∈ effects → msg.head? ≠ some 109) :
    other.Accounted lost := by
  intro conn msg cause received isMeasure
  rw [logged] at received ⊢
  by_cases old : cause < sessions.log.length
  · rw [List.getElem?_append_left old] at received
    obtain ⟨beyond, answered, place⟩ := accounted conn msg cause received isMeasure
    refine ⟨beyond, getElem?_log_append answered effects, ?_⟩
    rcases place with ⟨slot, waiting⟩ | ⟨sensorId, stored⟩ | gone
    · rcases kept _ _ _ _ _ waiting with stays | ⟨sensorId, stored⟩ | gone
      · exact .inl ⟨slot, stays⟩
      · exact .inr (.inl ⟨sensorId, List.mem_append_right _ stored⟩)
      · exact .inr (.inr gone)
    · exact .inr (.inl ⟨sensorId, List.mem_append_left _ stored⟩)
    · exact .inr (.inr gone)
  · rw [List.getElem?_append_right (Nat.le_of_not_lt old)] at received
    exact absurd isMeasure (others conn msg (List.mem_of_getElem? received))

/-- A measurement frame is answered and its request queued. -/
theorem Accounted.answer (accounted : sessions.Accounted lost) (slot : Int) (conn : Nat)
    (msg : ByteString) (beyond : BytesParser.Memory) :
    (sessions.act (.receive conn msg
      (measurementOf slot conn msg beyond sessions.log.length).request
      [ackOf conn msg beyond])).Accounted lost := by
  intro other frame cause received isMeasure
  simp only [act] at received ⊢
  by_cases old : cause < sessions.log.length
  · rw [List.getElem?_append_left old] at received
    obtain ⟨memory, answered, place⟩ := accounted other frame cause received isMeasure
    refine ⟨memory, getElem?_log_append answered _, ?_⟩
    rcases place with ⟨queued, waiting⟩ | ⟨sensorId, stored⟩ | gone
    · exact .inl ⟨queued, List.mem_append_left _ waiting⟩
    · exact .inr (.inl ⟨sensorId, List.mem_append_left _ stored⟩)
    · exact .inr (.inr gone)
  · rw [List.getElem?_append_right (Nat.le_of_not_lt old)] at received
    have inside := (List.getElem?_eq_some_iff.mp received).1
    simp only [List.length_cons, List.length_nil] at inside
    rcases (by omega : cause = sessions.log.length ∨ cause = sessions.log.length + 1) with
      rfl | rfl
    · rw [Nat.sub_self] at received
      cases received
      refine ⟨beyond, ?_, .inl ⟨slot, ?_⟩⟩
      · rw [List.getElem?_append_right (by omega), Nat.add_sub_cancel_left]
        rfl
      · exact List.mem_append_right _ (List.mem_singleton_self _)
    · rw [Nat.add_sub_cancel_left] at received
      cases received

/-- A queued request is the head, or stays when the head is taken. -/
theorem eq_head_or_mem_tail {head item : Stamped SensorRequest}
    {queue : List (Stamped SensorRequest)} (queued : sessions.queue = head :: queue)
    (member : item ∈ sessions.queue) : item = head ∨ item ∈ sessions.queue.tail := by
  rw [queued] at member ⊢
  exact List.mem_cons.mp member

/-- A measurement stays when another request is taken. -/
theorem mem_tail_of_other {head : Stamped SensorRequest} {queue : List (Stamped SensorRequest)}
    (queued : sessions.queue = head :: queue) (other : head.request.isMeasurement = false)
    {slot value time : Int} {conn cause : Nat}
    (member : ⟨.measurement slot value time, conn, cause⟩ ∈ sessions.queue) :
    ⟨.measurement slot value time, conn, cause⟩ ∈ sessions.queue.tail := by
  rcases eq_head_or_mem_tail queued member with rfl | stays
  · cases other
  · exact stays

/-- Every action that accounts for its frames keeps the account. -/
theorem Accounted.act (accounted : sessions.Accounted lost) {action : Action}
    (permitted : sessions.Permits action) (accounts : sessions.Accounts lost action) :
    (sessions.act action).Accounted lost := by
  have unlogged : sessions.log = sessions.log ++ [] := (List.append_nil _).symm
  cases action with
  | note effect =>
      refine accounted.extend rfl (fun _ _ _ _ _ member => .inl member) ?_
      intro conn msg member
      exact accounts conn msg (List.mem_singleton.mp member).symm
  | connect | bind | eraseSensor =>
      exact accounted.extend unlogged (fun _ _ _ _ _ member => .inl member) (by simp)
  | release slot conn =>
      exact accounted.extend rfl
        (fun _ _ _ _ _ member => .inl (List.mem_append_left _ member)) (by simp)
  | receive conn msg request answers =>
      rcases accounts with ⟨slot, beyond, rfl, rfl⟩ | ⟨other, rfl⟩
      · exact accounted.answer slot conn msg beyond
      · refine accounted.extend rfl
          (fun _ _ _ _ _ member => .inl (List.mem_append_left _ member)) ?_
        intro sender frame member
        cases List.mem_singleton.mp member
        exact other
  | discard =>
      obtain ⟨head, queue, queued, -⟩ := permitted
      refine accounted.extend unlogged ?_ (by simp)
      intro slot value time conn cause member
      rcases eq_head_or_mem_tail queued member with rfl | stays
      · exact .inr (.inr (accounts _ queue queued rfl))
      · exact .inl stays
  | measure sensorId value timestamp cause =>
      obtain ⟨slot, time, conn, queue, queued, -, rfl⟩ := permitted
      refine accounted.extend rfl ?_ (by simp)
      intro other otherValue otherTime sender frame member
      rcases eq_head_or_mem_tail queued member with same | stays
      · cases same
        exact .inr (.inl ⟨sensorId, List.mem_singleton_self _⟩)
      · exact .inl stays
  | accept slot sensorId conn cause =>
      obtain ⟨ip, port, token, queue, queued⟩ := permitted
      exact accounted.extend rfl
        (fun _ _ _ _ _ member => .inl (mem_tail_of_other queued rfl member)) (by simp)
  | unmap slot sensorId =>
      obtain ⟨conn, cause, queue, queued, -⟩ := permitted
      exact accounted.extend unlogged
        (fun _ _ _ _ _ member => .inl (mem_tail_of_other queued rfl member)) (by simp)
  | abandon =>
      obtain ⟨slot, conn, cause, queue, queued⟩ := permitted
      exact accounted.extend unlogged
        (fun _ _ _ _ _ member => .inl (mem_tail_of_other queued rfl member)) (by simp)

/-- The frame at `cause` is a measurement that will never be stored. -/
structure Lost (cause : Nat) (sessions : Sessions) : Prop where
  frame : ∃ conn msg, sessions.log[cause]? = some (.received conn msg) ∧ msg.head? = some 109
  drained : ∀ item ∈ sessions.queue, cause < item.cause
  unstored : ∀ effect ∈ sessions.log, effect.measureCause ≠ some cause

theorem Lost.extend {cause : Nat} (gone : sessions.Lost cause) {effects : List Effect}
    {other : Sessions} (logged : other.log = sessions.log ++ effects)
    (queued : ∀ item ∈ other.queue, item ∈ sessions.queue ∨ item.cause = sessions.log.length)
    (others : ∀ effect ∈ effects, effect.measureCause ≠ some cause) : other.Lost cause := by
  obtain ⟨conn, msg, received, isMeasure⟩ := gone.frame
  refine ⟨⟨conn, msg, ?_, isMeasure⟩, ?_, ?_⟩
  · rw [logged]
    exact getElem?_log_append received effects
  · intro item member
    rcases queued item member with old | new
    · exact gone.drained item old
    · rw [new]
      exact (List.getElem?_eq_some_iff.mp received).1
  · intro effect member
    rw [logged] at member
    rcases List.mem_append.mp member with old | new
    · exact gone.unstored effect old
    · exact others effect new

/-- Whatever is done, a lost measurement stays lost. -/
theorem Lost.act {cause : Nat} (gone : sessions.Lost cause) {action : Action}
    (permitted : sessions.Permits action) : (sessions.act action).Lost cause := by
  have unlogged : sessions.log = sessions.log ++ [] := (List.append_nil _).symm
  have plainly : ∀ effect : Effect, effect.plain = true → effect.measureCause ≠ some cause := by
    intro effect plain isCause
    rw [(Effect.plain_cause plain).2] at isCause
    cases isCause
  have pushed : ∀ item other : Stamped SensorRequest, other.cause = sessions.log.length →
      item ∈ sessions.queue ++ [other] →
      item ∈ sessions.queue ∨ item.cause = sessions.log.length := by
    intro item other isCause member
    rcases List.mem_append.mp member with old | new
    · exact .inl old
    · obtain rfl := List.mem_singleton.mp new
      exact .inr isCause
  cases action with
  | note effect =>
      refine gone.extend rfl (fun _ member => .inl member) ?_
      intro other member
      obtain rfl := List.mem_singleton.mp member
      exact plainly _ permitted
  | connect | bind | eraseSensor =>
      exact gone.extend unlogged (fun _ member => .inl member) (by simp)
  | release slot conn =>
      refine gone.extend rfl (fun item member => pushed item _ rfl member) ?_
      intro other member
      obtain rfl := List.mem_singleton.mp member
      exact plainly _ rfl
  | receive conn msg request answers =>
      refine gone.extend rfl (fun item member => pushed item _ rfl member) ?_
      intro other member
      rcases List.mem_cons.mp member with rfl | answer
      · exact plainly _ rfl
      · exact plainly _ (permitted.2.2 other answer)
  | discard | unmap | abandon =>
      exact gone.extend unlogged (fun _ member => .inl (List.mem_of_mem_tail member)) (by simp)
  | accept slot sensorId conn frame =>
      exact gone.extend rfl (fun _ member => .inl (List.mem_of_mem_tail member))
        (by simp [Effect.measureCause])
  | measure sensorId value timestamp frame =>
      obtain ⟨slot, time, conn, queue, queued, -⟩ := permitted
      have before : cause < frame :=
        gone.drained ⟨.measurement slot value time, conn, frame⟩ (by simp [queued])
      refine gone.extend rfl (fun _ member => .inl (List.mem_of_mem_tail member)) ?_
      intro other member
      obtain rfl := List.mem_singleton.mp member
      intro isCause
      obtain rfl := Option.some.inj isCause
      exact Nat.lt_irrefl _ before

/-- A measurement that is dropped is lost. -/
theorem Traced.lost_of_discard (traced : sessions.Traced) {slot value time : Int} {conn cause : Nat}
    {queue : List (Stamped SensorRequest)}
    (queued : sessions.queue = ⟨.measurement slot value time, conn, cause⟩ :: queue) :
    (sessions.act .discard).Lost cause := by
  have headMember : ⟨.measurement slot value time, conn, cause⟩ ∈ sessions.queue := by
    simp [queued]
  obtain ⟨msg, received, isMeasure, -⟩ := traced.carried _ headMember rfl
  have increasing := traced.increasing
  rw [queued, List.map_cons, List.pairwise_cons] at increasing
  refine ⟨⟨conn, msg, received, isMeasure⟩, ?_, ?_⟩
  · intro item member
    have inQueue : item ∈ queue := by simpa [Sessions.act, queued] using member
    exact increasing.1 item.cause (List.mem_map_of_mem inQueue)
  · intro effect member isCause
    have handled := traced.handled effect member cause (Effect.cause_of_measureCause isCause)
    exact Nat.lt_irrefl _ (handled.1 _ headMember)

end Sessions

namespace Server

variable {δ : Type} {database : IDatabaseConnection δ} {server : Server δ}

/-- The executor drops the measurement of the frame at `cause`. -/
def Drops (label : Label) (server : Server δ) (cause : Nat) : Prop :=
  ∃ serverTime sent slot value time conn queue, label = .executeSensor serverTime sent ∧
    server.sensorRequestsQueue = ⟨.measurement slot value time, conn, cause⟩ :: queue ∧
    server.clientToSensorId slot = none

/-- Whenever the executor takes a measurement, its slot is mapped. -/
def MeasurementMapped (label : Label) (server : Server δ) : Prop :=
  ∀ serverTime sent slot value time conn cause queue, label = .executeSensor serverTime sent →
    server.sensorRequestsQueue = ⟨.measurement slot value time, conn, cause⟩ :: queue →
    ∃ sensorId, server.clientToSensorId slot = some sensorId

theorem measurementMapped_iff {label : Label} :
    MeasurementMapped label server ↔ ∀ cause, ¬ Drops label server cause := by
  constructor
  · rintro mapped cause ⟨_, _, _, _, _, _, _, isLabel, queued, unmapped⟩
    obtain ⟨sensorId, found⟩ := mapped _ _ _ _ _ _ _ _ isLabel queued
    rw [unmapped] at found
    cases found
  · intro keeps serverTime sent slot value time conn cause queue isLabel queued
    rw [← Option.isSome_iff_exists, ← Option.ne_none_iff_isSome]
    exact fun unmapped =>
      keeps cause ⟨serverTime, sent, slot, value, time, conn, queue, isLabel, queued, unmapped⟩

/-- A step in which no database call throws. -/
def Undisturbs (database : IDatabaseConnection δ) (server : Server δ) (label : Label)
    (after : Server δ) : Prop :=
  Steps database label server (.ok ()) after

section Steps

open Sessions

variable {lost : Nat → Prop}

theorem permitted_accounts_send (server : Server δ) (sessions : Sessions) (channel : Channel)
    (clientId : Int) (msg : ByteString) :
    sessions.Permitted (Accounts lost) (server.sendActions channel clientId msg) := by
  unfold sendActions
  cases server.holder channel clientId with
  | none => trivial
  | some conn => exact ⟨⟨rfl, fun _ _ impossible => by cases impossible⟩, trivial⟩

theorem permitted_accounts_kill (server : Server δ) {sessions : Sessions}
    (same : sessions.holder = server.sessions.holder) (slot reason : Int) :
    sessions.Permitted (Accounts lost) (server.killActions slot reason) := by
  unfold killActions
  cases held : server.holder .sensor slot with
  | none => trivial
  | some conn =>
      have holds : sessions.holder slot = some conn := by rw [same]; exact held
      exact ⟨⟨rfl, fun _ _ impossible => by cases impossible⟩, ⟨holds, trivial⟩, trivial⟩

/-- Every frame is accounted for by the listener. -/
theorem permitted_accounts_frame {slot : Int} {msg : ByteString} (nonempty : msg ≠ [])
    {conn : Nat} (held : server.holder .sensor slot = some conn) (beyond : BytesParser.Memory)
    (sent : Int) :
    ∃ actions,
      (server.receiveSensorFrame slot msg beyond sent conn).sessions =
        server.sessions.perform actions ∧
      server.sessions.Permitted (Accounts lost) actions := by
  obtain ⟨byte, rest, rfl⟩ := List.exists_cons_of_ne_nil nonempty
  by_cases isMeasure : byte = 109
  · subst isMeasure
    refine ⟨_, sessions_measureFrame held rest beyond sent, ⟨⟨held, ?_, ?_⟩, ?_⟩, trivial⟩
    · exact ⟨rfl, beyond, rfl, rfl⟩
    · simp [Effect.plain]
    · exact .inl ⟨slot, beyond, rfl, rfl⟩
  · have other : (byte :: rest).head? ≠ some 109 := fun first => isMeasure (Option.some.inj first)
    by_cases isInit : byte = 105
    · subst isInit
      obtain ⟨ip, port, received⟩ := sessions_initFrame held rest beyond sent
      exact ⟨_, received, ⟨⟨held, rfl, by simp⟩, .inr ⟨other, rfl⟩⟩, trivial⟩
    · refine ⟨_, sessions_unknownFrame held isMeasure isInit rest beyond sent,
        ⟨rfl, ?_⟩, ⟨held, trivial⟩, trivial⟩
      rintro sender msg ⟨⟩
      exact other

/-- A request that is no measurement may be taken. -/
theorem accounts_discard {head : Stamped SensorRequest} {queue : List (Stamped SensorRequest)}
    (queued : server.sensorRequestsQueue = head :: queue)
    (spared : head.request.isMeasurement = true → lost head.cause) :
    server.sessions.Accounts lost .discard := by
  intro other later isHead
  obtain ⟨rfl, -⟩ := List.cons_eq_cons.mp (queued.symm.trans isHead)
  exact spared

/-- Every step accounts for the measurement frames, if the dropped ones count
as lost. -/
theorem Steps.accounts {label : Label} {after : Server δ}
    (steps : Steps database label server (.ok ()) after)
    (dropped : ∀ cause, Drops label server cause → lost cause) :
    ∃ actions, after.sessions = server.sessions.perform actions ∧
      server.sessions.Permitted (Accounts lost) actions := by
  have discarded : (server.sessions.act .discard).holder = server.sessions.holder := rfl
  obtain ⟨actions, outcome, sessions_eq⟩ := steps.outcome
  generalize after.database = changed at outcome
  cases outcome with
  | frame | unknownFrame =>
      obtain ⟨conn, held, nonempty, -, rfl⟩ := Steps.sensorFrame steps
      exact permitted_accounts_frame nonempty held _ _
  | accept => exact ⟨_, sessions_eq, ⟨trivial, trivial⟩, trivial⟩
  | acceptSensor free => exact ⟨_, sessions_eq, ⟨free, trivial⟩, trivial⟩
  | lost =>
      exact ⟨_, sessions_eq, ⟨rfl, fun _ _ impossible => by cases impossible⟩, trivial⟩
  | lostSensor held => exact ⟨_, sessions_eq, ⟨held, trivial⟩, trivial⟩
  | administratorFrame | monitoringFrame | administered | monitored =>
      exact ⟨_, sessions_eq, trivial⟩
  | measured queued mapped =>
      exact ⟨_, sessions_eq, ⟨⟨_, _, _, _, queued, mapped, rfl⟩, trivial⟩, trivial⟩
  | @unmapped serverTime sent head queue queued opened unmapped =>
      refine ⟨_, sessions_eq, ⟨⟨_, _, queued, fun _ => unmapped⟩, ?_⟩, trivial⟩
      refine @accounts_discard δ server lost head queue queued ?_
      intro isMeasurement
      obtain ⟨request, conn, cause⟩ := head
      cases request with
      | measurement slot value time =>
          exact dropped cause ⟨_, _, slot, value, time, conn, queue, rfl, queued, unmapped⟩
      | onConnected | onDisconnected => cases isMeasurement
  | incorrectToken queued | tokenActive queued =>
      exact ⟨_, sessions_eq, ⟨⟨_, _, queued, by simp [SensorRequest.isOnDisconnected]⟩,
        accounts_discard queued (by simp [SensorRequest.isMeasurement])⟩,
        permitted_accounts_kill server discarded _ _⟩
  | accepted queued =>
      exact ⟨_, sessions_eq, ⟨⟨_, _, _, _, queued⟩, trivial⟩,
        permitted_accounts_send server _ _ _ _⟩
  | disconnected queued mapped =>
      exact ⟨_, sessions_eq, ⟨⟨_, _, _, queued, mapped⟩, trivial⟩, trivial⟩
  | killed =>
      refine ⟨_, sessions_eq, ?_⟩
      rw [killMappedActions, Sessions.permitted_append]
      exact ⟨permitted_accounts_kill server rfl _ _, ⟨trivial, trivial⟩, trivial⟩
  | sentAdministrator | sentMonitoring =>
      exact ⟨_, sessions_eq, permitted_accounts_send server _ _ _ _⟩

theorem Steps.accounted {label : Label} {after : Server δ}
    (steps : Steps database label server (.ok ()) after)
    (dropped : ∀ cause, Drops label server cause → lost cause)
    (accounted : server.sessions.Accounted lost) : after.sessions.Accounted lost := by
  obtain ⟨actions, sessions_eq, permitted⟩ := steps.accounts dropped
  rw [sessions_eq]
  exact permitted.keeps (fun _ _ holds permits accounts => holds.act permits accounts) accounted

theorem Steps.keeps_lost {label : Label} {after : Server δ} {cause : Nat}
    (steps : Steps database label server (.ok ()) after)
    (gone : server.sessions.Lost cause) : after.sessions.Lost cause := by
  have anyway : ∀ cause, Drops label server cause → (fun _ : Nat => True) cause :=
    fun _ _ => trivial
  obtain ⟨actions, sessions_eq, permitted⟩ := steps.accounts anyway
  rw [sessions_eq]
  exact permitted.keeps (fun _ _ holds permits _ => holds.act permits) gone

/-- The drop of a measurement does nothing else. -/
theorem Drops.sessions_eq {label : Label} {after : Server δ} {cause : Nat}
    (drops : Drops label server cause) (steps : Steps database label server (.ok ()) after) :
    after.sessions = server.sessions.act .discard := by
  obtain ⟨serverTime, sent, slot, value, time, conn, queue, rfl, queued, unmapped⟩ := drops
  obtain ⟨actions, outcome, sessions_eq⟩ := steps.outcome
  generalize after.database = changed at outcome
  cases outcome with
  | unmapped => exact sessions_eq
  | measured isHead mapped =>
      cases queued.symm.trans isHead
      cases unmapped.symm.trans mapped
  | incorrectToken isHead | tokenActive isHead | accepted isHead | disconnected isHead =>
      cases queued.symm.trans isHead

end Steps

/-- What has been acknowledged, and has left the queue, is stored. -/
def AllStored (server : Server δ) : Prop :=
  ∀ conn msg timestamp cause, Acknowledged server.log conn msg timestamp cause →
    (∀ stamped ∈ server.sensorRequestsQueue, cause < stamped.cause) →
    Stored server.log conn msg timestamp cause

section Answers

theorem measureAnswer_inj {first second : Int} (firstLong : -2 ^ 63 ≤ first ∧ first < 2 ^ 63)
    (secondLong : -2 ^ 63 ≤ second ∧ second < 2 ^ 63)
    (same : measureAnswer first = measureAnswer second) : first = second := by
  have bytes : Bytes.ofInt 8 first = Bytes.ofInt 8 second := List.append_cancel_left same
  have firstRead := @Bytes.toInt_ofInt 8 first (by norm_num; omega) (by norm_num; omega)
  have secondRead := @Bytes.toInt_ofInt 8 second (by norm_num; omega) (by norm_num; omega)
  rw [← firstRead, bytes, secondRead]

theorem measureTimestamp_long (msg : ByteString) (beyond : BytesParser.Memory) :
    -2 ^ 63 ≤ measureTimestamp msg beyond ∧ measureTimestamp msg beyond < 2 ^ 63 := by
  have bounds := Bytes.toInt_bounds
    ((List.range 8).map fun index => BytesParser.byteAt msg beyond (1 + index))
  simp only [List.length_map, List.length_range] at bounds
  norm_num at bounds
  rw [measureTimestamp, BytesParser.parse]
  omega

/-- Where every measurement frame is answered and waits or is stored, all is
stored that has left the queue. -/
theorem allStored_of_accounted (traced : server.sessions.Traced)
    (accounted : server.sessions.Accounted fun _ => False) : server.AllStored := by
  intro conn msg timestamp cause acknowledged drained
  obtain ⟨beyond, answered, place⟩ :=
    accounted conn msg cause acknowledged.received acknowledged.isMeasure
  have sameAnswer := acknowledged.answered.symm.trans answered
  have same : timestamp = measureTimestamp msg beyond := by
    apply measureAnswer_inj acknowledged.long (measureTimestamp_long msg beyond)
    injection Option.some.inj sameAnswer
  rcases place with ⟨slot, waiting⟩ | ⟨sensorId, stored⟩ | impossible
  · exact absurd (drained _ waiting) (Nat.lt_irrefl cause)
  · obtain ⟨index, found⟩ := List.mem_iff_getElem?.mp stored
    obtain ⟨sender, frame, -, -, initCause, received, -, -, -, accepted, -, -⟩ :=
      traced.authentic index _ _ _ _ found
    have inLog := getElem?_log_append received (server.sessions.log.drop index)
    rw [List.take_append_drop] at inLog
    cases inLog.symm.trans acknowledged.received
    exact ⟨index, sensorId, beyond, initCause, found, same, accepted⟩
  · exact impossible.elim

/-- A lost measurement was acknowledged, has left the queue and is not stored. -/
theorem not_allStored_of_lost (answers : server.sessions.Accounted fun _ => True) {cause : Nat}
    (gone : server.sessions.Lost cause) : ¬ server.AllStored := by
  intro allStored
  obtain ⟨conn, msg, received, isMeasure⟩ := gone.frame
  obtain ⟨beyond, answered, -⟩ := answers conn msg cause received isMeasure
  have acknowledged : Acknowledged server.log conn msg (measureTimestamp msg beyond) cause :=
    ⟨received, isMeasure, measureTimestamp_long msg beyond, answered⟩
  obtain ⟨index, sensorId, memory, initCause, found, -, -⟩ :=
    allStored _ _ _ _ acknowledged gone.drained
  exact gone.unstored _ (List.mem_of_getElem? found) rfl

end Answers

section Runs

variable {initial : δ} {taken : List (Transition (Server δ) Label)}

/-- A run in which no database call throws has a trace of such steps. -/
theorem Runs.undisturbs {admits : Label → Server δ → Except SQLException Unit → Prop}
    {before : Server δ} (runs : Runs database admits before server)
    (returned : ∀ {label middle result}, admits label middle result → result = .ok ()) :
    ∃ taken, Trace (Undisturbs database) before taken server ∧ ∀ transition ∈ taken,
      ∃ result, admits transition.label transition.before result := by
  refine runs.trace_of ?_
  intro label middle result after steps admitted
  rw [returned admitted] at steps
  exact steps

theorem accounted_start (lost : Nat → Prop) : (start initial).sessions.Accounted lost := by
  intro conn msg cause received
  simp [sessions, start] at received

theorem orderly_traced_of_trace
    (trace : Trace (Undisturbs database) (start initial) taken server) :
    server.sessions.Orderly ∧ server.sessions.Traced :=
  (trace.keeps ⟨orderly_start initial, traced_start initial⟩
    fun _ _ _ steps => Steps.orderly_traced steps).1

/-- In every run one measurement is lost, or every step found what it needed. -/
theorem lost_or_mapped (trace : Trace (Undisturbs database) (start initial) taken server) :
    (∃ cause, server.sessions.Lost cause) ∨
      ∀ transition ∈ taken, MeasurementMapped transition.label transition.before := by
  induction trace with
  | start => exact .inr (by simp)
  | @next taken before after label trace stepped ih =>
      rcases ih with ⟨cause, gone⟩ | mapped
      · exact .inl ⟨cause, Steps.keeps_lost stepped gone⟩
      · by_cases now : MeasurementMapped label before
        · right
          intro transition member
          rcases List.mem_append.mp member with earlier | last
          · exact mapped transition earlier
          · obtain rfl := List.mem_singleton.mp last
            exact now
        · left
          rw [measurementMapped_iff, not_forall_not] at now
          obtain ⟨cause, drops⟩ := now
          have traced := (orderly_traced_of_trace trace).2
          obtain ⟨_, _, _, _, _, _, _, -, queued, -⟩ := id drops
          refine ⟨cause, ?_⟩
          rw [drops.sessions_eq stepped]
          exact traced.lost_of_discard queued

/-- In a run in which no database call throws, every acknowledged measurement
whose request has left the queue is stored for the sensor that its connection
was accepted as, if and only if the slot was mapped whenever the executor took a
measurement. -/
theorem acknowledged_stored_iff
    (trace : Trace (Undisturbs database) (start initial) taken server) :
    server.AllStored ↔
      ∀ transition ∈ taken, MeasurementMapped transition.label transition.before := by
  constructor
  · intro allStored
    rcases lost_or_mapped trace with ⟨cause, gone⟩ | mapped
    · have answers := (trace.keeps (accounted_start fun _ => True) fun _ _ _ steps holds =>
        Steps.accounted steps (fun _ _ => trivial) holds).1
      exact absurd allStored (not_allStored_of_lost answers gone)
    · exact mapped
  · intro mapped
    have accounted := (trace.keeps_of_meets
      (fun transition => MeasurementMapped transition.label transition.before)
      (accounted_start fun _ => False) mapped fun _ _ _ steps isMapped holds =>
        Steps.accounted steps (measurementMapped_iff.mp isMapped) holds).1
    exact allStored_of_accounted (orderly_traced_of_trace trace).2 accounted

/-- A connection sends a measurement, without INIT or after it, and the executor
takes what is queued. -/
def measured (before : List Label) : List Label :=
  .accept .sensor 0 5 .zero :: before ++
    [.sensorFrame 0 [109, 208, 7, 0, 0, 0, 0, 0, 0, 21, 0, 0, 0] (fun _ => 0) 0,
      .executeSensor 0 0]

/-- The measurement that is taken next is of a mapped slot. -/
def takesMapped : Label → Server δ → Bool
  | .executeSensor _ _, server =>
      server.sensorRequestsQueue.head?.all fun stamped =>
        match stamped.request with
        | .measurement slot _ _ => (server.clientToSensorId slot).isSome
        | _ => true
  | _, _ => true

theorem measurementMapped_of_takesMapped {label : Label}
    (taken : takesMapped label server = true) : MeasurementMapped label server := by
  rintro serverTime sent slot value time conn cause queue rfl queued
  simp only [takesMapped, queued, List.head?_cons, Option.all_some] at taken
  exact Option.isSome_iff_exists.mp taken

theorem acknowledged_stored_iff_accepted :
    ∃ taken server,
      Trace (Undisturbs DatabaseConnection.sample) (start Database.sample) taken server ∧
      server.log.contains (.addMeasurement 1 21 2 3) = true ∧ server.AllStored := by
  let played := playIf DatabaseConnection.sample takesMapped
    (measured [.sensorFrame 0 [105, 84] (fun _ => 0) 0, .executeSensor 0 0])
    (start Database.sample)
  have stored : played.map (fun server => server.log.contains (.addMeasurement 1 21 2 3)) =
      some true := by decide +kernel
  obtain ⟨server, reached, isStored⟩ := Option.map_eq_some_iff.mp stored
  have runs : Runs DatabaseConnection.sample
      (fun label server result => result = .ok () ∧ MeasurementMapped label server)
      (start Database.sample) server :=
    .of_playIf .refl (fun _ _ _ mapped => ⟨rfl, measurementMapped_of_takesMapped mapped⟩) reached
  obtain ⟨taken, trace, each⟩ := runs.undisturbs fun admitted => admitted.1
  exact ⟨taken, server, trace, isStored, (acknowledged_stored_iff trace).mpr
    fun transition member => (each transition member).choose_spec.2⟩

theorem acknowledged_dropped_beforeInit :
    ¬ ∀ taken server,
      Trace (Undisturbs DatabaseConnection.sample) (start Database.sample) taken server →
        server.AllStored := by
  intro claimed
  let played := play DatabaseConnection.sample (measured []) (start Database.sample)
  have facts : played.map (fun server => (server.sensorRequestsQueue, server.log)) =
      some ([], [.received 0 [109, 208, 7, 0, 0, 0, 0, 0, 0, 21, 0, 0, 0],
        .sent .sensor 0 (measureAnswer 2000)]) := by decide +kernel
  obtain ⟨server, reached, same⟩ := Option.map_eq_some_iff.mp facts
  obtain ⟨queue, log⟩ := Prod.mk.inj same
  obtain ⟨taken, trace, -⟩ := (Runs.of_play reached).undisturbs id
  have acknowledged : Acknowledged server.log 0
      [109, 208, 7, 0, 0, 0, 0, 0, 0, 21, 0, 0, 0] 2000 0 :=
    ⟨by rw [log]; rfl, rfl, by norm_num, by rw [log]; rfl⟩
  obtain ⟨index, sensorId, beyond, initCause, found, -, -⟩ :=
    claimed taken server trace _ _ _ _ acknowledged (by simp [queue])
  have member := List.mem_of_getElem? found
  simp [log, storingOf] at member

end Runs

end Server

end SensorManager
