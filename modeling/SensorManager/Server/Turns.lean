import SensorManager.Server.Outbound
import SensorManager.Server.ResponseOrder

/-!
# The steps of the threads and of the network

Every call of a thread, and every `trySend`, is one of few things for the
channels of the administrators and of the monitors: it takes slots away, accepts
a connection, pushes a question or hands out an answer.
-/

namespace SensorManager

open Framing Function Process

variable {δ κ α : Type}

namespace Server

variable {server after : Server δ} {channel : Channel}

/-- Nothing was sent on the channel, and no slot of it was given to anybody. -/
structure Fewer (channel : Channel) (before after : Server δ) : Prop where
  connections : before.connections ≤ after.connections
  holders : ∀ slot conn, after.holder channel slot = some conn →
    before.holder channel slot = some conn
  sentTo : after.sentTo channel = before.sentTo channel

theorem Fewer.refl (channel : Channel) (server : Server δ) : Fewer channel server server :=
  ⟨le_rfl, fun _ _ held => held, rfl⟩

theorem Fewer.trans {first second third : Server δ} (left : Fewer channel first second)
    (right : Fewer channel second third) : Fewer channel first third :=
  ⟨left.connections.trans right.connections,
    fun slot conn held => left.holders slot conn (right.holders slot conn held),
    right.sentTo.trans left.sentTo⟩

/-- What is done on another channel. -/
theorem Works.fewer {other : Channel} (works : Works channel server after)
    (different : other ≠ channel) : Fewer other server after := by
  obtain ⟨connections, others⟩ := works.other
  obtain ⟨handler, -, sentTo⟩ := others other different
  refine ⟨connections.ge, ?_, sentTo⟩
  intro slot conn held
  rw [holder, handler] at held
  exact held

theorem fewer_disconnectClient (server : Server δ) (channel : Channel) (slot : Int) :
    Fewer channel server (server.disconnectClient channel slot) := by
  refine ⟨(connections_disconnectClient slot server channel).ge, ?_,
    congrFun (sentTo_disconnectClient slot server channel) channel⟩
  intro other conn held
  rw [holder, handler_disconnectClient] at held
  cases holds : (server.handler channel).holder slot with
  | none =>
      rw [ClientsHandler.disconnectClient_free holds] at held
      exact held
  | some holder =>
      have serving : (server.handler channel).Serving := (server.handlers channel).property
      rw [ClientsHandler.disconnectClient_held serving holds,
        ClientsHandler.holder_disconnectHandler] at held
      by_cases same : other = slot
      · simp [same] at held
      · rwa [update_of_ne same] at held

theorem fewer_trySend (server : Server δ) (channel : Channel) (slot sent : Int) :
    Fewer channel server (server.trySend channel slot sent) := by
  have called : Fewer channel server (server.sendData channel slot sent) := by
    refine ⟨le_rfl, ?_, rfl⟩
    intro other conn held
    rw [holder, handler_sendData] at held
    have kept : ((server.handler channel).sendData slot sent).holder =
        (server.handler channel).holder := by
      apply ClientsHandler.holder_setClient
      · unfold Client.sendData
        split <;> rfl
      · unfold Client.sendData
        split <;> rfl
    rwa [kept] at held
  unfold trySend
  dsimp only
  split
  · split
    · exact called.trans (fewer_disconnectClient _ channel slot)
    · exact called
  · exact .refl channel server

/-- What a step means for the sensors: the listener or an executor serves them, one
of them connects, or they only lose a slot or some bytes. -/
inductive SensorTurn (server changed : Server δ) : Prop
  | serves (serves : Serves server changed)
  | accept {slot socket : Int} {service : SockAddr}
      (range : (server.handler .sensor).inRange slot = true) (bound : socket > -1)
      (accepted : changed = server.accept .sensor slot socket service)
  | fewer (fewer : Fewer .sensor server changed)

/-- What a network thread does. -/
inductive NetworkStep (server : Server δ) : Label → Server δ → Prop
  | accept {channel : Channel} {slot socket : Int} {service : SockAddr}
      (range : (server.handler channel).inRange slot = true)
      (free : server.holder channel slot = none) (bound : socket > -1) :
      NetworkStep server (.accept channel slot socket service)
        (server.accept channel slot socket service)
  | lost {channel : Channel} {slot : Int} :
      NetworkStep server (.lost channel slot) (server.disconnectClient channel slot)
  | sensorFrame {slot : Int} {msg : ByteString} {beyond : BytesParser.Memory} {sent : Int}
      {conn : Nat} :
      NetworkStep server (.sensorFrame slot msg beyond sent)
        (server.receiveSensorFrame slot msg beyond sent conn)
  | administratorFrame {slot : Int} {request : AdministratorRequest} {conn : Nat}
      (held : server.holder .administrator slot = some conn) :
      NetworkStep server (.administratorFrame slot request)
        (server.receiveAdministratorRequest slot request conn)
  | monitoringFrame {slot : Int} {request : MonitoringRequest} {conn : Nat}
      (held : server.holder .monitoring slot = some conn) :
      NetworkStep server (.monitoringFrame slot request)
        (server.receiveMonitoringRequest slot request conn)

/-- The sensor listener answers, queues a request or disconnects. -/
theorem serves_receiveSensorFrame (server : Server δ) (slot : Int) (msg : ByteString)
    (beyond : BytesParser.Memory) (sent : Int) (conn : Nat) :
    Serves server (server.receiveSensorFrame slot msg beyond sent conn) := by
  have noted : Serves server
      ((server.deliver .sensor slot msg).record (.received conn msg)) :=
    .trans (.deliver server slot msg) (.same rfl rfl rfl (sentTo_append rfl (by simp)))
  refine noted.trans ?_
  unfold receiveSensorFrame SensorListener.onGotRequest
  split
  · exact .trans (.lastAccepted _ _ _ sent) (.same rfl rfl rfl rfl)
  · exact .same rfl rfl rfl rfl
  · exact .disconnectClient _ _

theorem networkStep_of_ran {database : IDatabaseConnection δ} {label : Label}
    (network : label.isNetwork = true)
    (ran : (step database label).runOn server = some (.ok (), after)) :
    NetworkStep server label after := by
  cases label with
  | accept channel slot socket service =>
      simp only [step, Exec.runOn_get_bind, Exec.runOn_ite] at ran
      split at ran
      · next admitted =>
          cases ran
          simp only [Bool.and_eq_true, decide_eq_true_eq, Option.isNone_iff_eq_none] at admitted
          exact .accept admitted.1.1 admitted.1.2 admitted.2
      · cases ran
  | lost channel slot =>
      simp only [step, Exec.runOn_get_bind] at ran
      split at ran
      · cases ran
        exact .lost
      · cases ran
  | sensorFrame slot msg beyond sent =>
      simp only [step, Exec.runOn_get_bind] at ran
      split at ran
      · cases ran
        exact .sensorFrame
      · cases ran
  | administratorFrame slot request =>
      simp only [step, Exec.runOn_get_bind] at ran
      split at ran
      · next held =>
          cases ran
          exact .administratorFrame held
      · cases ran
  | monitoringFrame slot request =>
      simp only [step, Exec.runOn_get_bind] at ran
      split at ran
      · next held =>
          cases ran
          exact .monitoringFrame held
      · cases ran
  | executeSensor | executeAdministrator | sendAdministrator | executeMonitoring
  | sendMonitoring => cases network

/-- A step of a network thread on the channel of a lane. -/
theorem NetworkStep.moves {label : Label} (step : NetworkStep server label after)
    (notSensor : channel ≠ .sensor) :
    Fewer channel server after ∨ ∃ slot socket service,
      (server.handler channel).inRange slot = true ∧ socket > -1 ∧
        after = server.accept channel slot socket service := by
  cases step with
  | @accept accepting slot socket service range free bound =>
      by_cases isChannel : channel = accepting
      · subst isChannel
        exact .inr ⟨slot, socket, service, range, bound, rfl⟩
      · refine .inl ⟨Nat.le_succ _, ?_, rfl⟩
        intro other conn held
        rw [holder, handler_accept_other slot socket service server isChannel] at held
        exact held
  | @lost losing slot =>
      by_cases isChannel : channel = losing
      · subst isChannel
        exact .inl (fewer_disconnectClient server channel slot)
      · exact .inl ((Works.disconnectClient server slot).fewer isChannel)
  | sensorFrame => exact .inl ((serves_receiveSensorFrame ..).works.fewer notSensor)
  | administratorFrame | monitoringFrame => exact .inl ⟨le_rfl, fun _ _ held => held, rfl⟩

theorem NetworkStep.sensorTurn {label : Label} (step : NetworkStep server label after) :
    SensorTurn server after := by
  cases step with
  | @accept accepting slot socket service range free bound =>
      by_cases isSensor : accepting = .sensor
      · subst isSensor
        exact .accept range bound rfl
      · refine .fewer ⟨Nat.le_succ _, ?_, rfl⟩
        intro other conn held
        rw [holder, handler_accept_other slot socket service server (Ne.symm isSensor)] at held
        exact held
  | @lost losing slot =>
      by_cases isSensor : losing = .sensor
      · subst isSensor
        exact .serves (.disconnectClient server slot)
      · exact .fewer ((Works.disconnectClient server slot).fewer (Ne.symm isSensor))
  | sensorFrame => exact .serves (serves_receiveSensorFrame ..)
  | administratorFrame | monitoringFrame => exact .serves (.same rfl rfl rfl rfl)

/-- The client of a slot that is held has the slot for its id. -/
theorem holder_clientId {slot : Int} {conn : Nat}
    (held : server.holder channel slot = some conn) :
    server.holder channel ((server.handler channel).clientHandlers slot).clientId =
      some conn := by
  obtain ⟨-, live, -⟩ := ClientsHandler.holder_eq_some held
  have same := (server.handlers channel).property.clientId slot live
  rw [handler, same]
  exact held

theorem NetworkStep.buffered {label : Label} (step : NetworkStep server label after)
    (buffered : server.Buffered) : after.Buffered := by
  cases step with
  | accept range free bound => exact buffered.accept range free bound _
  | lost => exact (Works.disconnectClient server _).buffered buffered
  | sensorFrame => exact (serves_receiveSensorFrame ..).works.buffered buffered
  | administratorFrame | monitoringFrame => exact buffered

end Server

namespace Side

open Server

/-- What a step of some thread means for the channel of a lane: the network
thread pushes a question of the holder of its slot, or the sender hands out an
answer. -/
inductive Turns (lane : Lane δ κ α) (channel : Channel) (serialize : α → ByteString)
    (clientIn : κ → Int) (before : Side δ κ α) (server : Server δ) :
    Side δ κ α → Server δ → Prop
  | fewer {after : Side δ κ α} {changed : Server δ} (asked : after.asked = before.asked)
      (handed : after.handed = before.handed) (fewer : Fewer channel server changed) :
      Turns lane channel serialize clientIn before server after changed
  | accept {slot socket : Int} {service : SockAddr} {after : Side δ κ α} {changed : Server δ}
      (asked : after.asked = before.asked) (handed : after.handed = before.handed)
      (range : (server.handler channel).inRange slot = true) (bound : socket > -1)
      (accepted : changed = server.accept channel slot socket service) :
      Turns lane channel serialize clientIn before server after changed
  | ask {stamped : Stamped κ} {after : Side δ κ α} {changed : Server δ}
      (asked : after.asked = before.asked ++ [stamped]) (handed : after.handed = before.handed)
      (held : server.holder channel (clientIn stamped.request) = some stamped.conn)
      (fewer : Fewer channel server changed) :
      Turns lane channel serialize clientIn before server after changed
  | hand {response : Stamped α} {sent : Int} {after : Side δ κ α} {changed : Server δ}
      (busy : before.sender = some response) (asked : after.asked = before.asked)
      (handed : after.handed = before.handed ++ [response])
      (answers : response ∈ (Pipeline.answered before.finished).map Prod.snd)
      (sends : changed =
        server.send channel (lane.clientId response.request) (serialize response.request) sent) :
      Turns lane channel serialize clientIn before server after changed

variable {lane : Lane δ κ α} {channel : Channel} {serialize : α → ByteString}
  {clientIn : κ → Int} {side after : Side δ κ α} {server changed : Server δ}

/-- The executor that is at work has only calls for the database and the sensors
left. -/
def Working (side : Side δ κ α) (server : Server δ) : Prop :=
  ∀ stamped process, side.executor = some (stamped, process) →
    process.Safe (fun _ _ => True) Serves server

theorem Working.of_any (working : Working side server) (changed : Server δ) :
    Working side changed :=
  fun stamped process busy => (working stamped process busy).of_rely trivial

theorem turns_pushed (queue : lane.requests changed = lane.requests server)
    (moves : Fewer channel server changed ∨ ∃ slot socket service,
      (server.handler channel).inRange slot = true ∧ socket > -1 ∧
        changed = server.accept channel slot socket service) :
    Turns lane channel serialize clientIn side server (side.pushed lane server changed)
      changed := by
  have nothing : side.pushed lane server changed = side := by
    simp [Side.pushed, queue]
  rw [nothing]
  rcases moves with fewer | ⟨slot, socket, service, range, bound, accepted⟩
  · exact .fewer rfl rfl fewer
  · exact .accept rfl rfl range bound accepted

theorem turns_asked {stamped : Stamped κ}
    (queue : lane.requests changed = lane.requests server ++ [stamped])
    (held : server.holder channel (clientIn stamped.request) = some stamped.conn)
    (fewer : Fewer channel server changed) :
    Turns lane channel serialize clientIn side server (side.pushed lane server changed) changed :=
  .ask (by simp [Side.pushed, queue]) rfl held fewer

/-- An answer that is handed out is the one that the sender has in hand. -/
theorem Turns.sender_of_handed {response : Stamped α}
    (turns : Turns lane channel serialize clientIn side server after changed)
    (hands : after.handed = side.handed ++ [response]) : side.sender = some response := by
  have grown : after.handed ≠ side.handed := by
    rw [hands]
    simp
  cases turns with
  | fewer asked handed fewer => exact absurd handed grown
  | accept asked handed range bound accepted => exact absurd handed grown
  | ask asked handed held fewer => exact absurd handed grown
  | hand busy asked handed answers sends =>
      obtain rfl : _ = response := by simpa using handed.symm.trans hands
      exact busy

/-- A sender that has no answer in hand hands none out. -/
theorem Turns.handed_of_idle
    (turns : Turns lane channel serialize clientIn side server after changed)
    (idle : side.sender = none) : after.handed = side.handed := by
  cases turns with
  | fewer asked handed fewer => exact handed
  | accept asked handed range bound accepted => exact handed
  | ask asked handed held fewer => exact handed
  | hand busy => cases idle.symm.trans busy

/-- The lane answers with messages on its channel, and its queues are nothing to
the clients. -/
structure Posts (lane : Lane δ κ α) (channel : Channel) (serialize : α → ByteString) :
    Prop where
  notSensor : channel ≠ .sensor
  nonempty : ∀ response, serialize response ≠ []
  setRequests : ∀ server queue, Serves server (lane.setRequests server queue)
  setResponses : ∀ server queue, Serves server (lane.setResponses server queue)
  hand : ∀ server response sent, lane.hand server response sent =
    server.send channel (lane.clientId response) (serialize response) sent

section Steps

theorem serves_take {execute : Stamped κ → Pass δ α} (posts : Posts lane channel serialize)
    (always : ∀ stamped, (execute stamped).Always Serves)
    (taken : side.take lane execute server = some (after, changed)) :
    Serves server changed ∧ after.asked = side.asked ∧ after.handed = side.handed ∧
      Working after changed := by
  unfold Side.take at taken
  split at taken
  · next stamped queue _ _ =>
      cases taken
      refine ⟨posts.setRequests _ _, rfl, rfl, ?_⟩
      intro other process busy
      cases busy
      exact (always stamped).safe _
  · cases taken

theorem serves_execute (posts : Posts lane channel serialize) (working : Working side server)
    (executed : side.execute lane server = some (after, changed)) :
    Serves server changed ∧ after.asked = side.asked ∧ after.handed = side.handed ∧
      Working after changed := by
  unfold Side.execute at executed
  split at executed
  · cases executed
  · cases executed
    exact ⟨posts.setResponses _ _, rfl, rfl, by simp [Working]⟩
  · cases executed
    exact ⟨.same rfl rfl rfl rfl, rfl, rfl, by simp [Working]⟩
  · next stamped process _ _ busy =>
      obtain ⟨⟨later, reached⟩, stepped, same⟩ := Option.map_eq_some_iff.mp executed
      cases same
      obtain ⟨serves, goesOn⟩ := (working stamped process busy).of_step stepped
      refine ⟨serves, rfl, rfl, ?_⟩
      intro other next atWork
      cases atWork
      exact goesOn

theorem serves_pick (posts : Posts lane channel serialize) (working : Working side server)
    (picked : side.pick lane server = some (after, changed)) :
    Serves server changed ∧ after.asked = side.asked ∧ after.handed = side.handed ∧
      Working after changed := by
  unfold Side.pick at picked
  split at picked
  · cases picked
    exact ⟨posts.setResponses _ _, rfl, rfl, working.of_any _⟩
  · cases picked

/-- The sender works on its channel. -/
theorem works_hand {sent : Int} (posts : Posts lane channel serialize)
    (handed : side.hand lane sent server = some (after, changed)) :
    Works channel server changed := by
  unfold Side.hand at handed
  split at handed
  · cases handed
  · split at handed
    · cases handed
      rw [posts.hand]
      exact .send server _ (posts.nonempty _) sent
    · cases handed
      exact .same rfl rfl rfl rfl

/-- The sender hands out an answer. -/
theorem turns_hand {sent : Int} {programs : κ → Pass δ α → Prop} {η : Type}
    {keyIn : κ → Int × η} {keyOf : α → Int × η} (posts : Posts lane channel serialize)
    (keyed : ∀ stamped response, Computed programs stamped response →
      keyOf response.request = keyIn stamped.request)
    (client : ∀ response, lane.clientId response = (keyOf response).1)
    (sound : Sound lane programs keyIn keyOf side server) (working : Working side server)
    (handed : side.hand lane sent server = some (after, changed)) :
    Working after changed ∧
      Turns lane channel serialize clientIn side server after changed := by
  unfold Side.hand at handed
  split at handed
  · cases handed
  · next response busy =>
      rw [if_pos (sound.sender_ne keyed client busy)] at handed
      cases handed
      rw [posts.hand]
      refine ⟨working.of_any _, .hand busy rfl rfl ?_ rfl⟩
      have answers := sound.coherent.answers
      change side.handed ++ side.sender.toList ++ lane.responses server =
        (Pipeline.answered side.finished).map Prod.snd at answers
      rw [← answers, busy]
      simp

end Steps

end Side

/-- What happens at the server: a call of one of its threads, or the `trySend` of
a network thread on a slot. -/
inductive OutLabel where
  | thread (label : ThreadLabel)
  | trySend (channel : Channel) (slot sent : Int)

namespace Threads

open Side Server

variable {database : IDatabaseConnection δ} {threads after : Threads δ}

def outStep (database : IDatabaseConnection δ) : OutLabel → Threads δ → Option (Threads δ)
  | .thread label, threads => step database label threads
  | .trySend channel slot sent, threads =>
      some { threads with server := threads.server.trySend channel slot sent }

/-- The states that any order of the steps leads to, as long as each of them meets
a condition. -/
inductive OutRun (database : IDatabaseConnection δ) (meets : Threads δ → Threads δ → Prop)
    (initial : Threads δ) : Threads δ → Prop
  | start : OutRun database meets initial initial
  | next {before after : Threads δ} (label : OutLabel)
      (run : OutRun database meets initial before)
      (stepped : outStep database label before = some after) (met : meets before after) :
      OutRun database meets initial after

/-- A step that meets the condition. -/
def OutGoes (database : IDatabaseConnection δ) (meets : Threads δ → Threads δ → Prop)
    (before after : Threads δ) : Prop :=
  (∃ label, outStep database label before = some after) ∧ meets before after

theorem OutRun.goes {meets : Threads δ → Threads δ → Prop} {initial : Threads δ}
    (run : OutRun database meets initial threads) :
    Relation.ReflTransGen (OutGoes database meets) initial threads := by
  induction run with
  | start => exact .refl
  | next label _ stepped met ih => exact ih.tail ⟨⟨label, stepped⟩, met⟩

theorem OutRun.of_goes {meets : Threads δ → Threads δ → Prop} {initial : Threads δ}
    (goes : Relation.ReflTransGen (OutGoes database meets) initial threads) :
    OutRun database meets initial threads := by
  induction goes with
  | refl => exact .start
  | tail _ moved ih =>
      obtain ⟨⟨label, stepped⟩, met⟩ := moved
      exact ih.next label stepped met

theorem executors_of_outStep {label : OutLabel}
    (stepped : outStep database label threads = some after) :
    AdministratorsExecutor database threads after ∧ MonitoringExecutor database threads after := by
  cases label with
  | trySend channel slot sent =>
      cases stepped
      exact ⟨.same rfl rfl, .same rfl rfl⟩
  | thread label => exact executors_of_threadStep stepped

/-- What the executor of the administrators has returned for a question in the run. -/
abbrev AdministratorExecuted (database : IDatabaseConnection δ)
    (meets : Threads δ → Threads δ → Prop) (initial threads : Threads δ) :=
  Executed (OutGoes database meets) (·.administrators) (administratorPrograms database) initial
    threads

abbrev MonitoringExecuted (database : IDatabaseConnection δ)
    (meets : Threads δ → Threads δ → Prop) (initial threads : Threads δ) :=
  Executed (OutGoes database meets) (·.monitoring) (monitoringPrograms database) initial threads

theorem OutRun.administratorPasses {meets : Threads δ → Threads δ → Prop} {content : δ}
    (run : OutRun database meets (Threads.start content) threads) :
    OwnPasses (OutGoes database meets) (·.administrators) (administratorPrograms database)
      (Threads.start content) threads :=
  ownPasses_of_run (fun _ _ ⟨⟨_, stepped⟩, _⟩ => (executors_of_outStep stepped).1) rfl
    run.goes

theorem OutRun.monitoringPasses {meets : Threads δ → Threads δ → Prop} {content : δ}
    (run : OutRun database meets (Threads.start content) threads) :
    OwnPasses (OutGoes database meets) (·.monitoring) (monitoringPrograms database)
      (Threads.start content) threads :=
  ownPasses_of_run (fun _ _ ⟨⟨_, stepped⟩, _⟩ => (executors_of_outStep stepped).2) rfl
    run.goes

theorem administratorLane_posts : Side.Posts (administratorLane δ) .administrator
    SerializerAdministratorMessage.serializeResponseMessage :=
  ⟨by decide, SerializerAdministratorMessage.serializeResponseMessage_ne_nil,
    fun _ _ => .same rfl rfl rfl rfl, fun _ _ => .same rfl rfl rfl rfl, fun _ _ _ => rfl⟩

theorem monitoringLane_posts : Side.Posts (monitoringLane δ) .monitoring
    SerializerMonitoringMessage.serializeResponseMessage :=
  ⟨by decide, SerializerMonitoringMessage.serializeResponseMessage_ne_nil,
    fun _ _ => .same rfl rfl rfl rfl, fun _ _ => .same rfl rfl rfl rfl, fun _ _ _ => rfl⟩

/-- What a step means for the channel of the administrators. -/
abbrev AdministratorsTurn (before after : Threads δ) : Prop :=
  Turns (administratorLane δ) .administrator
    SerializerAdministratorMessage.serializeResponseMessage
    (fun request => (administratorKey request).1) before.administrators before.server
    after.administrators after.server

abbrev MonitoringTurn (before after : Threads δ) : Prop :=
  Turns (monitoringLane δ) .monitoring SerializerMonitoringMessage.serializeResponseMessage
    (fun request => (monitoringKey request).1) before.monitoring before.server
    after.monitoring after.server

theorem administratorsTurn_of_step {label : Label} {server changed : Server δ}
    (side : Side δ AdministratorRequest AdministratorResponse)
    (step : NetworkStep server label changed) :
    Turns (administratorLane δ) .administrator
      SerializerAdministratorMessage.serializeResponseMessage
      (fun request => (administratorKey request).1) side server
      (side.pushed (administratorLane δ) server changed) changed := by
  have moves := step.moves (by decide : Channel.administrator ≠ .sensor)
  cases step with
  | accept => exact turns_pushed rfl moves
  | @lost channel slot =>
      exact turns_pushed (quiet_disconnectClient server channel slot).administratorRequests moves
  | @sensorFrame slot msg beyond sent conn =>
      exact turns_pushed
        (quiet_receiveSensorFrame server slot msg beyond sent conn).administratorRequests moves
  | administratorFrame held =>
      exact turns_asked rfl (holder_clientId held) ⟨le_rfl, fun _ _ held => held, rfl⟩
  | monitoringFrame => exact turns_pushed rfl moves

theorem monitoringTurn_of_step {label : Label} {server changed : Server δ}
    (side : Side δ MonitoringRequest MonitoringResponse)
    (step : NetworkStep server label changed) :
    Turns (monitoringLane δ) .monitoring SerializerMonitoringMessage.serializeResponseMessage
      (fun request => (monitoringKey request).1) side server
      (side.pushed (monitoringLane δ) server changed) changed := by
  have moves := step.moves (by decide : Channel.monitoring ≠ .sensor)
  cases step with
  | accept => exact turns_pushed rfl moves
  | @lost channel slot =>
      exact turns_pushed (quiet_disconnectClient server channel slot).monitoringRequests moves
  | @sensorFrame slot msg beyond sent conn =>
      exact turns_pushed
        (quiet_receiveSensorFrame server slot msg beyond sent conn).monitoringRequests moves
  | administratorFrame => exact turns_pushed rfl moves
  | monitoringFrame held =>
      exact turns_asked rfl (holder_clientId held) ⟨le_rfl, fun _ _ held => held, rfl⟩

/-- The executors that are at work only have calls for the database and the
sensors left. -/
structure AtWork (threads : Threads δ) : Prop where
  sensor : ∀ process, threads.sensorExecutor = some process →
    process.Safe (fun _ _ => True) Serves threads.server
  administrators : Working threads.administrators threads.server
  monitoring : Working threads.monitoring threads.server

/-- The bytes of the connections that live on are not lost, doubled or mixed. -/
def CarriesAll (before after : Server δ) : Prop :=
  ∀ channel slot conn, before.holder channel slot = some conn →
    after.holder channel slot = some conn → Carries channel slot conn before after

/-- Every step works on the clients of one channel, or accepts a connection, and
is a turn of all channels. -/
structure Turned (before after : Threads δ) : Prop where
  buffered : before.server.Buffered → after.server.Buffered
  carries : before.server.Buffered → CarriesAll before.server after.server
  atWork : AtWork after
  administrators : AdministratorsTurn before after
  monitoring : MonitoringTurn before after
  sensors : SensorTurn before.server after.server

theorem AtWork.of_any (atWork : AtWork threads) (server : Server δ) :
    AtWork { threads with server := server } :=
  ⟨fun process busy => (atWork.sensor process busy).of_rely trivial,
    atWork.administrators.of_any server, atWork.monitoring.of_any server⟩

theorem carriesAll_of_works {channel : Channel} {before after : Server δ}
    (works : Works channel before after) (buffered : before.Buffered) :
    CarriesAll before after :=
  fun _ _ _ _ held => (works.carries buffered held).2

/-- A step that only works on the sensors. -/
theorem turned_of_sensor (serves : Serves threads.server after.server)
    (atWork : AtWork after) (administrators : after.administrators.asked =
      threads.administrators.asked ∧ after.administrators.handed = threads.administrators.handed)
    (monitoring : after.monitoring.asked = threads.monitoring.asked ∧
      after.monitoring.handed = threads.monitoring.handed) : Turned threads after :=
  ⟨serves.works.buffered, carriesAll_of_works serves.works, atWork,
    .fewer administrators.1 administrators.2 (serves.works.fewer (by decide)),
    .fewer monitoring.1 monitoring.2 (serves.works.fewer (by decide)), .serves serves⟩

theorem carriesAll_of_networkStep {label : Label} {server changed : Server δ}
    (step : NetworkStep server label changed) (buffered : server.Buffered) :
    CarriesAll server changed := by
  cases step with
  | accept range free bound => exact fun _ _ _ held _ => carries_accept free _ held
  | lost => exact carriesAll_of_works (.disconnectClient server _) buffered
  | sensorFrame => exact carriesAll_of_works (serves_receiveSensorFrame ..).works buffered
  | administratorFrame | monitoringFrame => exact fun _ _ _ _ _ => .of_same rfl rfl rfl

/-- The network threads accept connections, take slots away, and push questions. -/
theorem turned_of_network {label : Label} (atWork : AtWork threads)
    (stepped : network database label threads = some after) : Turned threads after := by
  unfold Threads.network at stepped
  split at stepped
  · next isNetwork =>
      split at stepped
      · next server ran =>
          cases stepped
          have step := networkStep_of_ran isNetwork ran
          refine ⟨step.buffered, carriesAll_of_networkStep step, ⟨?_, ?_, ?_⟩,
            administratorsTurn_of_step _ step, monitoringTurn_of_step _ step, step.sensorTurn⟩
          · exact fun process busy => (atWork.sensor process busy).of_rely trivial
          · exact fun stamped process busy =>
              (atWork.administrators stamped process busy).of_rely trivial
          · exact fun stamped process busy =>
              (atWork.monitoring stamped process busy).of_rely trivial
      · cases stepped
  · cases stepped

theorem turned_of_takeSensor {serverTime sent : Int} (atWork : AtWork threads)
    (stepped : takeSensor database serverTime sent threads = some after) :
    Turned threads after := by
  unfold Threads.takeSensor at stepped
  split at stepped
  · next stamped queue _ _ =>
      cases stepped
      refine turned_of_sensor (.same rfl rfl rfl rfl) ⟨?_, ?_, ?_⟩ ⟨rfl, rfl⟩ ⟨rfl, rfl⟩
      · intro process busy
        cases busy
        exact (Pass.serves_executeSensorRequest stamped serverTime sent).safe _
      · exact atWork.administrators.of_any _
      · exact atWork.monitoring.of_any _
  · cases stepped

theorem turned_of_executeSensor (atWork : AtWork threads)
    (stepped : executeSensor threads = some after) : Turned threads after := by
  unfold Threads.executeSensor at stepped
  split at stepped
  · cases stepped
  · cases stepped
    exact turned_of_sensor (.same rfl rfl rfl rfl)
      ⟨by simp, atWork.administrators.of_any _, atWork.monitoring.of_any _⟩ ⟨rfl, rfl⟩ ⟨rfl, rfl⟩
  · next process _ busy =>
      obtain ⟨⟨later, server⟩, moved, rfl⟩ := Option.map_eq_some_iff.mp stepped
      obtain ⟨serves, goesOn⟩ := (atWork.sensor process busy).of_step moved
      refine turned_of_sensor serves ⟨?_, ?_, ?_⟩ ⟨rfl, rfl⟩ ⟨rfl, rfl⟩
      · intro next working
        cases working
        exact goesOn
      · exact atWork.administrators.of_any _
      · exact atWork.monitoring.of_any _

/-- A step on the side of the administrators that hands out no answer. -/
theorem turned_of_onAdministrators
    {change : Side δ AdministratorRequest AdministratorResponse → Server δ →
      Option (Side δ AdministratorRequest AdministratorResponse × Server δ)}
    (atWork : AtWork threads)
    (serves : ∀ side server, change threads.administrators threads.server = some (side, server) →
      Serves threads.server server ∧ side.asked = threads.administrators.asked ∧
        side.handed = threads.administrators.handed ∧ Working side server)
    (stepped : onAdministrators change threads = some after) : Turned threads after := by
  obtain ⟨⟨side, server⟩, changed, rfl⟩ := Option.map_eq_some_iff.mp stepped
  obtain ⟨serves, asked, handed, working⟩ := serves side server changed
  exact turned_of_sensor serves
    ⟨fun process busy => (atWork.sensor process busy).of_rely trivial, working,
      atWork.monitoring.of_any _⟩ ⟨asked, handed⟩ ⟨rfl, rfl⟩

theorem turned_of_onMonitoring
    {change : Side δ MonitoringRequest MonitoringResponse → Server δ →
      Option (Side δ MonitoringRequest MonitoringResponse × Server δ)}
    (atWork : AtWork threads)
    (serves : ∀ side server, change threads.monitoring threads.server = some (side, server) →
      Serves threads.server server ∧ side.asked = threads.monitoring.asked ∧
        side.handed = threads.monitoring.handed ∧ Working side server)
    (stepped : onMonitoring change threads = some after) : Turned threads after := by
  obtain ⟨⟨side, server⟩, changed, rfl⟩ := Option.map_eq_some_iff.mp stepped
  obtain ⟨serves, asked, handed, working⟩ := serves side server changed
  exact turned_of_sensor serves
    ⟨fun process busy => (atWork.sensor process busy).of_rely trivial,
      atWork.administrators.of_any _, working⟩ ⟨rfl, rfl⟩ ⟨asked, handed⟩

theorem turned_of_trySend (atWork : AtWork threads) (channel : Channel) (slot sent : Int) :
    Turned threads { threads with server := threads.server.trySend channel slot sent } := by
  have works := works_trySend threads.server channel slot sent
  have fewer : ∀ other, Fewer other threads.server
      (threads.server.trySend channel slot sent) := by
    intro other
    by_cases isChannel : other = channel
    · subst isChannel
      exact fewer_trySend threads.server other slot sent
    · exact works.fewer isChannel
  exact ⟨works.buffered, carriesAll_of_works works, atWork.of_any _, .fewer rfl rfl (fewer _),
    .fewer rfl rfl (fewer _), .fewer (fewer _)⟩

theorem turned_of_step {label : OutLabel} (sound : threads.Sound database)
    (atWork : AtWork threads)
    (stepped : outStep database label threads = some after) : Turned threads after := by
  cases label with
  | trySend channel slot sent =>
      cases stepped
      exact turned_of_trySend atWork channel slot sent
  | thread label =>
      cases label with
      | network label => exact turned_of_network atWork stepped
      | takeSensor serverTime sent => exact turned_of_takeSensor atWork stepped
      | executeSensor => exact turned_of_executeSensor atWork stepped
      | takeAdministrator rands sent =>
          refine turned_of_onAdministrators atWork (fun side server taken => ?_) stepped
          exact serves_take administratorLane_posts (fun stamped =>
            Pass.serves_executeAdministratorRequest stamped.request rands sent) taken
      | executeAdministrator =>
          refine turned_of_onAdministrators atWork (fun side server executed => ?_) stepped
          exact serves_execute administratorLane_posts atWork.administrators executed
      | pickAdministrator =>
          refine turned_of_onAdministrators atWork (fun side server picked => ?_) stepped
          exact serves_pick administratorLane_posts atWork.administrators picked
      | handAdministrator sent =>
          obtain ⟨⟨side, server⟩, handed, rfl⟩ := Option.map_eq_some_iff.mp stepped
          have works := works_hand administratorLane_posts handed
          obtain ⟨working, turns⟩ := turns_hand administratorLane_posts
            administrator_keyed (fun _ => rfl) sound.administrators atWork.administrators handed
          exact ⟨works.buffered, carriesAll_of_works works,
            ⟨fun process busy => (atWork.sensor process busy).of_rely trivial, working,
              atWork.monitoring.of_any _⟩, turns, .fewer rfl rfl (works.fewer (by decide)),
            .fewer (works.fewer (by decide))⟩
      | takeMonitoring =>
          refine turned_of_onMonitoring atWork (fun side server taken => ?_) stepped
          exact serves_take monitoringLane_posts
            (fun stamped => Pass.serves_executeMonitoringRequest stamped.request) taken
      | executeMonitoring =>
          refine turned_of_onMonitoring atWork (fun side server executed => ?_) stepped
          exact serves_execute monitoringLane_posts atWork.monitoring executed
      | pickMonitoring =>
          refine turned_of_onMonitoring atWork (fun side server picked => ?_) stepped
          exact serves_pick monitoringLane_posts atWork.monitoring picked
      | handMonitoring sent =>
          obtain ⟨⟨side, server⟩, handed, rfl⟩ := Option.map_eq_some_iff.mp stepped
          have works := works_hand monitoringLane_posts handed
          obtain ⟨working, turns⟩ := turns_hand monitoringLane_posts
            monitoring_keyed (fun _ => rfl) sound.monitoring atWork.monitoring handed
          exact ⟨works.buffered, carriesAll_of_works works,
            ⟨fun process busy => (atWork.sensor process busy).of_rely trivial,
              atWork.administrators.of_any _, working⟩,
            .fewer rfl rfl (works.fewer (by decide)), turns, .fewer (works.fewer (by decide))⟩

/-- What holds however the steps are ordered. -/
structure Outbound (database : IDatabaseConnection δ) (threads : Threads δ) : Prop where
  sound : threads.Sound database
  buffered : threads.server.Buffered
  atWork : AtWork threads

theorem outbound_start (content : δ) : Outbound database (start content) :=
  ⟨sound_start content, buffered_start content,
    ⟨by simp [start], by simp [Working, start], by simp [Working, start]⟩⟩

theorem sameQueues_trySend (server : Server δ) (channel : Channel) (slot sent : Int) :
    SameQueues server (server.trySend channel slot sent) := by
  have called : Quiet server (server.sendData channel slot sent) := ⟨⟨rfl, rfl, rfl, rfl⟩, rfl⟩
  unfold trySend
  dsimp only
  split
  · split
    · exact (called.trans (quiet_disconnectClient _ channel slot)).toSameQueues
    · exact called.toSameQueues
  · exact ⟨rfl, rfl, rfl, rfl⟩

theorem Outbound.step {label : OutLabel} (outbound : threads.Outbound database)
    (stepped : outStep database label threads = some after) : after.Outbound database := by
  have turned := turned_of_step outbound.sound outbound.atWork stepped
  refine ⟨?_, turned.buffered outbound.buffered, turned.atWork⟩
  cases label with
  | thread label => exact outbound.sound.step stepped
  | trySend channel slot sent =>
      cases stepped
      exact outbound.sound.of_same (sameQueues_trySend ..) fun process busy =>
        (outbound.sound.sensorExecutor process busy).of_rely trivial

theorem OutRun.outbound {meets : Threads δ → Threads δ → Prop} {content : δ}
    (run : OutRun database meets (Threads.start content) threads) : threads.Outbound database := by
  induction run with
  | start => exact outbound_start content
  | next label _ stepped _ ih => exact ih.step stepped

theorem OutRun.whole {meets : Threads δ → Threads δ → Prop} {content : δ}
    (run : OutRun database meets (Threads.start content) threads) {channel : Channel}
    {slot : Int} {conn : Nat} (held : threads.server.holder channel slot = some conn) :
    threads.server.taken channel conn ++ threads.server.outBuffer channel slot =
      wire.encode (threads.server.sentTo channel conn) :=
  (run.outbound.buffered channel).whole slot conn held

/-- Whatever the order of the calls and however the sockets take the bytes, what the
socket of a live connection has taken and what is in its output buffer are the
frames of the messages that were sent to it, and in every step the socket takes
bytes from the front of the buffer while the frames of new messages come to its
end. -/
theorem bytes_in_order {meets : Threads δ → Threads δ → Prop} {content : δ}
    (run : OutRun database meets (Threads.start content) threads) {channel : Channel}
    {slot : Int} {conn : Nat} (held : threads.server.holder channel slot = some conn) :
    threads.server.taken channel conn ++ threads.server.outBuffer channel slot =
        wire.encode (threads.server.sentTo channel conn) ∧
      ∀ label after, outStep database label threads = some after →
        after.server.holder channel slot = some conn →
        Carries channel slot conn threads.server after.server := by
  have outbound := run.outbound
  refine ⟨run.whole held, ?_⟩
  intro label after stepped stillHeld
  have turned := turned_of_step outbound.sound outbound.atWork stepped
  exact turned.carries outbound.buffered channel slot conn held stillHeld

/-- The steps are taken one after the other, each of them passing `check`. -/
def playOut (database : IDatabaseConnection δ) (check : Threads δ → Bool) :
    List OutLabel → Threads δ → Option (Threads δ)
  | [], threads => some threads
  | label :: labels, threads =>
      if check threads then
        (outStep database label threads).bind (playOut database check labels)
      else none

theorem OutRun.of_playOut {check : Threads δ → Bool} {meets : Threads δ → Threads δ → Prop}
    {labels : List OutLabel} {content : δ}
    (sound : ∀ {label before after}, Outbound database before → check before = true →
      outStep database label before = some after → meets before after)
    (run : OutRun database meets (Threads.start content) threads)
    (played : playOut database check labels threads = some after) :
    OutRun database meets (Threads.start content) after := by
  induction labels generalizing threads with
  | nil =>
      cases played
      exact run
  | cons label labels ih =>
      rw [playOut] at played
      split at played
      · next checked =>
          obtain ⟨middle, stepped, goesOn⟩ := Option.bind_eq_some_iff.mp played
          exact ih (run.next label stepped (sound run.outbound checked stepped)) goesOn
      · cases played

/-- The socket of an administrator takes half of its answer. -/
def halfAnswer : List OutLabel :=
  [.thread (.network (.accept .administrator 0 5 .zero)),
    .thread (.network (.administratorFrame 0 { clientId := 0, commandType := .getAllSensors })),
    .thread (.takeAdministrator [] 0), .thread .executeAdministrator,
    .thread .executeAdministrator, .thread .pickAdministrator, .thread (.handAdministrator 6)]

theorem bytes_in_order_halfAnswer :
    ∃ threads : Threads Database,
      threads.server.taken .administrator 0 = [8, 0, 0, 0, 0, 0] ∧
      threads.server.outBuffer .administrator 0 = [0, 0, 0, 0, 0, 0] ∧
      threads.server.taken .administrator 0 ++ threads.server.outBuffer .administrator 0 =
        wire.encode (threads.server.sentTo .administrator 0) := by
  have played : (playOut DatabaseConnection.sample (fun _ => true) halfAnswer
      (Threads.start Database.sample)).map (fun threads =>
        (threads.server.holder .administrator 0, threads.server.taken .administrator 0,
          threads.server.outBuffer .administrator 0)) =
      some (some 0, [8, 0, 0, 0, 0, 0], [0, 0, 0, 0, 0, 0]) := by decide +kernel
  obtain ⟨threads, reached, facts⟩ := Option.map_eq_some_iff.mp played
  simp only [Prod.mk.injEq] at facts
  obtain ⟨held, taken, outBuffer⟩ := facts
  have run : OutRun DatabaseConnection.sample (fun _ _ => True) (Threads.start Database.sample)
      threads := .of_playOut (fun _ _ _ => trivial) .start reached
  exact ⟨threads, taken, outBuffer, (bytes_in_order run held).1⟩

end Threads

end SensorManager
