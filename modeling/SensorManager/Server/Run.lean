import SensorManager.Lib.Trace
import SensorManager.Server.ServerModel

/-!
# Runs of the server

The threads of the server take turns: the network thread of a channel accepts
a connection, receives a complete frame or finds a connection gone, and each
executor and sender takes one item from its queue and handles it.  Such a pass, with
its database calls and sends, is one step here; `Server.Threads` cuts it at the calls.
-/

namespace SensorManager

/-- What one thread does next, with the answers of the operating system that it
gets.  The requests of administrators and monitors appear as their serializers
have decoded them. -/
inductive Label where
  | accept (channel : Channel) (slot socket : Int) (service : SockAddr)
  | lost (channel : Channel) (slot : Int)
  | sensorFrame (slot : Int) (msg : ByteString) (beyond : BytesParser.Memory) (sent : Int)
  | administratorFrame (slot : Int) (request : AdministratorRequest)
  | monitoringFrame (slot : Int) (request : MonitoringRequest)
  | executeSensor (serverTime sent : Int)
  | executeAdministrator (rands : List (Vector Nat 15)) (sent : Int)
  | sendAdministrator (sent : Int)
  | executeMonitoring
  | sendMonitoring (sent : Int)

namespace Server

variable {δ : Type}

/-- `tryAccept` binds a new connection to a free slot. -/
def accept (server : Server δ) (channel : Channel) (slot socket : Int)
    (service : SockAddr) : Server δ :=
  let handler := server.handlers channel
  { server.setHandler channel
      ⟨handler.val.bindHandler slot socket service [] server.connections,
        handler.property.bindHandler slot socket service [] server.connections⟩ with
    connections := server.connections + 1 }

/-- `recvData` on the client of a slot has completed a message. -/
def deliver (server : Server δ) (channel : Channel) (slot : Int) (msg : ByteString) :
    Server δ :=
  let handler := server.handlers channel
  server.setHandler channel ⟨handler.val.deliver slot msg, handler.property.deliver slot msg⟩

/-- A frame arrives from a sensor and the listener is called. -/
def receiveSensorFrame (server : Server δ) (slot : Int) (msg : ByteString)
    (beyond : BytesParser.Memory) (sent : Int) (conn : Nat) : Server δ :=
  let clientId := ((server.handler .sensor).clientHandlers slot).clientId
  SensorListener.onGotRequest
    ((server.deliver .sensor slot msg).record (.received conn msg))
    clientId msg beyond sent conn server.log.length

/-- `onGotRequest` of the administrator listener. -/
def receiveAdministratorRequest (server : Server δ) (slot : Int)
    (request : AdministratorRequest) (conn : Nat) : Server δ :=
  let clientId := ((server.handler .administrator).clientHandlers slot).clientId
  server.addAdministratorRequestToExecute
    { request := { request with clientId := clientId }
      conn := conn
      cause := server.log.length }

/-- `onGotRequest` of the monitoring listener. -/
def receiveMonitoringRequest (server : Server δ) (slot : Int)
    (request : MonitoringRequest) (conn : Nat) : Server δ :=
  let clientId := ((server.handler .monitoring).clientHandlers slot).clientId
  server.addMonitoringRequestToExecute
    { request := { request with clientId := clientId }
      conn := conn
      cause := server.log.length }

/-- The bodies that `recvData` hands to a listener. -/
def deliverable (msg : ByteString) : Bool :=
  0 < msg.length && msg.length ≤ 512

/-- One step of one thread; `blocked` when it cannot happen. -/
def step (database : IDatabaseConnection δ) : Label → Handler δ Unit
  | .accept channel slot socket service => do
      let server ← get
      if (server.handler channel).inRange slot && (server.holder channel slot).isNone &&
          socket > -1 then
        set (server.accept channel slot socket service)
      else Exec.blocked
  | .lost channel slot => do
      let server ← get
      match server.holder channel slot with
      | some _ => set (server.disconnectClient channel slot)
      | none => Exec.blocked
  | .sensorFrame slot msg beyond sent => do
      let server ← get
      match server.holder .sensor slot, deliverable msg with
      | some conn, true => set (server.receiveSensorFrame slot msg beyond sent conn)
      | _, _ => Exec.blocked
  | .administratorFrame slot request => do
      let server ← get
      match server.holder .administrator slot with
      | some conn => set (server.receiveAdministratorRequest slot request conn)
      | none => Exec.blocked
  | .monitoringFrame slot request => do
      let server ← get
      match server.holder .monitoring slot with
      | some conn => set (server.receiveMonitoringRequest slot request conn)
      | none => Exec.blocked
  | .executeSensor serverTime sent => executeSensorRequests database serverTime sent
  | .executeAdministrator rands sent => executeAdministratorRequests database rands sent
  | .sendAdministrator sent => sendAdministratorResponse sent
  | .executeMonitoring => executeMonitoringRequests database
  | .sendMonitoring sent => sendMonitoringResponse sent

/-- A step that is taken in full, or left early by an exception that the
executor catches. -/
def Steps (database : IDatabaseConnection δ) (label : Label) (server : Server δ)
    (result : Except SQLException Unit) (after : Server δ) : Prop :=
  (step database label).runOn server = some (result, after)

/-- A step that a run admits. -/
def Moves (database : IDatabaseConnection δ)
    (admits : Label → Server δ → Except SQLException Unit → Prop)
    (server after : Server δ) : Prop :=
  ∃ label result, Steps database label server result after ∧ admits label server result

/-- Runs of any length, all of whose steps are admitted. -/
abbrev Runs (database : IDatabaseConnection δ)
    (admits : Label → Server δ → Except SQLException Unit → Prop) :
    Server δ → Server δ → Prop :=
  Relation.ReflTransGen (Moves database admits)

/-- No database call of the step throws. -/
def Undisturbed (_ : Label) (_ : Server δ) (result : Except SQLException Unit) : Prop :=
  result = .ok ()

/-- The steps are taken one after the other, each of them passing `check` and
none of them throwing. -/
def playIf (database : IDatabaseConnection δ) (check : Label → Server δ → Bool) :
    List Label → Server δ → Option (Server δ)
  | [], server => some server
  | label :: labels, server =>
      if check label server then
        match (step database label).runOn server with
        | some (.ok (), after) => playIf database check labels after
        | _ => none
      else none

def play (database : IDatabaseConnection δ) : List Label → Server δ → Option (Server δ) :=
  playIf database fun _ _ => true

/-- Where every check stands for what is admitted after the steps before it,
what is played is a run. -/
theorem Runs.of_playIf {database : IDatabaseConnection δ} {check : Label → Server δ → Bool}
    {admits : Label → Server δ → Except SQLException Unit → Prop} {labels : List Label}
    {initial server after : Server δ} (runs : Runs database admits initial server)
    (sound : ∀ label before, Runs database admits initial before →
      check label before = true → admits label before (.ok ()))
    (played : playIf database check labels server = some after) :
    Runs database admits initial after := by
  induction labels generalizing server with
  | nil =>
      obtain rfl := Option.some.inj played
      exact runs
  | cons label labels ih =>
      rw [playIf] at played
      split at played
      · next checked =>
          split at played
          · next middle moved =>
              exact ih (runs.tail ⟨label, .ok (), moved, sound label server runs checked⟩)
                played
          · simp at played
      · simp at played

theorem Runs.of_play {database : IDatabaseConnection δ} {labels : List Label}
    {server after : Server δ} (played : play database labels server = some after) :
    Runs database Undisturbed server after :=
  Runs.of_playIf .refl (fun _ _ _ _ => rfl) played

/-- A run may admit more. -/
theorem Runs.mono {database : IDatabaseConnection δ}
    {admits others : Label → Server δ → Except SQLException Unit → Prop}
    {server after : Server δ} (runs : Runs database admits server after)
    (weaker : ∀ label before result, admits label before result →
      others label before result) : Runs database others server after := by
  induction runs with
  | refl => exact .refl
  | tail _ moved ih =>
      obtain ⟨label, result, steps, admitted⟩ := moved
      exact ih.tail ⟨label, result, steps, weaker label _ result admitted⟩

/-- What every admitted step keeps holds throughout a run. -/
theorem Runs.keeps {database : IDatabaseConnection δ}
    {admits : Label → Server δ → Except SQLException Unit → Prop}
    {server after : Server δ} (runs : Runs database admits server after)
    (inv : Server δ → Prop) (holds : inv server)
    (keeps : ∀ {label result before next}, Steps database label before result next →
      admits label before result → inv before → inv next) : inv after := by
  induction runs with
  | refl => exact holds
  | tail _ moved ih =>
      obtain ⟨label, result, steps, admitted⟩ := moved
      exact keeps steps admitted ih

/-- A step, whatever it returns or throws. -/
def Taken (database : IDatabaseConnection δ) (server : Server δ) (label : Label)
    (after : Server δ) : Prop :=
  ∃ result, Steps database label server result after

/-- The trace of a run, each of whose steps was admitted. -/
theorem Runs.trace_of {database : IDatabaseConnection δ}
    {admits : Label → Server δ → Except SQLException Unit → Prop} {initial server : Server δ}
    {takes : Server δ → Label → Server δ → Prop} (runs : Runs database admits initial server)
    (each : ∀ {label before result after}, Steps database label before result after →
      admits label before result → takes before label after) :
    ∃ taken, Trace takes initial taken server ∧ ∀ transition ∈ taken,
      ∃ result, admits transition.label transition.before result := by
  induction runs with
  | refl => exact ⟨[], .start, by simp⟩
  | tail _ moved ih =>
      obtain ⟨label, result, steps, admitted⟩ := moved
      obtain ⟨taken, trace, admitted_each⟩ := ih
      refine ⟨_, trace.next (each steps admitted), ?_⟩
      intro transition member
      rcases List.mem_append.mp member with earlier | last
      · exact admitted_each transition earlier
      · obtain rfl := List.mem_singleton.mp last
        exact ⟨result, admitted⟩

theorem Runs.trace {database : IDatabaseConnection δ}
    {admits : Label → Server δ → Except SQLException Unit → Prop} {initial server : Server δ}
    (runs : Runs database admits initial server) :
    ∃ taken, Trace (Taken database) initial taken server ∧ ∀ transition ∈ taken,
      ∃ result, admits transition.label transition.before result :=
  runs.trace_of fun steps _ => ⟨_, steps⟩

end Server

end SensorManager
