import SensorManager.Lib.SlotQueue
import SensorManager.Server.ServerModel

/-!
# The sessions of the sensors

`Sessions` is what the server knows about its sensors without the database and
the other two channels: who holds each slot, the queue of requests, the two
maps and the log.  `Action` lists what the threads can do to it.  `Orderly` is
the invariant that ties the map from slots to sensors to the connection whose
requests come next for the slot; every action keeps it, except a disconnect
request that is dropped although its slot is mapped.
-/

namespace SensorManager

open SlotQueue

/-- A queued request stands for a slot and the connection that held it. -/
def requestView : View (Stamped SensorRequest) Int Nat :=
  { slot := (·.request.clientId)
    conn := (·.conn)
    closes := (·.request.isOnDisconnected) }

structure Sessions where
  holder : Int → Option Nat
  queue : List (Stamped SensorRequest)
  clientToSensorId : IntMap
  sensorToClientId : IntMap
  connections : Nat
  log : List Effect

def Server.sessions {δ : Type} (server : Server δ) : Sessions :=
  { holder := server.holder .sensor
    queue := server.sensorRequestsQueue
    clientToSensorId := server.clientToSensorId
    sensorToClientId := server.sensorToClientId
    connections := server.connections
    log := server.log }

/-- Neither an acceptance nor a measurement. -/
def Effect.plain : Effect → Bool
  | .accepted .. => false
  | .addMeasurement .. => false
  | _ => true

/-- The frame a request was made from. -/
def SensorRequest.Carries (msg : ByteString) : SensorRequest → Prop
  | .measurement _ value timestamp =>
      msg.head? = some 109 ∧ ∃ beyond, value = SensorListener.measureValue msg beyond ∧
        timestamp = (SensorListener.measureTimestamp msg beyond).tdiv 1000
  | .onConnected _ _ _ token => msg = 105 :: token
  | .onDisconnected _ => False

/-- The sensor a connection was last accepted as, with the cause of the
acceptance. -/
def lastAccepted (log : List Effect) (conn : Nat) : Option (Int × Nat) :=
  log.reverse.findSome? fun
    | .accepted other sensorId cause => if other = conn then some (sensorId, cause) else none
    | _ => none

/-- `note` logs an effect, `connect` counts a connection of another channel,
`bind` and `release` give a slot to a connection and take it back, and
`receive` queues the request of a frame.  The next four take a request from the
queue; `abandon` does so with a disconnect request whose handler threw. -/
inductive Action where
  | note (effect : Effect)
  | connect
  | bind (slot : Int)
  | release (slot : Int) (conn : Nat)
  | receive (conn : Nat) (msg : ByteString) (request : SensorRequest)
      (answers : List Effect)
  | discard
  | measure (sensorId value timestamp : Int) (cause : Nat)
  | accept (slot sensorId : Int) (conn cause : Nat)
  | unmap (slot sensorId : Int)
  | abandon
  | eraseSensor (sensorId : Int)

/-- An action that neither writes the maps nor drops a disconnect request of a
mapped slot. -/
def Action.calm : Action → Bool
  | .accept .. => false
  | .abandon => false
  | .eraseSensor _ => false
  | _ => true

namespace Sessions

variable {sessions : Sessions}

/-- The request that stands for the end of a connection. -/
def closing (slot : Int) (conn cause : Nat) : Stamped SensorRequest :=
  { request := .onDisconnected slot, conn := conn, cause := cause }

theorem closing_slot (slot : Int) (conn cause : Nat) :
    requestView.slot (closing slot conn cause) = slot := rfl

def act (sessions : Sessions) : Action → Sessions
  | .note effect => { sessions with log := sessions.log ++ [effect] }
  | .connect => { sessions with connections := sessions.connections + 1 }
  | .bind slot =>
      { sessions with
        holder := Function.update sessions.holder slot (some sessions.connections)
        connections := sessions.connections + 1 }
  | .release slot conn =>
      { sessions with
        holder := Function.update sessions.holder slot none
        queue := sessions.queue ++ [closing slot conn sessions.log.length]
        log := sessions.log ++ [.closed .sensor conn] }
  | .receive conn msg request answers =>
      { sessions with
        queue := sessions.queue ++
          [{ request := request, conn := conn, cause := sessions.log.length }]
        log := sessions.log ++ .received conn msg :: answers }
  | .discard => { sessions with queue := sessions.queue.tail }
  | .measure sensorId value timestamp cause =>
      { sessions with
        queue := sessions.queue.tail
        log := sessions.log ++ [.addMeasurement sensorId value timestamp cause] }
  | .accept slot sensorId conn cause =>
      { sessions with
        queue := sessions.queue.tail
        clientToSensorId := sessions.clientToSensorId.insert slot sensorId
        sensorToClientId := sessions.sensorToClientId.insert sensorId slot
        log := sessions.log ++ [.accepted conn sensorId cause] }
  | .unmap slot sensorId =>
      { sessions with
        queue := sessions.queue.tail
        clientToSensorId := sessions.clientToSensorId.erase slot
        sensorToClientId := sessions.sensorToClientId.erase sensorId }
  | .abandon => { sessions with queue := sessions.queue.tail }
  | .eraseSensor sensorId =>
      { sessions with sensorToClientId := sessions.sensorToClientId.erase sensorId }

/-- When the server takes an action. -/
def Permits (sessions : Sessions) : Action → Prop
  | .note effect => effect.plain
  | .connect => True
  | .bind slot => sessions.holder slot = none
  | .release slot conn => sessions.holder slot = some conn
  | .receive conn msg request answers =>
      sessions.holder request.clientId = some conn ∧ request.Carries msg ∧
        ∀ effect ∈ answers, effect.plain
  | .discard =>
      ∃ head queue, sessions.queue = head :: queue ∧
        (head.request.isOnDisconnected = true →
          sessions.clientToSensorId head.request.clientId = none)
  | .measure sensorId value timestamp cause =>
      ∃ slot time conn queue,
        sessions.queue = ⟨.measurement slot value time, conn, cause⟩ :: queue ∧
          sessions.clientToSensorId slot = some sensorId ∧
          timestamp = Server.toInt32 time
  | .accept slot _ conn cause =>
      ∃ ip port token queue,
        sessions.queue = ⟨.onConnected slot ip port token, conn, cause⟩ :: queue
  | .unmap slot sensorId =>
      ∃ conn cause queue,
        sessions.queue = closing slot conn cause :: queue ∧
          sessions.clientToSensorId slot = some sensorId
  | .abandon =>
      ∃ slot conn cause queue, sessions.queue = closing slot conn cause :: queue
  | .eraseSensor _ => True

def perform (sessions : Sessions) (actions : List Action) : Sessions :=
  actions.foldl act sessions

theorem perform_append (sessions : Sessions) (first second : List Action) :
    sessions.perform (first ++ second) = (sessions.perform first).perform second :=
  List.foldl_append

/-- Each action is permitted when its turn comes, and meets `guard`. -/
def Permitted (guard : Sessions → Action → Prop) (sessions : Sessions) :
    List Action → Prop
  | [] => True
  | action :: actions =>
      (sessions.Permits action ∧ guard sessions action) ∧
        Permitted guard (sessions.act action) actions

/-- What every action keeps, a sequence of actions keeps. -/
theorem Permitted.keeps {guard : Sessions → Action → Prop} {inv : Sessions → Prop}
    (keeps : ∀ sessions action, inv sessions → sessions.Permits action →
      guard sessions action → inv (sessions.act action))
    {actions : List Action} (permitted : sessions.Permitted guard actions) (holds : inv sessions) :
    inv (sessions.perform actions) := by
  induction actions generalizing sessions with
  | nil => exact holds
  | cons action actions ih =>
      exact ih permitted.2 (keeps sessions action holds permitted.1.1 permitted.1.2)

theorem permitted_append {guard : Sessions → Action → Prop} {first second : List Action} :
    sessions.Permitted guard (first ++ second) ↔
      sessions.Permitted guard first ∧ (sessions.perform first).Permitted guard second := by
  induction first generalizing sessions with
  | nil => simp [Permitted, perform]
  | cons action first ih => simp [Permitted, perform, ih, and_assoc]

/-- The connection whose requests come next for a slot. -/
def next (sessions : Sessions) (slot : Int) : Option Nat :=
  front requestView slot sessions.queue (sessions.holder slot)

end Sessions

section LastAccepted

variable {log : List Effect} {conn : Nat}

@[simp] theorem lastAccepted_plain {effect : Effect} (plain : effect.plain = true) :
    lastAccepted (log ++ [effect]) conn = lastAccepted log conn := by
  cases effect <;> simp_all [lastAccepted, Effect.plain]

theorem lastAccepted_plains {effects : List Effect}
    (plain : ∀ effect ∈ effects, effect.plain = true) :
    lastAccepted (log ++ effects) conn = lastAccepted log conn := by
  induction effects generalizing log with
  | nil => simp
  | cons effect effects ih =>
      have headPlain := plain effect (by simp)
      have tailPlain : ∀ other ∈ effects, other.plain = true :=
        fun other member => plain other (by simp [member])
      calc lastAccepted (log ++ effect :: effects) conn
          = lastAccepted ((log ++ [effect]) ++ effects) conn := by simp
        _ = lastAccepted (log ++ [effect]) conn := ih tailPlain
        _ = lastAccepted log conn := lastAccepted_plain headPlain

@[simp] theorem lastAccepted_addMeasurement (sensorId value timestamp : Int) (cause : Nat) :
    lastAccepted (log ++ [.addMeasurement sensorId value timestamp cause]) conn =
      lastAccepted log conn := by
  simp [lastAccepted]

theorem lastAccepted_same (sensorId : Int) (cause : Nat) :
    lastAccepted (log ++ [.accepted conn sensorId cause]) conn = some (sensorId, cause) := by
  simp [lastAccepted]

theorem lastAccepted_other {other : Nat} (different : other ≠ conn) (sensorId : Int)
    (cause : Nat) :
    lastAccepted (log ++ [.accepted other sensorId cause]) conn = lastAccepted log conn := by
  simp [lastAccepted, different]

theorem mem_of_lastAccepted {sensorId : Int} {cause : Nat}
    (accepted : lastAccepted log conn = some (sensorId, cause)) :
    Effect.accepted conn sensorId cause ∈ log := by
  obtain ⟨effect, member, found⟩ := List.exists_of_findSome?_eq_some accepted
  rw [List.mem_reverse] at member
  cases effect with
  | accepted other otherSensor otherCause =>
      simp only at found
      split at found
      · next same =>
          cases found
          exact same ▸ member
      · simp at found
  | _ => simp at found

theorem lastAccepted_isSome {sensorId : Int} {cause : Nat}
    (member : Effect.accepted conn sensorId cause ∈ log) :
    ∃ accepted, lastAccepted log conn = some accepted := by
  rw [← Option.isSome_iff_exists, lastAccepted, List.findSome?_isSome_iff]
  exact ⟨.accepted conn sensorId cause, by simpa using member, by simp⟩

end LastAccepted

end SensorManager
