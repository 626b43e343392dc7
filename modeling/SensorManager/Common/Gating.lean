import SensorManager.Lib.Trace
import SensorManager.Common.ClientsHandler

/-!
# The send and receive gates of a handler

The calls that change the clients of a handler, in any order, whichever thread
makes them and in either mode of the handler.  Beside the handler stands what
has happened so far, and the gates of a client are compared with it.
-/

namespace SensorManager

/-- The direction that a gate blocks. -/
inductive Direction where
  | send
  | recv
  deriving DecidableEq, Repr

/-- What matters to the gates.  `gotMsg` is a message that the listener is
called with. -/
inductive GateEvent where
  | blockOnInit (direction : Direction)
  | connected (clientId : Int)
  | gotMsg (clientId : Int)
  | unlock (direction : Direction) (clientId : Int)
  deriving DecidableEq, Repr

/-- What has happened, the latest first. -/
abbrev GateHistory := List GateEvent

namespace GateHistory

/-- What has happened since the client connected for the last time. -/
def since (clientId : Int) (history : GateHistory) : GateHistory :=
  history.takeWhile fun event => event ≠ .connected clientId

/-- What had happened when the client connected for the last time. -/
def before (clientId : Int) (history : GateHistory) : GateHistory :=
  history.dropWhile fun event => event ≠ .connected clientId

/-- Blocking was set on init when the client connected, and it has not been
unlocked since. -/
def Blocked (direction : Direction) (clientId : Int) (history : GateHistory) : Prop :=
  .blockOnInit direction ∈ history.before clientId ∧
    .unlock direction clientId ∉ history.since clientId

/-- The client has sent no message since it connected. -/
def AwaitsFirst (clientId : Int) (history : GateHistory) : Prop :=
  .gotMsg clientId ∉ history.since clientId

instance (direction : Direction) (clientId : Int) (history : GateHistory) :
    Decidable (history.Blocked direction clientId) :=
  inferInstanceAs (Decidable (_ ∧ _))

instance (clientId : Int) (history : GateHistory) : Decidable (history.AwaitsFirst clientId) :=
  inferInstanceAs (Decidable (¬ _))

variable {direction : Direction} {clientId : Int} {history : GateHistory} {event : GateEvent}

theorem since_cons (other : event ≠ .connected clientId) :
    since clientId (event :: history) = event :: history.since clientId := by
  simp [since, other]

theorem before_cons (other : event ≠ .connected clientId) :
    before clientId (event :: history) = history.before clientId := by
  simp [before, other]

theorem blocked_cons (other : event ≠ .connected clientId) :
    Blocked direction clientId (event :: history) ↔
      history.Blocked direction clientId ∧ event ≠ .unlock direction clientId := by
  unfold Blocked
  rw [since_cons other, before_cons other, List.mem_cons]
  constructor
  · rintro ⟨set, locked⟩
    exact ⟨⟨set, fun unlocked => locked (.inr unlocked)⟩, fun same => locked (.inl same.symm)⟩
  · rintro ⟨⟨set, locked⟩, different⟩
    exact ⟨set, fun unlocked => unlocked.elim (fun same => different same.symm) locked⟩

@[simp] theorem blocked_connected :
    Blocked direction clientId (.connected clientId :: history) ↔
      .blockOnInit direction ∈ history := by
  simp [Blocked, since, before]

theorem awaitsFirst_cons (other : event ≠ .connected clientId) :
    AwaitsFirst clientId (event :: history) ↔
      history.AwaitsFirst clientId ∧ event ≠ .gotMsg clientId := by
  unfold AwaitsFirst
  rw [since_cons other, List.mem_cons]
  constructor
  · intro none
    exact ⟨fun got => none (.inr got), fun same => none (.inl same.symm)⟩
  · rintro ⟨none, different⟩
    exact fun got => got.elim (fun same => different same.symm) none

@[simp] theorem awaitsFirst_connected :
    AwaitsFirst clientId (.connected clientId :: history) := by
  simp [AwaitsFirst, since]

end GateHistory

namespace Client

/-- `isSendBlocked` and `isRecvBlocked`. -/
def isBlocked (client : Client) : Direction → Bool
  | .send => client.blockSend
  | .recv => client.blockRecv

theorem isSomethingToSend_iff (client : Client) :
    client.isSomethingToSend = true ↔
      client.isConnected = true ∧ client.isBlocked .send = false ∧ client.outBuffer ≠ [] := by
  unfold isSomethingToSend isConnected isBlocked
  by_cases open_ : client.socket < 0
  · have closed : ¬ client.socket > -1 := by omega
    simp [open_, closed]
  · have connected : client.socket > -1 := by omega
    cases client.blockSend <;> simp [open_, connected]

theorem isSomethingToRecv_iff (client : Client) :
    client.isSomethingToRecv = true ↔
      client.isConnected = true ∧
        (client.isBlocked .recv = false ∨ client.waitForInitMsg = true) := by
  have same : client.socket ≥ 0 ↔ client.socket > -1 := by omega
  unfold isSomethingToRecv isConnected isBlocked
  cases client.blockRecv <;> cases client.waitForInitMsg <;> simp [same]

/-- `recvData` calls the listener. -/
def callsListener (client : Client) (received : Received) (beyond : BytesParser.Memory) :
    Bool :=
  match (client.recvData received beyond).1 with
  | .ok (_, some _) => true
  | _ => false

theorem waitForInitMsg_recvData {client : Client} (listening : client.listener = true)
    (received : Received) (beyond : BytesParser.Memory) :
    (client.recvData received beyond).2.waitForInitMsg =
      (client.waitForInitMsg && !client.callsListener received beyond) := by
  unfold callsListener recvData
  dsimp only
  split
  · simp
  · split
    · unfold recvLength
      dsimp only
      split
      · split
        · simp
        · split <;> simp
      · simp
    · unfold recvBody gotMsg
      dsimp only
      split <;> simp [listening]

end Client

/-- The calls that change the clients of a handler. -/
inductive HandlerCall where
  | blockOnInit (direction : Direction)
  | connected (slot socket clientId : Int) (service : SockAddr) (initMsg : List UInt8)
  | recvData (slot : Int) (received : Received) (beyond : BytesParser.Memory)
  | sendData (slot sent : Int)
  | send (clientId : Int) (msg : List UInt8) (sent : Int)
  | disconnectHandler (slot : Int)
  | disconnectClient (clientId : Int)
  | unlock (direction : Direction) (clientId : Int)

/-- A handler and what has happened to it. -/
structure GatedHandler where
  handler : ClientsHandler
  history : GateHistory

namespace GatedHandler

def create (maxClients : Int := 100) (isServer : Bool := true) : GatedHandler :=
  { handler := .create maxClients isServer, history := [] }

def client (gated : GatedHandler) (clientId : Int) : Client :=
  gated.handler.clientHandlers clientId

/-- The slot has a connected client. -/
def isLive (gated : GatedHandler) (slot : Int) : Bool :=
  gated.handler.inRange slot && (gated.client slot).isConnected

def setClient (gated : GatedHandler) (slot : Int) (client : Client) : GatedHandler :=
  { gated with handler := gated.handler.setClient slot client }

def record (gated : GatedHandler) (event : GateEvent) : GatedHandler :=
  { gated with history := event :: gated.history }

/-- `handler->connected(socket, clientId, service, listener)`, for the client
at `slot`, with what `beforeFirstSend` returns. -/
def connected (gated : GatedHandler) (slot socket clientId : Int) (service : SockAddr)
    (initMsg : List UInt8) : GatedHandler :=
  gated.setClient slot
    ((gated.client slot).connected gated.handler.blockingSendOnInit
      gated.handler.blockingRecvOnInit socket clientId service initMsg 0)

def unlock (gated : GatedHandler) (clientId : Int) : Direction → GatedHandler
  | .send => { gated with handler := gated.handler.unlockSend clientId }
  | .recv => { gated with handler := gated.handler.unlockRecv clientId }

def blockOnInit (gated : GatedHandler) : Direction → GatedHandler
  | .send => { gated with handler := gated.handler.blockSendOnInit }
  | .recv => { gated with handler := gated.handler.blockRecvOnInit }

/-- One call.  The network thread connects a free slot, and receives from and
sends to connected clients alone. -/
def call : HandlerCall → GatedHandler → Option GatedHandler
  | .blockOnInit direction, gated =>
      some ((gated.blockOnInit direction).record (.blockOnInit direction))
  | .connected slot socket clientId service initMsg, gated =>
      if gated.handler.inRange slot && !(gated.client slot).isConnected && socket > -1 then
        some ((gated.connected slot socket clientId service initMsg).record (.connected slot))
      else none
  | .recvData slot received beyond, gated =>
      if gated.isLive slot then
        let after := gated.setClient slot ((gated.client slot).recvData received beyond).2
        some (if (gated.client slot).callsListener received beyond then
          after.record (.gotMsg slot) else after)
      else none
  | .sendData slot sent, gated =>
      if gated.isLive slot then
        some (gated.setClient slot ((gated.client slot).sendData sent).2)
      else none
  | .send clientId msg sent, gated =>
      some { gated with handler := (gated.handler.send clientId msg sent).2 }
  | .disconnectHandler slot, gated =>
      if gated.isLive slot then
        some { gated with handler := (gated.handler.disconnectHandler slot).1 }
      else none
  | .disconnectClient clientId, gated =>
      some { gated with handler := (gated.handler.disconnectClient clientId).1 }
  | .unlock direction clientId, gated =>
      some ((gated.unlock clientId direction).record (.unlock direction clientId))

def Calls (before : GatedHandler) (label : HandlerCall) (after : GatedHandler) : Prop :=
  call label before = some after

/-- The gates of every connected client are as its history says, and they and
the first message decide what `setReadyHandlers` waits for. -/
def Gated (gated : GatedHandler) : Prop :=
  ∀ clientId, gated.handler.inRange clientId = true →
    ((gated.client clientId).isConnected = true → ∀ direction,
      ((gated.client clientId).isBlocked direction = true ↔
        gated.history.Blocked direction clientId)) ∧
    ((gated.client clientId).isSomethingToSend = true ↔
      (gated.client clientId).isConnected = true ∧ ¬ gated.history.Blocked .send clientId ∧
        (gated.client clientId).outBuffer ≠ []) ∧
    ((gated.client clientId).isSomethingToRecv = true ↔
      (gated.client clientId).isConnected = true ∧
        (¬ gated.history.Blocked .recv clientId ∨ gated.history.AwaitsFirst clientId))

/-- Unlocking one direction of a connected client leaves the other. -/
def UnlocksOne (transition : Transition GatedHandler HandlerCall) : Prop :=
  ∀ direction clientId, transition.label = .unlock direction clientId →
    transition.before.isLive clientId = true → ∀ other ≠ direction,
      (transition.after.client clientId).isBlocked other =
        (transition.before.client clientId).isBlocked other

/-- The gates are as the history says after the call, and it has not touched
the other direction. -/
def KeepsGates (transition : Transition GatedHandler HandlerCall) : Prop :=
  transition.after.Gated ∧ UnlocksOne transition

/-- A connected client is never unlocked for receiving, and for sending only
when it is open for sending and blocked for receiving. -/
def UnlocksOpen (transition : Transition GatedHandler HandlerCall) : Prop :=
  ∀ direction clientId, transition.label = .unlock direction clientId →
    transition.before.isLive clientId = true →
      direction = .send ∧
        (transition.before.client clientId).isBlocked .send = false ∧
        (transition.before.client clientId).isBlocked .recv = true

/-- What the gates are made of when nothing happens to them. -/
def SameGates (client after : Client) : Prop :=
  after.isConnected = true →
    client.isConnected = true ∧ after.listener = client.listener ∧
      after.waitForInitMsg = client.waitForInitMsg ∧
      ∀ direction, after.isBlocked direction = client.isBlocked direction

/-- What a call does to the gates. -/
inductive Effect (before : GatedHandler) : HandlerCall → GatedHandler → Prop
  | blockOnInit (direction : Direction) :
      Effect before (.blockOnInit direction)
        ((before.blockOnInit direction).record (.blockOnInit direction))
  | connected {slot socket clientId : Int} {service : SockAddr} {initMsg : List UInt8} :
      Effect before (.connected slot socket clientId service initMsg)
        ((before.connected slot socket clientId service initMsg).record (.connected slot))
  | quiet {label : HandlerCall} {slot : Int} {client : Client}
      (locked : ∀ direction clientId, label ≠ .unlock direction clientId)
      (same : SameGates (before.client slot) client) :
      Effect before label (before.setClient slot client)
  | disconnected {label : HandlerCall} {slot : Int}
      (locked : ∀ direction clientId, label ≠ .unlock direction clientId) :
      Effect before label
        { before with handler := (before.handler.disconnectHandler slot).1 }
  | gotMsg {label : HandlerCall} {slot : Int} {client : Client}
      (locked : ∀ direction clientId, label ≠ .unlock direction clientId)
      (connected : (before.client slot).isConnected = true)
      (listener : client.listener = (before.client slot).listener)
      (got : client.waitForInitMsg = false)
      (blocked : ∀ direction,
        client.isBlocked direction = (before.client slot).isBlocked direction) :
      Effect before label ((before.setClient slot client).record (.gotMsg slot))
  | unlock {direction : Direction} {clientId : Int}
      (range : before.handler.inRange clientId = true) :
      Effect before (.unlock direction clientId)
        ((before.setClient clientId (before.client clientId).unlockRecv).record
          (.unlock direction clientId))
  | unlockNone {direction : Direction} {clientId : Int}
      (range : before.handler.inRange clientId = false) :
      Effect before (.unlock direction clientId) (before.record (.unlock direction clientId))

variable {gated before after : GatedHandler} {label : HandlerCall} {slot clientId : Int}
  {direction : Direction} {client : Client}

@[simp] theorem client_setClient_same :
    (gated.setClient slot client).client slot = client := by
  simp [setClient, GatedHandler.client, ClientsHandler.setClient]

theorem client_setClient_other (different : clientId ≠ slot) :
    (gated.setClient slot client).client clientId = gated.client clientId := by
  simp [setClient, GatedHandler.client, ClientsHandler.setClient, different]

theorem setClient_self (gated : GatedHandler) (slot : Int) :
    gated.setClient slot (gated.client slot) = gated := by
  simp [setClient, GatedHandler.client, ClientsHandler.setClient]

/-- A call that leaves all clients alone. -/
theorem Effect.unchanged (locked : ∀ direction clientId, label ≠ .unlock direction clientId) :
    Effect before label before := by
  have effect : Effect before label (before.setClient 0 (before.client 0)) :=
    .quiet locked fun connected => ⟨connected, rfl, rfl, fun _ => rfl⟩
  rwa [setClient_self] at effect

theorem sameGates_outBuffer (client : Client) (buffer : List UInt8) :
    SameGates client { client with outBuffer := buffer } := by
  intro connected
  refine ⟨connected, rfl, rfl, ?_⟩
  rintro (_ | _) <;> rfl

/-- Blocking is on for the clients that connect later. -/
def blocksOnInit (gated : GatedHandler) : Direction → Bool
  | .send => gated.handler.blockingSendOnInit
  | .recv => gated.handler.blockingRecvOnInit

/-- The history tells what is set on init and who awaits a first message, and
connected clients have a listener. -/
structure Tracked (gated : GatedHandler) : Prop where
  onInit : ∀ direction,
    gated.blocksOnInit direction = true ↔ .blockOnInit direction ∈ gated.history
  listener : ∀ clientId, gated.handler.inRange clientId = true →
    (gated.client clientId).isConnected = true → (gated.client clientId).listener = true
  waitForInitMsg : ∀ clientId, gated.handler.inRange clientId = true →
    (gated.client clientId).isConnected = true →
    ((gated.client clientId).waitForInitMsg = true ↔ gated.history.AwaitsFirst clientId)

theorem Calls.recvData {received : Received} {beyond : BytesParser.Memory}
    (tracked : before.Tracked)
    (calls : Calls before (.recvData slot received beyond) after) :
    Effect before (.recvData slot received beyond) after := by
  simp only [Calls, call, Option.ite_none_right_eq_some, Option.some.injEq, isLive,
    Bool.and_eq_true] at calls
  obtain ⟨⟨range, connected⟩, rfl⟩ := calls
  have listening := tracked.listener slot range connected
  have awaits := Client.waitForInitMsg_recvData listening received beyond
  obtain ⟨inBuffer, remainingIn, remainingInLen, waits, received_eq⟩ :=
    (before.client slot).recvData_eq received beyond
  have blocked : ∀ direction,
      ((before.client slot).recvData received beyond).2.isBlocked direction =
        (before.client slot).isBlocked direction := by
    rw [received_eq]
    rintro (_ | _) <;> rfl
  have listener : ((before.client slot).recvData received beyond).2.listener =
      (before.client slot).listener := by
    rw [received_eq]
  split
  · next called =>
      exact .gotMsg (by simp) connected listener (by simpa [called] using awaits) blocked
  · next silent =>
      exact .quiet (by simp) fun _ =>
        ⟨connected, listener, by simpa [silent] using awaits, blocked⟩

theorem Calls.unlock (calls : Calls before (.unlock direction clientId) after) :
    Effect before (.unlock direction clientId) after := by
  obtain rfl := Option.some.inj calls
  cases range : before.handler.inRange clientId with
  | true =>
      have same : before.unlock clientId direction =
          before.setClient clientId (before.client clientId).unlockRecv := by
        cases direction <;>
          simp [GatedHandler.unlock, ClientsHandler.unlockSend, ClientsHandler.unlockRecv, range,
            setClient, GatedHandler.client]
      rw [same]
      exact .unlock range
  | false =>
      have same : before.unlock clientId direction = before := by
        cases direction <;>
          simp [GatedHandler.unlock, ClientsHandler.unlockSend, ClientsHandler.unlockRecv, range]
      rw [same]
      exact .unlockNone range

theorem Calls.effect (tracked : before.Tracked) (calls : Calls before label after) :
    Effect before label after := by
  cases label with
  | blockOnInit direction =>
      obtain rfl := Option.some.inj calls
      exact .blockOnInit direction
  | connected slot socket clientId service initMsg =>
      simp only [Calls, call, Option.ite_none_right_eq_some, Option.some.injEq] at calls
      obtain ⟨-, rfl⟩ := calls
      exact .connected
  | recvData slot received beyond => exact calls.recvData tracked
  | sendData slot sent =>
      simp only [Calls, call, Option.ite_none_right_eq_some, Option.some.injEq] at calls
      obtain ⟨-, rfl⟩ := calls
      refine .quiet (by simp) ?_
      unfold Client.sendData
      split
      · exact sameGates_outBuffer _ _
      · exact sameGates_outBuffer _ (before.client slot).outBuffer
  | send clientId msg sent =>
      obtain rfl := Option.some.inj calls
      unfold ClientsHandler.send
      split
      · exact .unchanged (by simp)
      · obtain ⟨buffer, same⟩ := (before.client clientId).addOutMsg_eq msg sent
        have quiet : SameGates (before.client clientId)
            ((before.client clientId).addOutMsg msg sent).2 := by
          rw [same]
          exact sameGates_outBuffer _ buffer
        exact .quiet (by simp) quiet
  | disconnectHandler slot =>
      simp only [Calls, call, Option.ite_none_right_eq_some, Option.some.injEq] at calls
      obtain ⟨-, rfl⟩ := calls
      exact .disconnected (by simp)
  | disconnectClient clientId =>
      obtain rfl := Option.some.inj calls
      unfold ClientsHandler.disconnectClient
      split
      · exact .unchanged (by simp)
      · split
        · exact .unchanged (by simp)
        · exact .disconnected (by simp)
  | unlock direction clientId => exact calls.unlock

@[simp] theorem client_record (event : GateEvent) :
    (gated.record event).client = gated.client := rfl

@[simp] theorem history_record (event : GateEvent) :
    (gated.record event).history = event :: gated.history := rfl

@[simp] theorem inRange_record (event : GateEvent) :
    (gated.record event).handler.inRange clientId = gated.handler.inRange clientId := rfl

@[simp] theorem client_blockOnInit (direction : Direction) :
    (gated.blockOnInit direction).client = gated.client := by
  cases direction <;> rfl

@[simp] theorem history_blockOnInit (direction : Direction) :
    (gated.blockOnInit direction).history = gated.history := by
  cases direction <;> rfl

@[simp] theorem inRange_blockOnInit (direction : Direction) :
    (gated.blockOnInit direction).handler.inRange clientId =
      gated.handler.inRange clientId := by
  cases direction <;> rfl

theorem client_connected_same {socket : Int} {service : SockAddr} {initMsg : List UInt8} :
    ∃ buffer, (gated.connected slot socket clientId service initMsg).client slot =
      { gated.client slot with
        blockRecv := gated.handler.blockingRecvOnInit
        blockSend := gated.handler.blockingSendOnInit
        waitForInitMsg := true
        socket := socket
        clientId := clientId
        service := service
        listener := true
        conn := 0
        outBuffer := buffer } := by
  unfold connected
  rw [client_setClient_same]
  unfold Client.connected
  dsimp only
  split <;> exact ⟨_, rfl⟩

theorem sameGates_refl (client : Client) : SameGates client client :=
  fun connected => ⟨connected, rfl, rfl, fun _ => rfl⟩

theorem sameGates_disconnectHandler (slot clientId : Int) :
    SameGates (gated.client clientId)
      ((gated.handler.disconnectHandler slot).1.clientHandlers clientId) := by
  intro connected
  unfold ClientsHandler.disconnectHandler ClientsHandler.setClient at connected ⊢
  dsimp only at connected ⊢
  by_cases same : clientId = slot
  · subst same
    simp [Client.disconnected, Client.reset, Client.isConnected] at connected
  · rw [Function.update_of_ne same] at connected ⊢
    exact sameGates_refl _ connected

/-- What a call does to the gates of one client. -/
inductive ClientEffect (before after : GatedHandler) (label : HandlerCall) (clientId : Int) :
    Prop
  | same (gates : SameGates (before.client clientId) (after.client clientId))
      (blocked : ∀ direction,
        after.history.Blocked direction clientId ↔ before.history.Blocked direction clientId)
      (awaits : after.history.AwaitsFirst clientId ↔ before.history.AwaitsFirst clientId)
  | connected (listener : (after.client clientId).listener = true)
      (waits : (after.client clientId).waitForInitMsg = true)
      (blockSend : (after.client clientId).isBlocked .send = before.handler.blockingSendOnInit)
      (blockRecv : (after.client clientId).isBlocked .recv = before.handler.blockingRecvOnInit)
      (history : after.history = .connected clientId :: before.history)
  | gotMsg (connected : (before.client clientId).isConnected = true)
      (listener : (after.client clientId).listener = (before.client clientId).listener)
      (got : (after.client clientId).waitForInitMsg = false)
      (blocked : ∀ direction,
        (after.client clientId).isBlocked direction =
          (before.client clientId).isBlocked direction)
      (history : after.history = .gotMsg clientId :: before.history)
  | unlock {direction : Direction} (called : label = .unlock direction clientId)
      (client : after.client clientId = (before.client clientId).unlockRecv)
      (history : after.history = .unlock direction clientId :: before.history)

/-- A call that leaves a client alone and records what does not concern it. -/
theorem ClientEffect.of_event {event : GateEvent}
    (gates : SameGates (before.client clientId) (after.client clientId))
    (history : after.history = event :: before.history)
    (connection : event ≠ .connected clientId) (message : event ≠ .gotMsg clientId)
    (unlocking : ∀ direction, event ≠ .unlock direction clientId) :
    ClientEffect before after label clientId := by
  refine .same gates ?_ ?_
  · intro direction
    rw [history, GateHistory.blocked_cons connection]
    exact and_iff_left (unlocking direction)
  · rw [history, GateHistory.awaitsFirst_cons connection]
    exact and_iff_left message

theorem ClientEffect.of_history
    (gates : SameGates (before.client clientId) (after.client clientId))
    (history : after.history = before.history) :
    ClientEffect before after label clientId := by
  refine .same gates ?_ ?_
  · intro direction
    rw [history]
  · rw [history]

theorem Effect.on_client (effect : Effect before label after) (clientId : Int)
    (range : before.handler.inRange clientId = true) :
    ClientEffect before after label clientId := by
  cases effect with
  | blockOnInit direction =>
      have history : ((before.blockOnInit direction).record (.blockOnInit direction)).history =
          .blockOnInit direction :: before.history := by
        rw [history_record, history_blockOnInit]
      refine .of_event ?_ history (by simp) (by simp) (by simp)
      simpa using sameGates_refl (before.client clientId)
  | @connected slot socket id service initMsg =>
      by_cases same : clientId = slot
      · subst same
        obtain ⟨buffer, fresh⟩ := client_connected_same
        refine .connected ?_ ?_ ?_ ?_ rfl <;> rw [client_record, fresh] <;> rfl
      · refine .of_event ?_ rfl (by simpa using Ne.symm same) (by simp) (by simp)
        unfold GatedHandler.connected
        rw [client_record, client_setClient_other same]
        exact sameGates_refl _
  | @quiet _ slot client locked gates =>
      by_cases same : clientId = slot
      · subst same
        exact .of_history (by simpa using gates) rfl
      · refine .of_history ?_ rfl
        rw [client_setClient_other same]
        exact sameGates_refl _
  | @disconnected _ slot locked =>
      exact .of_history (sameGates_disconnectHandler slot clientId) rfl
  | @gotMsg _ slot client locked connected listener got blocked =>
      by_cases same : clientId = slot
      · subst same
        exact .gotMsg connected (by simpa using listener) (by simpa using got)
          (by simpa using blocked) rfl
      · refine .of_event ?_ rfl (by simp) (by simpa using Ne.symm same) (by simp)
        rw [client_record, client_setClient_other same]
        exact sameGates_refl _
  | @unlock direction id _ =>
      by_cases same : clientId = id
      · subst same
        exact .unlock rfl (by simp) rfl
      · refine .of_event ?_ rfl (by simp) (by simp) (by simpa using Ne.symm same)
        rw [client_record, client_setClient_other same]
        exact sameGates_refl _
  | @unlockNone direction id outside =>
      have different : id ≠ clientId := by
        rintro rfl
        rw [range] at outside
        cases outside
      refine .of_event ?_ rfl (by simp) (by simp) (by simpa using different)
      exact sameGates_refl _

theorem blocksOnInit_blockOnInit (set direction : Direction) :
    (gated.blockOnInit set).blocksOnInit direction =
      (decide (direction = set) || gated.blocksOnInit direction) := by
  cases set <;> cases direction <;> simp [blocksOnInit, GatedHandler.blockOnInit,
    ClientsHandler.blockSendOnInit, ClientsHandler.blockRecvOnInit]

theorem Effect.inRange (effect : Effect before label after) :
    after.handler.inRange clientId = before.handler.inRange clientId := by
  cases effect with
  | blockOnInit direction => simp
  | connected | quiet | disconnected | gotMsg | unlock | unlockNone => rfl

theorem Effect.onInit (effect : Effect before label after)
    (known : ∀ direction, before.blocksOnInit direction = true ↔
      .blockOnInit direction ∈ before.history) (direction : Direction) :
    after.blocksOnInit direction = true ↔ .blockOnInit direction ∈ after.history := by
  cases effect with
  | blockOnInit set =>
      change (before.blockOnInit set).blocksOnInit direction = true ↔ _
      rw [blocksOnInit_blockOnInit, history_record, history_blockOnInit, List.mem_cons,
        Bool.or_eq_true, decide_eq_true_eq, known direction, GateEvent.blockOnInit.injEq]
  | quiet | disconnected => exact known direction
  | connected | gotMsg | unlock | unlockNone =>
      change before.blocksOnInit direction = true ↔ _ ∈ _ :: before.history
      simpa using known direction

/-- Every call keeps what the history tracks. -/
theorem Effect.tracked (effect : Effect before label after) (tracked : before.Tracked) :
    after.Tracked := by
  refine ⟨effect.onInit tracked.onInit, ?_, ?_⟩
  · intro clientId range connected
    rw [effect.inRange] at range
    cases effect.on_client clientId range with
    | same gates =>
        obtain ⟨was, same, -⟩ := gates connected
        rw [same]
        exact tracked.listener clientId range was
    | connected listener => exact listener
    | gotMsg was same =>
        rw [same]
        exact tracked.listener clientId range was
    | unlock called same =>
        rw [same] at connected ⊢
        exact tracked.listener clientId range connected
  · intro clientId range connected
    rw [effect.inRange] at range
    cases effect.on_client clientId range with
    | same gates blocked awaits =>
        obtain ⟨was, -, same, -⟩ := gates connected
        rw [same, awaits]
        exact tracked.waitForInitMsg clientId range was
    | connected listener waits blockSend blockRecv history =>
        rw [waits, history]
        simp
    | gotMsg was same got blocked history =>
        rw [got, history, GateHistory.awaitsFirst_cons (by simp)]
        simp
    | unlock called same history =>
        rw [same] at connected ⊢
        rw [history, GateHistory.awaitsFirst_cons (by simp)]
        simpa [Client.unlockRecv] using tracked.waitForInitMsg clientId range connected

/-- The gates of the connected clients are as the history says. -/
def Agrees (gated : GatedHandler) : Prop :=
  ∀ clientId, gated.handler.inRange clientId = true →
    (gated.client clientId).isConnected = true → ∀ direction,
      ((gated.client clientId).isBlocked direction = true ↔
        gated.history.Blocked direction clientId)

theorem gated_iff_agrees (tracked : gated.Tracked) : gated.Gated ↔ gated.Agrees := by
  constructor
  · intro holds clientId range
    exact (holds clientId range).1
  · intro agrees clientId range
    refine ⟨agrees clientId range, ?_, ?_⟩
    · rw [Client.isSomethingToSend_iff]
      refine and_congr_right fun connected => and_congr_left fun _ => ?_
      rw [← agrees clientId range connected .send, Bool.not_eq_true]
    · rw [Client.isSomethingToRecv_iff]
      refine and_congr_right fun connected => or_congr ?_ ?_
      · rw [← agrees clientId range connected .recv, Bool.not_eq_true]
      · exact tracked.waitForInitMsg clientId range connected

/-- A call that unlocks nobody keeps the gates. -/
theorem Effect.agrees (effect : Effect before label after) (tracked : before.Tracked)
    (agrees : before.Agrees)
    (kept : ∀ direction clientId, label = .unlock direction clientId →
      before.isLive clientId = true → direction = .send ∧
        (before.client clientId).isBlocked .send = false ∧
        (before.client clientId).isBlocked .recv = true) : after.Agrees := by
  intro clientId range connected direction
  rw [effect.inRange] at range
  cases effect.on_client clientId range with
  | same gates blocked =>
      obtain ⟨was, -, -, same⟩ := gates connected
      rw [same, blocked]
      exact agrees clientId range was direction
  | connected listener waits blockSend blockRecv history =>
      rw [history, GateHistory.blocked_connected, ← tracked.onInit direction]
      cases direction with
      | send => rw [blockSend]; rfl
      | recv => rw [blockRecv]; rfl
  | gotMsg was same got blocked history =>
      rw [blocked, history, GateHistory.blocked_cons (by simp)]
      simpa using agrees clientId range was direction
  | @unlock unlocked called same history =>
      rw [same] at connected ⊢
      have live : before.isLive clientId = true := by
        unfold isLive
        rw [range]
        exact connected
      obtain ⟨rfl, openSend, blockedRecv⟩ := kept unlocked clientId called live
      rw [history, GateHistory.blocked_cons (by simp)]
      have was := agrees clientId range connected direction
      cases direction with
      | send =>
          rw [openSend] at was
          constructor
          · intro blocked
            exact absurd (blocked.symm.trans openSend) (by simp)
          · rintro ⟨blocked, -⟩
            exact absurd (was.mpr blocked) (by simp)
      | recv =>
          rw [blockedRecv] at was
          simpa [Client.unlockRecv, Client.isBlocked] using was

theorem Effect.unlocked (effect : Effect before (.unlock direction clientId) after)
    (live : before.isLive clientId = true) :
    after.client clientId = (before.client clientId).unlockRecv ∧
      after.history = .unlock direction clientId :: before.history := by
  cases effect with
  | quiet locked | disconnected locked | gotMsg locked => exact absurd rfl (locked _ _)
  | unlock range =>
      rw [client_record, client_setClient_same]
      exact ⟨rfl, rfl⟩
  | unlockNone outside =>
      unfold isLive at live
      simp [outside] at live

theorem tracked_create (maxClients : Int) (isServer : Bool) :
    (create maxClients isServer).Tracked := by
  have closed : ∀ clientId, ((create maxClients isServer).client clientId).isConnected = false :=
    fun _ => rfl
  refine ⟨?_, ?_, ?_⟩
  · rintro (_ | _) <;> simp [create, blocksOnInit, ClientsHandler.create]
  · intro clientId _ connected
    rw [closed] at connected
    cases connected
  · intro clientId _ connected
    rw [closed] at connected
    cases connected

theorem agrees_create (maxClients : Int) (isServer : Bool) :
    (create maxClients isServer).Agrees := by
  intro clientId _ connected
  have closed : ((create maxClients isServer).client clientId).isConnected = false := rfl
  rw [closed] at connected
  cases connected

/-- One call keeps the gates exactly when it does not unlock a client that
`Client::unlockRecv` blocks, or leaves blocked. -/
theorem Effect.keepsGates (effect : Effect before label after) (tracked : before.Tracked)
    (agrees : before.Agrees) :
    KeepsGates ⟨before, label, after⟩ ↔ UnlocksOpen ⟨before, label, after⟩ := by
  have gated_iff := gated_iff_agrees (effect.tracked tracked)
  constructor
  · rintro ⟨gated, one⟩ direction clientId called live
    dsimp only at gated called live ⊢
    obtain rfl := called
    obtain ⟨same, history⟩ := effect.unlocked live
    have range : before.handler.inRange clientId = true ∧
        (before.client clientId).isConnected = true := by
      simpa [isLive] using live
    have now := gated_iff.mp gated clientId (by rw [effect.inRange, range.1])
      (by rw [same]; exact range.2)
    rw [history, same] at now
    have opened : (before.client clientId).unlockRecv.isBlocked direction = false := by
      rw [Bool.eq_false_iff, ne_eq, now direction, GateHistory.blocked_cons (by simp)]
      simp
    cases direction with
    | recv => cases opened
    | send =>
        refine ⟨rfl, opened, ?_⟩
        have other := one .send clientId rfl live .recv (by simp)
        dsimp only at other
        rw [← other, same]
        rfl
  · intro opens
    refine ⟨gated_iff.mpr (effect.agrees tracked agrees opens), ?_⟩
    intro direction clientId called live other different
    obtain ⟨rfl, -, blocked⟩ := opens direction clientId called live
    dsimp only at called live blocked ⊢
    obtain rfl := called
    obtain ⟨same, -⟩ := effect.unlocked live
    cases other with
    | send => exact absurd rfl different
    | recv => rw [same, blocked]; rfl

section Runs

variable {taken : List (Transition GatedHandler HandlerCall)} {final : GatedHandler}

/-- Over a run, the gates of the connected clients are as the calls so far say
exactly as long as no client is unlocked for receiving, and none for sending
unless it is open for sending and blocked for receiving. -/
theorem keepsGates_iff {maxClients : Int} {isServer : Bool}
    (trace : Trace Calls (create maxClients isServer) taken final) :
    (∀ transition ∈ taken, KeepsGates transition) ↔
      ∀ transition ∈ taken, UnlocksOpen transition := by
  refine trace.forall_iff_of_carries (fun gated => gated.Tracked ∧ gated.Agrees)
    ⟨tracked_create maxClients isServer, agrees_create maxClients isServer⟩ ?_ ?_
  · rintro before label after calls ⟨tracked, agrees⟩
    exact (calls.effect tracked).keepsGates tracked agrees
  · rintro before label after calls ⟨tracked, agrees⟩ ⟨gated, -⟩
    have kept := (calls.effect tracked).tracked tracked
    exact ⟨kept, (gated_iff_agrees kept).mp gated⟩

/-- Sending is set to block, a client connects and is unlocked for sending: it
is still blocked, and is blocked for receiving as well. -/
theorem keepsGates_fails :
    ∃ taken final, Trace Calls create taken final ∧
      taken.map (·.label) = [.blockOnInit .send, .connected 0 5 0 .zero [], .unlock .send 0] ∧
      ¬ ∀ transition ∈ taken, KeepsGates transition := by
  have nothing : Trace Calls create [] create := .start
  refine ⟨_, _, nothing.of_follow call
    [.blockOnInit .send, .connected 0 5 0 .zero [], .unlock .send 0] rfl, rfl, ?_⟩
  intro keeps
  obtain ⟨gated, -⟩ := keeps _ (.tail _ (.tail _ (.head _)))
  have blocked := ((gated 0 rfl).1 rfl .send).mp rfl
  exact absurd blocked (by decide)

/-- Receiving is set to block, a client connects and is unlocked for sending. -/
theorem keepsGates_iff_blocked :
    ∃ taken final, Trace Calls create taken final ∧
      taken.map (·.label) = [.blockOnInit .recv, .connected 0 5 0 .zero [], .unlock .send 0] ∧
      ∀ transition ∈ taken, KeepsGates transition := by
  have nothing : Trace Calls create [] create := .start
  have trace := nothing.of_follow call
    [.blockOnInit .recv, .connected 0 5 0 .zero [], .unlock .send 0] rfl
  refine ⟨_, _, trace, rfl, (keepsGates_iff trace).mpr ?_⟩
  intro transition member direction clientId called live
  simp only [List.nil_append, List.mem_cons, List.not_mem_nil, or_false] at member
  rcases member with rfl | rfl | rfl
  · cases called
  · cases called
  · cases called
    exact ⟨rfl, rfl, rfl⟩

end Runs

end GatedHandler

end SensorManager
