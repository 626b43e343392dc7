import SensorManager.Lib.Exec
import SensorManager.Common.ClientsHandler

/-!
# The select loop of a connection handler

`startHandling` in server mode, stage by stage.  Between any two stages, and
between the clients that a stage goes through, other threads may send messages
to clients and disconnect them.
-/

namespace SensorManager

/-- What a listener does to the client whose message it is called with. -/
inductive Reaction where
  | send (msg : List UInt8)
  | disconnect
  deriving DecidableEq, Repr

/-- The calls that a listener makes on the handler when it gets a message;
`none` where the call has no defined behaviour. -/
structure IRequestListener where
  onGotRequest : List UInt8 → BytesParser.Memory → Option (List Reaction)
  beforeFirstSend : List UInt8 := []

/-- A call of the listener. -/
inductive ListenerCall where
  | onClientConnected (clientId : Int) (ip : List UInt8) (port : Int)
  | onGotRequest (clientId : Int) (msg : List UInt8)
  | onClientDisconnected (clientId : Int)
  deriving DecidableEq, Repr

/-- What ends the network thread before the handler is killed.  The signal is the
`SIGPIPE` of a `::send` to a connection that the peer has reset; nothing in the
program handles it, and it ends all threads. -/
inductive Failure where
  | thrown (exception : ConnectionException)
  | crashed
  | signalled
  deriving DecidableEq, Repr

/-- Where the network thread stands; `left` when the loop has ended, because
the handler was killed or by a failure. -/
inductive Stage where
  | getFreeHandler
  | setReadyHandlers
  | trySelect
  | tryAccept
  | tryRecv (slot : Nat)
  | trySend (slot : Nat)
  | left (failure : Option Failure)
  deriving DecidableEq, Repr

/-- A descriptor set is a predicate on sockets.  `connections` numbers the
connections; the program has no such number. -/
structure SelectLoop where
  handler : ClientsHandler
  readyIn : Int → Bool
  readyOut : Int → Bool
  stage : Stage
  killed : Bool
  calls : List ListenerCall
  connections : Nat

/-- What the operating system answers to the calls of a stage.  With `sigpipe` a
`::send` of the listener raises the signal and does not return. -/
structure Answer where
  selected : Int := 0
  activeIn : Int → Bool := fun _ => false
  activeOut : Int → Bool := fun _ => false
  socket : Int := -1
  service : SockAddr := .zero
  received : Received := .closed
  beyond : BytesParser.Memory := fun _ => 0
  sent : Int := 0
  sigpipe : Bool := false

namespace SelectLoop

/-- `startHandling` before its first iteration. -/
def start (acceptingSocket : Int) (maxClients : Int := 100) : SelectLoop :=
  { handler :=
      { ClientsHandler.create maxClients with
        acceptingSocket := acceptingSocket
        nfds := acceptingSocket + 1 }
    readyIn := fun _ => false
    readyOut := fun _ => false
    stage := .getFreeHandler
    killed := false
    calls := []
    connections := 0 }

def slots (loop : SelectLoop) : List Int :=
  (List.range loop.handler.maxClients.toNat).map fun index : Nat => (index : Int)

def send (loop : SelectLoop) (clientId : Int) (msg : List UInt8) (sent : Int) : SelectLoop :=
  { loop with handler := (loop.handler.send clientId msg sent).2 }

def disconnectClient (loop : SelectLoop) (clientId : Int) : SelectLoop :=
  let disconnected := loop.handler.disconnectClient clientId
  { loop with
    handler := disconnected.1
    calls := loop.calls ++ disconnected.2.toList.map .onClientDisconnected }

def disconnectHandler (loop : SelectLoop) (slot : Int) : SelectLoop :=
  let disconnected := loop.handler.disconnectHandler slot
  { loop with
    handler := disconnected.1
    calls := loop.calls ++ [.onClientDisconnected disconnected.2] }

def react (clientId sent : Int) (loop : SelectLoop) : Reaction → SelectLoop
  | .send msg => loop.send clientId msg sent
  | .disconnect => loop.disconnectClient clientId

/-- `addOutMsg` comes to its `::send`. -/
def callsSend (loop : SelectLoop) (clientId : Int) : Reaction → Bool
  | .send msg =>
      loop.handler.inRange clientId && !msg.isEmpty &&
        (loop.handler.clientHandlers clientId).isConnected
  | .disconnect => false

def gotRequest (loop : SelectLoop) (clientId : Int) (msg : List UInt8) : SelectLoop :=
  { loop with calls := loop.calls ++ [.onGotRequest clientId msg] }

/-- The loop when the listener has been called with a message and has reacted. -/
def onGotRequest (loop : SelectLoop) (clientId : Int) (msg : List UInt8)
    (reactions : List Reaction) (sent : Int) : SelectLoop :=
  reactions.foldl (react clientId sent) (loop.gotRequest clientId msg)

/-- The first statements of an iteration. -/
def getFreeHandler (loop : SelectLoop) : SelectLoop :=
  { loop with
    handler :=
      { loop.handler with freeHandler := loop.handler.getFreeHandler, connected := true } }

def setReadyHandlers (loop : SelectLoop) : SelectLoop :=
  let clients := loop.slots.map loop.handler.clientHandlers
  { loop with
    readyOut := fun socket =>
      clients.any fun client => client.isSomethingToSend && client.socket = socket
    readyIn := fun socket =>
      (loop.handler.freeHandler ≥ 0 && loop.handler.isServer &&
        socket = loop.handler.acceptingSocket) ||
      clients.any fun client => client.isSomethingToRecv && client.socket = socket }

abbrev Network := Exec Failure SelectLoop

/-- What the listener does, up to a `::send` that does not return. -/
def reactAll (clientId : Int) (answer : Answer) : List Reaction → Network Unit
  | [] => pure ()
  | reaction :: later => do
      let loop ← get
      if answer.sigpipe && loop.callsSend clientId reaction then throw .signalled
      else do
        set (loop.react clientId answer.sent reaction)
        reactAll clientId answer later

/-- `select` leaves those sockets in the sets that are ready. -/
def trySelect (answer : Answer) : Network Unit := do
  if answer.selected = -1 then throw (.thrown (.ofType .select))
  else modify fun loop =>
    { loop with
      readyIn := fun socket => loop.readyIn socket && answer.activeIn socket
      readyOut := fun socket => loop.readyOut socket && answer.activeOut socket }

def bindHandler (loop : SelectLoop) (listener : IRequestListener) (socket : Int)
    (service : SockAddr) : SelectLoop :=
  let slot := loop.handler.freeHandler
  let handler := loop.handler.bindHandler slot socket service listener.beforeFirstSend
    loop.connections
  let client := handler.clientHandlers slot
  { loop with
    handler := handler
    calls := loop.calls ++
      [.onClientConnected client.clientId client.service.ip client.service.port]
    connections := loop.connections + 1 }

def tryAccept (listener : IRequestListener) (answer : Answer) : Network Unit := do
  let loop ← get
  if loop.readyIn loop.handler.acceptingSocket then
    if answer.socket = -1 then throw (.thrown (.ofType .accept))
    else
      let handler := { loop.handler with nfds := max (answer.socket + 1) loop.handler.nfds }
      set ({ loop with handler := handler }.bindHandler listener answer.socket answer.service)

def setClient (loop : SelectLoop) (slot : Int) (client : Client) : SelectLoop :=
  { loop with handler := loop.handler.setClient slot client }

/-- The client is connected and its socket is ready for `recv`. -/
def receives (loop : SelectLoop) (slot : Int) : Bool :=
  let client := loop.handler.clientHandlers slot
  client.isConnected && loop.readyIn client.socket

/-- The client is connected and its socket is ready for `send`. -/
def sends (loop : SelectLoop) (slot : Int) : Bool :=
  let client := loop.handler.clientHandlers slot
  client.isConnected && loop.readyOut client.socket

/-- The body of the loop of `tryRecv`. -/
def tryRecv (listener : IRequestListener) (slot : Int) (answer : Answer) : Network Unit := do
  let loop ← get
  if loop.receives slot then
    let called := (loop.handler.clientHandlers slot).recvData answer.received answer.beyond
    set (loop.setClient slot called.2)
    match called.1 with
    | .error exception => throw (.thrown exception)
    | .ok (received, none) => if received ≤ 0 then modify (·.disconnectHandler slot)
    | .ok (received, some msg) =>
        match listener.onGotRequest msg answer.beyond with
        | none => throw .crashed
        | some reactions => do
            modify (·.gotRequest called.2.clientId msg)
            reactAll called.2.clientId answer reactions
            if received ≤ 0 then modify (·.disconnectHandler slot)

/-- The body of the loop of `trySend`. -/
def trySend (slot : Int) (answer : Answer) : Network Unit := do
  let loop ← get
  if loop.sends slot then
    let called := (loop.handler.clientHandlers slot).sendData answer.sent
    set (loop.setClient slot called.2)
    if called.1 ≤ 0 then modify (·.disconnectHandler slot)

def goto (stage : Stage) : Network Unit :=
  modify fun loop => { loop with stage := stage }

/-- The stage after the turn of a client. -/
def nextRecv (loop : SelectLoop) (slot : Nat) : Stage :=
  if slot + 1 < loop.handler.maxClients.toNat then .tryRecv (slot + 1) else .trySend 0

def nextSend (loop : SelectLoop) (slot : Nat) : Stage :=
  if slot + 1 < loop.handler.maxClients.toNat then .trySend (slot + 1)
  else if loop.killed then .left none
  else .getFreeHandler

/-- One stage of `startHandling`. -/
def startHandling (listener : IRequestListener) (answer : Answer) : Network Unit := do
  let loop ← get
  match loop.stage with
  | .getFreeHandler => set { loop.getFreeHandler with stage := .setReadyHandlers }
  | .setReadyHandlers => set { loop.setReadyHandlers with stage := .trySelect }
  | .trySelect => do
      trySelect answer
      goto .tryAccept
  | .tryAccept => do
      tryAccept listener answer
      goto (.tryRecv 0)
  | .tryRecv slot => do
      tryRecv listener slot answer
      goto (loop.nextRecv slot)
  | .trySend slot => do
      trySend slot answer
      goto (loop.nextSend slot)
  | .left _ => Exec.blocked

/-- The turn of a thread: of the network thread, or of one that calls the
handler. -/
inductive Turn where
  | network (answer : Answer)
  | send (clientId : Int) (msg : List UInt8) (sent : Int)
  | disconnectClient (clientId : Int)
  | unlockSend (clientId : Int)
  | unlockRecv (clientId : Int)
  | blockSendOnInit
  | blockRecvOnInit
  | killHandler

/-- A failure ends the loop: the thread function catches an exception outside
`startHandling`, and does not start it again.  A `::send` of another thread, or of
`trySend`, that raises the signal ends the program, and there is no turn for it. -/
def act (listener : IRequestListener) : Turn → SelectLoop → Option SelectLoop
  | .network answer, loop =>
      match (startHandling listener answer).runOn loop with
      | some (.ok (), after) => some after
      | some (.error failure, after) => some { after with stage := .left (some failure) }
      | none => none
  | .send clientId msg sent, loop => some (loop.send clientId msg sent)
  | .disconnectClient clientId, loop => some (loop.disconnectClient clientId)
  | .unlockSend clientId, loop =>
      some { loop with handler := loop.handler.unlockSend clientId }
  | .unlockRecv clientId, loop =>
      some { loop with handler := loop.handler.unlockRecv clientId }
  | .blockSendOnInit, loop => some { loop with handler := loop.handler.blockSendOnInit }
  | .blockRecvOnInit, loop => some { loop with handler := loop.handler.blockRecvOnInit }
  | .killHandler, loop => some { loop with killed := true }

/-- No thread is left when the signal has ended the program. -/
def turn (listener : IRequestListener) (label : Turn) (loop : SelectLoop) :
    Option SelectLoop :=
  if loop.stage = .left (some .signalled) then none else act listener label loop

def Turns (listener : IRequestListener) (loop : SelectLoop) (label : Turn)
    (after : SelectLoop) : Prop :=
  turn listener label loop = some after

theorem Turns.acts {listener : IRequestListener} {loop after : SelectLoop} {label : Turn}
    (turns : Turns listener loop label after) : act listener label loop = some after := by
  unfold Turns turn at turns
  split at turns
  · cases turns
  · exact turns

end SelectLoop

end SensorManager
