import SensorManager.Common.SelectLoop
import SensorManager.Common.Senders

/-!
# The sensor program

`startHandling` in client mode with the one client of the handler, and the
measurement threads that send to it.  Binding a connection and giving it up
take two steps each: the socket changes without `sendLock`, and the output
buffer under it.
-/

namespace SensorManager

open Function

namespace Client

/-- `connected` before it calls the listener's `beforeFirstSend`. -/
def assign (client : Client) (blockSend blockRecv : Bool) (socket clientId : Int)
    (service : SockAddr) (conn : Nat) : Client :=
  { client with
    blockRecv := blockRecv
    blockSend := blockSend
    waitForInitMsg := true
    socket := socket
    clientId := clientId
    service := service
    listener := true
    conn := conn }

/-- The rest of `connected`. -/
def insertInit (client : Client) (initMsg : List UInt8) : Client :=
  if initMsg.length > 0 then
    { client with
      outBuffer :=
        BytesParser.appendFrontBytes 4 initMsg initMsg.length ++ client.outBuffer }
  else client

theorem connected_steps (client : Client) (blockSend blockRecv : Bool)
    (socket clientId : Int) (service : SockAddr) (initMsg : List UInt8) (conn : Nat) :
    client.connected blockSend blockRecv socket clientId service initMsg conn =
      (client.assign blockSend blockRecv socket clientId service conn).insertInit initMsg :=
  rfl

/-- `reset` before it locks the output buffer. -/
def unbind (client : Client) : Client :=
  { client with
    socket := -1
    service := .zero
    remainingIn := 0
    remainingInLen := 0
    inBuffer := [] }

/-- The rest of `reset`. -/
def clearOut (client : Client) : Client :=
  { client with
    outBuffer := []
    listener := if client.isServer then false else client.listener }

theorem reset_steps (client : Client) : client.reset = client.unbind.clearOut := rfl

end Client

namespace NetworkListener

/-- What the listener takes a message of the server for. -/
inductive Status where
  | lastAccepted (lastTimestamp : Int)
  | accepted (serverTime : Int)
  | rejected (reason : Int)
  | unknown
  deriving DecidableEq, Repr

/-- The statuses are '1', 'a' and 'r'. -/
def onGotRequest (msg : List UInt8) (beyond : BytesParser.Memory) : Status :=
  let status := BytesParser.parse 1 msg 0 beyond
  if status = 49 then .lastAccepted (BytesParser.parse 8 msg 1 beyond)
  else if status = 97 then .accepted (BytesParser.parse 8 msg 1 beyond)
  else if status = 114 then .rejected (BytesParser.parse 4 msg 1 beyond)
  else .unknown

/-- The message starts with 'i'. -/
def beforeFirstSend (token : List UInt8) : List UInt8 :=
  105 :: token

end NetworkListener

/-- The message that `sensorThread` sends, which starts with 'm'. -/
def measureMsg (timestamp value : Int) : List UInt8 :=
  BytesParser.appendBytes 4
    (BytesParser.appendBytes 8 (BytesParser.appendBytes 1 [] 109) timestamp) value

/-- Where the network thread stands. -/
inductive SensorStage where
  | tryConnect
  | insertInit
  | setReadyHandlers
  | trySelect
  | tryRecv
  | clearAfterRecv
  | trySend
  | clearAfterSend
  | left (failure : Option Failure)
  deriving DecidableEq, Repr

/-- The handler of the sensor program.  The marks tell whether the socket is in
the descriptor sets.  `greeted` and `past` are not part of the program: whether
the init frame is in the bytes of the client, and the bytes of the connections
that are over. -/
structure SensorLoop where
  outgoing : Outgoing
  connected : Bool
  readyIn : Bool
  readyOut : Bool
  stage : SensorStage
  killed : Bool
  blockingSendOnInit : Bool
  blockingRecvOnInit : Bool
  senders : Nat → Sender
  greeted : Bool
  past : List Outgoing

namespace SensorLoop

def start : SensorLoop :=
  { outgoing := { client := .unbound false false false, taken := [], appended := [] }
    connected := false
    readyIn := false
    readyOut := false
    stage := .tryConnect
    killed := false
    blockingSendOnInit := false
    blockingRecvOnInit := false
    senders := fun _ => .idle
    greeted := false
    past := [] }

def client (loop : SensorLoop) : Client :=
  loop.outgoing.client

def setClient (loop : SensorLoop) (client : Client) : SensorLoop :=
  { loop with outgoing := { loop.outgoing with client := client } }

/-- The bytes of all connections. -/
def connections (loop : SensorLoop) : List Outgoing :=
  loop.past ++ [loop.outgoing]

/-- `freeHandler` is never assigned in client mode. -/
def tryConnect (loop : SensorLoop) (answer : Answer) : SensorLoop :=
  if loop.connected then { loop with stage := .setReadyHandlers }
  else
    { loop.setClient (loop.client.assign loop.blockingSendOnInit loop.blockingRecvOnInit
        answer.socket (-1) .zero loop.past.length) with
      stage := .insertInit }

def insertInit (loop : SensorLoop) (token : List UInt8) : SensorLoop :=
  { loop.setClient (loop.client.insertInit (NetworkListener.beforeFirstSend token)) with
    connected := true
    stage := .setReadyHandlers
    greeted := true }

def setReadyHandlers (loop : SensorLoop) : SensorLoop :=
  { loop with
    readyOut := loop.client.isSomethingToSend
    readyIn := loop.client.isSomethingToRecv
    stage := .trySelect }

def trySelect (loop : SensorLoop) (answer : Answer) : SensorLoop :=
  if answer.selected = -1 then
    { loop with stage := .left (some (.thrown (.ofType .select))) }
  else
    { loop with
      readyIn := loop.readyIn && answer.activeIn loop.client.socket
      readyOut := loop.readyOut && answer.activeOut loop.client.socket
      stage := .tryRecv }

def onGotRequest (loop : SensorLoop) (msg : List UInt8) (beyond : BytesParser.Memory) :
    SensorLoop :=
  match NetworkListener.onGotRequest msg beyond with
  | .rejected _ => { loop with killed := true }
  | _ => loop

/-- `disconnectHandler` up to the lock of the output buffer. -/
def disconnectHandler (loop : SensorLoop) (stage : SensorStage) : SensorLoop :=
  { loop.setClient loop.client.unbind with
    connected := false
    stage := stage }

def clearOut (loop : SensorLoop) (stage : SensorStage) : SensorLoop :=
  { loop with
    outgoing := { client := loop.client.clearOut, taken := [], appended := [] }
    stage := stage
    greeted := false
    past := loop.connections }

def tryRecv (loop : SensorLoop) (answer : Answer) : SensorLoop :=
  if loop.client.isConnected && loop.readyIn then
    let called := loop.client.recvData answer.received answer.beyond
    let loop := loop.setClient called.2
    match called.1 with
    | .error exception => { loop with stage := .left (some (.thrown exception)) }
    | .ok (received, msg) =>
        let loop := msg.elim loop fun msg => loop.onGotRequest msg answer.beyond
        if received ≤ 0 then loop.disconnectHandler .clearAfterRecv
        else { loop with stage := .trySend }
  else { loop with stage := .trySend }

/-- The stage after an iteration. -/
def next (loop : SensorLoop) : SensorStage :=
  if loop.killed then .left none else .tryConnect

def trySend (loop : SensorLoop) (answer : Answer) : SensorLoop :=
  if loop.client.isConnected && loop.readyOut then
    let loop := { loop with outgoing := loop.outgoing.sendData answer.sent }
    if answer.sent ≤ 0 then loop.disconnectHandler .clearAfterSend
    else { loop with stage := loop.next }
  else { loop with stage := loop.next }

/-- One stage of `startHandling` in client mode. -/
def startHandling (token : List UInt8) (answer : Answer) (loop : SensorLoop) :
    Option SensorLoop :=
  match loop.stage with
  | .tryConnect => some (loop.tryConnect answer)
  | .insertInit => some (loop.insertInit token)
  | .setReadyHandlers => some loop.setReadyHandlers
  | .trySelect => some (loop.trySelect answer)
  | .tryRecv => some (loop.tryRecv answer)
  | .clearAfterRecv => some (loop.clearOut .trySend)
  | .trySend => some (loop.trySend answer)
  | .clearAfterSend => some (loop.clearOut loop.next)
  | .left _ => none

/-- The turn of a thread: of the network thread, of a measurement thread in
`addOutMsg`, or of the main thread before the loop. -/
inductive Turn where
  | network (answer : Answer)
  | sender (thread : Nat) (step : SendStep)
  | blockSendOnInit

def turn (token : List UInt8) : Turn → SensorLoop → Option SensorLoop
  | .network answer, loop => startHandling token answer loop
  | .sender thread step, loop =>
      (loop.outgoing.step (loop.senders thread) step).map fun after =>
        { loop with outgoing := after.1, senders := update loop.senders thread after.2 }
  | .blockSendOnInit, loop => some { loop with blockingSendOnInit := true }

def Turns (token : List UInt8) (loop : SensorLoop) (label : Turn) (after : SensorLoop) : Prop :=
  turn token label loop = some after

end SensorLoop

end SensorManager
