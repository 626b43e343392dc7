import SensorManager.Common.BytesParser

/-!
# One client of a connection handler

`ClientsHandler::Client`: the socket of one slot with its output buffer and
the state of the message that is being received.  What the operating system
answers to `send` and `recv` is an argument; a call of the listener is the last
thing `recvData` does, so the message for it is returned.
-/

namespace SensorManager

/-- The error types of a `ConnectionException`. -/
inductive ErrorType where
  | nonSpecified
  | bind
  | listen
  | accept
  | recv
  | send
  | dataLen
  | createSocket
  | select
  deriving DecidableEq, Repr

structure ConnectionException where
  errorType : ErrorType
  errorMsg : String
  deriving DecidableEq, Repr

/-- The constructor with an error type.  It assigns the type twice and never
the text, which keeps its initial value. -/
def ConnectionException.ofType (errorType : ErrorType) (_errorMsg : String := "") :
    ConnectionException :=
  { errorType := errorType, errorMsg := "" }

/-- The address of a peer: the text `inet_ntoa` prints for it, and its port. -/
structure SockAddr where
  ip : List UInt8
  port : Int
  deriving DecidableEq, Repr

/-- The address of a cleared `sockaddr_in`. -/
def SockAddr.zero : SockAddr :=
  { ip := [48, 46, 48, 46, 48, 46, 48], port := 0 }

/-- What one call of `socket_recv` returns. -/
inductive Received where
  | bytes (data : List UInt8)
  | closed
  | error
  deriving DecidableEq, Repr

namespace Received

/-- The return value of the call. -/
def count : Received → Int
  | .bytes data => data.length
  | .closed => 0
  | .error => -1

/-- The bytes the call has placed in its buffer. -/
def data : Received → List UInt8
  | .bytes data => data
  | .closed => []
  | .error => []

end Received

/-- A slot of the handler.  `listener` tells whether the listener pointer is
set, and `conn` numbers the connection the socket belongs to; the program has
no such number. -/
structure Client where
  isServer : Bool
  socket : Int
  service : SockAddr
  clientId : Int
  outBuffer : List UInt8
  inBuffer : List UInt8
  remainingIn : Int
  remainingInLen : Int
  listener : Bool
  blockSend : Bool
  blockRecv : Bool
  waitForInitMsg : Bool
  conn : Nat
  deriving DecidableEq, Repr

namespace Client

def maxMsg : Int := 512

def reset (client : Client) : Client :=
  { client with
    socket := -1
    service := .zero
    remainingIn := 0
    remainingInLen := 0
    inBuffer := []
    outBuffer := []
    listener := if client.isServer then false else client.listener }

/-- A slot as the constructor leaves it.  The source initialises neither
`clientId` nor `waitForInitMsg`, and reads neither before a connection is
bound. -/
def unbound (isServer blockSend blockRecv : Bool) : Client :=
  reset
    { isServer := isServer
      socket := -1
      service := .zero
      clientId := 0
      outBuffer := []
      inBuffer := []
      remainingIn := 0
      remainingInLen := 0
      listener := false
      blockSend := blockSend
      blockRecv := blockRecv
      waitForInitMsg := false
      conn := 0 }

def isConnected (client : Client) : Bool :=
  client.socket > -1

/-- A connection is bound to the slot; `initMsg` is what the listener's
`beforeFirstSend` returns. -/
def connected (client : Client) (blockSend blockRecv : Bool) (socket clientId : Int)
    (service : SockAddr) (initMsg : List UInt8) (conn : Nat) : Client :=
  let client :=
    { client with
      blockRecv := blockRecv
      blockSend := blockSend
      waitForInitMsg := true
      socket := socket
      clientId := clientId
      service := service
      listener := true
      conn := conn }
  if initMsg.length > 0 then
    { client with
      outBuffer :=
        BytesParser.appendFrontBytes 4 initMsg initMsg.length ++ client.outBuffer }
  else client

/-- The slot is given up.  When receiving is blocked the source first calls
`flushRecvBuffer`, on a socket that `disconnectHandler` has closed by then. -/
def disconnected (client : Client) : Client :=
  client.reset

def isSomethingToSend (client : Client) : Bool :=
  if client.socket < 0 then false
  else if client.blockSend then false
  else !client.outBuffer.isEmpty

def isSomethingToRecv (client : Client) : Bool :=
  if client.blockRecv && !client.waitForInitMsg then false
  else client.socket ≥ 0

/-- `sent` is the result of `socket_send` on the whole output buffer. -/
def sendData (client : Client) (sent : Int) : Int × Client :=
  if sent > 0 then
    (sent, { client with outBuffer := client.outBuffer.drop sent.toNat })
  else (sent, client)

def addOutMsg (client : Client) (msg : List UInt8) (sent : Int) : Int × Client :=
  if msg.length ≤ 0 then (-1, client)
  else if !client.isConnected && client.isServer then (-1, client)
  else
    let client :=
      { client with
        outBuffer :=
          client.outBuffer ++ BytesParser.appendFrontBytes 4 msg msg.length }
    if (client.isConnected && !client.isServer) || client.isServer then
      (0, (client.sendData sent).2)
    else (0, client)

/-- The flag is set, not cleared. -/
def unlockRecv (client : Client) : Client :=
  { client with blockRecv := true }

/-- The part of `gotMsg` before the listener is called. -/
def gotMsg (client : Client) : Client :=
  { client with waitForInitMsg := false }

/-- The first statement of `recvData`: with no message in progress the next
length field is expected. -/
def beginMessage (client : Client) : Client :=
  if client.remainingIn = 0 ∧ client.remainingInLen = 0 then
    { client with inBuffer := [], remainingInLen := 4 }
  else client

@[simp] theorem beginMessage_listener (client : Client) :
    client.beginMessage.listener = client.listener := by
  unfold beginMessage
  split <;> rfl

@[simp] theorem beginMessage_waitForInitMsg (client : Client) :
    client.beginMessage.waitForInitMsg = client.waitForInitMsg := by
  unfold beginMessage
  split <;> rfl

/-- The number of bytes that `recvData` asks the socket for. -/
def toReceive (client : Client) : Int :=
  max client.beginMessage.remainingIn client.beginMessage.remainingInLen

/-- The branch of `recvData` for bytes of the length field. -/
def recvLength (client : Client) (count : Int) (beyond : BytesParser.Memory) :
    Except ConnectionException (Int × Option (List UInt8)) × Client :=
  let client := { client with remainingInLen := client.remainingInLen - count }
  if client.remainingInLen = 0 then
    let client :=
      { client with
        remainingIn := BytesParser.parse 4 client.inBuffer 0 beyond
        inBuffer := [] }
    if client.remainingIn > maxMsg then
      (.error (.ofType .dataLen "Message too long"), client)
    else if client.remainingIn ≤ 0 then
      (.error (.ofType .dataLen "Message too short"), client)
    else (.ok (count, none), client)
  else (.ok (count, none), client)

/-- The branch of `recvData` for bytes of the body. -/
def recvBody (client : Client) (count : Int) :
    Except ConnectionException (Int × Option (List UInt8)) × Client :=
  let client := { client with remainingIn := client.remainingIn - count }
  if client.remainingIn = 0 then
    (.ok (count, if client.listener then some client.inBuffer else none),
      client.gotMsg)
  else (.ok (count, none), client)

/-- One call of `recvData`.  It returns the result of `socket_recv` and the
message that the listener is to be called with, if one is complete. -/
def recvData (client : Client) (received : Received) (beyond : BytesParser.Memory) :
    Except ConnectionException (Int × Option (List UInt8)) × Client :=
  let client := client.beginMessage
  if received.count ≤ 0 then (.ok (received.count, none), client)
  else
    let client := { client with inBuffer := client.inBuffer ++ received.data }
    if client.remainingInLen > 0 then client.recvLength received.count beyond
    else client.recvBody received.count

/-- The client as `recvData` leaves it once the listener has `msg`. -/
def delivered (client : Client) (msg : List UInt8) : Client :=
  { client with inBuffer := msg, remainingIn := 0, remainingInLen := 0 }.gotMsg

theorem recvData_delivers {client after : Client} {received : Received}
    {beyond : BytesParser.Memory} {count : Int} {msg : List UInt8}
    (counted : 0 ≤ client.remainingInLen)
    (call : client.recvData received beyond = (.ok (count, some msg), after)) :
    after = client.delivered msg := by
  have known : 0 ≤ client.beginMessage.remainingInLen := by
    unfold beginMessage
    split
    · simp
    · exact counted
  have begun : client.beginMessage.delivered msg = client.delivered msg := by
    unfold beginMessage
    split <;> rfl
  unfold recvData at call
  dsimp only at call
  split at call
  · simp at call
  · split at call
    · simp only [recvLength] at call
      split at call
      · split at call
        · simp at call
        · split at call <;> simp at call
      · simp at call
    · next body =>
        have lengthDone : client.beginMessage.remainingInLen = 0 := by omega
        simp only [recvBody] at call
        split at call
        · next complete =>
            simp only [Prod.mk.injEq, Except.ok.injEq] at call
            obtain ⟨⟨-, message⟩, rfl⟩ := call
            split at message
            · cases message
              rw [← begun]
              simp [delivered, gotMsg, complete, lengthDone]
            · simp at message
        · simp at call

/-- `recvData` writes to the input buffer and its counters alone. -/
theorem recvData_eq (client : Client) (received : Received) (beyond : BytesParser.Memory) :
    ∃ inBuffer remainingIn remainingInLen waitForInitMsg,
      (client.recvData received beyond).2 =
        { client with
          inBuffer := inBuffer
          remainingIn := remainingIn
          remainingInLen := remainingInLen
          waitForInitMsg := waitForInitMsg } := by
  have begun : ∃ inBuffer remainingInLen, client.beginMessage =
      { client with inBuffer := inBuffer, remainingInLen := remainingInLen } := by
    unfold beginMessage
    split <;> exact ⟨_, _, rfl⟩
  obtain ⟨inBuffer, remainingInLen, same⟩ := begun
  unfold recvData
  rw [same]
  dsimp only
  split
  · exact ⟨_, _, _, _, rfl⟩
  · split
    · unfold recvLength
      dsimp only
      split
      · split
        · exact ⟨_, _, _, _, rfl⟩
        · split <;> exact ⟨_, _, _, _, rfl⟩
      · exact ⟨_, _, _, _, rfl⟩
    · unfold recvBody gotMsg
      dsimp only
      split <;> exact ⟨_, _, _, _, rfl⟩

/-- The received bytes are the last of a length field whose value is not
allowed. -/
def CompletesBadHeader (client : Client) (received : Received)
    (beyond : BytesParser.Memory) : Prop :=
  let begun := client.beginMessage
  let length := BytesParser.parse 4 (begun.inBuffer ++ received.data) 0 beyond
  0 < received.count ∧ 0 < begun.remainingInLen ∧ begun.remainingInLen = received.count ∧
    (length > maxMsg ∨ length ≤ 0)

instance (client : Client) (received : Received) (beyond : BytesParser.Memory) :
    Decidable (client.CompletesBadHeader received beyond) :=
  inferInstanceAs (Decidable (_ ∧ _ ∧ _ ∧ _))

/-- `addOutMsg` writes to the output buffer alone. -/
theorem addOutMsg_eq (client : Client) (msg : List UInt8) (sent : Int) :
    ∃ buffer, (client.addOutMsg msg sent).2 = { client with outBuffer := buffer } := by
  unfold addOutMsg
  split
  · exact ⟨_, rfl⟩
  · split
    · exact ⟨_, rfl⟩
    · dsimp only
      split
      · unfold sendData
        split <;> exact ⟨_, rfl⟩
      · exact ⟨_, rfl⟩

section Connected

variable (client : Client) (blockSend blockRecv : Bool) (socket clientId : Int)
  (service : SockAddr) (initMsg : List UInt8) (conn : Nat)

@[simp] theorem connected_isServer :
    (client.connected blockSend blockRecv socket clientId service initMsg conn).isServer =
      client.isServer := by
  unfold connected
  dsimp only
  split <;> rfl

@[simp] theorem connected_clientId :
    (client.connected blockSend blockRecv socket clientId service initMsg conn).clientId =
      clientId := by
  unfold connected
  dsimp only
  split <;> rfl

@[simp] theorem connected_socket :
    (client.connected blockSend blockRecv socket clientId service initMsg conn).socket =
      socket := by
  unfold connected
  dsimp only
  split <;> rfl

@[simp] theorem connected_conn :
    (client.connected blockSend blockRecv socket clientId service initMsg conn).conn =
      conn := by
  unfold connected
  dsimp only
  split <;> rfl

end Connected

end Client

end SensorManager
