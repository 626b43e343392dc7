import SensorManager.Lib.Trace
import SensorManager.Common.RecvFraming

/-!
# Threads that send to one client

`addOutMsg` appends a frame to the output buffer and then sends from the
front of it, each under `sendLock` but not both at once.  Any number of
threads do this while the network thread drains the same buffer.
-/

namespace SensorManager

open Framing Function

namespace Client

/-- The checks that `addOutMsg` begins with. -/
def refuses (client : Client) (msg : List UInt8) : Bool :=
  msg.length ≤ 0 || (!client.isConnected && client.isServer)

/-- The frame is appended under `sendLock`. -/
def append (client : Client) (msg : List UInt8) : Client :=
  { client with
    outBuffer := client.outBuffer ++ BytesParser.appendFrontBytes 4 msg msg.length }

/-- The condition under which `addOutMsg` goes on to `sendData`. -/
def sendsNow (client : Client) : Bool :=
  (client.isConnected && !client.isServer) || client.isServer

/-- A call of `addOutMsg` that nothing comes between. -/
theorem addOutMsg_steps (client : Client) (msg : List UInt8) (sent : Int) :
    client.addOutMsg msg sent =
      if client.refuses msg then (-1, client)
      else if (client.append msg).sendsNow then (0, ((client.append msg).sendData sent).2)
      else (0, client.append msg) := by
  unfold addOutMsg refuses
  by_cases empty : msg.length ≤ 0
  · simp [empty]
  · simp only [empty, if_false, decide_false, Bool.false_or]
    split <;> rfl

/-- The bytes that the socket takes when `socket_send` returns `sent`. -/
def takenBytes (client : Client) (sent : Int) : List UInt8 :=
  client.outBuffer.take sent.toNat

theorem takenBytes_sendData (client : Client) (sent : Int) :
    client.takenBytes sent ++ (client.sendData sent).2.outBuffer = client.outBuffer := by
  unfold takenBytes sendData
  split
  · exact List.take_append_drop ..
  · next nothing =>
      have : sent.toNat = 0 := by omega
      simp [this]

/-- The bytes that the socket takes in a call of `addOutMsg` that nothing comes
between. -/
def takenOfMsg (client : Client) (msg : List UInt8) (sent : Int) : List UInt8 :=
  if client.refuses msg then []
  else if (client.append msg).sendsNow then (client.append msg).takenBytes sent
  else []

theorem frame_eq (msg : List UInt8) :
    BytesParser.appendFrontBytes 4 msg msg.length = wire.frame msg := by
  unfold BytesParser.appendFrontBytes BytesParser.toBytes Format.frame
  rw [Bytes.ofInt_natCast, wire_width]

theorem append_outBuffer (client : Client) (msg : List UInt8) :
    (client.append msg).outBuffer = client.outBuffer ++ wire.frame msg := by
  unfold append
  rw [frame_eq]

@[simp] theorem isConnected_append (client : Client) (msg : List UInt8) :
    (client.append msg).isConnected = client.isConnected := rfl

@[simp] theorem isConnected_sendData (client : Client) (sent : Int) :
    (client.sendData sent).2.isConnected = client.isConnected := by
  unfold sendData
  split <;> rfl

end Client

/-- Where a thread stands in `addOutMsg`. -/
inductive Sender where
  | idle
  | appending (msg : List UInt8)
  | checking
  | sending
  deriving DecidableEq, Repr

/-- The steps of `addOutMsg`; `sent` is what `socket_send` returns. -/
inductive SendStep where
  | addOutMsg (msg : List UInt8)
  | append
  | check
  | sendData (sent : Int)
  deriving DecidableEq, Repr

namespace Sender

/-- One step of a thread that is in `addOutMsg`, or calls it. -/
def step (client : Client) : Sender → SendStep → Option (Client × Sender)
  | .idle, .addOutMsg msg =>
      some (client, if client.refuses msg then .idle else .appending msg)
  | .appending msg, .append => some (client.append msg, .checking)
  | .checking, .check => some (client, if client.sendsNow then .sending else .idle)
  | .sending, .sendData sent => some ((client.sendData sent).2, .idle)
  | _, _ => none

/-- The message that a step appends. -/
def appended : Sender → SendStep → List (List UInt8)
  | .appending msg, .append => [msg]
  | _, _ => []

/-- The bytes that the socket takes in a step. -/
def taken (client : Client) : Sender → SendStep → List UInt8
  | .sending, .sendData sent => client.takenBytes sent
  | _, _ => []

/-- Each step but the last goes on to the next one of `addOutMsg`. -/
theorem addOutMsg_of_steps {client : Client} {msg : List UInt8} {sent : Int}
    (accepts : client.refuses msg = false) (sends : (client.append msg).sendsNow = true) :
    ((step client .idle (.addOutMsg msg)).bind fun called =>
      (step called.1 called.2 .append).bind fun appended =>
        (step appended.1 appended.2 .check).bind fun checked =>
          step checked.1 checked.2 (.sendData sent)) =
      some ((client.addOutMsg msg sent).2, .idle) := by
  rw [Client.addOutMsg_steps]
  simp [step, accepts, sends]

end Sender

/-- A client with the bytes that its socket has taken and the messages that
have been appended since its output buffer was last cleared. -/
structure Outgoing where
  client : Client
  taken : List UInt8
  appended : List (List UInt8)

namespace Outgoing

/-- The bytes that have gone through the output buffer, or are still in it. -/
def bytes (outgoing : Outgoing) : List UInt8 :=
  outgoing.taken ++ outgoing.client.outBuffer

def step (outgoing : Outgoing) (sender : Sender) (step : SendStep) : Option (Outgoing × Sender) :=
  (sender.step outgoing.client step).map fun after =>
    ({ client := after.1
       taken := outgoing.taken ++ sender.taken outgoing.client step
       appended := outgoing.appended ++ sender.appended step }, after.2)

def sendData (outgoing : Outgoing) (sent : Int) : Outgoing :=
  { outgoing with
    client := (outgoing.client.sendData sent).2
    taken := outgoing.taken ++ outgoing.client.takenBytes sent }

@[simp] theorem bytes_sendData (outgoing : Outgoing) (sent : Int) :
    (outgoing.sendData sent).bytes = outgoing.bytes := by
  unfold sendData bytes
  rw [List.append_assoc, Client.takenBytes_sendData]

/-- A step of a sender adds whole frames to the end of the bytes, and moves
none of those before. -/
theorem step_bytes {outgoing after : Outgoing} {sender next : Sender} {step : SendStep}
    (stepped : outgoing.step sender step = some (after, next)) :
    after.bytes = outgoing.bytes ++ wire.encode (sender.appended step) := by
  obtain ⟨⟨client, moved⟩, ran, same⟩ := Option.map_eq_some_iff.mp stepped
  cases same
  cases sender <;> cases step <;> cases ran <;>
    simp only [bytes, Sender.taken, Sender.appended, Format.encode_nil, List.append_nil]
  · rw [Client.append_outBuffer]
    simp
  · rw [List.append_assoc, Client.takenBytes_sendData]

theorem step_appended {outgoing after : Outgoing} {sender next : Sender} {step : SendStep}
    (stepped : outgoing.step sender step = some (after, next)) :
    after.appended = outgoing.appended ++ sender.appended step := by
  obtain ⟨⟨client, moved⟩, -, same⟩ := Option.map_eq_some_iff.mp stepped
  cases same
  rfl

theorem step_isConnected {outgoing after : Outgoing} {sender next : Sender} {step : SendStep}
    (stepped : outgoing.step sender step = some (after, next)) :
    after.client.isConnected = outgoing.client.isConnected := by
  obtain ⟨⟨client, moved⟩, ran, same⟩ := Option.map_eq_some_iff.mp stepped
  cases same
  cases sender <;> cases step <;> cases ran <;> simp

end Outgoing

/-- A connection of a client with the threads that send to it. -/
structure Sending where
  outgoing : Outgoing
  senders : Nat → Sender

/-- The turn of a thread: of a sender, of the network thread in `trySend`, or
of one that disconnects the client. -/
inductive SendTurn where
  | sender (thread : Nat) (step : SendStep)
  | trySend (sent : Int)
  | disconnectClient

namespace Sending

def disconnect (sending : Sending) : Sending :=
  { sending with
    outgoing := { sending.outgoing with client := sending.outgoing.client.disconnected } }

/-- `trySend` once the socket is ready. -/
def trySend (sending : Sending) (sent : Int) : Sending :=
  let called := { sending with outgoing := sending.outgoing.sendData sent }
  if sent ≤ 0 then called.disconnect else called

def turn : SendTurn → Sending → Option Sending
  | .sender thread step, sending =>
      (sending.outgoing.step (sending.senders thread) step).map fun after =>
        { outgoing := after.1, senders := update sending.senders thread after.2 }
  | .trySend sent, sending =>
      some (if sending.outgoing.client.isConnected then sending.trySend sent else sending)
  | .disconnectClient, sending =>
      some (if sending.outgoing.client.isConnected then sending.disconnect else sending)

/-- A client whose output buffer is empty, as it is for a new connection. -/
def start (client : Client) (senders : Nat → Sender) : Sending :=
  { outgoing := { client := client, taken := [], appended := [] }, senders := senders }

def Turns (sending : Sending) (label : SendTurn) (after : Sending) : Prop :=
  turn label sending = some after

/-- Until the connection ends, its bytes are the frames of the messages. -/
def Framed (sending : Sending) : Prop :=
  sending.outgoing.client.isConnected = true →
    sending.outgoing.bytes = wire.encode sending.outgoing.appended

variable {sending after : Sending}

theorem isConnected_disconnect (sending : Sending) :
    sending.disconnect.outgoing.client.isConnected = false := rfl

theorem framed_disconnect (sending : Sending) : sending.disconnect.Framed := by
  intro connected
  rw [isConnected_disconnect] at connected
  cases connected

theorem Framed.trySend (framed : sending.Framed) (sent : Int) : (sending.trySend sent).Framed := by
  unfold Sending.trySend
  dsimp only
  split
  · exact framed_disconnect _
  · intro connected
    dsimp only at connected ⊢
    rw [Outgoing.bytes_sendData]
    apply framed
    rwa [Outgoing.sendData, Client.isConnected_sendData] at connected

theorem Turns.framed {label : SendTurn} (turns : Turns sending label after)
    (framed : sending.Framed) : after.Framed := by
  cases label with
  | sender thread step =>
      obtain ⟨⟨outgoing, next⟩, stepped, same⟩ := Option.map_eq_some_iff.mp turns
      subst same
      intro connected
      dsimp only at connected ⊢
      rw [Outgoing.step_isConnected stepped] at connected
      rw [Outgoing.step_bytes stepped, Outgoing.step_appended stepped, Format.encode_append,
        framed connected]
  | trySend sent =>
      cases turns
      split
      · exact framed.trySend sent
      · exact framed
  | disconnectClient =>
      cases turns
      split
      · exact framed_disconnect sending
      · exact framed

/-- At every moment of a connection the bytes that the socket has taken,
followed by the output buffer, are one frame for each appended message, and
whatever frames the peer finds in the bytes are those of the first messages. -/
theorem taken_frames {client : Client} (empty : client.outBuffer = [])
    (senders : Nat → Sender) {turns : List (Transition Sending SendTurn)}
    (trace : Trace Turns (start client senders) turns after)
    (connected : after.outgoing.client.isConnected = true) :
    after.outgoing.taken ++ after.outgoing.client.outBuffer =
        wire.encode after.outgoing.appended ∧
      ((∀ msg ∈ after.outgoing.appended, wire.Fits msg) →
        ∀ found, (∀ msg ∈ found, wire.Fits msg) →
          wire.encode found <+: after.outgoing.taken → found <+: after.outgoing.appended) := by
  have begun : (start client senders).Framed := by
    intro _
    simp [start, Outgoing.bytes, empty]
  have framed := (trace.keeps begun fun _ _ _ turns framed => turns.framed framed).1 connected
  refine ⟨framed, ?_⟩
  intro fits found foundFits covers
  apply Format.prefix_of_encode_prefix fits foundFits
  rw [← framed]
  exact covers.trans (List.prefix_append _ _)

/-- A client that has just been bound to socket 4. -/
def bound : Client :=
  (Client.unbound true false false).connected false false 4 0 .zero [] 0

/-- Two threads append while the socket takes a few bytes at a time. -/
theorem taken_frames_twoThreads :
    ∃ turns after, Trace Turns (start bound fun _ => .idle) turns after ∧
      after.outgoing.taken = [2, 0, 0, 0, 109, 1, 1] ∧
      after.outgoing.taken ++ after.outgoing.client.outBuffer =
        wire.encode after.outgoing.appended := by
  have played : (playMoves turn (fun _ _ => true)
      [.sender 0 (.addOutMsg [105]), .sender 1 (.addOutMsg [109, 1]), .sender 1 .append,
        .sender 0 .append, .trySend 3, .sender 1 .check, .sender 1 (.sendData (-1)), .trySend 4]
      (start bound fun _ => .idle)).map (fun sending =>
        (sending.outgoing.client.isConnected, sending.outgoing.taken)) =
      some (true, [2, 0, 0, 0, 109, 1, 1]) := by
    decide +kernel
  obtain ⟨after, reached, seen⟩ := Option.map_eq_some_iff.mp played
  obtain ⟨connected, taken⟩ := Prod.mk.inj seen
  obtain ⟨turns, trace, -⟩ := Trace.of_playMoves .start reached
  exact ⟨turns, after, trace, taken, (taken_frames rfl _ trace connected).1⟩

end Sending

end SensorManager
