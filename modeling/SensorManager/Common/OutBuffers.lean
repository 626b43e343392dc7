import SensorManager.Common.Senders
import SensorManager.Common.ClientsHandler

/-!
# The output buffers of a connection handler

The bytes that the socket has taken and what a slot has in its output buffer are
the frames of the messages that were sent to its connection.  `Buffered` says so of
all slots at once, and every operation of a handler in server mode keeps it.
-/

namespace SensorManager

open Framing Function

namespace Client

/-- The bytes that a client in server mode has for its socket once it has taken a
message. -/
theorem takenOfMsg_addOutMsg {client : Client} (isServer : client.isServer = true)
    (live : client.isConnected = true) {msg : List UInt8} (nonempty : msg ≠ []) (sent : Int) :
    client.takenOfMsg msg sent ++ (client.addOutMsg msg sent).2.outBuffer =
      client.outBuffer ++ wire.frame msg := by
  have accepts : client.refuses msg = false := by
    simp [refuses, live, nonempty]
  have sends : (client.append msg).sendsNow = true := by
    simp [sendsNow, append, isServer]
  unfold takenOfMsg
  rw [addOutMsg_steps, accepts, sends, ← append_outBuffer]
  exact takenBytes_sendData _ sent

/-- A free slot refuses every message. -/
theorem addOutMsg_free {client : Client} (isServer : client.isServer = true)
    (free : client.isConnected = false) (msg : List UInt8) (sent : Int) :
    client.takenOfMsg msg sent = [] ∧ (client.addOutMsg msg sent).2 = client := by
  have refuses : client.refuses msg = true := by
    simp [refuses, free, isServer]
  unfold takenOfMsg
  rw [addOutMsg_steps, if_pos refuses, if_pos refuses]
  exact ⟨rfl, rfl⟩

@[simp] theorem connected_outBuffer (client : Client) (blockSend blockRecv : Bool)
    (socket clientId : Int) (service : SockAddr) (conn : Nat) :
    (client.connected blockSend blockRecv socket clientId service [] conn).outBuffer =
      client.outBuffer := rfl

end Client

namespace ClientsHandler

/-- `sentTo` are the messages that were sent to each of the connections made so
far, and `taken` the bytes that their sockets have taken. -/
structure Buffered (handler : ClientsHandler) (sentTo : Nat → List (List UInt8))
    (taken : Nat → List UInt8) (connections : Nat) : Prop where
  unused : ∀ conn, connections ≤ conn → sentTo conn = [] ∧ taken conn = []
  below : ∀ slot conn, handler.holder slot = some conn → conn < connections
  apart : ∀ slot other conn, handler.holder slot = some conn →
    handler.holder other = some conn → slot = other
  idle : ∀ slot, (handler.clientHandlers slot).isConnected = false →
    (handler.clientHandlers slot).outBuffer = []
  whole : ∀ slot conn, handler.holder slot = some conn →
    taken conn ++ (handler.clientHandlers slot).outBuffer = wire.encode (sentTo conn)

/-- More is noted for whoever holds a slot. -/
def addTo {α : Type} (handler : ClientsHandler) (lists : Nat → List α) (slot : Int)
    (more : List α) : Nat → List α :=
  match handler.holder slot with
  | some conn => update lists conn (lists conn ++ more)
  | none => lists

/-- The messages after another one was sent to whoever holds a slot. -/
def sentWith (handler : ClientsHandler) (sentTo : Nat → List (List UInt8)) (slot : Int)
    (msg : List UInt8) : Nat → List (List UInt8) :=
  handler.addTo sentTo slot [msg]

/-- `sendData` on the client of a slot. -/
def sendData (handler : ClientsHandler) (slot sent : Int) : ClientsHandler :=
  handler.setClient slot ((handler.clientHandlers slot).sendData sent).2

variable {handler : ClientsHandler} {sentTo : Nat → List (List UInt8)}
  {taken : Nat → List UInt8} {connections : Nat} {slot : Int}

section AddTo

variable {α : Type} {lists : Nat → List α} {conn : Nat} (more : List α)

theorem addTo_self (held : handler.holder slot = some conn) :
    handler.addTo lists slot more conn = lists conn ++ more := by
  simp [addTo, held]

/-- It is noted for nobody else. -/
theorem addTo_other (other : handler.holder slot ≠ some conn) :
    handler.addTo lists slot more conn = lists conn := by
  unfold addTo
  cases held : handler.holder slot with
  | none => rfl
  | some holder =>
      have different : conn ≠ holder := by
        rintro rfl
        exact other held
      exact update_of_ne different _ lists

theorem addTo_nil : handler.addTo lists slot [] = lists := by
  unfold addTo
  split <;> simp

theorem addTo_free (free : handler.holder slot = none) :
    handler.addTo lists slot more = lists := by
  simp [addTo, free]

end AddTo

theorem Serving.sendData (serving : handler.Serving) (slot sent : Int) :
    (handler.sendData slot sent).Serving := by
  apply serving.setClient
  · unfold Client.sendData
    split <;> exact serving.clients slot
  · unfold Client.sendData
    split <;> exact serving.clientId slot

theorem buffered_create (maxClients : Int) (connections : Nat) :
    (create maxClients).Buffered (fun _ => []) (fun _ => []) connections := by
  have free : ∀ slot, (create maxClients).holder slot = none := by
    simp [holder, create, Client.unbound, Client.reset, Client.isConnected]
  refine ⟨fun _ _ => ⟨rfl, rfl⟩, ?_, ?_, fun _ _ => rfl, ?_⟩
  · intro slot conn held
    cases (free slot).symm.trans held
  · intro slot other conn held
    cases (free slot).symm.trans held
  · intro slot conn held
    cases (free slot).symm.trans held

/-- Connections that are made elsewhere are none of this handler's. -/
theorem Buffered.mono (buffered : handler.Buffered sentTo taken connections) {more : Nat}
    (grows : connections ≤ more) : handler.Buffered sentTo taken more :=
  ⟨fun conn late => buffered.unused conn (grows.trans late),
    fun slot conn held => (buffered.below slot conn held).trans_le grows,
    buffered.apart, buffered.idle, buffered.whole⟩

/-- A client that keeps its connection gets messages, and the socket takes bytes from
the front of its buffer. -/
theorem Buffered.exchange (buffered : handler.Buffered sentTo taken connections)
    (slot : Int) (client : Client) (socket : client.socket = (handler.clientHandlers slot).socket)
    (conn : client.conn = (handler.clientHandlers slot).conn) {msgs : List (List UInt8)}
    {bytes : List UInt8}
    (idle : client.isConnected = false → client.outBuffer = [])
    (moves : bytes ++ client.outBuffer =
      (handler.clientHandlers slot).outBuffer ++ wire.encode msgs) :
    (handler.setClient slot client).Buffered (handler.addTo sentTo slot msgs)
      (handler.addTo taken slot bytes) connections := by
  have holders := holder_setClient socket conn
  refine ⟨?_, ?_, ?_, ?_, ?_⟩
  · intro other late
    have different : handler.holder slot ≠ some other := by
      intro holds
      have := buffered.below slot other holds
      omega
    rw [addTo_other _ different, addTo_other _ different]
    exact buffered.unused other late
  · rw [holders]
    exact buffered.below
  · rw [holders]
    exact buffered.apart
  · intro other free
    by_cases same : other = slot
    · subst same
      simp only [ClientsHandler.setClient, update_self] at free ⊢
      exact idle free
    · simp only [ClientsHandler.setClient, update_of_ne same] at free ⊢
      exact buffered.idle other free
  · intro other holder held
    rw [holders] at held
    have whole := buffered.whole other holder held
    by_cases same : other = slot
    · subst same
      rw [addTo_self _ held, addTo_self _ held, Format.encode_append, ← whole]
      simp only [ClientsHandler.setClient, update_self]
      rw [List.append_assoc, moves, List.append_assoc]
    · have different : handler.holder slot ≠ some holder := fun holds =>
        same (buffered.apart other slot holder held holds)
      rw [addTo_other _ different, addTo_other _ different]
      simpa [ClientsHandler.setClient, same] using whole

/-- A client that keeps its connection may lose bytes to its socket. -/
theorem Buffered.setClient (buffered : handler.Buffered sentTo taken connections)
    {client : Client} (socket : client.socket = (handler.clientHandlers slot).socket)
    (conn : client.conn = (handler.clientHandlers slot).conn) {bytes : List UInt8}
    (front : bytes ++ client.outBuffer = (handler.clientHandlers slot).outBuffer) :
    (handler.setClient slot client).Buffered sentTo (handler.addTo taken slot bytes)
      connections := by
  have idle : client.isConnected = false → client.outBuffer = [] := by
    intro free
    simp only [Client.isConnected, socket] at free
    rw [buffered.idle slot free] at front
    exact (List.append_eq_nil_iff.mp front).2
  have moves : bytes ++ client.outBuffer =
      (handler.clientHandlers slot).outBuffer ++ wire.encode [] := by
    simpa using front
  have exchanged := buffered.exchange slot client socket conn idle moves
  rwa [addTo_nil] at exchanged

theorem Buffered.setClient_self (buffered : handler.Buffered sentTo taken connections)
    (slot : Int) {client : Client}
    (socket : client.socket = (handler.clientHandlers slot).socket)
    (conn : client.conn = (handler.clientHandlers slot).conn)
    (outBuffer : client.outBuffer = (handler.clientHandlers slot).outBuffer) :
    (handler.setClient slot client).Buffered sentTo taken connections := by
  have unchanged := buffered.setClient socket conn ((List.nil_append _).trans outBuffer)
  rwa [addTo_nil] at unchanged

theorem Buffered.send (buffered : handler.Buffered sentTo taken connections)
    (serving : handler.Serving) (slot : Int) {msg : List UInt8} (nonempty : msg ≠ [])
    (sent : Int) :
    (handler.send slot msg sent).2.Buffered (handler.sentWith sentTo slot msg)
      (handler.addTo taken slot ((handler.clientHandlers slot).takenOfMsg msg sent))
      connections := by
  have isServer := serving.clients slot
  cases held : handler.holder slot with
  | none =>
      rw [sentWith, addTo_free _ held, addTo_free _ held]
      unfold ClientsHandler.send
      split
      · exact buffered
      · next range =>
          have free : (handler.clientHandlers slot).isConnected = false := by
            simp only [holder, Bool.not_eq_true', Bool.not_eq_false] at range held
            simpa [range] using held
          dsimp only
          rw [(Client.addOutMsg_free isServer free msg sent).2]
          exact buffered.setClient_self slot rfl rfl rfl
  | some conn =>
      obtain ⟨range, live, -⟩ := holder_eq_some held
      obtain ⟨buffer, same⟩ := (handler.clientHandlers slot).addOutMsg_eq msg sent
      have moves : (handler.clientHandlers slot).takenOfMsg msg sent ++ buffer =
          (handler.clientHandlers slot).outBuffer ++ wire.encode [msg] := by
        have framed := Client.takenOfMsg_addOutMsg isServer live nonempty sent
        rw [same] at framed
        simpa using framed
      have sends : (handler.send slot msg sent).2 =
          handler.setClient slot { handler.clientHandlers slot with outBuffer := buffer } := by
        simp [ClientsHandler.send, range, same]
      rw [sends, sentWith]
      refine buffered.exchange slot { handler.clientHandlers slot with outBuffer := buffer } rfl rfl
        ?_ moves
      intro free
      exact absurd (free.symm.trans live) (by decide)

/-- Sending to whoever holds a slot moves bytes from the front of the buffer with
the new frame at its end to the socket; the other buffers stay as they are. -/
theorem send_moves (serving : handler.Serving) {slot holding : Int} {conn : Nat}
    (apart : ∀ other, handler.holder other = some conn → other = holding)
    (held : handler.holder holding = some conn) {msg : List UInt8} (nonempty : msg ≠ [])
    (sent : Int) :
    ∃ msgs moved, handler.sentWith sentTo slot msg conn = sentTo conn ++ msgs ∧
      handler.addTo taken slot ((handler.clientHandlers slot).takenOfMsg msg sent) conn =
        taken conn ++ moved ∧
      (handler.clientHandlers holding).outBuffer ++ wire.encode msgs =
        moved ++ ((handler.send slot msg sent).2.clientHandlers holding).outBuffer := by
  obtain ⟨range, live, -⟩ := holder_eq_some held
  by_cases same : slot = holding
  · subst same
    have moves := Client.takenOfMsg_addOutMsg (serving.clients slot) live nonempty sent
    refine ⟨[msg], _, addTo_self _ held, addTo_self _ held, ?_⟩
    simp [ClientsHandler.send, ClientsHandler.setClient, range, moves]
  · have different : handler.holder slot ≠ some conn := fun holds => same (apart slot holds)
    refine ⟨[], [], ?_, ?_, ?_⟩
    · rw [List.append_nil]
      exact addTo_other _ different
    · rw [List.append_nil]
      exact addTo_other _ different
    · unfold ClientsHandler.send
      split
      · simp
      · simp [ClientsHandler.setClient, Ne.symm same]

/-- The slot is given up with what its buffer still holds. -/
theorem Buffered.disconnectHandler (buffered : handler.Buffered sentTo taken connections)
    (slot : Int) : (handler.disconnectHandler slot).1.Buffered sentTo taken connections := by
  have holders : (handler.disconnectHandler slot).1.holder =
      Function.update handler.holder slot none := holder_disconnectHandler slot
  refine ⟨buffered.unused, ?_, ?_, ?_, ?_⟩
  · intro other conn held
    rw [holders] at held
    by_cases same : other = slot
    · simp [same] at held
    · rw [update_of_ne same] at held
      exact buffered.below other conn held
  · intro left right conn leftHeld rightHeld
    rw [holders] at leftHeld rightHeld
    by_cases leftSame : left = slot
    · simp [leftSame] at leftHeld
    · by_cases rightSame : right = slot
      · simp [rightSame] at rightHeld
      · rw [update_of_ne leftSame] at leftHeld
        rw [update_of_ne rightSame] at rightHeld
        exact buffered.apart left right conn leftHeld rightHeld
  · intro other free
    by_cases same : other = slot
    · simp [ClientsHandler.disconnectHandler, ClientsHandler.setClient, same,
        Client.disconnected, Client.reset]
    · simp only [ClientsHandler.disconnectHandler, ClientsHandler.setClient,
        update_of_ne same] at free ⊢
      exact buffered.idle other free
  · intro other conn held
    rw [holders] at held
    by_cases same : other = slot
    · simp [same] at held
    · rw [update_of_ne same] at held
      simpa [ClientsHandler.disconnectHandler, ClientsHandler.setClient, same] using
        buffered.whole other conn held

theorem Buffered.disconnectClient (buffered : handler.Buffered sentTo taken connections)
    (slot : Int) : (handler.disconnectClient slot).1.Buffered sentTo taken connections := by
  unfold ClientsHandler.disconnectClient
  split
  · exact buffered
  · split
    · exact buffered
    · exact buffered.disconnectHandler slot

theorem Buffered.sendData (buffered : handler.Buffered sentTo taken connections)
    (slot sent : Int) :
    (handler.sendData slot sent).Buffered sentTo
      (handler.addTo taken slot ((handler.clientHandlers slot).takenBytes sent)) connections := by
  apply buffered.setClient
  · unfold Client.sendData
    split <;> rfl
  · unfold Client.sendData
    split <;> rfl
  · exact Client.takenBytes_sendData _ sent

theorem Buffered.deliver (buffered : handler.Buffered sentTo taken connections) (slot : Int)
    (msg : List UInt8) : (handler.deliver slot msg).Buffered sentTo taken connections :=
  buffered.setClient_self slot rfl rfl rfl

/-- A new connection finds an empty buffer in its slot. -/
theorem Buffered.bindHandler (buffered : handler.Buffered sentTo taken connections)
    (range : handler.inRange slot = true) (free : handler.holder slot = none) {socket : Int}
    (bound : socket > -1) (service : SockAddr) :
    (handler.bindHandler slot socket service [] connections).Buffered sentTo taken
      (connections + 1) := by
  have holders := holder_bindHandler range bound service [] connections
  have emptied : (handler.clientHandlers slot).outBuffer = [] := by
    apply buffered.idle
    simpa [holder, range] using free
  refine ⟨?_, ?_, ?_, ?_, ?_⟩
  · exact fun conn late => buffered.unused conn (by omega)
  · intro other conn held
    rw [holders] at held
    by_cases same : other = slot
    · obtain rfl : connections = conn := by simpa [same] using held
      omega
    · rw [update_of_ne same] at held
      have := buffered.below other conn held
      omega
  · intro left right conn leftHeld rightHeld
    rw [holders] at leftHeld rightHeld
    have new : ∀ other, other ≠ slot → handler.holder other ≠ some connections := by
      intro other _ held
      have := buffered.below other connections held
      omega
    by_cases leftSame : left = slot
    · obtain rfl : connections = conn := by simpa [leftSame] using leftHeld
      by_cases rightSame : right = slot
      · rw [leftSame, rightSame]
      · rw [update_of_ne rightSame] at rightHeld
        exact absurd rightHeld (new right rightSame)
    · rw [update_of_ne leftSame] at leftHeld
      by_cases rightSame : right = slot
      · obtain rfl : connections = conn := by simpa [rightSame] using rightHeld
        exact absurd leftHeld (new left leftSame)
      · rw [update_of_ne rightSame] at rightHeld
        exact buffered.apart left right conn leftHeld rightHeld
  · intro other unbound
    by_cases same : other = slot
    · simp [ClientsHandler.bindHandler, ClientsHandler.setClient, same, emptied]
    · simp only [ClientsHandler.bindHandler, ClientsHandler.setClient,
        update_of_ne same] at unbound ⊢
      exact buffered.idle other unbound
  · intro other conn held
    rw [holders] at held
    by_cases same : other = slot
    · obtain rfl : connections = conn := by simpa [same] using held
      obtain ⟨unsent, untaken⟩ := buffered.unused connections le_rfl
      simp [ClientsHandler.bindHandler, ClientsHandler.setClient, same, emptied, unsent, untaken]
    · rw [update_of_ne same] at held
      simpa [ClientsHandler.bindHandler, ClientsHandler.setClient, same] using
        buffered.whole other conn held

end ClientsHandler

end SensorManager
