import SensorManager.Common.Client
import Mathlib.Logic.Function.Basic

/-!
# The slots of a connection handler

`ClientsHandler` keeps a fixed number of clients and names a client by its
index.  The functions here are those that other threads and the listeners
call; the select loop is in `Common.SelectLoop`.
-/

namespace SensorManager

/-- `clientHandlers` is indexed by the ids from 0 to `maxClients - 1`. -/
structure ClientsHandler where
  isServer : Bool
  maxClients : Int
  clientHandlers : Int → Client
  nfds : Int
  freeHandler : Int
  acceptingSocket : Int
  connected : Bool
  blockingSendOnInit : Bool
  blockingRecvOnInit : Bool

namespace ClientsHandler

/-- The constructor, without the socket calls of a subclass. -/
def create (maxClients : Int := 100) (isServer : Bool := true) : ClientsHandler :=
  { isServer := isServer
    maxClients := maxClients
    clientHandlers := fun _ => .unbound isServer false false
    nfds := 0
    freeHandler := -1
    acceptingSocket := -1
    connected := false
    blockingSendOnInit := false
    blockingRecvOnInit := false }

/-- The range check that every call with a client id makes. -/
def inRange (handler : ClientsHandler) (clientId : Int) : Bool :=
  !(clientId < 0 || clientId ≥ handler.maxClients)

def setClient (handler : ClientsHandler) (clientId : Int) (client : Client) :
    ClientsHandler :=
  { handler with
    clientHandlers := Function.update handler.clientHandlers clientId client }

/-- The connection that holds a slot. -/
def holder (handler : ClientsHandler) (clientId : Int) : Option Nat :=
  if handler.inRange clientId && (handler.clientHandlers clientId).isConnected then
    some (handler.clientHandlers clientId).conn
  else none

/-- The first client without a socket, or -1. -/
def getFreeHandler (handler : ClientsHandler) : Int :=
  match (List.range handler.maxClients.toNat).find?
      (fun index : Nat => (handler.clientHandlers index).socket < 0) with
  | some index => index
  | none => -1

/-- `disconnectHandler` on the client at `slot`, up to the call of the
listener's `onClientDisconnected` with the returned id. -/
def disconnectHandler (handler : ClientsHandler) (slot : Int) :
    ClientsHandler × Int :=
  let client := handler.clientHandlers slot
  ({ handler with connected := false }.setClient slot client.disconnected,
    client.clientId)

/-- `disconnectClient`; the listener is to be called when an id is returned. -/
def disconnectClient (handler : ClientsHandler) (clientId : Int) :
    ClientsHandler × Option Int :=
  if !handler.inRange clientId then (handler, none)
  else if !(handler.clientHandlers clientId).isConnected then (handler, none)
  else
    let disconnected := handler.disconnectHandler clientId
    (disconnected.1, some disconnected.2)

def send (handler : ClientsHandler) (clientId : Int) (msg : List UInt8)
    (sent : Int) : Int × ClientsHandler :=
  if !handler.inRange clientId then (-1, handler)
  else
    let result := (handler.clientHandlers clientId).addOutMsg msg sent
    (result.1, handler.setClient clientId result.2)

def getIp (handler : ClientsHandler) (clientId : Int) : List UInt8 :=
  if !handler.inRange clientId then []
  else (handler.clientHandlers clientId).service.ip

def getPort (handler : ClientsHandler) (clientId : Int) : Int :=
  if !handler.inRange clientId then -1
  else (handler.clientHandlers clientId).service.port

def blockRecvOnInit (handler : ClientsHandler) : ClientsHandler :=
  { handler with blockingRecvOnInit := true }

def blockSendOnInit (handler : ClientsHandler) : ClientsHandler :=
  { handler with blockingSendOnInit := true }

def unlockRecv (handler : ClientsHandler) (clientId : Int) : ClientsHandler :=
  if !handler.inRange clientId then handler
  else handler.setClient clientId (handler.clientHandlers clientId).unlockRecv

/-- The client is asked to unlock receiving here too. -/
def unlockSend (handler : ClientsHandler) (clientId : Int) : ClientsHandler :=
  if !handler.inRange clientId then handler
  else handler.setClient clientId (handler.clientHandlers clientId).unlockRecv

/-- `bindHandler` with `freeHandler` equal to `slot`, up to the call of the
listener's `onClientConnected`. -/
def bindHandler (handler : ClientsHandler) (slot socket : Int) (service : SockAddr)
    (initMsg : List UInt8) (conn : Nat) : ClientsHandler :=
  handler.setClient slot
    ((handler.clientHandlers slot).connected handler.blockingSendOnInit
      handler.blockingRecvOnInit socket slot service initMsg conn)

/-- The listener is called with a complete frame of the client at `slot`. -/
def deliver (handler : ClientsHandler) (slot : Int) (msg : List UInt8) : ClientsHandler :=
  handler.setClient slot ((handler.clientHandlers slot).delivered msg)

/-- A handler in server mode: its connected clients know their own index. -/
structure Serving (handler : ClientsHandler) : Prop where
  isServer : handler.isServer = true
  clients : ∀ slot, (handler.clientHandlers slot).isServer = true
  clientId : ∀ slot, (handler.clientHandlers slot).isConnected = true →
    (handler.clientHandlers slot).clientId = slot

section Serving

variable {handler : ClientsHandler} {slot : Int} {client : Client}

theorem Serving.setClient (serving : handler.Serving) (server : client.isServer = true)
    (known : client.isConnected = true → client.clientId = slot) :
    (handler.setClient slot client).Serving := by
  refine ⟨serving.isServer, ?_, ?_⟩
  · intro other
    by_cases same : other = slot
    · simp [ClientsHandler.setClient, same, server]
    · simp [ClientsHandler.setClient, same, serving.clients]
  · intro other
    by_cases same : other = slot
    · subst same
      simpa [ClientsHandler.setClient] using known
    · simpa [ClientsHandler.setClient, same] using serving.clientId other

theorem serving_create (maxClients : Int) : (create maxClients).Serving := by
  constructor <;> simp [create, Client.unbound, Client.reset, Client.isConnected]

theorem Serving.send (serving : handler.Serving) (slot : Int) (msg : List UInt8) (sent : Int) :
    (handler.send slot msg sent).2.Serving := by
  unfold ClientsHandler.send
  split
  · exact serving
  · obtain ⟨buffer, same⟩ := (handler.clientHandlers slot).addOutMsg_eq msg sent
    simp only [same]
    exact serving.setClient (serving.clients slot) (serving.clientId slot)

theorem Serving.disconnectHandler (serving : handler.Serving) (slot : Int) :
    (handler.disconnectHandler slot).1.Serving := by
  refine Serving.setClient ?_ (serving.clients slot) (by simp [Client.isConnected,
    Client.disconnected, Client.reset])
  exact ⟨serving.isServer, serving.clients, serving.clientId⟩

theorem Serving.disconnectClient (serving : handler.Serving) (slot : Int) :
    (handler.disconnectClient slot).1.Serving := by
  unfold ClientsHandler.disconnectClient
  split
  · exact serving
  · split
    · exact serving
    · exact serving.disconnectHandler slot

theorem Serving.bindHandler (serving : handler.Serving) (slot socket : Int)
    (service : SockAddr) (initMsg : List UInt8) (conn : Nat) :
    (handler.bindHandler slot socket service initMsg conn).Serving := by
  refine serving.setClient ?_ ?_
  · rw [Client.connected_isServer]
    exact serving.clients slot
  · intro _
    exact Client.connected_clientId ..

theorem Serving.unlockRecv (serving : handler.Serving) (slot : Int) :
    (handler.unlockRecv slot).Serving := by
  unfold ClientsHandler.unlockRecv
  split
  · exact serving
  · exact serving.setClient (serving.clients slot) (serving.clientId slot)

theorem Serving.unlockSend (serving : handler.Serving) (slot : Int) :
    (handler.unlockSend slot).Serving :=
  serving.unlockRecv slot

theorem Serving.deliver (serving : handler.Serving) (slot : Int) (msg : List UInt8) :
    (handler.deliver slot msg).Serving :=
  serving.setClient (serving.clients slot) (serving.clientId slot)

end Serving

section Holder

variable {handler : ClientsHandler} {slot : Int}

theorem holder_setClient_other {other : Int} (different : other ≠ slot) (client : Client) :
    (handler.setClient slot client).holder other = handler.holder other := by
  simp [holder, setClient, inRange, different]

theorem holder_setClient_same (client : Client) :
    (handler.setClient slot client).holder slot =
      if handler.inRange slot && client.isConnected then some client.conn else none := by
  simp [holder, setClient, inRange]

/-- A client that keeps its socket and connection keeps the slot. -/
theorem holder_setClient {client : Client}
    (socket : client.socket = (handler.clientHandlers slot).socket)
    (conn : client.conn = (handler.clientHandlers slot).conn) :
    (handler.setClient slot client).holder = handler.holder := by
  funext other
  by_cases same : other = slot
  · subst same
    rw [holder_setClient_same, holder]
    simp [Client.isConnected, socket, conn]
  · exact holder_setClient_other same client

theorem holder_eq_some {conn : Nat} (held : handler.holder slot = some conn) :
    handler.inRange slot = true ∧ (handler.clientHandlers slot).isConnected = true ∧
      (handler.clientHandlers slot).conn = conn := by
  unfold holder at held
  split at held
  · next live =>
      simp only [Bool.and_eq_true] at live
      exact ⟨live.1, live.2, Option.some.inj held⟩
  · simp at held

@[simp] theorem holder_send (slot : Int) (msg : List UInt8) (sent : Int) :
    (handler.send slot msg sent).2.holder = handler.holder := by
  unfold send
  split
  · rfl
  · obtain ⟨buffer, same⟩ := (handler.clientHandlers slot).addOutMsg_eq msg sent
    simp only [same]
    exact holder_setClient rfl rfl

@[simp] theorem holder_deliver (slot : Int) (msg : List UInt8) :
    (handler.deliver slot msg).holder = handler.holder :=
  holder_setClient rfl rfl

/-- A message is queued for the connection that holds the slot, if there is
one. -/
theorem send_result (serving : handler.Serving) (slot : Int) {msg : List UInt8}
    (nonempty : msg ≠ []) (sent : Int) :
    (handler.send slot msg sent).1 = 0 ↔ (handler.holder slot).isSome = true := by
  have server := serving.clients slot
  have long : ¬ msg.length ≤ 0 := by
    have := List.length_pos_iff.mpr nonempty
    omega
  unfold send holder
  by_cases range : handler.inRange slot = true
  · cases live : (handler.clientHandlers slot).isConnected with
    | true => simp [range, live, Client.addOutMsg, server, nonempty]
    | false => simp [range, live, Client.addOutMsg, server, nonempty]
  · simp [range]

theorem disconnectClient_free (free : handler.holder slot = none) :
    handler.disconnectClient slot = (handler, none) := by
  unfold holder at free
  unfold disconnectClient
  by_cases range : handler.inRange slot = true
  · cases live : (handler.clientHandlers slot).isConnected with
    | true => simp [range, live] at free
    | false => simp [range]
  · simp [range]

theorem disconnectClient_held (serving : handler.Serving) {conn : Nat}
    (held : handler.holder slot = some conn) :
    handler.disconnectClient slot = ((handler.disconnectHandler slot).1, some slot) := by
  obtain ⟨range, live, -⟩ := holder_eq_some held
  simp [disconnectClient, range, live, disconnectHandler, serving.clientId slot live]

theorem holder_disconnectHandler (slot : Int) :
    (handler.disconnectHandler slot).1.holder =
      Function.update handler.holder slot none := by
  funext other
  unfold disconnectHandler
  by_cases same : other = slot
  · subst same
    simp [holder_setClient_same, Client.disconnected, Client.reset, Client.isConnected]
  · rw [holder_setClient_other same, Function.update_of_ne same]
    rfl

theorem holder_bindHandler (range : handler.inRange slot = true) {socket : Int}
    (bound : socket > -1) (service : SockAddr) (initMsg : List UInt8) (conn : Nat) :
    (handler.bindHandler slot socket service initMsg conn).holder =
      Function.update handler.holder slot (some conn) := by
  funext other
  unfold bindHandler
  by_cases same : other = slot
  · subst same
    simp [holder_setClient_same, range, Client.isConnected, bound]
  · rw [holder_setClient_other same, Function.update_of_ne same]

end Holder

end ClientsHandler

/-- A handler in server mode. -/
def ServingHandler : Type :=
  { handler : ClientsHandler // handler.Serving }

end SensorManager
