import SensorManager.Common.Descriptors
import SensorManager.Common.NetworkTurn

/-!
# The life of a slot

A slot is free, is bound to an accepted socket, and is free again once it has
been disconnected.  The listener is told of each of these, and of the messages
in between.
-/

namespace SensorManager

open Function

def ListenerCall.clientId : ListenerCall → Int
  | .onClientConnected clientId _ _ => clientId
  | .onGotRequest clientId _ => clientId
  | .onClientDisconnected clientId => clientId

/-- The calls of the listener that name a slot. -/
def callsOf (slot : Int) (calls : List ListenerCall) : List ListenerCall :=
  calls.filter fun call => call.clientId = slot

theorem callsOf_append (slot : Int) (calls : List ListenerCall) (call : ListenerCall) :
    callsOf slot (calls ++ [call]) =
      if call.clientId = slot then callsOf slot calls ++ [call] else callsOf slot calls := by
  unfold callsOf
  rw [List.filter_append]
  split
  · next same => simp [same]
  · next different => simp [different]

/-- What the listener is told of one connection, but for its end. -/
structure Life where
  ip : List UInt8
  port : Int
  msgs : List (List UInt8)

def Life.calls (slot : Int) (life : Life) : List ListenerCall :=
  .onClientConnected slot life.ip life.port :: life.msgs.map (.onGotRequest slot)

/-- The calls for a connection that is over. -/
def Life.ended (slot : Int) (life : Life) : List ListenerCall :=
  life.calls slot ++ [.onClientDisconnected slot]

/-- The calls for a slot are those of its connections, one after the other:
every connection is over with exactly one `onClientDisconnected`, but for the
last while the slot is connected. -/
def Lives (slot : Int) (calls : List ListenerCall) (connected : Bool) : Prop :=
  ∃ past : List Life, ∃ current : Option Life, current.isSome = connected ∧
    calls = past.flatMap (Life.ended slot) ++ current.toList.flatMap (Life.calls slot)

namespace Lives

variable {slot : Int} {calls : List ListenerCall}

theorem none (slot : Int) : Lives slot [] false :=
  ⟨[], .none, rfl, rfl⟩

theorem connected (lives : Lives slot calls false) (ip : List UInt8) (port : Int) :
    Lives slot (calls ++ [.onClientConnected slot ip port]) true := by
  obtain ⟨past, current, free, same⟩ := lives
  rw [Option.isSome_eq_false_iff, Option.isNone_iff_eq_none] at free
  subst free
  refine ⟨past, some ⟨ip, port, []⟩, rfl, ?_⟩
  rw [same]
  simp [Life.calls]

theorem gotRequest (lives : Lives slot calls true) (msg : List UInt8) :
    Lives slot (calls ++ [.onGotRequest slot msg]) true := by
  obtain ⟨past, current, live, same⟩ := lives
  obtain ⟨life, rfl⟩ := Option.isSome_iff_exists.mp live
  refine ⟨past, some { life with msgs := life.msgs ++ [msg] }, rfl, ?_⟩
  rw [same]
  simp [Life.calls]

theorem disconnected (lives : Lives slot calls true) :
    Lives slot (calls ++ [.onClientDisconnected slot]) false := by
  obtain ⟨past, current, live, same⟩ := lives
  obtain ⟨life, rfl⟩ := Option.isSome_iff_exists.mp live
  refine ⟨past ++ [life], .none, rfl, ?_⟩
  rw [same]
  simp [Life.ended]

end Lives

namespace SelectLoop

variable {listener : IRequestListener} {loop after : SelectLoop} {answer : Answer} {slot : Int}

/-- What holds of all slots at every moment. -/
structure Lifecycle (loop : SelectLoop) : Prop where
  serves : loop.Serves
  descriptors : loop.handler.Descriptors
  settled : ∀ slot, (loop.handler.clientHandlers slot).Settled
  lives : ∀ slot, Lives slot (callsOf slot loop.calls)
    (loop.handler.clientHandlers slot).isConnected

/-- Stages and descriptor sets say nothing about the slots. -/
theorem Lifecycle.congr (lifecycle : loop.Lifecycle)
    (handler : after.handler =
      { loop.handler with
        freeHandler := after.handler.freeHandler
        connected := after.handler.connected
        blockingSendOnInit := after.handler.blockingSendOnInit
        blockingRecvOnInit := after.handler.blockingRecvOnInit })
    (calls : after.calls = loop.calls) : after.Lifecycle := by
  obtain ⟨⟨isServer, clients, clientId⟩, ⟨valid, inside, distinct, listening, below⟩, settled,
    lives⟩ := lifecycle
  constructor
  · unfold Serves
    rw [handler]
    exact ⟨isServer, clients, clientId⟩
  · rw [handler]
    exact ⟨valid, inside, distinct, listening, below⟩
  · rw [handler]
    exact settled
  · rw [handler, calls]
    exact lives

/-- A client changes that keeps its socket. -/
theorem Lifecycle.setClient (lifecycle : loop.Lifecycle) {client : Client}
    (isServer : client.isServer = (loop.handler.clientHandlers slot).isServer)
    (socket : client.socket = (loop.handler.clientHandlers slot).socket)
    (clientId : client.clientId = (loop.handler.clientHandlers slot).clientId)
    (settled : client.Settled) : (loop.setClient slot client).Lifecycle := by
  have connected : client.isConnected = (loop.handler.clientHandlers slot).isConnected := by
    unfold Client.isConnected
    rw [socket]
  constructor
  · apply lifecycle.serves.setClient
    · rw [isServer]
      exact lifecycle.serves.clients slot
    · intro live
      rw [clientId]
      rw [connected] at live
      exact lifecycle.serves.clientId slot live
  · exact lifecycle.descriptors.setClient socket
  · intro other
    by_cases same : other = slot
    · subst same
      simpa [SelectLoop.setClient] using settled
    · simpa [SelectLoop.setClient, same] using lifecycle.settled other
  · intro other
    have lives := lifecycle.lives other
    by_cases same : other = slot
    · subst same
      rw [← connected] at lives
      simpa [SelectLoop.setClient] using lives
    · simpa [SelectLoop.setClient, same] using lives

theorem Lifecycle.gotRequest (lifecycle : loop.Lifecycle)
    (connected : (loop.handler.clientHandlers slot).isConnected = true) (msg : List UInt8) :
    Lifecycle { loop with calls := loop.calls ++ [.onGotRequest slot msg] } := by
  refine ⟨lifecycle.serves, lifecycle.descriptors, lifecycle.settled, ?_⟩
  intro other
  have lives := lifecycle.lives other
  dsimp only
  rw [callsOf_append]
  split
  · next same =>
      obtain rfl : slot = other := same
      rw [connected] at lives ⊢
      exact lives.gotRequest msg
  · exact lives

theorem Lifecycle.disconnectHandler (lifecycle : loop.Lifecycle)
    (connected : (loop.handler.clientHandlers slot).isConnected = true) :
    (loop.disconnectHandler slot).Lifecycle := by
  have known := lifecycle.serves.clientId slot connected
  have handler : (loop.disconnectHandler slot).handler =
      { loop.handler with connected := false }.setClient slot
        (loop.handler.clientHandlers slot).disconnected := rfl
  have descriptors : { loop.handler with connected := false }.Descriptors :=
    ⟨lifecycle.descriptors.valid, lifecycle.descriptors.inside, lifecycle.descriptors.distinct,
      lifecycle.descriptors.listening, lifecycle.descriptors.below⟩
  constructor
  · exact serves_disconnectHandler lifecycle.serves slot
  · rw [handler]
    exact descriptors.close rfl
  · intro other
    rw [handler]
    by_cases same : other = slot
    · subst same
      simpa using Client.settled_disconnected _
    · simpa [same] using lifecycle.settled other
  · intro other
    have lives := lifecycle.lives other
    have calls : (loop.disconnectHandler slot).calls = loop.calls ++
        [.onClientDisconnected (loop.handler.clientHandlers slot).clientId] := rfl
    rw [handler, calls, known, callsOf_append]
    split
    · next same =>
        obtain rfl : slot = other := same
        rw [connected] at lives
        simpa using lives.disconnected
    · next different =>
        have other : other ≠ slot := fun same => different same.symm
        simpa [other] using lives

theorem Lifecycle.disconnectClient (lifecycle : loop.Lifecycle) (clientId : Int) :
    (loop.disconnectClient clientId).Lifecycle := by
  unfold SelectLoop.disconnectClient ClientsHandler.disconnectClient
  split
  · simpa using lifecycle
  · split
    · simpa using lifecycle
    · next connected =>
        rw [Bool.not_eq_true', Bool.not_eq_false] at connected
        exact lifecycle.disconnectHandler connected

theorem Lifecycle.send (lifecycle : loop.Lifecycle) (clientId : Int) (msg : List UInt8)
    (sent : Int) : (loop.send clientId msg sent).Lifecycle := by
  unfold SelectLoop.send ClientsHandler.send
  split
  · exact lifecycle
  · obtain ⟨buffer, same⟩ := (loop.handler.clientHandlers clientId).addOutMsg_eq msg sent
    apply lifecycle.setClient
    · rw [same]
    · rw [same]
    · rw [same]
    · cases connected : (loop.handler.clientHandlers clientId).isConnected with
      | true =>
          apply Client.settled_of_isConnected
          rw [same]
          exact connected
      | false =>
          -- a server refuses the message
          have server := lifecycle.serves.clients clientId
          have unchanged : ((loop.handler.clientHandlers clientId).addOutMsg msg sent).2 =
              loop.handler.clientHandlers clientId := by
            unfold Client.addOutMsg
            split
            · rfl
            · simp [connected, server]
          rw [unchanged]
          exact lifecycle.settled clientId

theorem Lifecycle.react (lifecycle : loop.Lifecycle) (clientId sent : Int)
    (reaction : Reaction) : (loop.react clientId sent reaction).Lifecycle := by
  cases reaction with
  | send msg => exact lifecycle.send clientId msg sent
  | disconnect => exact lifecycle.disconnectClient clientId

theorem Lifecycle.foldl_react (lifecycle : loop.Lifecycle) (clientId sent : Int)
    (reactions : List Reaction) :
    (reactions.foldl (SelectLoop.react clientId sent) loop).Lifecycle := by
  induction reactions generalizing loop with
  | nil => exact lifecycle
  | cons reaction reactions ih => exact ih (lifecycle.react clientId sent reaction)

theorem Lifecycle.onGotRequest (lifecycle : loop.Lifecycle)
    (connected : (loop.handler.clientHandlers slot).isConnected = true) (msg : List UInt8)
    (reactions : List Reaction) (sent : Int) :
    (loop.onGotRequest slot msg reactions sent).Lifecycle :=
  (lifecycle.gotRequest connected msg).foldl_react slot sent reactions

theorem Lifecycle.closeUnless (lifecycle : loop.Lifecycle)
    (connected : (loop.handler.clientHandlers slot).isConnected = true) (count : Int) :
    (loop.closeUnless slot count).Lifecycle := by
  unfold SelectLoop.closeUnless
  split
  · exact lifecycle.disconnectHandler connected
  · exact lifecycle

theorem Lifecycle.recvData (lifecycle : loop.Lifecycle)
    (connected : (loop.handler.clientHandlers slot).isConnected = true)
    {result : Except ConnectionException (Int × Option (List UInt8))} {client : Client}
    {received : Received} {beyond : BytesParser.Memory}
    (called : (loop.handler.clientHandlers slot).recvData received beyond = (result, client)) :
    (loop.setClient slot client).Lifecycle ∧ client.isConnected = true := by
  obtain ⟨inBuffer, remainingIn, remainingInLen, waitForInitMsg, same⟩ :=
    (loop.handler.clientHandlers slot).recvData_eq received beyond
  rw [called] at same
  subst same
  refine ⟨?_, connected⟩
  exact lifecycle.setClient rfl rfl rfl (Client.settled_of_isConnected connected)

theorem TryRecv.lifecycle {result : Except Failure Unit}
    (handled : TryRecv listener loop slot answer result after) (lifecycle : loop.Lifecycle) :
    after.Lifecycle := by
  have isConnected : loop.receives slot = true →
      (loop.handler.clientHandlers slot).isConnected = true := by
    intro receives
    unfold SelectLoop.receives at receives
    exact (Bool.and_eq_true_iff.mp receives).1
  cases handled with
  | skipped nothing => exact lifecycle
  | threw receives called => exact (lifecycle.recvData (isConnected receives) called).1
  | received receives called =>
      obtain ⟨now, connected⟩ := lifecycle.recvData (isConnected receives) called
      apply now.closeUnless
      simpa [SelectLoop.setClient] using connected
  | crashed receives called undefined =>
      exact (lifecycle.recvData (isConnected receives) called).1
  | @signalled count client msg reactions done receives called reacts raised =>
      obtain ⟨now, connected⟩ := lifecycle.recvData (isConnected receives) called
      have live : ((loop.setClient slot client).handler.clientHandlers slot).isConnected =
          true := by
        simpa [SelectLoop.setClient] using connected
      rw [(lifecycle.serves.recvData receives called).1]
      exact now.onGotRequest live msg done answer.sent
  | @delivered count client msg reactions receives called reacts survives =>
      obtain ⟨now, connected⟩ := lifecycle.recvData (isConnected receives) called
      have live : ((loop.setClient slot client).handler.clientHandlers slot).isConnected =
          true := by
        simpa [SelectLoop.setClient] using connected
      -- the listener may have disconnected the client, but `received` is positive
      have some := Client.recvData_completes_pos called
      unfold SelectLoop.closeUnless
      rw [(lifecycle.serves.recvData receives called).1, if_neg (by omega)]
      exact now.onGotRequest live msg reactions answer.sent

theorem Lifecycle.trySent (lifecycle : loop.Lifecycle) (slot sent : Int) :
    (loop.trySent slot sent).Lifecycle := by
  unfold SelectLoop.trySent
  split
  · next sends =>
      have connected : (loop.handler.clientHandlers slot).isConnected = true := by
        unfold SelectLoop.sends at sends
        exact (Bool.and_eq_true_iff.mp sends).1
      obtain ⟨buffer, same⟩ : ∃ buffer,
          ((loop.handler.clientHandlers slot).sendData sent).2 =
            { loop.handler.clientHandlers slot with outBuffer := buffer } := by
        unfold Client.sendData
        split <;> exact ⟨_, rfl⟩
      apply Lifecycle.closeUnless
      · rw [same]
        exact lifecycle.setClient rfl rfl rfl (Client.settled_of_isConnected connected)
      · rw [same]
        unfold SelectLoop.setClient
        rw [ClientsHandler.setClient_same]
        exact connected
  · exact lifecycle

/-- An accepted connection is bound to a slot that is free. -/
theorem Lifecycle.accepted (lifecycle : loop.Lifecycle)
    (range : loop.handler.inRange loop.handler.freeHandler = true)
    (free : loop.handler.sockets loop.handler.freeHandler = -1)
    (opened : 0 ≤ answer.socket) (unused : loop.handler.inUse answer.socket = false) :
    (loop.accepted listener answer).Lifecycle := by
  have bound : ∃ client : Client, client.isServer =
        (loop.handler.clientHandlers loop.handler.freeHandler).isServer ∧
      client.clientId = loop.handler.freeHandler ∧ client.socket = answer.socket ∧
      (loop.accepted listener answer).handler =
        { loop.handler with nfds := max (answer.socket + 1) loop.handler.nfds }.setClient
          loop.handler.freeHandler client ∧
      (loop.accepted listener answer).calls = loop.calls ++
        [.onClientConnected client.clientId client.service.ip client.service.port] := by
    refine ⟨_, ?_, ?_, ?_, rfl, ?_⟩
    · exact Client.connected_isServer ..
    · exact Client.connected_clientId ..
    · exact Client.connected_socket ..
    · simp [SelectLoop.accepted, bindHandler, ClientsHandler.bindHandler, ClientsHandler.setClient]
  obtain ⟨client, isServer, clientId, socket, handler, calls⟩ := bound
  have connected : client.isConnected = true := by
    rw [Client.isConnected_iff, socket]
    omega
  have serving : { loop.handler with
      nfds := max (answer.socket + 1) loop.handler.nfds }.Serving :=
    ⟨lifecycle.serves.isServer, lifecycle.serves.clients, lifecycle.serves.clientId⟩
  constructor
  · unfold Serves
    rw [handler]
    apply serving.setClient
    · rw [isServer]
      exact lifecycle.serves.clients _
    · exact fun _ => clientId
  · rw [handler]
    rw [← socket] at opened unused ⊢
    exact lifecycle.descriptors.bind range opened unused
  · intro other
    rw [handler]
    by_cases same : other = loop.handler.freeHandler
    · subst same
      simpa using Client.settled_of_isConnected connected
    · simpa [same] using lifecycle.settled other
  · intro other
    have lives := lifecycle.lives other
    rw [handler, calls, callsOf_append, clientId]
    split
    · next same =>
        obtain rfl : loop.handler.freeHandler = other := same
        have idle : (loop.handler.clientHandlers loop.handler.freeHandler).isConnected =
            false := by
          unfold Client.isConnected
          simpa [ClientsHandler.sockets] using free.le
        rw [idle] at lives
        simpa [connected] using lives.connected _ _
    · next different =>
        have other : other ≠ loop.handler.freeHandler := fun same => different same.symm
        simpa [other] using lives

end SelectLoop

end SensorManager
