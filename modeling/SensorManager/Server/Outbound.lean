import SensorManager.Common.OutBuffers
import SensorManager.Server.Outcome
import SensorManager.Server.Threads

/-!
# What leaves the server

To the calls of the threads comes the `trySend` of the network threads, which
empties the output buffers.  In every order of all these, the output buffer of a
connection is the end of the frames of the messages that were sent to it.
-/

namespace SensorManager

open Framing Function Process

variable {δ α : Type}

/-- The message, if the effect is that one was sent to the connection. -/
def Effect.messageTo (channel : Channel) (conn : Nat) : Effect → Option ByteString
  | .sent sentChannel sentConn msg =>
      if sentChannel = channel ∧ sentConn = conn then some msg else none
  | _ => none

namespace Server

/-- The messages that were sent to a connection. -/
def sentTo (server : Server δ) (channel : Channel) (conn : Nat) : List ByteString :=
  server.log.filterMap (Effect.messageTo channel conn)

/-- The bytes that the socket of a slot has not taken yet. -/
def outBuffer (server : Server δ) (channel : Channel) (slot : Int) : List UInt8 :=
  ((server.handler channel).clientHandlers slot).outBuffer

def sendData (server : Server δ) (channel : Channel) (slot sent : Int) : Server δ :=
  let handler := server.handlers channel
  let bytes := (handler.val.clientHandlers slot).takenBytes sent
  (server.socketTook channel slot bytes).setHandler channel
    ⟨handler.val.sendData slot sent, handler.property.sendData slot sent⟩

/-- `trySend` on a slot whose socket is ready. -/
def trySend (server : Server δ) (channel : Channel) (slot sent : Int) : Server δ :=
  let client := (server.handler channel).clientHandlers slot
  if client.isConnected then
    let called := server.sendData channel slot sent
    if (client.sendData sent).1 ≤ 0 then called.disconnectClient channel slot else called
  else server

/-- The output buffers of all three channels are as they should be. -/
def Buffered (server : Server δ) : Prop :=
  ∀ channel, (server.handler channel).Buffered (server.sentTo channel)
    (server.taken channel) server.connections

/-- What one thread does to the clients of a channel in a call. -/
inductive Works (channel : Channel) : Server δ → Server δ → Prop
  | same {before after : Server δ} (handlers : after.handlers = before.handlers)
      (connections : after.connections = before.connections) (taken : after.taken = before.taken)
      (sentTo : after.sentTo = before.sentTo) : Works channel before after
  | send (server : Server δ) (slot : Int) {msg : ByteString} (nonempty : msg ≠ []) (sent : Int) :
      Works channel server (server.send channel slot msg sent)
  | sendData (server : Server δ) (slot sent : Int) :
      Works channel server (server.sendData channel slot sent)
  | deliver (server : Server δ) (slot : Int) (msg : ByteString) :
      Works channel server (server.deliver channel slot msg)
  | disconnectClient (server : Server δ) (slot : Int) :
      Works channel server (server.disconnectClient channel slot)
  | trans {first second third : Server δ} (left : Works channel first second)
      (right : Works channel second third) : Works channel first third

/-- Why a sensor is killed. -/
def killReasons : List Int :=
  [killSensorRevoked, killSensorDisconnected, killSensorIncorrectToken, killSensorTokenActive]

/-- What the sensor listener and the executors do to the sensors. -/
inductive Serves : Server δ → Server δ → Prop
  | same {before after : Server δ} (handlers : after.handlers = before.handlers)
      (connections : after.connections = before.connections) (taken : after.taken = before.taken)
      (sentTo : after.sentTo = before.sentTo) : Serves before after
  | lastAccepted (server : Server δ) (slot timestamp sent : Int) :
      Serves server (server.send .sensor slot (SensorListener.measureAnswer timestamp) sent)
  | accepted (server : Server δ) (slot serverTime sent : Int) :
      Serves server (server.send .sensor slot (activeMessage serverTime) sent)
  | killSensor (server : Server δ) (slot : Int) {reason : Int} (valid : reason ∈ killReasons)
      (sent : Int) : Serves server (server.killSensor slot reason sent)
  | deliver (server : Server δ) (slot : Int) (msg : ByteString) :
      Serves server (server.deliver .sensor slot msg)
  | disconnectClient (server : Server δ) (slot : Int) :
      Serves server (server.disconnectClient .sensor slot)
  | trans {first second third : Server δ} (left : Serves first second)
      (right : Serves second third) : Serves first third

theorem Serves.works {before after : Server δ} (serves : Serves before after) :
    Works .sensor before after := by
  induction serves with
  | same handlers connections taken sentTo => exact .same handlers connections taken sentTo
  | lastAccepted server slot timestamp sent =>
      exact .send server slot (measureAnswer_ne_nil timestamp) sent
  | accepted server slot serverTime sent =>
      exact .send server slot (activeMessage_ne_nil serverTime) sent
  | @killSensor server slot reason valid sent =>
      exact .trans (.send server slot (killMessage_ne_nil reason) sent)
        (.disconnectClient _ slot)
  | deliver server slot msg => exact .deliver server slot msg
  | disconnectClient server slot => exact .disconnectClient server slot
  | trans _ _ left right => exact left.trans right

variable {server before after : Server δ} {channel : Channel}

@[simp] theorem handler_setHandler_same (handler : ServingHandler) :
    (server.setHandler channel handler).handler channel = handler.val := by
  simp [Server.handler, setHandler]

@[simp] theorem handler_setHandler_other {other : Channel} (different : other ≠ channel)
    (handler : ServingHandler) :
    (server.setHandler channel handler).handler other = server.handler other := by
  simp [Server.handler, setHandler, different]

/-- What is logged besides messages is not sent to anybody. -/
theorem sentTo_append {effects : List Effect} (log : after.log = server.log ++ effects)
    (silent : ∀ effect ∈ effects, ∀ channel conn msg, effect ≠ .sent channel conn msg) :
    after.sentTo = server.sentTo := by
  funext channel conn
  unfold sentTo
  have nothing : effects.filterMap (Effect.messageTo channel conn) = [] := by
    rw [List.filterMap_eq_nil_iff]
    intro effect member
    cases effect with
    | sent sentChannel sentConn msg => exact absurd rfl (silent _ member sentChannel sentConn msg)
    | received | accepted | addMeasurement | closed => rfl
  rw [log, List.filterMap_append, nothing, List.append_nil]

section Send

variable (slot : Int) {msg : ByteString} (sent : Int)

/-- The message is sent to whoever holds the slot. -/
theorem sentTo_send (nonempty : msg ≠ []) (server : Server δ) (channel : Channel) :
    (server.send channel slot msg sent).sentTo channel =
      (server.handler channel).sentWith (server.sentTo channel) slot msg := by
  obtain ⟨handler, bytes, -, same⟩ := send_eq server channel slot sent nonempty
  rw [same, ClientsHandler.sentWith]
  cases held : server.holder channel slot with
  | none =>
      rw [ClientsHandler.addTo_free _ held]
      rfl
  | some conn =>
      funext other
      by_cases isHolder : other = conn
      · subst isHolder
        rw [ClientsHandler.addTo_self _ held]
        simp [sentTo, Effect.messageTo, record, setHandler, socketTook]
      · have different : conn ≠ other := fun isOther => isHolder isOther.symm
        rw [ClientsHandler.addTo_other _ fun holds =>
          different (Option.some.inj (held.symm.trans holds))]
        simp [sentTo, Effect.messageTo, record, setHandler, socketTook, different]

theorem sentTo_send_other (nonempty : msg ≠ []) (server : Server δ) {channel other : Channel}
    (different : other ≠ channel) :
    (server.send channel slot msg sent).sentTo other = server.sentTo other := by
  obtain ⟨handler, bytes, -, same⟩ := send_eq server channel slot sent nonempty
  rw [same]
  cases server.holder channel slot with
  | none => rfl
  | some conn =>
      funext otherConn
      simp [sentTo, Effect.messageTo, record, setHandler, socketTook, different.symm]

theorem taken_send (server : Server δ) (channel : Channel) (msg : ByteString) :
    (server.send channel slot msg sent).taken channel =
      (server.handler channel).addTo (server.taken channel) slot
        (((server.handler channel).clientHandlers slot).takenOfMsg msg sent) := by
  unfold send
  dsimp only
  split <;> exact update_self ..

theorem taken_send_other (server : Server δ) {channel other : Channel}
    (different : other ≠ channel) (msg : ByteString) :
    (server.send channel slot msg sent).taken other = server.taken other := by
  unfold send
  dsimp only
  split <;> exact update_of_ne different ..

theorem handler_send (server : Server δ) (channel : Channel) (msg : ByteString) :
    (server.send channel slot msg sent).handler channel =
      ((server.handler channel).send slot msg sent).2 := by
  unfold send
  dsimp only
  split <;> exact handler_setHandler_same _

theorem handler_send_other (server : Server δ) {channel other : Channel}
    (different : other ≠ channel) (msg : ByteString) :
    (server.send channel slot msg sent).handler other = server.handler other := by
  unfold send
  dsimp only
  split <;> exact handler_setHandler_other different _

theorem connections_send (server : Server δ) (channel : Channel) (msg : ByteString) :
    (server.send channel slot msg sent).connections = server.connections := by
  unfold send
  dsimp only
  split <;> rfl

theorem handler_sendData (server : Server δ) (channel : Channel) :
    (server.sendData channel slot sent).handler channel =
      (server.handler channel).sendData slot sent :=
  handler_setHandler_same _

theorem handler_sendData_other (server : Server δ) {channel other : Channel}
    (different : other ≠ channel) :
    (server.sendData channel slot sent).handler other = server.handler other :=
  handler_setHandler_other different _

theorem taken_sendData (server : Server δ) (channel : Channel) :
    (server.sendData channel slot sent).taken channel =
      (server.handler channel).addTo (server.taken channel) slot
        (((server.handler channel).clientHandlers slot).takenBytes sent) :=
  update_self ..

theorem taken_sendData_other (server : Server δ) {channel other : Channel}
    (different : other ≠ channel) :
    (server.sendData channel slot sent).taken other = server.taken other :=
  update_of_ne different ..

theorem handler_deliver (server : Server δ) (channel : Channel) (msg : ByteString) :
    (server.deliver channel slot msg).handler channel =
      (server.handler channel).deliver slot msg :=
  handler_setHandler_same _

theorem handler_deliver_other (server : Server δ) {channel other : Channel}
    (different : other ≠ channel) (msg : ByteString) :
    (server.deliver channel slot msg).handler other = server.handler other :=
  handler_setHandler_other different _

end Send

section Disconnect

variable (slot : Int)

theorem handler_disconnectClient (server : Server δ) (channel : Channel) :
    (server.disconnectClient channel slot).handler channel =
      ((server.handler channel).disconnectClient slot).1 := by
  unfold disconnectClient
  dsimp only
  split
  · exact handler_setHandler_same _
  · cases channel <;> exact handler_setHandler_same _

theorem handler_disconnectClient_other (server : Server δ) {channel other : Channel}
    (different : other ≠ channel) :
    (server.disconnectClient channel slot).handler other = server.handler other := by
  unfold disconnectClient
  dsimp only
  split
  · exact handler_setHandler_other different _
  · cases channel <;> exact handler_setHandler_other different _

theorem sentTo_disconnectClient (server : Server δ) (channel : Channel) :
    (server.disconnectClient channel slot).sentTo = server.sentTo := by
  unfold disconnectClient
  dsimp only
  split
  · rfl
  · have log : ∀ disconnected : Server δ, disconnected.log = server.log ++
        [.closed channel ((server.handlers channel).val.clientHandlers slot).conn] →
        disconnected.sentTo = server.sentTo := fun _ log => sentTo_append log (by simp)
    cases channel <;> exact log _ rfl

theorem taken_disconnectClient (server : Server δ) (channel : Channel) :
    (server.disconnectClient channel slot).taken = server.taken := by
  unfold disconnectClient
  dsimp only
  split
  · rfl
  · cases channel <;> rfl

theorem connections_disconnectClient (server : Server δ) (channel : Channel) :
    (server.disconnectClient channel slot).connections = server.connections := by
  unfold disconnectClient
  dsimp only
  split
  · rfl
  · cases channel <;> rfl

end Disconnect

/-- A channel whose clients, messages and bytes are the same. -/
structure SameClients (channel : Channel) (before after : Server δ) : Prop where
  handler : after.handler channel = before.handler channel
  taken : after.taken channel = before.taken channel
  sentTo : after.sentTo channel = before.sentTo channel

/-- A channel's clients are left alone by what is done on another channel, and
no connection is made. -/
theorem Works.other (works : Works channel before after) :
    after.connections = before.connections ∧
      ∀ other, other ≠ channel → SameClients other before after := by
  induction works with
  | same handlers connections taken sentTo =>
      refine ⟨connections, fun other _ => ⟨?_, congrFun taken other, congrFun sentTo other⟩⟩
      rw [handler, handlers]
      rfl
  | send server slot nonempty sent =>
      refine ⟨connections_send .., fun other different => ⟨?_, ?_, ?_⟩⟩
      · exact handler_send_other slot sent server different _
      · exact taken_send_other slot sent server different _
      · exact sentTo_send_other slot sent nonempty server different
  | sendData server slot sent =>
      exact ⟨rfl, fun other different => ⟨handler_sendData_other slot sent server different,
        taken_sendData_other slot sent server different, rfl⟩⟩
  | deliver server slot msg =>
      exact ⟨rfl, fun other different =>
        ⟨handler_deliver_other slot server different msg, rfl, rfl⟩⟩
  | disconnectClient server slot =>
      refine ⟨connections_disconnectClient .., fun other different => ⟨?_, ?_, ?_⟩⟩
      · exact handler_disconnectClient_other slot server different
      · rw [taken_disconnectClient]
      · rw [sentTo_disconnectClient]
  | trans _ _ left right =>
      refine ⟨right.1.trans left.1, fun other different => ?_⟩
      have first := left.2 other different
      have second := right.2 other different
      exact ⟨second.handler.trans first.handler, second.taken.trans first.taken,
        second.sentTo.trans first.sentTo⟩

theorem Works.buffered (works : Works channel before after) (buffered : before.Buffered) :
    after.Buffered := by
  induction works with
  | same handlers connections taken sentTo =>
      intro other
      rw [handler, handlers, sentTo, taken, connections]
      exact buffered other
  | send server slot nonempty sent =>
      intro other
      rw [connections_send]
      by_cases isChannel : other = channel
      · subst isChannel
        rw [handler_send, sentTo_send slot sent nonempty, taken_send]
        exact (buffered other).send (server.handlers other).property slot nonempty sent
      · rw [handler_send_other slot sent server isChannel,
          sentTo_send_other slot sent nonempty server isChannel,
          taken_send_other slot sent server isChannel]
        exact buffered other
  | sendData server slot sent =>
      intro other
      by_cases isChannel : other = channel
      · subst isChannel
        rw [handler_sendData, taken_sendData]
        exact (buffered other).sendData slot sent
      · rw [handler_sendData_other slot sent server isChannel,
          taken_sendData_other slot sent server isChannel]
        exact buffered other
  | deliver server slot msg =>
      intro other
      by_cases isChannel : other = channel
      · subst isChannel
        rw [handler_deliver]
        exact (buffered other).deliver slot msg
      · rw [handler_deliver_other slot server isChannel]
        exact buffered other
  | disconnectClient server slot =>
      intro other
      rw [sentTo_disconnectClient, taken_disconnectClient, connections_disconnectClient]
      by_cases isChannel : other = channel
      · subst isChannel
        rw [handler_disconnectClient]
        exact (buffered other).disconnectClient slot
      · rw [handler_disconnectClient_other slot server isChannel]
        exact buffered other
  | trans _ _ left right => exact right (left buffered)

theorem buffered_start (content : δ) : (start content).Buffered :=
  fun _ => ClientsHandler.buffered_create 100 0

section Accept

variable (slot socket : Int) (service : SockAddr)

theorem handler_accept (server : Server δ) (channel : Channel) :
    (server.accept channel slot socket service).handler channel =
      (server.handler channel).bindHandler slot socket service [] server.connections :=
  handler_setHandler_same _

theorem handler_accept_other (server : Server δ) {channel other : Channel}
    (different : other ≠ channel) :
    (server.accept channel slot socket service).handler other = server.handler other :=
  handler_setHandler_other different _

end Accept

/-- A new connection has been sent nothing. -/
theorem Buffered.accept (buffered : server.Buffered) {slot socket : Int}
    (range : (server.handler channel).inRange slot = true)
    (free : server.holder channel slot = none) (bound : socket > -1) (service : SockAddr) :
    (server.accept channel slot socket service).Buffered := by
  intro other
  by_cases isChannel : other = channel
  · subst isChannel
    rw [handler_accept]
    exact (buffered other).bindHandler range free bound service
  · rw [handler_accept_other slot socket service server isChannel]
    exact (buffered other).mono (Nat.le_succ server.connections)

/-- The messages and bytes that a live connection's buffer takes in and gives
away: what it held and the frames of the new messages are the bytes that its socket
has taken meanwhile and what it holds then. -/
def Carries (channel : Channel) (slot : Int) (conn : Nat) (before after : Server δ) : Prop :=
  ∃ msgs moved, after.sentTo channel conn = before.sentTo channel conn ++ msgs ∧
    after.taken channel conn = before.taken channel conn ++ moved ∧
    before.outBuffer channel slot ++ wire.encode msgs = moved ++ after.outBuffer channel slot

section Carries

variable {holding : Channel} {slot : Int} {conn : Nat} {first second third : Server δ}

theorem Carries.of_same (outBuffer : after.outBuffer channel slot = before.outBuffer channel slot)
    (taken : after.taken channel conn = before.taken channel conn)
    (sentTo : after.sentTo channel conn = before.sentTo channel conn) :
    Carries channel slot conn before after :=
  ⟨[], [], by simp [sentTo], by simp [taken], by simp [outBuffer]⟩

theorem Carries.trans (left : Carries channel slot conn first second)
    (right : Carries channel slot conn second third) :
    Carries channel slot conn first third := by
  obtain ⟨msgs, moved, sentTo, taken, split⟩ := left
  obtain ⟨more, movedOn, sentMore, takenMore, splitMore⟩ := right
  refine ⟨msgs ++ more, moved ++ movedOn, by simp [sentTo, sentMore],
    by simp [taken, takenMore], ?_⟩
  rw [Format.encode_append, ← List.append_assoc, split, List.append_assoc, splitMore,
    List.append_assoc]

theorem carries_of_same (same : SameClients channel before after)
    (held : after.holder channel slot = some conn) :
    before.holder channel slot = some conn ∧ Carries channel slot conn before after := by
  rw [holder, same.handler] at held
  refine ⟨held, .of_same ?_ (congrFun same.taken conn) (congrFun same.sentTo conn)⟩
  rw [outBuffer, outBuffer, same.handler]

theorem carries_sendData (buffered : server.Buffered) (channel : Channel) (target sent : Int)
    (held : (server.sendData channel target sent).holder channel slot = some conn) :
    server.holder channel slot = some conn ∧
      Carries channel slot conn server (server.sendData channel target sent) := by
  have kept : ((server.handler channel).sendData target sent).holder =
      (server.handler channel).holder := by
    apply ClientsHandler.holder_setClient
    · unfold Client.sendData
      split <;> rfl
    · unfold Client.sendData
      split <;> rfl
  rw [holder, handler_sendData, kept] at held
  refine ⟨held, [], ?_⟩
  rw [outBuffer, outBuffer, handler_sendData, taken_sendData]
  by_cases same : target = slot
  · subst same
    refine ⟨((server.handler channel).clientHandlers target).takenBytes sent, ?_, ?_, ?_⟩
    · exact (List.append_nil _).symm
    · exact ClientsHandler.addTo_self _ held
    · simp [ClientsHandler.sendData, ClientsHandler.setClient, Client.takenBytes_sendData]
  · have different : (server.handler channel).holder target ≠ some conn := fun holds =>
      same ((buffered channel).apart target slot conn holds held)
    refine ⟨[], (List.append_nil _).symm, ?_, ?_⟩
    · rw [List.append_nil]
      exact ClientsHandler.addTo_other _ different
    · simp [ClientsHandler.sendData, ClientsHandler.setClient, Ne.symm same]

theorem carries_disconnectClient (server : Server δ) (channel : Channel) (target : Int)
    (held : (server.disconnectClient channel target).holder channel slot = some conn) :
    server.holder channel slot = some conn ∧
      Carries channel slot conn server (server.disconnectClient channel target) := by
  have sentTo := congrFun (congrFun (sentTo_disconnectClient target server channel) channel) conn
  have taken := congrFun (congrFun (taken_disconnectClient target server channel) channel) conn
  rw [holder, handler_disconnectClient] at held
  cases holds : (server.handler channel).holder target with
  | none =>
      have same := ClientsHandler.disconnectClient_free holds
      rw [same] at held
      refine ⟨held, .of_same ?_ taken sentTo⟩
      rw [outBuffer, outBuffer, handler_disconnectClient, same]
  | some holder =>
      have serving : (server.handler channel).Serving := (server.handlers channel).property
      have gone := ClientsHandler.disconnectClient_held serving holds
      rw [gone, ClientsHandler.holder_disconnectHandler] at held
      by_cases same : slot = target
      · simp [same] at held
      · rw [update_of_ne same] at held
        refine ⟨held, .of_same ?_ taken sentTo⟩
        rw [outBuffer, outBuffer, handler_disconnectClient, gone]
        simp [ClientsHandler.disconnectHandler, ClientsHandler.setClient, same]

theorem carries_send (buffered : server.Buffered) (channel : Channel) (target : Int)
    {msg : ByteString} (nonempty : msg ≠ []) (sent : Int)
    (held : (server.send channel target msg sent).holder channel slot = some conn) :
    server.holder channel slot = some conn ∧
      Carries channel slot conn server (server.send channel target msg sent) := by
  rw [holder_send] at held
  obtain ⟨msgs, moved, sentTo, taken, split⟩ := ClientsHandler.send_moves
    (server.handlers channel).property
    (fun other holds => (buffered channel).apart other slot conn holds held) held nonempty sent
  refine ⟨held, msgs, moved, ?_, ?_, ?_⟩
  · rw [sentTo_send target sent nonempty]
    exact sentTo
  · rw [taken_send]
    exact taken
  · rw [outBuffer, outBuffer, handler_send]
    exact split

/-- A connection that holds a slot after what one thread does held it before. -/
theorem Works.carries (works : Works channel before after) (buffered : before.Buffered)
    (held : after.holder holding slot = some conn) :
    before.holder holding slot = some conn ∧ Carries holding slot conn before after := by
  by_cases different : holding ≠ channel
  · exact carries_of_same (works.other.2 holding different) held
  · obtain rfl := not_not.mp different
    induction works with
    | same handlers connections taken sentTo =>
        refine carries_of_same ⟨?_, congrFun taken _, congrFun sentTo _⟩ held
        rw [handler, handlers]
        rfl
    | send server target nonempty sent =>
        exact carries_send buffered holding target nonempty sent held
    | sendData server target sent => exact carries_sendData buffered holding target sent held
    | deliver server target msg =>
        have kept : ((server.handler holding).deliver target msg).holder =
            (server.handler holding).holder := ClientsHandler.holder_deliver target msg
        rw [holder, handler_deliver, kept] at held
        refine ⟨held, .of_same ?_ rfl rfl⟩
        rw [outBuffer, outBuffer, handler_deliver]
        by_cases same : slot = target
        · subst same
          simp [ClientsHandler.deliver, ClientsHandler.setClient, Client.delivered, Client.gotMsg]
        · simp [ClientsHandler.deliver, ClientsHandler.setClient, same]
    | disconnectClient server target =>
        exact carries_disconnectClient server holding target held
    | trans firstWorks _ left right =>
        obtain ⟨middleHeld, later⟩ := right (firstWorks.buffered buffered) held
        obtain ⟨firstHeld, earlier⟩ := left buffered middleHeld
        exact ⟨firstHeld, earlier.trans later⟩

/-- A new connection takes no slot away and moves no bytes. -/
theorem carries_accept {target socket : Int} (free : server.holder channel target = none)
    (service : SockAddr) (held : server.holder holding slot = some conn) :
    Carries holding slot conn server (server.accept channel target socket service) := by
  refine .of_same ?_ rfl rfl
  by_cases isChannel : holding = channel
  · subst isChannel
    have other : slot ≠ target := by
      rintro rfl
      cases free.symm.trans held
    rw [outBuffer, outBuffer, handler_accept]
    simp [ClientsHandler.bindHandler, ClientsHandler.setClient, other]
  · rw [outBuffer, outBuffer, handler_accept_other target socket service server isChannel]

end Carries

theorem works_trySend (server : Server δ) (channel : Channel) (slot sent : Int) :
    Works channel server (server.trySend channel slot sent) := by
  unfold trySend
  dsimp only
  split
  · have called : Works channel server (server.sendData channel slot sent) :=
      .sendData server slot sent
    split
    · exact called.trans (.disconnectClient _ slot)
    · exact called
  · exact .same rfl rfl rfl rfl

end Server

namespace Pass

open Server

variable {database : IDatabaseConnection δ}

theorem serves_callDatabase (call : DatabaseCall δ α) :
    Always Serves (Process.call (callDatabase call)) := by
  apply always_call
  intro before result after ran
  obtain ⟨changed, -, rfl⟩ := Exec.runOn_zoom_eq_some.mp ran
  exact .same rfl rfl rfl rfl

theorem serves_modify {change : Server δ → Server δ}
    (serves : ∀ server, Serves server (change server)) :
    Always Serves (Process.call (modify change) : Pass δ Unit) := by
  apply always_call
  intro before result after ran
  cases ran
  exact serves before

theorem serves_get : Always Serves (Process.call get : Pass δ (Server δ)) := by
  apply always_call
  intro before result after ran
  cases ran
  exact .same rfl rfl rfl rfl

theorem serves_killMapped (server : Server δ) (sensorId : Int) {reason : Int}
    (valid : reason ∈ killReasons) (sent : Int) :
    Serves server (server.killMapped sensorId reason sent) := by
  have mapped : Serves server
      { server with
        sensorToClientId := (server.sensorToClientId.subscript sensorId).2 } :=
    .same rfl rfl rfl rfl
  exact .trans mapped (.trans (.killSensor _ _ valid sent) (.same rfl rfl rfl rfl))

theorem serves_executeSensorRequest (stamped : Stamped SensorRequest) (serverTime sent : Int) :
    Always Serves (executeSensorRequest database stamped serverTime sent) := by
  unfold executeSensorRequest
  cases stamped.request with
  | measurement clientId value timestamp =>
      refine always_bind serves_get fun server => ?_
      cases server.clientToSensorId clientId with
      | none => exact always_pure ()
      | some sensorId =>
          apply always_call
          intro before result after ran
          obtain ⟨changed, -, rfl⟩ := (recordMeasurement_eq_some _).mp ran
          have noted : (before.record (.addMeasurement sensorId value (toInt32 timestamp)
              stamped.cause)).sentTo = before.sentTo := sentTo_append rfl (by simp)
          exact .same rfl rfl rfl noted
  | onConnected clientId ip port token =>
      refine always_bind (serves_callDatabase _) fun whitelisted => ?_
      refine always_ite (serves_modify fun server => .killSensor _ _ (by decide) _) ?_
      refine always_bind (serves_callDatabase _) fun sensorId => ?_
      refine always_bind serves_get fun server => ?_
      refine always_ite (serves_modify fun server => .killSensor _ _ (by decide) _) ?_
      refine always_bind (serves_callDatabase _) fun sensor => ?_
      refine always_bind (serves_modify fun server => ?_) fun _ => ?_
      · exact .same rfl rfl rfl (sentTo_append rfl (by simp))
      · exact serves_modify fun server => .accepted server clientId _ sent
  | onDisconnected clientId =>
      refine always_bind serves_get fun server => ?_
      cases server.clientToSensorId clientId with
      | none => exact always_pure ()
      | some sensorId =>
          refine always_bind (serves_callDatabase _) fun sensor => ?_
          exact serves_modify fun server => .same rfl rfl rfl rfl

theorem serves_generateFreshToken (rands : List (Vector Nat 15)) :
    Always Serves (generateFreshToken database rands) := by
  induction rands with
  | nil =>
      apply always_call
      rintro before result after ⟨⟩
  | cons first rands ih =>
      exact always_bind (serves_callDatabase _) fun found => always_ite ih (always_pure _)

theorem serves_executeAdministratorRequest (request : AdministratorRequest)
    (rands : List (Vector Nat 15)) (sent : Int) :
    Always Serves (executeAdministratorRequest database request rands sent) := by
  unfold executeAdministratorRequest
  cases request.commandType with
  | getAllSensors | updateSensorName =>
      exact always_bind (serves_callDatabase _) fun _ => always_pure _
  | revokeSensor | disconnectSensor =>
      refine always_bind (serves_callDatabase _) fun sensor => ?_
      refine always_bind (serves_modify fun server => ?_) fun _ => always_pure _
      exact serves_killMapped _ _ (by decide) _
  | generateToken =>
      refine always_bind (serves_generateFreshToken rands) fun token => ?_
      exact always_bind (serves_callDatabase _) fun _ => always_pure _

theorem serves_executeMonitoringRequest (request : MonitoringRequest) :
    Always Serves (executeMonitoringRequest database request) := by
  unfold executeMonitoringRequest
  cases request.commandType with
  | getAllSensorsMonitoring => exact always_bind (serves_callDatabase _) fun _ => always_pure _
  | getSetOfMeasurements =>
      refine always_bind ?_ fun _ => always_pure _
      refine always_ite (serves_callDatabase _) ?_
      refine always_ite (serves_callDatabase _) ?_
      exact always_ite (serves_callDatabase _) (always_pure _)

end Pass

end SensorManager
