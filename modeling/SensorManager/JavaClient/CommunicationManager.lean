import SensorManager.JavaClient.Commands
import SensorManager.Lib.Trace

/-!
# Outgoing messages of the Java clients

The `CommunicationManager` of both clients keeps messages in a buffer while
there is no connection.  Netty calls a `ClientHandler` between any two calls of
the manager: `connect` may return before `channelActive` is called, and a
channel may be closed at any time.
-/

namespace SensorManager.JavaClient

inductive NullPointerException where
  | thrown
  deriving DecidableEq, Repr

inductive ChannelState where
  | opening
  | active
  | closed
  deriving DecidableEq, Repr

/-- A `ClientHandler`: whether `channelActive` has set its `ctx`, and what has
become of its channel. -/
structure ChannelHandler where
  ctx : Bool := false
  channel : ChannelState := .opening
  deriving DecidableEq, Repr

/-- The messages that wait, those that `sendMessage` was called with so far,
what was written, and the handler at each call of `ClientHandler.sendMessage`. -/
structure Outbox where
  bufferedMessages : List (List UInt8) := []
  submitted : List (List UInt8) := []
  written : List (List UInt8) := []
  sends : List ChannelHandler := []
  deriving DecidableEq, Repr

/-- `handlers` are those made so far, and `connecting` is set while `connect`
has not returned. -/
structure CommunicationManager extends Outbox where
  handlers : List ChannelHandler := []
  connecting : Bool := false
  connectionReady : Bool := false
  deriving DecidableEq, Repr

/-- What happens to a manager.  The channel of each handler has its number. -/
inductive ManagerEvent where
  | sendMessage (message : List UInt8)
  | run
  | connected
  | connectFailed
  | channelActive (number : Nat)
  | exceptionCaught (number : Nat)
  | channelInactive (number : Nat)
  | closeConnection
  deriving DecidableEq, Repr

/-- An event, and whether the call returns. -/
structure ManagerCall where
  event : ManagerEvent
  returns : Bool := true
  deriving DecidableEq, Repr

def ChannelHandler.close (handler : ChannelHandler) : ChannelHandler :=
  { handler with channel := .closed }

/-- The handler has a channel that messages get through. -/
def ChannelHandler.Connected (handler : ChannelHandler) : Prop :=
  handler.ctx = true ∧ handler.channel = .active

namespace Outbox

/-- What was written is what was submitted first, and the rest is in the
buffer. -/
def Accounted (outbox : Outbox) : Prop :=
  ∃ passed, outbox.submitted = passed ++ outbox.bufferedMessages ∧
    outbox.written = passed.map sendMessage

/-- Every message was sent into an active channel. -/
def Arrives (outbox : Outbox) : Prop :=
  ∀ handler ∈ outbox.sends, handler.Connected

variable {outbox : Outbox}

theorem Accounted.length (accounted : outbox.Accounted) :
    outbox.submitted.length = outbox.written.length + outbox.bufferedMessages.length := by
  obtain ⟨passed, submitted, written⟩ := accounted
  rw [submitted, written, List.length_append, List.length_map]

theorem Accounted.waits (accounted : outbox.Accounted) (message : List UInt8) :
    Accounted
      { outbox with
        submitted := outbox.submitted ++ [message]
        bufferedMessages := outbox.bufferedMessages ++ [message] } := by
  obtain ⟨passed, submitted, written⟩ := accounted
  exact ⟨passed, by simp [submitted], written⟩

theorem Accounted.sent (accounted : outbox.Accounted) (messages : List (List UInt8))
    (sends : List ChannelHandler) :
    Accounted
      { bufferedMessages := []
        submitted := outbox.submitted ++ messages
        written := outbox.written ++ (outbox.bufferedMessages ++ messages).map sendMessage
        sends := sends } := by
  obtain ⟨passed, submitted, written⟩ := accounted
  exact ⟨passed ++ (outbox.bufferedMessages ++ messages), by simp [submitted],
    by simp [written]⟩

theorem Arrives.sent (arrives : outbox.Arrives) {handler : ChannelHandler}
    (connected : handler.Connected) (count : Nat) :
    ∀ used ∈ outbox.sends ++ List.replicate count handler, used.Connected := by
  intro used member
  rcases List.mem_append.mp member with earlier | now
  · exact arrives used earlier
  · rw [List.eq_of_mem_replicate now]
    exact connected

end Outbox

namespace CommunicationManager

/-- The field `handler`, `null` before the first call of `run`. -/
def handler (manager : CommunicationManager) : Option ChannelHandler :=
  manager.handlers.getLast?

def closeChannel (manager : CommunicationManager) (number : Nat) : CommunicationManager :=
  { manager with handlers := manager.handlers.modify number .close }

/-- `handler.sendMessage` -/
def handlerSendMessage (message : List UInt8) :
    Exec NullPointerException CommunicationManager Unit := do
  match (← get).handler with
  | none => throw .thrown
  | some handler =>
      modify fun manager => { manager with sends := manager.sends ++ [handler] }
      if handler.ctx then
        modify fun manager =>
          { manager with written := manager.written ++ [JavaClient.sendMessage message] }
      else throw .thrown

/-- `handler.closeConnection`; the shutdown that follows closes the channel. -/
def handlerCloseConnection : Exec NullPointerException CommunicationManager Unit := do
  match (← get).handler with
  | none => throw .thrown
  | some handler => if handler.ctx then pure () else throw .thrown

/-- The loop of `sendAllMessagesFromBuffer` over what is in the buffer. -/
def sendAllMessages : List (List UInt8) →
    Exec NullPointerException CommunicationManager Unit
  | [] => pure ()
  | message :: bufferedMessages => do
      modify fun manager => { manager with bufferedMessages := bufferedMessages }
      handlerSendMessage message
      sendAllMessages bufferedMessages

def sendAllMessagesFromBuffer : Exec NullPointerException CommunicationManager Unit := do
  sendAllMessages (← get).bufferedMessages

def sendMessage (message : List UInt8) :
    Exec NullPointerException CommunicationManager Unit := do
  modify fun manager => { manager with submitted := manager.submitted ++ [message] }
  if (← get).connectionReady = false then
    modify fun manager =>
      { manager with bufferedMessages := manager.bufferedMessages ++ [message] }
  else
    sendAllMessagesFromBuffer
    handlerSendMessage message

/-- `group` is that of the last channel. -/
def shutdownGracefully (manager : CommunicationManager) : CommunicationManager :=
  manager.closeChannel (manager.handlers.length - 1)

def closeConnection : Exec NullPointerException CommunicationManager Unit := do
  sendAllMessagesFromBuffer
  if (← get).connectionReady then handlerCloseConnection
  modify shutdownGracefully
  modify fun manager => { manager with connectionReady := false }

/-- What happens in the states in which it can. -/
def happens (possible : CommunicationManager → Bool)
    (change : CommunicationManager → CommunicationManager) :
    Exec NullPointerException CommunicationManager Unit := do
  if possible (← get) then modify change else Exec.blocked

/-- `run` up to the call of `sync` in `connect`. -/
def run : Exec NullPointerException CommunicationManager Unit :=
  happens (fun manager => !manager.connecting) fun manager =>
    { manager with handlers := manager.handlers ++ [{}], connecting := true }

/-- The rest of `run` when the connection was made.  A channel that was closed
before it was active makes `connect` fail. -/
def connected : Exec NullPointerException CommunicationManager Unit :=
  happens (fun manager => manager.connecting && manager.handler != some ⟨false, .closed⟩)
    fun manager => { manager with connecting := false, connectionReady := true }

/-- The rest of `run` when `sync` throws. -/
def connectFailed : Exec NullPointerException CommunicationManager Unit :=
  happens (fun manager => manager.connecting && !manager.handler.any (·.ctx)) fun manager =>
    { manager.closeChannel (manager.handlers.length - 1) with
      connecting := false, connectionReady := false }

def channelActive (number : Nat) : Exec NullPointerException CommunicationManager Unit :=
  happens (fun manager => manager.handlers[number]?.any (·.channel == .opening)) fun manager =>
    { manager with
      handlers := manager.handlers.modify number fun _ => { ctx := true, channel := .active } }

def exceptionCaught (number : Nat) : Exec NullPointerException CommunicationManager Unit :=
  happens (fun manager => number < manager.handlers.length) fun manager =>
    { manager.closeChannel number with connectionReady := false }

/-- The server closes the connection.  The handlers do not override this. -/
def channelInactive (number : Nat) : Exec NullPointerException CommunicationManager Unit :=
  happens (fun manager => number < manager.handlers.length) (·.closeChannel number)

def event : ManagerEvent → Exec NullPointerException CommunicationManager Unit
  | .sendMessage message => sendMessage message
  | .run => run
  | .connected => connected
  | .connectFailed => connectFailed
  | .channelActive number => channelActive number
  | .exceptionCaught number => exceptionCaught number
  | .channelInactive number => channelInactive number
  | .closeConnection => closeConnection

def call (called : ManagerCall) (manager : CommunicationManager) :
    Option CommunicationManager :=
  ((event called.event).runOn manager).bind fun outcome =>
    if outcome.1.isOk = called.returns then some outcome.2 else none

def Calls (before : CommunicationManager) (called : ManagerCall)
    (after : CommunicationManager) : Prop :=
  call called before = some after

/-- `handler.sendMessage` and `handler.closeConnection` do not throw here. -/
def HasContext (manager : CommunicationManager) : Prop :=
  ∃ handler, manager.handler = some handler ∧ handler.ctx = true

def Connected (manager : CommunicationManager) : Prop :=
  ∃ handler, manager.handler = some handler ∧ handler.Connected

theorem Connected.hasContext {manager : CommunicationManager} (connected : manager.Connected) :
    manager.HasContext := by
  obtain ⟨handler, current, context, -⟩ := connected
  exact ⟨handler, current, context⟩

/-- The buffer has been sent through the handler. -/
def drained (manager : CommunicationManager) (handler : ChannelHandler) :
    CommunicationManager :=
  { manager with
    bufferedMessages := []
    written := manager.written ++ manager.bufferedMessages.map JavaClient.sendMessage
    sends := manager.sends ++ List.replicate manager.bufferedMessages.length handler }

/-- The end of `closeConnection`. -/
def shutDown (manager : CommunicationManager) : CommunicationManager :=
  { manager.shutdownGracefully with connectionReady := false }

@[simp] theorem shutDown_toOutbox (manager : CommunicationManager) :
    manager.shutDown.toOutbox = manager.toOutbox := rfl

section Sending

variable {manager : CommunicationManager} {handler : ChannelHandler}

theorem handlerSendMessage_context (message : List UInt8)
    (current : manager.handler = some handler) (context : handler.ctx = true) :
    (handlerSendMessage message).runOn manager = some (.ok (),
      { manager with
        written := manager.written ++ [JavaClient.sendMessage message]
        sends := manager.sends ++ [handler] }) := by
  simp [handlerSendMessage, current, context]

/-- Without a context nothing is written. -/
theorem handlerSendMessage_throws (message : List UInt8) (without : ¬ manager.HasContext) :
    ∃ sends, (handlerSendMessage message).runOn manager =
      some (.error .thrown, { manager with sends := sends }) := by
  cases current : manager.handler with
  | none => exact ⟨manager.sends, by simp [handlerSendMessage, current]⟩
  | some handler =>
      have null : handler.ctx = false := by
        rw [← Bool.not_eq_true]
        exact fun context => without ⟨handler, current, context⟩
      exact ⟨manager.sends ++ [handler], by simp [handlerSendMessage, current, null]⟩

theorem handlerCloseConnection_context (having : manager.HasContext) :
    handlerCloseConnection.runOn manager = some (.ok (), manager) := by
  obtain ⟨handler, current, context⟩ := having
  simp [handlerCloseConnection, current, context]

theorem handlerCloseConnection_throws (without : ¬ manager.HasContext) :
    handlerCloseConnection.runOn manager = some (.error .thrown, manager) := by
  cases current : manager.handler with
  | none => simp [handlerCloseConnection, current]
  | some handler =>
      have null : handler.ctx = false := by
        rw [← Bool.not_eq_true]
        exact fun context => without ⟨handler, current, context⟩
      simp [handlerCloseConnection, current, null]

theorem sendAllMessages_context (current : manager.handler = some handler)
    (context : handler.ctx = true) :
    (sendAllMessages manager.bufferedMessages).runOn manager =
      some (.ok (), manager.drained handler) := by
  rw [drained]
  generalize buffered : manager.bufferedMessages = messages
  induction messages generalizing manager with
  | nil =>
      have same : manager = { manager with bufferedMessages := [] } := by rw [← buffered]
      simpa [sendAllMessages] using same
  | cons message messages ih =>
      have sent := @handlerSendMessage_context
        { manager with bufferedMessages := messages } handler message current context
      have goesOn := @ih
        { manager with
          bufferedMessages := messages
          written := manager.written ++ [JavaClient.sendMessage message]
          sends := manager.sends ++ [handler] } current rfl
      rw [sendAllMessages, Exec.runOn_modify_bind, Exec.runOn_bind, sent, Option.bind_some]
      dsimp only
      rw [goesOn]
      simp [List.replicate_succ]

theorem sendAllMessagesFromBuffer_empty (empty : manager.bufferedMessages = []) :
    sendAllMessagesFromBuffer.runOn manager = some (.ok (), manager) := by
  simp [sendAllMessagesFromBuffer, sendAllMessages, empty]

/-- Without a context the first message of the buffer is lost. -/
theorem sendAllMessagesFromBuffer_throws (without : ¬ manager.HasContext)
    {message : List UInt8} {messages : List (List UInt8)}
    (buffered : manager.bufferedMessages = message :: messages) :
    ∃ sends, sendAllMessagesFromBuffer.runOn manager = some (.error .thrown,
      { manager with bufferedMessages := messages, sends := sends }) := by
  obtain ⟨sends, threw⟩ := @handlerSendMessage_throws
    { manager with bufferedMessages := messages } message without
  refine ⟨sends, ?_⟩
  rw [sendAllMessagesFromBuffer, Exec.runOn_get_bind, buffered, sendAllMessages,
    Exec.runOn_modify_bind, Exec.runOn_bind, threw, Option.bind_some]

theorem sendAllMessagesFromBuffer_context (current : manager.handler = some handler)
    (context : handler.ctx = true) :
    sendAllMessagesFromBuffer.runOn manager = some (.ok (), manager.drained handler) := by
  rw [sendAllMessagesFromBuffer, Exec.runOn_get_bind, sendAllMessages_context current context]

theorem sendMessage_waits (message : List UInt8) (waits : manager.connectionReady = false) :
    (sendMessage message).runOn manager = some (.ok (),
      { manager with
        submitted := manager.submitted ++ [message]
        bufferedMessages := manager.bufferedMessages ++ [message] }) := by
  simp [sendMessage, waits]

/-- What `sendMessage` does when there is a connection. -/
theorem sendMessage_ready (message : List UInt8) (ready : manager.connectionReady = true) :
    (sendMessage message).runOn manager =
      (sendAllMessagesFromBuffer >>= fun _ => handlerSendMessage message).runOn
        { manager with submitted := manager.submitted ++ [message] } := by
  simp [sendMessage, ready]

theorem sendMessage_context (message : List UInt8) (ready : manager.connectionReady = true)
    (current : manager.handler = some handler) (context : handler.ctx = true) :
    (sendMessage message).runOn manager = some (.ok (),
      { manager with
        bufferedMessages := []
        submitted := manager.submitted ++ [message]
        written := manager.written ++
          (manager.bufferedMessages ++ [message]).map JavaClient.sendMessage
        sends := manager.sends ++
          List.replicate (manager.bufferedMessages.length + 1) handler }) := by
  have sent := @sendAllMessagesFromBuffer_context
    { manager with submitted := manager.submitted ++ [message] } handler current context
  rw [sendMessage_ready message ready, Exec.runOn_bind, sent, Option.bind_some]
  dsimp only
  rw [handlerSendMessage_context message (by exact current) context]
  simp [drained, List.replicate_succ']

/-- Without a context a message is lost. -/
theorem sendMessage_throws (message : List UInt8) (ready : manager.connectionReady = true)
    (without : ¬ manager.HasContext) :
    ∃ buffered sends, (sendMessage message).runOn manager = some (.error .thrown,
        { manager with
          bufferedMessages := buffered
          submitted := manager.submitted ++ [message]
          sends := sends }) ∧
      buffered.length ≤ manager.bufferedMessages.length := by
  rw [sendMessage_ready message ready, Exec.runOn_bind]
  cases buffered : manager.bufferedMessages with
  | nil =>
      obtain ⟨sends, threw⟩ := @handlerSendMessage_throws
        { manager with submitted := manager.submitted ++ [message] } message without
      refine ⟨[], sends, ?_, by simp⟩
      rw [sendAllMessagesFromBuffer_empty (by simp), Option.bind_some]
      rw [buffered] at threw
      exact threw
  | cons first rest =>
      obtain ⟨sends, threw⟩ := @sendAllMessagesFromBuffer_throws
        { manager with submitted := manager.submitted ++ [message] } without first rest buffered
      rw [buffered] at threw
      exact ⟨rest, sends, by rw [threw, Option.bind_some], by simp⟩

theorem closeConnection_empty (empty : manager.bufferedMessages = [])
    (having : manager.connectionReady = true → manager.HasContext) :
    closeConnection.runOn manager = some (.ok (), manager.shutDown) := by
  rw [closeConnection, Exec.runOn_bind, sendAllMessagesFromBuffer_empty empty, Option.bind_some]
  cases ready : manager.connectionReady with
  | false => simp [ready, shutDown]
  | true => simp [ready, Exec.runOn_bind, handlerCloseConnection_context (having ready), shutDown]

theorem closeConnection_context (current : manager.handler = some handler)
    (context : handler.ctx = true) :
    closeConnection.runOn manager = some (.ok (), (manager.drained handler).shutDown) := by
  rw [closeConnection, Exec.runOn_bind, sendAllMessagesFromBuffer_context current context,
    Option.bind_some]
  have having : (manager.drained handler).HasContext := ⟨handler, current, context⟩
  dsimp only
  cases ready : (manager.drained handler).connectionReady with
  | false => simp [ready, shutDown]
  | true => simp [ready, Exec.runOn_bind, handlerCloseConnection_context having, shutDown]

/-- Without a context nothing is shut down. -/
theorem closeConnection_throws (without : ¬ manager.HasContext)
    (reached : manager.bufferedMessages ≠ [] ∨ manager.connectionReady = true) :
    ∃ after, closeConnection.runOn manager = some (.error .thrown, after) := by
  rw [closeConnection, Exec.runOn_bind]
  cases buffered : manager.bufferedMessages with
  | nil =>
      have ready := reached.resolve_left (not_not_intro buffered)
      refine ⟨manager, ?_⟩
      rw [sendAllMessagesFromBuffer_empty buffered, Option.bind_some]
      simp [ready, Exec.runOn_bind, handlerCloseConnection_throws without]
  | cons message messages =>
      obtain ⟨sends, threw⟩ := sendAllMessagesFromBuffer_throws without buffered
      exact ⟨_, by rw [threw, Option.bind_some]⟩

end Sending

variable {before after : CommunicationManager} {called : ManagerCall}

theorem calls_iff :
    Calls before called after ↔
      ∃ result, (event called.event).runOn before = some (result, after) ∧
        result.isOk = called.returns := by
  rw [Calls, call, Option.bind_eq_some_iff]
  constructor
  · rintro ⟨⟨result, reached⟩, ran, chosen⟩
    obtain ⟨same, reaches⟩ := Option.ite_none_right_eq_some.mp chosen
    cases reaches
    exact ⟨result, ran, same⟩
  · rintro ⟨result, ran, same⟩
    exact ⟨(result, after), ran, if_pos same⟩

theorem keeps_happens {outbox : Outbox} {possible : CommunicationManager → Bool}
    {change : CommunicationManager → CommunicationManager}
    (changes : ∀ manager, (change manager).toOutbox = manager.toOutbox) :
    Exec.Keeps (·.toOutbox = outbox) (happens possible change) := by
  apply Exec.keeps_get_bind
  intro manager same
  apply Exec.keeps_ite
  · exact fun _ => Exec.keeps_modify fun manager same => (changes manager).trans same
  · exact fun _ => Exec.keeps_blocked

/-- The other calls do not touch the messages. -/
theorem Calls.sameOutbox (calls : Calls before called after)
    (sending : ∀ message, called.event ≠ .sendMessage message)
    (closing : called.event ≠ .closeConnection) : after.toOutbox = before.toOutbox := by
  obtain ⟨result, ran, -⟩ := calls_iff.mp calls
  have kept : Exec.Keeps (·.toOutbox = before.toOutbox) (event called.event) := by
    cases happened : called.event with
    | sendMessage message => exact absurd happened (sending message)
    | closeConnection => exact absurd happened closing
    | _ =>
        apply keeps_happens
        exact fun _ => rfl
  exact kept before result after rfl ran

/-- The messages are accounted for and have been sent into an active channel,
and `closeConnection` has returned. -/
def Delivers (transition : Transition CommunicationManager ManagerCall) : Prop :=
  transition.after.Accounted ∧ transition.after.Arrives ∧
    (transition.label.event = .closeConnection → transition.label.returns = true)

/-- The channel is active when something is about to be sent, and a handler
about to be closed has its context. -/
def FindsChannel (transition : Transition CommunicationManager ManagerCall) : Prop :=
  match transition.label.event with
  | .sendMessage _ =>
      transition.before.connectionReady = true → transition.before.Connected
  | .closeConnection =>
      (transition.before.bufferedMessages ≠ [] → transition.before.Connected) ∧
        (transition.before.connectionReady = true → transition.before.HasContext)
  | _ => True

variable {result : Except NullPointerException Unit}

theorem sendMessage_delivers {message : List UInt8} (accounted : before.Accounted)
    (arrives : before.Arrives)
    (ran : (sendMessage message).runOn before = some (result, after)) :
    after.Accounted ∧ after.Arrives ↔ (before.connectionReady = true → before.Connected) := by
  cases ready : before.connectionReady with
  | false =>
      rw [sendMessage_waits message ready] at ran
      cases ran
      exact iff_of_true ⟨accounted.waits message, arrives⟩ (by simp)
  | true =>
      by_cases having : before.HasContext
      · obtain ⟨handler, current, context⟩ := having
        rw [sendMessage_context message ready current context] at ran
        cases ran
        constructor
        · rintro ⟨-, reached⟩ -
          exact ⟨handler, current, reached handler (by simp)⟩
        · intro connected
          obtain ⟨same, known, connected⟩ := connected rfl
          obtain rfl := Option.some.inj (current.symm.trans known)
          exact ⟨accounted.sent [message] _, arrives.sent connected _⟩
      · obtain ⟨buffered, sends, threw, fewer⟩ := sendMessage_throws message ready having
        rw [threw] at ran
        cases ran
        apply iff_of_false
        · rintro ⟨lost, -⟩
          have submitted := accounted.length
          have losing := lost.length
          simp only [List.length_append, List.length_singleton] at losing
          omega
        · exact fun connected => having (connected rfl).hasContext

theorem closeConnection_delivers (accounted : before.Accounted) (arrives : before.Arrives)
    (ran : closeConnection.runOn before = some (result, after)) :
    after.Accounted ∧ after.Arrives ∧ result.isOk = true ↔
      (before.bufferedMessages ≠ [] → before.Connected) ∧
        (before.connectionReady = true → before.HasContext) := by
  have threw (without : ¬ before.HasContext)
      (reached : before.bufferedMessages ≠ [] ∨ before.connectionReady = true) :
      ¬ (after.Accounted ∧ after.Arrives ∧ result.isOk = true) := by
    obtain ⟨left, threw⟩ := closeConnection_throws without reached
    rw [threw] at ran
    cases ran
    rintro ⟨-, -, returned⟩
    cases returned
  by_cases empty : before.bufferedMessages = []
  · by_cases context : before.connectionReady = true → before.HasContext
    · rw [closeConnection_empty empty context] at ran
      cases ran
      exact iff_of_true ⟨accounted, arrives, rfl⟩ ⟨fun buffered => absurd empty buffered, context⟩
    · obtain ⟨ready, without⟩ := Classical.not_imp.mp context
      exact iff_of_false (threw without (.inr ready)) fun finds => context finds.2
  · by_cases having : before.HasContext
    · obtain ⟨handler, current, context⟩ := having
      rw [closeConnection_context current context] at ran
      cases ran
      constructor
      · rintro ⟨-, reached, -⟩
        refine ⟨fun _ => ⟨handler, current, reached handler ?_⟩,
          fun _ => ⟨handler, current, context⟩⟩
        simp [drained, empty]
      · rintro ⟨connects, -⟩
        obtain ⟨same, known, connected⟩ := connects empty
        obtain rfl := Option.some.inj (current.symm.trans known)
        have delivered := accounted.sent [] (before.drained handler).sends
        rw [List.append_nil, List.append_nil] at delivered
        exact ⟨delivered, arrives.sent connected _, rfl⟩
    · apply iff_of_false (threw having (.inl empty))
      exact fun finds => having (finds.1 empty).hasContext

theorem Calls.delivers (calls : Calls before called after) (accounted : before.Accounted)
    (arrives : before.Arrives) :
    Delivers ⟨before, called, after⟩ ↔ FindsChannel ⟨before, called, after⟩ := by
  obtain ⟨result, ran, returned⟩ := calls_iff.mp calls
  unfold Delivers FindsChannel
  dsimp only
  cases happened : called.event with
  | sendMessage message =>
      rw [happened] at ran
      simpa using sendMessage_delivers accounted arrives ran
  | closeConnection =>
      rw [happened] at ran
      simpa [returned] using closeConnection_delivers accounted arrives ran
  | _ =>
      have same := calls.sameOutbox (by simp [happened]) (by simp [happened])
      rw [same]
      simp [accounted, arrives]

section Runs

variable {taken : List (Transition CommunicationManager ManagerCall)}
  {final : CommunicationManager}

/-- Over a run, the messages reach the channel in their order and
`closeConnection` returns exactly as long as the channel is active when
something is about to be sent, and the handler about to be closed has a
context. -/
theorem delivers_iff (trace : Trace Calls {} taken final) :
    (∀ transition ∈ taken, Delivers transition) ↔
      ∀ transition ∈ taken, FindsChannel transition := by
  refine trace.forall_iff_of_carries (fun manager => manager.Accounted ∧ manager.Arrives)
    ⟨⟨[], rfl, rfl⟩, by simp [Outbox.Arrives]⟩ ?_ ?_
  · rintro before called after calls ⟨accounted, arrives⟩
    exact calls.delivers accounted arrives
  · rintro before called after calls - ⟨accounted, arrives, -⟩
    exact ⟨accounted, arrives⟩

/-- The connection fails, a message is put into the buffer, and the manager is
closed. -/
theorem delivers_fails :
    ∃ taken final, Trace Calls {} taken final ∧
      taken.map (·.label) =
        [⟨.run, true⟩, ⟨.connectFailed, true⟩, ⟨.sendMessage [1], true⟩,
          ⟨.closeConnection, false⟩] ∧
      ¬ ∀ transition ∈ taken, Delivers transition := by
  have nothing : Trace Calls {} [] {} := .start
  refine ⟨_, _, nothing.of_follow call
    [⟨.run, true⟩, ⟨.connectFailed, true⟩, ⟨.sendMessage [1], true⟩,
      ⟨.closeConnection, false⟩] rfl, rfl, ?_⟩
  intro delivers
  obtain ⟨-, -, returns⟩ := delivers _ (.tail _ (.tail _ (.tail _ (.head _))))
  cases returns rfl

/-- A message is put into the buffer, the connection is made, and another
message is sent before the manager is closed. -/
theorem delivers_iff_connected :
    ∃ taken final, Trace Calls {} taken final ∧
      taken.map (·.label) =
        [⟨.sendMessage [1], true⟩, ⟨.run, true⟩, ⟨.channelActive 0, true⟩, ⟨.connected, true⟩,
          ⟨.sendMessage [2], true⟩, ⟨.closeConnection, true⟩] ∧
      ∀ transition ∈ taken, Delivers transition := by
  have nothing : Trace Calls {} [] {} := .start
  have trace := nothing.of_follow call
    [⟨.sendMessage [1], true⟩, ⟨.run, true⟩, ⟨.channelActive 0, true⟩, ⟨.connected, true⟩,
      ⟨.sendMessage [2], true⟩, ⟨.closeConnection, true⟩] rfl
  refine ⟨_, _, trace, rfl, (delivers_iff trace).mpr ?_⟩
  intro transition member
  simp only [List.nil_append, List.mem_cons, List.not_mem_nil, or_false] at member
  rcases member with rfl | rfl | rfl | rfl | rfl | rfl
  · rintro ⟨⟩
  · trivial
  · trivial
  · trivial
  · exact fun _ => ⟨_, rfl, rfl, rfl⟩
  · exact ⟨fun _ => ⟨_, rfl, rfl, rfl⟩, fun _ => ⟨_, rfl, rfl⟩⟩

end Runs

end CommunicationManager

end SensorManager.JavaClient
