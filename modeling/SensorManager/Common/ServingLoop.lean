import SensorManager.Common.SelectLoop

/-!
# The select loop serves

The handler stays in server mode through every turn, and its connected clients
know their own index.
-/

namespace SensorManager.SelectLoop

variable {listener : IRequestListener} {loop after : SelectLoop}

def Serves (loop : SelectLoop) : Prop :=
  loop.handler.Serving

theorem serves_send (serving : loop.Serves) (clientId : Int) (msg : List UInt8)
    (sent : Int) : (loop.send clientId msg sent).Serves :=
  serving.send clientId msg sent

theorem serves_disconnectClient (serving : loop.Serves) (clientId : Int) :
    (loop.disconnectClient clientId).Serves :=
  serving.disconnectClient clientId

theorem serves_disconnectHandler (serving : loop.Serves) (slot : Int) :
    (loop.disconnectHandler slot).Serves :=
  serving.disconnectHandler slot

theorem serves_react (serving : loop.Serves) (clientId sent : Int) (reaction : Reaction) :
    (loop.react clientId sent reaction).Serves := by
  cases reaction with
  | send msg => exact serves_send serving clientId msg sent
  | disconnect => exact serves_disconnectClient serving clientId

theorem keeps_serves_reactAll (clientId : Int) (answer : Answer) (reactions : List Reaction) :
    Exec.Keeps Serves (reactAll clientId answer reactions) := by
  induction reactions with
  | nil => exact Exec.keeps_pure _
  | cons reaction reactions ih =>
      apply Exec.keeps_get_bind
      intro loop serving
      apply Exec.keeps_ite
      · exact fun _ => Exec.keeps_throw _
      · intro _
        exact Exec.keeps_bind
          (Exec.keeps_set (serves_react serving clientId answer.sent reaction)) fun _ => ih

theorem serves_recvData (serving : loop.Serves) (slot : Int) (received : Received)
    (beyond : BytesParser.Memory) :
    (loop.handler.setClient slot
      ((loop.handler.clientHandlers slot).recvData received beyond).2).Serving := by
  obtain ⟨inBuffer, remainingIn, remainingInLen, waitForInitMsg, same⟩ :=
    (loop.handler.clientHandlers slot).recvData_eq received beyond
  rw [same]
  exact serving.setClient (serving.clients slot) (serving.clientId slot)

theorem serves_sendData (serving : loop.Serves) (slot sent : Int) :
    (loop.handler.setClient slot
      ((loop.handler.clientHandlers slot).sendData sent).2).Serving := by
  apply serving.setClient
  · unfold Client.sendData
    split <;> exact serving.clients slot
  · unfold Client.sendData
    split <;> exact serving.clientId slot

theorem keeps_serves_tryAccept (listener : IRequestListener) (answer : Answer) :
    Exec.Keeps Serves (tryAccept listener answer) := by
  apply Exec.keeps_get_bind
  intro loop serving
  apply Exec.keeps_ite
  · intro _
    apply Exec.keeps_ite
    · exact fun _ => Exec.keeps_throw _
    · intro _
      apply Exec.keeps_set
      apply ClientsHandler.Serving.bindHandler
      exact ⟨serving.isServer, serving.clients, serving.clientId⟩
  · exact fun _ => Exec.keeps_pure _

theorem keeps_serves_tryRecv (listener : IRequestListener) (slot : Int) (answer : Answer) :
    Exec.Keeps Serves (tryRecv listener slot answer) := by
  apply Exec.keeps_get_bind
  intro loop serving
  apply Exec.keeps_ite
  · intro _
    apply Exec.keeps_bind
    · exact Exec.keeps_set (serves_recvData serving slot answer.received answer.beyond)
    · intro _
      split
      · exact Exec.keeps_throw _
      · apply Exec.keeps_ite
        · exact fun _ => Exec.keeps_modify fun _ now => serves_disconnectHandler now slot
        · exact fun _ => Exec.keeps_pure _
      · split
        · exact Exec.keeps_throw _
        · apply Exec.keeps_bind
          · exact Exec.keeps_modify fun _ now => now
          · intro _
            apply Exec.keeps_bind (keeps_serves_reactAll _ answer _)
            intro _
            apply Exec.keeps_ite
            · exact fun _ => Exec.keeps_modify fun _ now => serves_disconnectHandler now slot
            · exact fun _ => Exec.keeps_pure _
  · exact fun _ => Exec.keeps_pure _

theorem keeps_serves_trySend (slot : Int) (answer : Answer) :
    Exec.Keeps Serves (trySend slot answer) := by
  apply Exec.keeps_get_bind
  intro loop serving
  apply Exec.keeps_ite
  · intro _
    apply Exec.keeps_bind
    · exact Exec.keeps_set (serves_sendData serving slot answer.sent)
    · intro _
      apply Exec.keeps_ite
      · exact fun _ => Exec.keeps_modify fun _ now => serves_disconnectHandler now slot
      · exact fun _ => Exec.keeps_pure _
  · exact fun _ => Exec.keeps_pure _

theorem keeps_serves_trySelect (answer : Answer) :
    Exec.Keeps Serves (trySelect answer) := by
  apply Exec.keeps_ite
  · exact fun _ => Exec.keeps_throw _
  · exact fun _ => Exec.keeps_modify fun _ serving => serving

theorem keeps_serves_goto (stage : Stage) : Exec.Keeps Serves (goto stage) :=
  Exec.keeps_modify fun _ serving => serving

theorem keeps_serves_startHandling (listener : IRequestListener) (answer : Answer) :
    Exec.Keeps Serves (startHandling listener answer) := by
  apply Exec.keeps_get_bind
  intro loop serving
  cases loop.stage with
  | getFreeHandler =>
      exact Exec.keeps_set ⟨serving.isServer, serving.clients, serving.clientId⟩
  | setReadyHandlers => exact Exec.keeps_set serving
  | trySelect =>
      exact Exec.keeps_bind (keeps_serves_trySelect answer) fun _ => keeps_serves_goto _
  | tryAccept =>
      exact Exec.keeps_bind (keeps_serves_tryAccept listener answer)
        fun _ => keeps_serves_goto _
  | tryRecv slot =>
      exact Exec.keeps_bind (keeps_serves_tryRecv listener slot answer)
        fun _ => keeps_serves_goto _
  | trySend slot =>
      exact Exec.keeps_bind (keeps_serves_trySend slot answer) fun _ => keeps_serves_goto _
  | left failure => exact Exec.keeps_blocked

/-- Every turn of every thread keeps the handler in server mode. -/
theorem Turns.serves {label : Turn} (turns : Turns listener loop label after)
    (serving : loop.Serves) : after.Serves := by
  replace turns := turns.acts
  unfold act at turns
  cases label with
  | network answer =>
      dsimp only at turns
      cases ran : (startHandling listener answer).runOn loop with
      | none => simp [ran] at turns
      | some outcome =>
          obtain ⟨result, reached⟩ := outcome
          have kept := keeps_serves_startHandling listener answer loop result reached serving ran
          cases result <;> simp only [ran, Option.some.injEq] at turns <;> subst turns <;>
            exact kept
  | send clientId msg sent =>
      cases turns
      exact serves_send serving clientId msg sent
  | disconnectClient clientId =>
      cases turns
      exact serves_disconnectClient serving clientId
  | unlockSend clientId =>
      cases turns
      exact serving.unlockSend clientId
  | unlockRecv clientId =>
      cases turns
      exact serving.unlockRecv clientId
  | blockSendOnInit =>
      cases turns
      exact ⟨serving.isServer, serving.clients, serving.clientId⟩
  | blockRecvOnInit =>
      cases turns
      exact ⟨serving.isServer, serving.clients, serving.clientId⟩
  | killHandler =>
      cases turns
      exact serving

theorem serves_start (acceptingSocket maxClients : Int) :
    (start acceptingSocket maxClients).Serves := by
  have created := ClientsHandler.serving_create maxClients
  exact ⟨created.isServer, created.clients, created.clientId⟩

end SensorManager.SelectLoop
