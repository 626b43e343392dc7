import SensorManager.Common.Containment

/-!
# The turns of the network thread

One case for each thing that a stage of `startHandling` can do.  The stages are
taken apart here, and the invariants of the loop go through the cases.
-/

namespace SensorManager.SelectLoop

open Exec

variable {listener : IRequestListener} {loop after : SelectLoop} {answer : Answer}

/-- The loop after `select` has left the ready sockets in the sets. -/
def selected (loop : SelectLoop) (answer : Answer) : SelectLoop :=
  { loop with
    readyIn := fun socket => loop.readyIn socket && answer.activeIn socket
    readyOut := fun socket => loop.readyOut socket && answer.activeOut socket }

/-- The loop after a connection is accepted. -/
def accepted (loop : SelectLoop) (listener : IRequestListener) (answer : Answer) :
    SelectLoop :=
  let handler := { loop.handler with nfds := max (answer.socket + 1) loop.handler.nfds }
  { loop with handler := handler }.bindHandler listener answer.socket answer.service

/-- The loop after `trySend` has gone through one client. -/
def trySent (loop : SelectLoop) (slot sent : Int) : SelectLoop :=
  if loop.sends slot then
    let called := (loop.handler.clientHandlers slot).sendData sent
    (loop.setClient slot called.2).closeUnless slot called.1
  else loop

theorem runOn_trySend (slot : Int) :
    (trySend slot answer).runOn loop = some (.ok (), loop.trySent slot answer.sent) := by
  unfold trySend trySent closeUnless
  rw [runOn_get_bind, runOn_ite, runOn_set_bind, runOn_ite]
  split
  · dsimp only
    split <;> rfl
  · rfl

/-- What one turn of the network thread can do. -/
inductive NetworkTurn (listener : IRequestListener) (loop : SelectLoop) (answer : Answer) :
    SelectLoop → Prop
  | getFreeHandler (stage : loop.stage = .getFreeHandler) :
      NetworkTurn listener loop answer { loop.getFreeHandler with stage := .setReadyHandlers }
  | setReadyHandlers (stage : loop.stage = .setReadyHandlers) :
      NetworkTurn listener loop answer { loop.setReadyHandlers with stage := .trySelect }
  | selectFailed (stage : loop.stage = .trySelect) (failed : answer.selected = -1) :
      NetworkTurn listener loop answer
        { loop with stage := .left (some (.thrown (.ofType .select))) }
  | selected (stage : loop.stage = .trySelect) (returned : ¬ answer.selected = -1) :
      NetworkTurn listener loop answer { loop.selected answer with stage := .tryAccept }
  | notAccepting (stage : loop.stage = .tryAccept)
      (idle : ¬ loop.readyIn loop.handler.acceptingSocket = true) :
      NetworkTurn listener loop answer { loop with stage := .tryRecv 0 }
  | acceptFailed (stage : loop.stage = .tryAccept)
      (pending : loop.readyIn loop.handler.acceptingSocket = true)
      (failed : answer.socket = -1) :
      NetworkTurn listener loop answer
        { loop with stage := .left (some (.thrown (.ofType .accept))) }
  | accepted (stage : loop.stage = .tryAccept)
      (pending : loop.readyIn loop.handler.acceptingSocket = true)
      (returned : ¬ answer.socket = -1) :
      NetworkTurn listener loop answer
        { loop.accepted listener answer with stage := .tryRecv 0 }
  | recvFailed {slot : Nat} {failure : Failure} {reached : SelectLoop}
      (stage : loop.stage = .tryRecv slot)
      (handled : TryRecv listener loop slot answer (.error failure) reached) :
      NetworkTurn listener loop answer { reached with stage := .left (some failure) }
  | tryRecv {slot : Nat} {reached : SelectLoop} (stage : loop.stage = .tryRecv slot)
      (handled : TryRecv listener loop slot answer (.ok ()) reached) :
      NetworkTurn listener loop answer { reached with stage := loop.nextRecv slot }
  | trySend {slot : Nat} (stage : loop.stage = .trySend slot) :
      NetworkTurn listener loop answer
        { loop.trySent slot answer.sent with stage := loop.nextSend slot }

theorem Turns.select (turns : Turns listener loop (.network answer) after)
    (stage : loop.stage = .trySelect) : NetworkTurn listener loop answer after := by
  have staged : (startHandling listener answer).runOn loop =
      (SelectLoop.trySelect answer >>= fun _ => goto .tryAccept).runOn loop := by
    unfold startHandling
    rw [runOn_get_bind, stage]
  obtain ⟨result, reached, ran, rfl⟩ := turns.of_stage staged
  unfold SelectLoop.trySelect at ran
  rw [runOn_ite] at ran
  split at ran
  · next failed =>
      cases ran
      exact .selectFailed stage failed
  · next returned =>
      cases ran
      exact .selected stage returned

theorem Turns.accept (turns : Turns listener loop (.network answer) after)
    (stage : loop.stage = .tryAccept) : NetworkTurn listener loop answer after := by
  have staged : (startHandling listener answer).runOn loop =
      (SelectLoop.tryAccept listener answer >>= fun _ => goto (.tryRecv 0)).runOn loop := by
    unfold startHandling
    rw [runOn_get_bind, stage]
  obtain ⟨result, reached, ran, rfl⟩ := turns.of_stage staged
  unfold SelectLoop.tryAccept at ran
  rw [runOn_get_bind, runOn_ite, runOn_ite] at ran
  split at ran
  · next pending =>
      split at ran
      · next failed =>
          cases ran
          exact .acceptFailed stage pending failed
      · next returned =>
          cases ran
          exact .accepted stage pending returned
  · next idle =>
      cases ran
      exact .notAccepting stage idle

theorem Turns.network (turns : Turns listener loop (.network answer) after) :
    NetworkTurn listener loop answer after := by
  have acts := turns.acts
  cases stage : loop.stage with
  | getFreeHandler =>
      simp only [act, startHandling, runOn_get_bind, stage, runOn_set,
        Option.some.injEq] at acts
      subst acts
      exact .getFreeHandler stage
  | setReadyHandlers =>
      simp only [act, startHandling, runOn_get_bind, stage, runOn_set,
        Option.some.injEq] at acts
      subst acts
      exact .setReadyHandlers stage
  | trySelect => exact turns.select stage
  | tryAccept => exact turns.accept stage
  | tryRecv slot =>
      obtain ⟨result, reached, handled, rfl⟩ := turns.recv stage
      cases result with
      | ok => exact .tryRecv stage handled
      | error failure => exact .recvFailed stage handled
  | trySend slot =>
      have staged : (startHandling listener answer).runOn loop =
          (SelectLoop.trySend slot answer >>= fun _ => goto (loop.nextSend slot)).runOn
            loop := by
        unfold startHandling
        rw [runOn_get_bind, stage]
      obtain ⟨result, reached, ran, rfl⟩ := turns.of_stage staged
      rw [runOn_trySend] at ran
      cases ran
      exact .trySend stage
  | left failure =>
      simp only [act, startHandling, runOn_get_bind, stage, runOn_blocked] at acts
      cases acts

end SensorManager.SelectLoop
