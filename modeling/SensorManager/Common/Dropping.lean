import SensorManager.Common.Descriptors
import SensorManager.Common.NetworkTurn
import SensorManager.Common.Senders

/-!
# Which clients the sender drops

The select loop with threads inside `addOutMsg`.  `setReadyHandlers` looks at
an output buffer before `select`, and `trySend` sends from it afterwards; what
has emptied the buffer in between makes `trySend` send nothing.
-/

namespace SensorManager

open Function

/-- The loop with the threads that are in `send`, each with its client id. -/
structure SendingLoop where
  loop : SelectLoop
  senders : Nat → Int × Sender

/-- The turn of a thread: one of the loop, a call of `send`, or another step of
one. -/
inductive LoopTurn where
  | loop (turn : SelectLoop.Turn)
  | send (thread : Nat) (clientId : Int) (msg : List UInt8)
  | step (thread : Nat) (step : SendStep)

namespace SendingLoop

def start (acceptingSocket : Int) (maxClients : Int := 100) : SendingLoop :=
  { loop := .start acceptingSocket maxClients, senders := fun _ => (0, .idle) }

/-- A thread goes on in `addOutMsg` on the client with the given id. -/
def advance (sending : SendingLoop) (thread : Nat) (clientId : Int) (step : SendStep) :
    Option SendingLoop :=
  ((sending.senders thread).2.step (sending.loop.handler.clientHandlers clientId) step).map
    fun after =>
      { loop := sending.loop.setClient clientId after.1
        senders := update sending.senders thread (clientId, after.2) }

def act (listener : IRequestListener) : LoopTurn → SendingLoop → Option SendingLoop
  | .loop turn, sending =>
      (SelectLoop.turn listener turn sending.loop).map fun loop =>
        { sending with loop := loop }
  | .send thread clientId msg, sending =>
      if !sending.loop.handler.inRange clientId then some sending
      else sending.advance thread clientId (.addOutMsg msg)
  | .step thread step, sending =>
      if (sending.senders thread).2 = .idle then none
      else sending.advance thread (sending.senders thread).1 step

/-- The signal ends the threads that are in `send`, too. -/
def turn (listener : IRequestListener) (label : LoopTurn) (sending : SendingLoop) :
    Option SendingLoop :=
  if sending.loop.stage = .left (some .signalled) then none else act listener label sending

def Turns (listener : IRequestListener) (sending : SendingLoop) (label : LoopTurn)
    (after : SendingLoop) : Prop :=
  turn listener label sending = some after

theorem Turns.acts {listener : IRequestListener} {sending after : SendingLoop}
    {label : LoopTurn} (turns : Turns listener sending label after) :
    act listener label sending = some after := by
  unfold Turns turn at turns
  split at turns
  · cases turns
  · exact turns

/-- A client of the loop. -/
def client (sending : SendingLoop) (slot : Int) : Client :=
  sending.loop.handler.clientHandlers slot

/-- A client that `trySend` disconnects had something to send, and
`socket_send` failed on it. -/
def DropsFailed (transition : Transition SendingLoop LoopTurn) : Prop :=
  ∀ answer slot, transition.label = .loop (.network answer) →
    transition.before.loop.stage = .trySend slot →
    (transition.before.client slot).isConnected = true →
    (transition.after.client slot).isConnected = false →
    (transition.before.client slot).outBuffer ≠ [] ∧ answer.sent ≤ 0

/-- A client that `trySend` sends for still has something to send. -/
def FindsBuffer (transition : Transition SendingLoop LoopTurn) : Prop :=
  ∀ answer slot, transition.label = .loop (.network answer) →
    transition.before.loop.stage = .trySend slot →
    transition.before.loop.sends slot = true →
    (transition.before.client slot).outBuffer ≠ []

/-- `socket_send` of no bytes returns 0. -/
def sendsNothing : LoopTurn → SendingLoop → Bool
  | .loop (.network answer), sending =>
      match sending.loop.stage with
      | .trySend slot => !(sending.client slot).outBuffer.isEmpty || answer.sent = 0
      | _ => true
  | _, _ => true

variable {listener : IRequestListener} {sending after : SendingLoop}

theorem isConnected_trySent (loop : SelectLoop) (slot sent : Int) :
    ((loop.trySent slot sent).handler.clientHandlers slot).isConnected =
      if loop.sends slot = true ∧ sent ≤ 0 then false
      else (loop.handler.clientHandlers slot).isConnected := by
  have result : ((loop.handler.clientHandlers slot).sendData sent).1 = sent := by
    unfold Client.sendData
    split <;> rfl
  unfold SelectLoop.trySent SelectLoop.closeUnless
  dsimp only
  rw [result]
  by_cases sends : loop.sends slot = true
  · by_cases failed : sent ≤ 0
    · simp [sends, failed, SelectLoop.disconnectHandler, ClientsHandler.disconnectHandler,
        Client.disconnected, Client.reset, Client.isConnected]
    · rw [if_pos sends, if_neg failed, if_neg (by simp [failed])]
      unfold SelectLoop.setClient
      rw [ClientsHandler.setClient_same]
      exact Client.isConnected_sendData _ sent
  · rw [if_neg sends, if_neg (by simp [sends])]

/-- The turn of `trySend` for one client. -/
theorem Turns.trySend {answer : Answer} {slot : Nat}
    (turns : Turns listener sending (.loop (.network answer)) after)
    (stage : sending.loop.stage = .trySend slot) :
    (after.client slot).isConnected =
      if sending.loop.sends slot = true ∧ answer.sent ≤ 0 then false
      else (sending.client slot).isConnected := by
  obtain ⟨loop, turned, same⟩ := Option.map_eq_some_iff.mp turns.acts
  subst same
  have cases : SelectLoop.NetworkTurn listener sending.loop answer loop :=
    SelectLoop.Turns.network turned
  cases cases with
  | @trySend other here =>
      obtain rfl : other = slot := by
        rw [stage] at here
        exact (Stage.trySend.inj here).symm
      exact isConnected_trySent sending.loop other answer.sent
  | getFreeHandler here | setReadyHandlers here | selectFailed here _ | selected here _
  | notAccepting here _ | acceptFailed here _ _ | accepted here _ _ | recvFailed here _
  | tryRecv here _ =>
      rw [stage] at here
      cases here

theorem sends_isConnected {slot : Int} (sends : sending.loop.sends slot = true) :
    (sending.client slot).isConnected = true := by
  unfold SelectLoop.sends at sends
  exact (Bool.and_eq_true_iff.mp sends).1

theorem dropsFailed_iff {label : LoopTurn} (turns : Turns listener sending label after)
    (nothing : sendsNothing label sending = true) :
    DropsFailed ⟨sending, label, after⟩ ↔ FindsBuffer ⟨sending, label, after⟩ := by
  constructor
  · rintro drops answer slot rfl stage sends empty
    have sent : answer.sent = 0 := by
      dsimp only at stage empty
      simpa [sendsNothing, stage, empty] using nothing
    have gone : (after.client slot).isConnected = false := by
      rw [turns.trySend stage, if_pos ⟨sends, by omega⟩]
    exact (drops answer slot rfl stage (sends_isConnected sends) gone).1 empty
  · rintro finds answer slot rfl stage connected gone
    dsimp only at connected gone
    rw [turns.trySend stage] at gone
    split at gone
    · next failed => exact ⟨finds answer slot rfl stage failed.1, failed.2⟩
    · rw [connected] at gone
      cases gone

/-- In any run, `trySend` drops clients on which `socket_send` has failed, and
no others, exactly when it never finds an empty buffer. -/
theorem drops_failed_iff {acceptingSocket maxClients : Int}
    {taken : List (Transition SendingLoop LoopTurn)}
    (trace : Trace (Turns listener) (start acceptingSocket maxClients) taken after)
    (nothing : ∀ transition ∈ taken,
      sendsNothing transition.label transition.before = true) :
    (∀ transition ∈ taken, DropsFailed transition) ↔
      ∀ transition ∈ taken, FindsBuffer transition :=
  forall₂_congr fun transition member =>
    dropsFailed_iff (trace.stepped member) (nothing transition member)

/-- A client connects on socket 4, and a thread appends a message for it. -/
def appending : List LoopTurn :=
  (SelectLoop.selecting 3 4 ++ List.replicate 200 (SelectLoop.Turn.network {})).map .loop ++
    [.send 0 0 [105], .step 0 .append]

/-- An iteration in which the socket is ready for `send`, up to `trySend`. -/
def sendable : List LoopTurn :=
  [.loop (.network {}), .loop (.network {}),
    .loop (.network { selected := 1, activeOut := fun socket => socket = 4 })] ++
    List.replicate 101 (.loop (.network {}))

/-- The message goes out in `trySend`. -/
theorem drops_failed_iff_sent :
    ∃ taken after, Trace (Turns SelectLoop.quiet) (start 3) taken after ∧
      (after.client 0).isConnected = true ∧ (after.client 0).outBuffer = [] ∧
      ((∀ transition ∈ taken, DropsFailed transition) ↔
        ∀ transition ∈ taken, FindsBuffer transition) := by
  have played : (playMoves (turn SelectLoop.quiet) sendsNothing
      (appending ++ sendable ++ [.loop (.network { sent := 5 })]) (start 3)).map
        (fun sending => ((sending.client 0).isConnected, (sending.client 0).outBuffer)) =
      some (true, []) := by
    decide +kernel
  obtain ⟨after, reached, seen⟩ := Option.map_eq_some_iff.mp played
  obtain ⟨connected, empty⟩ := Prod.mk.inj seen
  obtain ⟨taken, trace, nothing⟩ := Trace.of_playMoves .start reached
  exact ⟨taken, after, trace, connected, empty, drops_failed_iff trace nothing⟩

/-- The thread sends its message after the socket has been put into the set,
and `trySend` drops the client for it. -/
theorem not_drops_failed_emptied :
    ∃ taken after, Trace (Turns SelectLoop.quiet) (start 3) taken after ∧
      (∀ transition ∈ taken, sendsNothing transition.label transition.before = true) ∧
      ¬ ∀ transition ∈ taken, DropsFailed transition := by
  have played : (playMoves (turn SelectLoop.quiet) sendsNothing
      (appending ++ sendable ++ [.step 0 .check, .step 0 (.sendData 5)]) (start 3)).map
        (fun sending => (sending.loop.stage, (sending.client 0).isConnected,
          (sending.client 0).outBuffer, sendsNothing (.loop (.network {})) sending,
          (turn SelectLoop.quiet (.loop (.network {})) sending).map
            fun after => (after.client 0).isConnected)) =
      some (.trySend 0, true, [], true, some false) := by
    decide +kernel
  obtain ⟨before, reached, seen⟩ := Option.map_eq_some_iff.mp played
  simp only [Prod.mk.injEq] at seen
  obtain ⟨stage, connected, empty, nothing, moved⟩ := seen
  obtain ⟨after, turns, gone⟩ := Option.map_eq_some_iff.mp moved
  obtain ⟨taken, trace, checked⟩ := Trace.of_playMoves .start reached
  refine ⟨_, after, trace.next turns, ?_, ?_⟩
  · intro transition member
    rcases List.mem_append.mp member with earlier | last
    · exact checked transition earlier
    · obtain rfl := List.mem_singleton.mp last
      exact nothing
  · intro drops
    have last := drops _ (List.mem_append_right _ (List.mem_singleton_self _)) _ 0 rfl stage
      connected gone
    exact last.1 empty

end SendingLoop

end SensorManager
