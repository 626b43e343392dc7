import SensorManager.Lib.Trace
import SensorManager.Common.ServingLoop

/-!
# What the bytes of one client can do to the select loop

A turn of `tryRecv` touches the client it is for and no other.  A length field
that is not allowed, however, leaves the whole loop by an exception, and the
signal of a `::send` to a client that is gone ends the whole program.
-/

namespace SensorManager.SelectLoop

open Exec

variable {listener : IRequestListener} {loop after : SelectLoop} {answer : Answer}

/-- The clients of all other slots are as they were. -/
def Touches (slot : Int) (loop after : SelectLoop) : Prop :=
  ∀ other, other ≠ slot →
    after.handler.clientHandlers other = loop.handler.clientHandlers other

section Touches

variable {slot : Int}

theorem Touches.trans {middle : SelectLoop} (first : Touches slot loop middle)
    (second : Touches slot middle after) : Touches slot loop after := by
  intro other different
  rw [second other different, first other different]

end Touches

section Signal

/-- The listener comes to a `::send` that raises the signal. -/
def signals (clientId : Int) (answer : Answer) : List Reaction → SelectLoop → Bool
  | [], _ => false
  | reaction :: later, loop =>
      (answer.sigpipe && loop.callsSend clientId reaction) ||
        signals clientId answer later (loop.react clientId answer.sent reaction)

/-- The listener does all that it wants to, or the signal stops it. -/
theorem runOn_reactAll (clientId : Int) (answer : Answer) (reactions : List Reaction)
    (loop : SelectLoop) :
    ∃ done, (reactAll clientId answer reactions).runOn loop =
      some (if signals clientId answer reactions loop then .error .signalled else .ok (),
        done.foldl (react clientId answer.sent) loop) ∧
      (signals clientId answer reactions loop = false → done = reactions) := by
  induction reactions generalizing loop with
  | nil => exact ⟨[], rfl, fun _ => rfl⟩
  | cons reaction reactions ih =>
      unfold reactAll signals
      rw [runOn_get_bind, runOn_ite]
      cases raised : answer.sigpipe && loop.callsSend clientId reaction with
      | true => exact ⟨[], by simp, by simp⟩
      | false =>
          obtain ⟨done, ran, all⟩ := ih (loop.react clientId answer.sent reaction)
          refine ⟨reaction :: done, ?_, fun survives => by rw [all (by simpa using survives)]⟩
          simpa using ran

end Signal

/-- The client is disconnected when nothing was received. -/
def closeUnless (loop : SelectLoop) (slot received : Int) : SelectLoop :=
  if received ≤ 0 then loop.disconnectHandler slot else loop

/-- What `tryRecv` does for a client. -/
inductive TryRecv (listener : IRequestListener) (loop : SelectLoop) (slot : Int)
    (answer : Answer) : Except Failure Unit → SelectLoop → Prop
  | skipped (nothing : ¬ loop.receives slot = true) : TryRecv listener loop slot answer (.ok ()) loop
  | threw {exception : ConnectionException} {client : Client} (receives : loop.receives slot = true)
      (called : (loop.handler.clientHandlers slot).recvData answer.received answer.beyond =
        (.error exception, client)) :
      TryRecv listener loop slot answer (.error (.thrown exception)) (loop.setClient slot client)
  | received {count : Int} {client : Client} (receives : loop.receives slot = true)
      (called : (loop.handler.clientHandlers slot).recvData answer.received answer.beyond =
        (.ok (count, none), client)) :
      TryRecv listener loop slot answer (.ok ())
        ((loop.setClient slot client).closeUnless slot count)
  | crashed {count : Int} {client : Client} {msg : List UInt8} (receives : loop.receives slot = true)
      (called : (loop.handler.clientHandlers slot).recvData answer.received answer.beyond =
        (.ok (count, some msg), client))
      (undefined : listener.onGotRequest msg answer.beyond = none) :
      TryRecv listener loop slot answer (.error .crashed) (loop.setClient slot client)
  | signalled {count : Int} {client : Client} {msg : List UInt8} {reactions done : List Reaction}
      (receives : loop.receives slot = true)
      (called : (loop.handler.clientHandlers slot).recvData answer.received answer.beyond =
        (.ok (count, some msg), client))
      (reacts : listener.onGotRequest msg answer.beyond = some reactions)
      (raised : signals client.clientId answer reactions
        ((loop.setClient slot client).gotRequest client.clientId msg) = true) :
      TryRecv listener loop slot answer (.error .signalled)
        ((loop.setClient slot client).onGotRequest client.clientId msg done answer.sent)
  | delivered {count : Int} {client : Client} {msg : List UInt8} {reactions : List Reaction}
      (receives : loop.receives slot = true)
      (called : (loop.handler.clientHandlers slot).recvData answer.received answer.beyond =
        (.ok (count, some msg), client))
      (reacts : listener.onGotRequest msg answer.beyond = some reactions)
      (survives : signals client.clientId answer reactions
        ((loop.setClient slot client).gotRequest client.clientId msg) = false) :
      TryRecv listener loop slot answer (.ok ())
        (((loop.setClient slot client).onGotRequest client.clientId msg reactions
          answer.sent).closeUnless slot count)

theorem runOn_tryRecv_cases {slot : Int} {result : Except Failure Unit}
    (ran : (tryRecv listener slot answer).runOn loop = some (result, after)) :
    TryRecv listener loop slot answer result after := by
  unfold tryRecv at ran
  rw [runOn_get_bind, runOn_ite] at ran
  by_cases receives : loop.receives slot = true
  · rw [if_pos receives, runOn_set_bind] at ran
    rcases called : (loop.handler.clientHandlers slot).recvData answer.received answer.beyond
      with ⟨_ | ⟨count, _ | msg⟩, client⟩
    · simp only [called, runOn_throw, Option.some.injEq, Prod.mk.injEq] at ran
      obtain ⟨rfl, rfl⟩ := ran
      exact .threw receives called
    · simp only [called, runOn_ite, runOn_modify, runOn_pure] at ran
      have handled : TryRecv listener loop slot answer (.ok ())
          ((loop.setClient slot client).closeUnless slot count) :=
        .received receives called
      unfold closeUnless at handled
      split at ran
      · next nothing =>
          cases ran
          simpa only [if_pos nothing] using handled
      · next some =>
          cases ran
          simpa only [if_neg some] using handled
    · simp only [called] at ran
      cases reacts : listener.onGotRequest msg answer.beyond with
      | none =>
          simp only [reacts, runOn_throw, Option.some.injEq, Prod.mk.injEq] at ran
          obtain ⟨rfl, rfl⟩ := ran
          exact .crashed receives called reacts
      | some reactions =>
          obtain ⟨done, reacted, all⟩ := runOn_reactAll client.clientId answer reactions
            ((loop.setClient slot client).gotRequest client.clientId msg)
          simp only [reacts] at ran
          rw [runOn_modify_bind, runOn_bind, reacted, Option.bind_some] at ran
          cases raised : signals client.clientId answer reactions
              ((loop.setClient slot client).gotRequest client.clientId msg) with
          | true =>
              simp only [raised, if_true] at ran
              cases ran
              exact .signalled receives called reacts raised
          | false =>
              have handled := TryRecv.delivered receives called reacts raised
              obtain rfl := all raised
              unfold closeUnless onGotRequest at handled
              simp only [raised, Bool.false_eq_true, if_false, runOn_ite, runOn_modify,
                runOn_pure] at ran
              split at ran
              · next nothing =>
                  cases ran
                  simpa only [if_pos nothing] using handled
              · next some =>
                  cases ran
                  simpa only [if_neg some] using handled
  · rw [if_neg receives, runOn_pure] at ran
    cases ran
    exact .skipped receives

/-- A turn of the network thread at a stage that does `code` and goes on. -/
theorem Turns.of_stage {code : Network Unit} {next : Stage}
    (turns : Turns listener loop (.network answer) after)
    (staged : (startHandling listener answer).runOn loop =
      (code >>= fun _ => goto next).runOn loop) :
    ∃ result reached, code.runOn loop = some (result, reached) ∧
      after =
        { reached with
          stage :=
            match result with
            | .ok () => next
            | .error failure => .left (some failure) } := by
  replace turns := turns.acts
  unfold act at turns
  simp only [staged, runOn_bind, goto, runOn_modify] at turns
  cases ran : code.runOn loop with
  | none => simp [ran] at turns
  | some outcome =>
      obtain ⟨result, reached⟩ := outcome
      refine ⟨result, reached, rfl, ?_⟩
      cases result <;> simp_all

/-- A turn of the network thread at `tryRecv`. -/
theorem Turns.recv {slot : Nat}
    (turns : Turns listener loop (.network answer) after) (stage : loop.stage = .tryRecv slot) :
    ∃ result reached, TryRecv listener loop slot answer result reached ∧
      after =
        { reached with
          stage :=
            match result with
            | .ok () => loop.nextRecv slot
            | .error failure => .left (some failure) } := by
  have staged : (startHandling listener answer).runOn loop =
      (tryRecv listener slot answer >>= fun _ => goto (loop.nextRecv slot)).runOn loop := by
    unfold startHandling
    rw [runOn_get_bind, stage]
  obtain ⟨result, reached, ran, same⟩ := turns.of_stage staged
  exact ⟨result, reached, runOn_tryRecv_cases ran, same⟩

/-- What the bytes of one client do stays with this client: the clients of all
other slots are as they were, the loop goes on with the next client, and a bad
length field has the client disconnected. -/
structure Contained (loop : SelectLoop) (slot : Nat) (answer : Answer) (after : SelectLoop) :
    Prop where
  others : Touches slot loop after
  goesOn : after.stage = loop.nextRecv slot
  dropped : loop.receives slot = true →
    (loop.handler.clientHandlers slot).CompletesBadHeader answer.received answer.beyond →
    (after.handler.clientHandlers slot).isConnected = false ∧
      after.calls = loop.calls ++ [.onClientDisconnected slot]

/-- A client that something was received for is still connected, and knows its
index. -/
theorem Serves.recvData {slot : Int} {client : Client}
    {result : Except ConnectionException (Int × Option (List UInt8))}
    (serving : loop.Serves) (receives : loop.receives slot = true)
    (called : (loop.handler.clientHandlers slot).recvData answer.received answer.beyond =
      (result, client)) : client.clientId = slot ∧ client.isConnected = true := by
  obtain ⟨inBuffer, remainingIn, remainingInLen, waitForInitMsg, same⟩ :=
    (loop.handler.clientHandlers slot).recvData_eq answer.received answer.beyond
  rw [called] at same
  unfold SelectLoop.receives at receives
  simp only [Bool.and_eq_true] at receives
  subst same
  exact ⟨serving.clientId slot receives.1, receives.1⟩

/-- A listener that does nothing with a message. -/
def quiet : IRequestListener :=
  { onGotRequest := fun _ _ => some [] }

/-- An iteration in which nothing but the given socket is ready, up to the
first client. -/
def selecting (socket : Int) (accepted : Int := -1) : List Turn :=
  [.network {}, .network {}, .network { selected := 1, activeIn := fun other => other = socket },
    .network { socket := accepted }]

/-- A client connects on socket 4, and the socket is ready for `recv`. -/
def connecting : List Turn :=
  selecting 3 4 ++ List.replicate 200 (.network {}) ++ selecting 4

end SensorManager.SelectLoop
