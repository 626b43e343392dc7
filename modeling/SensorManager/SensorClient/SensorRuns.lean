import SensorManager.SensorClient.SensorProgram

/-!
# Runs of the sensor program

When the server rejects the sensor, `isKilled` ends the network thread and
`sensorThread` within a few steps.  Until then every measurement goes to the output
buffer once, in the order of `getMeasure`, with the time that the server's clock
had when the server accepted the sensor and what has passed since.
-/

namespace SensorManager

/-- How many stages the network thread goes through before it leaves, once the
handler is killed. -/
def SensorStage.toGo : SensorStage → Nat
  | .clearAfterRecv => 3
  | .trySend => 2
  | .clearAfterSend => 1
  | _ => 0

namespace SensorLoop

variable {token : List UInt8} {loop after : SensorLoop} {answer : Answer}

/-- The messages of all connections. -/
def appended (loop : SensorLoop) : List (List UInt8) :=
  loop.connections.flatMap Outgoing.appended

/-- The network thread is in its last iteration, or has left. -/
def Leaving (loop : SensorLoop) : Prop :=
  loop.stage = .clearAfterRecv ∨ loop.stage = .trySend ∨ loop.stage = .clearAfterSend ∨
    loop.stage = .left none

/-- What a stage of `startHandling` does not change. -/
structure Apart (loop after : SensorLoop) : Prop where
  senders : after.senders = loop.senders
  isServer : after.client.isServer = loop.client.isServer
  appended : after.appended = loop.appended

theorem Apart.of_outgoing (senders : after.senders = loop.senders)
    (isServer : after.client.isServer = loop.client.isServer) (past : after.past = loop.past)
    (appended : after.outgoing.appended = loop.outgoing.appended) : Apart loop after := by
  refine ⟨senders, isServer, ?_⟩
  unfold SensorLoop.appended connections
  simp [past, appended]

theorem Apart.clearOut (apart : Apart loop after) (stage : SensorStage) :
    Apart loop (after.clearOut stage) := by
  refine ⟨apart.senders, apart.isServer, ?_⟩
  rw [← apart.appended]
  simp [SensorLoop.appended, SensorLoop.clearOut, connections]

/-- The listener may kill the handler when there is a message for it. -/
theorem heard_eq (loop : SensorLoop) (msg : Option (List UInt8)) (beyond : BytesParser.Memory) :
    ∃ killed, (msg.elim loop fun msg => loop.onGotRequest msg beyond) =
      { loop with killed := killed } := by
  cases msg with
  | none => exact ⟨loop.killed, rfl⟩
  | some msg => exact onGotRequest_eq msg beyond

/-- After `tryRecv` the thread is still in the iteration, unless an exception
has ended it. -/
theorem tryRecv_cases (loop : SensorLoop) (answer : Answer) :
    Apart loop (loop.tryRecv answer) ∧
      ((loop.tryRecv answer).killed = true →
        loop.killed = true ∨ (loop.tryRecv answer).Leaving) := by
  unfold tryRecv
  split
  · obtain ⟨inBuffer, remainingIn, remainingInLen, waitForInitMsg, same⟩ :=
      loop.client.recvData_eq answer.received answer.beyond
    dsimp only
    rw [same]
    split
    · exact ⟨.of_outgoing rfl rfl rfl rfl, .inl⟩
    · next received msg _ =>
        obtain ⟨killed, heard⟩ := heard_eq _ msg answer.beyond
        rw [heard]
        split
        · exact ⟨.of_outgoing rfl rfl rfl rfl, fun _ => .inr (.inl rfl)⟩
        · exact ⟨.of_outgoing rfl rfl rfl rfl, fun _ => .inr (.inr (.inl rfl))⟩
  · exact ⟨.of_outgoing rfl rfl rfl rfl, .inl⟩

theorem trySend_cases (loop : SensorLoop) (answer : Answer) :
    Apart loop (loop.trySend answer) ∧ (loop.trySend answer).killed = loop.killed ∧
      ((loop.trySend answer).stage = .clearAfterSend ∨
        (loop.trySend answer).stage = loop.next) := by
  have isServer : (loop.client.sendData answer.sent).2.isServer = loop.client.isServer := by
    unfold Client.sendData
    split <;> rfl
  unfold trySend
  split
  · dsimp only
    split
    · exact ⟨.of_outgoing rfl isServer rfl rfl, rfl, .inl rfl⟩
    · exact ⟨.of_outgoing rfl isServer rfl rfl, rfl, .inr rfl⟩
  · exact ⟨.of_outgoing rfl rfl rfl rfl, rfl, .inr rfl⟩

theorem insertInit_isServer (client : Client) (initMsg : List UInt8) :
    (client.insertInit initMsg).isServer = client.isServer := by
  unfold Client.insertInit
  split <;> rfl

theorem startHandling_apart (ran : startHandling token answer loop = some after) :
    Apart loop after := by
  unfold startHandling at ran
  split at ran
  · cases ran
    unfold tryConnect
    split <;> exact .of_outgoing rfl rfl rfl rfl
  · cases ran
    have sameSide := insertInit_isServer loop.client (NetworkListener.beforeFirstSend token)
    exact .of_outgoing rfl sameSide rfl rfl
  · cases ran
    exact .of_outgoing rfl rfl rfl rfl
  · cases ran
    unfold trySelect
    split <;> exact .of_outgoing rfl rfl rfl rfl
  · cases ran
    exact (loop.tryRecv_cases answer).1
  · cases ran
    exact Apart.clearOut (.of_outgoing rfl rfl rfl rfl) _
  · cases ran
    exact (loop.trySend_cases answer).1
  · cases ran
    exact Apart.clearOut (.of_outgoing rfl rfl rfl rfl) _
  · cases ran

/-- A killed handler leaves its last iteration. -/
theorem startHandling_leaving (ran : startHandling token answer loop = some after)
    (killed : loop.killed = true) (leaving : loop.Leaving) :
    after.killed = true ∧ after.Leaving ∧ after.stage.toGo < loop.stage.toGo := by
  have next : loop.next = .left none := if_pos killed
  rcases leaving with stage | stage | stage | stage <;>
    simp only [startHandling, stage, Option.some.injEq, reduceCtorEq] at ran <;> subst ran
  · exact ⟨killed, .inr (.inl rfl), by simp [stage, clearOut, SensorStage.toGo]⟩
  · obtain ⟨-, same, clearing | left⟩ := loop.trySend_cases answer
    · refine ⟨same.trans killed, .inr (.inr (.inl clearing)), ?_⟩
      simp [stage, clearing, SensorStage.toGo]
    · rw [next] at left
      refine ⟨same.trans killed, .inr (.inr (.inr left)), ?_⟩
      simp [stage, left, SensorStage.toGo]
  · exact ⟨killed, .inr (.inr (.inr next)), by simp [stage, clearOut, next, SensorStage.toGo]⟩

/-- A handler that is killed in a stage is in its last iteration from there on. -/
theorem startHandling_kills (ran : startHandling token answer loop = some after)
    (alive : loop.killed = false) (killed : after.killed = true) : after.Leaving := by
  have contradiction : after.killed = loop.killed → after.Leaving := by
    intro same
    rw [same, alive] at killed
    cases killed
  unfold startHandling at ran
  split at ran
  · cases ran
    apply contradiction
    unfold tryConnect
    split <;> rfl
  · cases ran
    exact contradiction rfl
  · cases ran
    exact contradiction rfl
  · cases ran
    apply contradiction
    unfold trySelect
    split <;> rfl
  · cases ran
    rcases (loop.tryRecv_cases answer).2 killed with already | leaving
    · rw [alive] at already
      cases already
    · exact leaving
  · cases ran
    exact contradiction rfl
  · cases ran
    exact contradiction (loop.trySend_cases answer).2.1
  · cases ran
    exact contradiction rfl
  · cases ran

theorem startHandling_isSome (stage : ∀ failure, loop.stage ≠ .left failure) :
    (startHandling token answer loop).isSome = true := by
  unfold startHandling
  cases now : loop.stage with
  | left failure => exact absurd now (stage failure)
  | _ => rfl

end SensorLoop

namespace Sender

/-- The message that a thread is about to append. -/
def pending : Sender → List (List UInt8)
  | .appending msg => [msg]
  | _ => []

/-- How many steps a thread has left in `addOutMsg`. -/
def toGo : Sender → Nat
  | .appending _ => 3
  | .checking => 2
  | .sending => 1
  | .idle => 0

variable {client after : Client} {sender next : Sender} {step : SendStep}

/-- A step of a thread that is in `addOutMsg`. -/
theorem step_onward (stepped : sender.step client step = some (after, next))
    (busy : sender ≠ .idle) :
    next.toGo < sender.toGo ∧ after.isServer = client.isServer ∧
      sender.appended step ++ next.pending = sender.pending := by
  cases sender with
  | idle => exact absurd rfl busy
  | appending msg =>
      cases step <;> cases stepped
      exact ⟨by simp [toGo], rfl, rfl⟩
  | checking =>
      cases step <;> cases stepped
      split
      · exact ⟨by simp [toGo], rfl, rfl⟩
      · exact ⟨by simp [toGo], rfl, rfl⟩
  | sending =>
      cases step <;> cases stepped
      refine ⟨by simp [toGo], ?_, rfl⟩
      unfold Client.sendData
      split <;> rfl

/-- There is a step for every thread that is in `addOutMsg`. -/
theorem step_of_busy (client : Client) (busy : sender ≠ .idle) :
    ∃ step, (sender.step client step).isSome = true := by
  cases sender with
  | idle => exact absurd rfl busy
  | appending msg => exact ⟨.append, rfl⟩
  | checking => exact ⟨.check, rfl⟩
  | sending => exact ⟨.sendData 0, rfl⟩

end Sender

/-- The message that a measurement is sent in. -/
def Measure.message (measure : Measure) : List UInt8 :=
  measureMsg measure.timestamp measure.value

namespace SensorProgram

variable {token : List UInt8} {time drift : Int} {longBits : Nat}
  {program after : SensorProgram}

/-- The message that `sensorThread` has measured and not yet appended. -/
def pending (program : SensorProgram) : List (List UInt8) :=
  match program.thread with
  | .sleeping timestamp value => [measureMsg timestamp value]
  | .sending => (program.loop.senders 0).pending
  | _ => []

/-- How many steps `sensorThread` has left once the handler is killed. -/
def threadToGo (program : SensorProgram) : Nat :=
  match program.thread with
  | .measuring => 6
  | .sleeping _ _ => 5
  | .sending => (program.loop.senders 0).toGo + 1
  | .testing => 1
  | .ended => 0

/-- How many steps the program has left once the handler is killed. -/
def toGo (program : SensorProgram) : Nat :=
  program.loop.stage.toGo + program.threadToGo + if program.main = .handling then 1 else 0

theorem toGo_le (program : SensorProgram) : program.toGo ≤ 10 := by
  have stage : program.loop.stage.toGo ≤ 3 := by
    unfold SensorStage.toGo
    split <;> omega
  have sender : (program.loop.senders 0).toGo ≤ 3 := by
    unfold Sender.toGo
    split <;> omega
  have thread : program.threadToGo ≤ 6 := by
    unfold threadToGo
    split <;> omega
  unfold toGo
  split <;> omega

/-- What holds wherever the threads stand. -/
structure Kept (program : SensorProgram) : Prop where
  isServer : program.loop.client.isServer = false
  busy : program.loop.senders 0 ≠ .idle ↔ program.thread = .sending
  inOrder : program.loop.appended ++ program.pending = program.measures.map Measure.message
  blocking : program.main = .blocking → program.loop.killed = false
  leaving : program.loop.killed = true → program.loop.Leaving
  ended : program.thread = .ended → program.loop.killed = true
  joined : program.main = .joined → program.loop.stage = .left none ∧ program.thread = .ended
  terminated : program.main = .terminated → program.loop.killed = false

/-- A step of `send` in terms of the thread. -/
theorem sendStep_cases {step : SendStep} (sent : program.sendStep token step = some after) :
    ∃ outgoing sender,
      program.loop.outgoing.step (program.loop.senders 0) step = some (outgoing, sender) ∧
      after = { program with
        loop := { program.loop with
          outgoing := outgoing
          senders := Function.update program.loop.senders 0 sender }
        thread := if sender = .idle then .testing else .sending } := by
  obtain ⟨loop, turned, rfl⟩ := Option.map_eq_some_iff.mp sent
  obtain ⟨⟨outgoing, sender⟩, stepped, rfl⟩ := Option.map_eq_some_iff.mp turned
  exact ⟨outgoing, sender, stepped, by simp⟩

/-- What the thread does in `send` keeps what holds, where the message that it has
to append is the one of the measure. -/
theorem Kept.sent (kept : program.Kept) {outgoing : Outgoing} {sender : Sender}
    {messages : List (List UInt8)} (thread : program.thread ≠ .ended)
    (isServer : outgoing.client.isServer = program.loop.client.isServer)
    (appended : outgoing.appended = program.loop.outgoing.appended ++ messages)
    (pending : messages ++ sender.pending = program.pending) :
    Kept { program with
      loop := { program.loop with
        outgoing := outgoing
        senders := Function.update program.loop.senders 0 sender }
      thread := if sender = .idle then .testing else .sending } := by
  constructor
  · exact isServer.trans kept.isServer
  · by_cases idle : sender = .idle <;> simp [idle]
  · have waits : SensorProgram.pending { program with
        loop := { program.loop with
          outgoing := outgoing
          senders := Function.update program.loop.senders 0 sender }
        thread := if sender = .idle then .testing else .sending } = sender.pending := by
      by_cases idle : sender = .idle <;> simp [SensorProgram.pending, Sender.pending, idle]
    rw [waits, ← kept.inOrder, ← pending, ← List.append_assoc]
    congr 1
    simp [SensorLoop.appended, SensorLoop.connections, appended]
  · exact kept.blocking
  · exact kept.leaving
  · intro ends
    split at ends <;> cases ends
  · intro joined
    exact absurd (kept.joined joined).2 thread
  · exact kept.terminated

theorem length_measureMsg (timestamp value : Int) : (measureMsg timestamp value).length = 13 := by
  simp [measureMsg, BytesParser.appendBytes, BytesParser.toBytes]

/-- `addOutMsg` does not refuse a measurement. -/
theorem Kept.woken (kept : program.Kept) {timestamp value : Int} {outgoing : Outgoing}
    {sender : Sender} (sleeping : program.thread = .sleeping timestamp value)
    (stepped : program.loop.outgoing.step (program.loop.senders 0)
      (.addOutMsg (measureMsg timestamp value)) = some (outgoing, sender)) :
    outgoing = program.loop.outgoing ∧ sender = .appending (measureMsg timestamp value) := by
  have idle : program.loop.senders 0 = .idle := by
    by_contra busy
    rw [kept.busy.mp busy] at sleeping
    cases sleeping
  have accepts : program.loop.outgoing.client.refuses (measureMsg timestamp value) = false := by
    have isServer : program.loop.outgoing.client.isServer = false := kept.isServer
    simp [Client.refuses, length_measureMsg, isServer]
  rw [idle] at stepped
  simp only [Outgoing.step, Sender.step, accepts] at stepped
  simpa [Sender.taken, Sender.appended, eq_comm] using stepped

theorem hear_eq (program : SensorProgram) (status : Option NetworkListener.Status) :
    ∃ timeOffset delay,
      program.hear status = { program with timeOffset := timeOffset, delay := delay } := by
  unfold hear
  split
  · exact ⟨_, _, rfl⟩
  · exact ⟨program.timeOffset, program.delay, rfl⟩

/-- A stage of the network thread may kill the handler, which is then in its last
iteration. -/
theorem Kept.network (kept : program.Kept) {answer : Answer} {loop : SensorLoop}
    (stepped : SensorLoop.startHandling token answer program.loop = some loop)
    (timeOffset : Int) (delay : Option Int) :
    Kept { program with
      loop := loop, main := loop.stage.main, timeOffset := timeOffset, delay := delay } := by
  have apart := SensorLoop.startHandling_apart stepped
  have leaving : loop.killed = true → loop.Leaving := by
    intro killed
    cases before : program.loop.killed with
    | true => exact (SensorLoop.startHandling_leaving stepped before (kept.leaving before)).2.1
    | false => exact SensorLoop.startHandling_kills stepped before killed
  have notLeft : ∀ failure, loop.killed = true → loop.stage ≠ .left (some failure) := by
    intro failure killed failed
    rcases leaving killed with here | here | here | here <;> rw [failed] at here <;> cases here
  constructor
  · exact apart.isServer.trans kept.isServer
  · rw [apart.senders]
    exact kept.busy
  · rw [← kept.inOrder, ← apart.appended]
    simp only [pending, apart.senders]
  · intro blocking
    dsimp only at blocking
    unfold SensorStage.main at blocking
    split at blocking <;> cases blocking
  · exact leaving
  · intro ended
    have before := kept.ended ended
    exact (SensorLoop.startHandling_leaving stepped before (kept.leaving before)).1
  · intro joined
    dsimp only at joined
    unfold SensorStage.main at joined
    split at joined <;> cases joined
  · intro terminated
    dsimp only at terminated
    unfold SensorStage.main at terminated
    split at terminated
    · next failure failed =>
        by_contra killed
        exact notLeft failure (Bool.not_eq_false _ ▸ killed) failed
    · cases terminated

theorem Moves.kept {label : SensorLabel} (moves : Moves token program label after)
    (kept : program.Kept) : after.Kept := by
  cases moves with
  | tick millis => exact ⟨kept.isServer, kept.busy, kept.inOrder, kept.blocking, kept.leaving,
      kept.ended, kept.joined, kept.terminated⟩
  | blockSendOnInit blocking =>
      refine ⟨kept.isServer, kept.busy, kept.inOrder, ?_, kept.leaving, kept.ended, ?_, ?_⟩
      · exact fun here => nomatch here
      · exact fun here => nomatch here
      · exact fun here => nomatch here
  | @network answer loop handling stepped =>
      obtain ⟨timeOffset, delay, heard⟩ := program.hear_eq (program.loop.heard answer)
      rw [heard]
      exact kept.network stepped timeOffset delay
  | leaves testing killed =>
      refine ⟨kept.isServer, ?_, ?_, kept.blocking, kept.leaving, fun _ => killed, ?_,
        kept.terminated⟩
      · simp [kept.busy, testing]
      · rw [← kept.inOrder]
        simp [pending, testing]
      · exact fun joined => ⟨(kept.joined joined).1, rfl⟩
  | stays testing goesOn =>
      refine ⟨kept.isServer, ?_, ?_, kept.blocking, kept.leaving, ?_, ?_, kept.terminated⟩
      · simp [kept.busy, testing]
      · rw [← kept.inOrder]
        simp [pending, testing]
      · exact fun ended => nomatch ended
      · intro joined
        have ended := (kept.joined joined).2
        rw [testing] at ended
        cases ended
  | measure measuring =>
      refine ⟨kept.isServer, ?_, ?_, kept.blocking, kept.leaving, ?_, ?_, kept.terminated⟩
      · simp [kept.busy, measuring]
      · have nothing : program.pending = [] := by simp [pending, measuring]
        have inOrder := kept.inOrder
        rw [nothing, List.append_nil] at inOrder
        rw [List.map_append, ← inOrder]
        rfl
      · exact fun ended => nomatch ended
      · intro joined
        have ended := (kept.joined joined).2
        rw [measuring] at ended
        cases ended
  | wake sleeping sent =>
      obtain ⟨outgoing, sender, stepped, rfl⟩ := sendStep_cases sent
      obtain ⟨rfl, rfl⟩ := kept.woken sleeping stepped
      apply kept.sent (by simp [sleeping]) rfl (List.append_nil _).symm
      simp [Sender.pending, pending, sleeping]
  | send sending sent =>
      obtain ⟨outgoing, sender, stepped, rfl⟩ := sendStep_cases sent
      obtain ⟨⟨client, next⟩, ran, same⟩ := Option.map_eq_some_iff.mp stepped
      cases same
      obtain ⟨-, isServer, pending⟩ := Sender.step_onward ran (kept.busy.mpr sending)
      apply kept.sent (by simp [sending]) isServer rfl
      rw [pending]
      simp [SensorProgram.pending, sending]
  | sigpipe calls =>
      refine ⟨kept.isServer, kept.busy, kept.inOrder, ?_, kept.leaving, kept.ended, ?_, ?_⟩
      · exact fun here => nomatch here
      · exact fun here => nomatch here
      · exact fun here => nomatch here
  | join handling left ended =>
      refine ⟨kept.isServer, kept.busy, kept.inOrder, ?_, kept.leaving, kept.ended, ?_, ?_⟩
      · exact fun blocking => nomatch blocking
      · exact fun _ => ⟨left, ended⟩
      · exact fun terminated => nomatch terminated

theorem kept_start (time drift : Int) (longBits : Nat) :
    (start time drift longBits).Kept := by
  constructor
  · rfl
  · simp [start, SensorLoop.start]
  · simp [start, SensorLoop.appended, SensorLoop.connections, SensorLoop.start, pending]
  · simp [start, SensorLoop.start]
  · simp [start, SensorLoop.start]
  · simp [start]
  · simp [start]
  · simp [start]

/-- A handler that is killed stays so. -/
theorem Moves.killed {label : SensorLabel} (moves : Moves token program label after)
    (kept : program.Kept) (killed : program.loop.killed = true) : after.loop.killed = true := by
  cases moves with
  | network handling stepped =>
      exact (SensorLoop.startHandling_leaving stepped killed (kept.leaving killed)).1
  | wake sleeping sent | send sending sent =>
      obtain ⟨outgoing, sender, stepped, rfl⟩ := sendStep_cases sent
      exact killed
  | _ => exact killed

end SensorProgram

namespace SensorLabel

/-- The label is a step of one of the threads, whose `::send` returns. -/
def runs : SensorLabel → Bool
  | .tick _ | .sigpipe => false
  | _ => true

/-- The label hands a measurement to `send`. -/
def wakes : SensorLabel → Bool
  | .wake => true
  | _ => false

end SensorLabel

namespace SensorProgram

variable {token : List UInt8} {time drift : Int} {longBits : Nat}
  {program after : SensorProgram}

/-- Each step of a thread brings the program closer to its end. -/
theorem Moves.lowers {label : SensorLabel} (moves : Moves token program label after)
    (kept : program.Kept) (killed : program.loop.killed = true) :
    label.runs.toNat + after.toGo ≤ program.toGo := by
  cases moves with
  | tick millis => exact (Nat.zero_add _).le
  | blockSendOnInit blocking =>
      rw [kept.blocking blocking] at killed
      cases killed
  | @network answer loop handling stepped =>
      obtain ⟨timeOffset, delay, heard⟩ := program.hear_eq (program.loop.heard answer)
      obtain ⟨-, -, lower⟩ :=
        SensorLoop.startHandling_leaving stepped killed (kept.leaving killed)
      have thread : threadToGo { program with
          loop := loop, main := loop.stage.main, timeOffset := timeOffset, delay := delay } =
          program.threadToGo := by
        simp only [threadToGo, (SensorLoop.startHandling_apart stepped).senders]
      rw [heard]
      unfold toGo
      rw [thread, if_pos handling]
      simp only [SensorLabel.runs, Bool.toNat_true]
      split <;> omega
  | leaves testing _ =>
      simp only [toGo, threadToGo, testing, SensorLabel.runs, Bool.toNat_true]
      omega
  | stays testing goesOn =>
      rw [goesOn] at killed
      cases killed
  | measure measuring =>
      simp only [toGo, threadToGo, measuring, SensorLabel.runs, Bool.toNat_true]
      omega
  | wake sleeping sent =>
      obtain ⟨outgoing, sender, stepped, rfl⟩ := sendStep_cases sent
      obtain ⟨rfl, rfl⟩ := kept.woken sleeping stepped
      simp [toGo, threadToGo, sleeping, Sender.toGo, SensorLabel.runs]
      omega
  | send sending sent =>
      obtain ⟨outgoing, sender, stepped, rfl⟩ := sendStep_cases sent
      obtain ⟨⟨client, next⟩, ran, same⟩ := Option.map_eq_some_iff.mp stepped
      cases same
      have lower := (Sender.step_onward ran (kept.busy.mpr sending)).1
      by_cases idle : next = .idle
      · simp [toGo, threadToGo, sending, idle, SensorLabel.runs]
        omega
      · simp [toGo, threadToGo, sending, idle, SensorLabel.runs]
        omega
  | sigpipe calls =>
      simp only [toGo, threadToGo, SensorLabel.runs, Bool.toNat_false, reduceCtorEq, if_false]
      omega
  | join handling left ended =>
      simp [toGo, handling, SensorLabel.runs, threadToGo, ended]
      omega

/-- `sensorThread` has at most one measurement to send. -/
def toWake (program : SensorProgram) : Nat :=
  match program.thread with
  | .measuring | .sleeping _ _ => 1
  | _ => 0

theorem Moves.wakesOnce {label : SensorLabel} (moves : Moves token program label after)
    (kept : program.Kept) (killed : program.loop.killed = true) :
    label.wakes.toNat + after.toWake ≤ program.toWake := by
  cases moves with
  | network handling stepped =>
      obtain ⟨timeOffset, delay, heard⟩ := program.hear_eq (program.loop.heard _)
      rw [heard]
      exact (Nat.zero_add _).le
  | stays testing goesOn =>
      rw [goesOn] at killed
      cases killed
  | leaves testing _ => simp [toWake, SensorLabel.wakes]
  | measure measuring => simp [toWake, SensorLabel.wakes, measuring]
  | wake sleeping sent =>
      obtain ⟨outgoing, sender, stepped, rfl⟩ := sendStep_cases sent
      obtain ⟨rfl, rfl⟩ := kept.woken sleeping stepped
      simp [toWake, SensorLabel.wakes, sleeping]
  | send sending sent =>
      obtain ⟨outgoing, sender, stepped, rfl⟩ := sendStep_cases sent
      by_cases idle : sender = .idle <;> simp [toWake, SensorLabel.wakes, sending, idle]
  | _ => exact (Nat.zero_add _).le

/-- Until the program has ended there is a step for one of its threads. -/
theorem Kept.runs_on (kept : program.Kept) (killed : program.loop.killed = true)
    (running : program.main ≠ .joined) (unsignalled : program.main ≠ .signalled) :
    ∃ label next, label.runs = true ∧ Steps token program label next := by
  have stepped : ∀ label, label.runs = true → (step token label program).isSome = true →
      ∃ label next, label.runs = true ∧ Steps token program label next := by
    intro label runs goes
    obtain ⟨next, reached⟩ := Option.isSome_iff_exists.mp goes
    exact ⟨label, next, runs, reached⟩
  have handling : program.main = .handling := by
    cases main : program.main with
    | handling => rfl
    | joined => exact absurd main running
    | signalled => exact absurd main unsignalled
    | blocking => exact absurd killed (by simp [kept.blocking main])
    | terminated => exact absurd killed (by simp [kept.terminated main])
  by_cases left : program.loop.stage = .left none
  · cases thread : program.thread with
    | testing => exact stepped .test rfl (by simp [step, handling, test, thread])
    | measuring => exact stepped (.measure 0) rfl (by simp [step, handling, measure, thread])
    | sleeping timestamp value =>
        apply stepped .wake rfl
        have idle : program.loop.senders 0 = .idle := by
          by_contra busy
          rw [kept.busy.mp busy] at thread
          cases thread
        simp [step, handling, wake, thread, sendStep, SensorLoop.turn, Outgoing.step, idle,
          Sender.step]
    | sending =>
        obtain ⟨sendStep, goes⟩ :=
          Sender.step_of_busy program.loop.outgoing.client (kept.busy.mpr thread)
        apply stepped (.send sendStep) rfl
        simpa [step, handling, send, thread, SensorProgram.sendStep, SensorLoop.turn,
          Outgoing.step] using goes
    | ended => exact stepped .join rfl (by simp [step, handling, join, thread, left])
  · apply stepped (.network {}) rfl
    have goesOn : ∀ failure, program.loop.stage ≠ .left failure := by
      intro failure here
      rcases kept.leaving killed with now | now | now | now <;> rw [now] at here <;> cases here
      exact left now
    simpa [step, handling, SensorProgram.network] using SensorLoop.startHandling_isSome goesOn

/-- When the server has rejected the sensor, the threads take at most ten more steps
in any order, at most one measurement is still sent, no connection is made any
more, and unless a `::send` to the connection that the server has closed ends the
program by the signal, it can always go on until `main` has joined the thread. -/
theorem rejected_ends {seen taken : List (Transition SensorProgram SensorLabel)}
    (trace : Trace (Steps token) (start time drift longBits) seen program)
    (killed : program.loop.killed = true) (more : Trace (Steps token) program taken after) :
    (taken.countP fun transition => transition.label.runs) ≤ 10 ∧
      (taken.countP fun transition => transition.label.wakes) ≤ 1 ∧
      (∀ transition ∈ taken, transition.before.loop.stage ≠ .tryConnect) ∧
      after.main ≠ .terminated ∧
      ((∀ label next, Steps token after label next → label.runs = false) →
        after.main = .joined ∨ after.main = .signalled) := by
  have kept := (trace.keeps (kept_start time drift longBits)
    fun _ _ _ stepped kept => stepped.moves.kept kept).1
  have both : program.Kept ∧ program.loop.killed = true := ⟨kept, killed⟩
  have preserved : ∀ before label after, Steps token before label after →
      before.Kept ∧ before.loop.killed = true → after.Kept ∧ after.loop.killed = true :=
    fun _ _ _ stepped now =>
      ⟨stepped.moves.kept now.1, stepped.moves.killed now.1 now.2⟩
  obtain ⟨still, always⟩ := more.keeps both preserved
  refine ⟨?_, ?_, ?_, ?_, ?_⟩
  · have steps := more.countP_le_rank SensorLabel.runs toGo both preserved
      fun _ _ _ stepped now => stepped.moves.lowers now.1 now.2
    have bound := program.toGo_le
    omega
  · have messages := more.countP_le_rank SensorLabel.wakes toWake both preserved
      fun _ _ _ stepped now => stepped.moves.wakesOnce now.1 now.2
    have bound : program.toWake ≤ 1 := by
      unfold toWake
      split <;> omega
    omega
  · intro transition member connecting
    obtain ⟨kept, killed⟩ := always transition member
    rcases kept.leaving killed with now | now | now | now <;> rw [now] at connecting <;>
      cases connecting
  · intro terminated
    have alive := still.1.terminated terminated
    rw [still.2] at alive
    cases alive
  · intro stuck
    by_contra running
    obtain ⟨joined, signalled⟩ := not_or.mp running
    obtain ⟨label, next, runs, stepped⟩ := still.1.runs_on still.2 joined signalled
    rw [stuck label next stepped] at runs
    cases runs

/-- The sensor connects, measures, and hears that it has been revoked. -/
def revoked : List SensorLabel :=
  [.blockSendOnInit, .network { socket := 3 }, .network {}, .test, .measure 7, .network {},
    .network { selected := 1, activeIn := fun _ => true },
    .network { received := .bytes [5, 0, 0, 0] }, .network {}, .network {}, .network {},
    .network { selected := 1, activeIn := fun _ => true },
    .network { received := .bytes [114, 1, 0, 0, 0] }]

/-- The measurement still goes out. -/
theorem rejected_ends_revoked : ∃ seen taken program after,
    Trace (Steps [116]) (start 0 5) seen program ∧ Trace (Steps [116]) program taken after ∧
      after.main = .joined ∧ (taken.countP fun transition => transition.label.runs) ≤ 10 := by
  have reached : (playMoves (step [116]) (fun _ _ => true) revoked (start 0 5)).map
      (fun program => program.loop.killed) = some true := by
    decide +kernel
  obtain ⟨program, played, killed⟩ := Option.map_eq_some_iff.mp reached
  obtain ⟨seen, trace, -⟩ := Trace.of_playMoves .start played
  have ended : ((playMoves (step [116]) (fun _ _ => true) revoked (start 0 5)).bind
      (playMoves (step [116]) (fun _ _ => true) [.wake, .network {}, .send .append, .send .check,
        .tick 8, .send (.sendData 17), .test, .join])).map (fun program => program.main) =
      some .joined := by
    decide +kernel
  rw [played] at ended
  obtain ⟨after, goesOn, joined⟩ := Option.map_eq_some_iff.mp ended
  obtain ⟨taken, more, -⟩ := Trace.of_playMoves .start goesOn
  exact ⟨seen, taken, program, after, trace, more, joined,
    (rejected_ends trace killed more).1⟩

/-- Every measurement is appended once, for the connection of that moment, in the order
of `getMeasure`; only the last one may still be on its way to the output buffer. -/
theorem measures_in_order {taken : List (Transition SensorProgram SensorLabel)}
    (trace : Trace (Steps token) (start time drift longBits) taken program) :
    program.loop.appended ++ program.pending = program.measures.map Measure.message ∧
      program.pending.length ≤ 1 := by
  have kept := (trace.keeps (kept_start time drift longBits)
    fun _ _ _ stepped kept => stepped.moves.kept kept).1
  refine ⟨kept.inOrder, ?_⟩
  unfold pending
  cases program.thread with
  | sleeping timestamp value => exact le_rfl
  | sending =>
      dsimp only
      cases program.loop.senders 0 with
      | appending msg => exact le_rfl
      | _ => exact Nat.zero_le 1
  | _ => exact Nat.zero_le 1

/-- The connection breaks between two measurements. -/
theorem measures_in_order_reconnected : ∃ taken program,
    Trace (Steps [116]) (start 0 5) taken program ∧
      program.loop.connections.map (·.appended) = [[measureMsg 5 7], [measureMsg 5 8], []] ∧
      program.loop.appended ++ program.pending = program.measures.map Measure.message := by
  have reached : (playMoves (step [116]) (fun _ _ => true)
      [.blockSendOnInit, .network { socket := 3 }, .network {}, .test, .measure 7, .wake,
        .send .append, .network {}, .send .check, .send (.sendData 9),
        .network { selected := 1, activeIn := fun _ => true }, .network {}, .network {}, .test,
        .measure 8, .wake, .send .append, .network {}, .network { socket := 3 }, .network {},
        .send .check, .network {}, .network { selected := 1, activeIn := fun _ => true },
        .network {}, .network {}, .send (.sendData 0), .test, .measure 9]
      (start 0 5)).map (fun program => program.loop.connections.map (·.appended)) =
      some [[measureMsg 5 7], [measureMsg 5 8], []] := by
    decide +kernel
  obtain ⟨program, played, appended⟩ := Option.map_eq_some_iff.mp reached
  obtain ⟨taken, trace, -⟩ := Trace.of_playMoves .start played
  exact ⟨taken, program, trace, appended, (measures_in_order trace).1⟩

/-- Each connection has a run of successive measurements for its messages. -/
theorem Kept.segment (kept : program.Kept) {connection : Outgoing}
    (member : connection ∈ program.loop.connections) :
    ∃ segment, segment <:+: program.measures ∧
      connection.appended = segment.map Measure.message := by
  obtain ⟨front, back, split⟩ := List.append_of_mem member
  have inOrder := kept.inOrder
  unfold SensorLoop.appended at inOrder
  rw [split] at inOrder
  simp only [List.flatMap_append, List.flatMap_cons, List.append_assoc] at inOrder
  obtain ⟨before, rest, measures, -, inRest⟩ := List.map_eq_append_iff.mp inOrder.symm
  obtain ⟨segment, later, rfl, appended, -⟩ := List.map_eq_append_iff.mp inRest
  exact ⟨segment, ⟨before, later, by simp [measures]⟩, appended.symm⟩

/-- The thread sends no bytes to a socket that is not open, and none between the
assignment of the socket and the insertion of the init frame. -/
def silent : SensorLabel → SensorProgram → Bool
  | .send step, program =>
      SensorLoop.closedTakesNothing (.sender 0 step) program.loop &&
        SensorLoop.silentBeforeInit (.sender 0 step) program.loop
  | _, _ => true

theorem Moves.initFirst {label : SensorLabel} (moves : Moves token program label after)
    (quiet : silent label program = true) (first : SensorLoop.InitFirst token program.loop) :
    SensorLoop.InitFirst token after.loop := by
  cases moves with
  | blockSendOnInit blocking =>
      have turns : SensorLoop.Turns token program.loop .blockSendOnInit
          { program.loop with blockingSendOnInit := true } := rfl
      exact turns.initFirst rfl rfl first
  | network handling stepped => exact first.startHandling stepped
  | @wake timestamp value _ sleeping sent =>
      obtain ⟨loop, turned, rfl⟩ := Option.map_eq_some_iff.mp sent
      exact SensorLoop.Turns.initFirst turned rfl rfl first
  | @send step _ sending sent =>
      obtain ⟨loop, turned, rfl⟩ := Option.map_eq_some_iff.mp sent
      obtain ⟨closed, beforeInit⟩ := Bool.and_eq_true_iff.mp quiet
      exact SensorLoop.Turns.initFirst turned closed beforeInit first
  | _ => exact first

/-- The bytes of a connection are the beginning of the frames of the token and of
successive measurements. -/
theorem connection_frames {taken : List (Transition SensorProgram SensorLabel)}
    (trace : Trace (Steps token) (start time drift longBits) taken program)
    (quiet : ∀ transition ∈ taken, silent transition.label transition.before = true)
    {connection : Outgoing} (member : connection ∈ program.loop.connections) :
    ∃ segment, segment <:+: program.measures ∧ connection.taken <+:
      wire.encode (NetworkListener.beforeFirstSend token :: segment.map Measure.message) := by
  have kept := (trace.keeps (kept_start time drift longBits)
    fun _ _ _ stepped kept => stepped.moves.kept kept).1
  have first : SensorLoop.InitFirst token program.loop := (trace.keeps_of_meets
    (fun transition => silent transition.label transition.before = true)
    (SensorLoop.initFirst_start token) quiet
    fun _ _ _ stepped quiet first => stepped.moves.initFirst quiet first).1
  have tokenFirst : SensorLoop.TokenFirst token connection := by
    rcases List.mem_append.mp member with earlier | last
    · exact first.past connection earlier
    · obtain rfl := List.mem_singleton.mp last
      exact first.begun.tokenFirst
  obtain ⟨segment, successive, appended⟩ := kept.segment member
  refine ⟨segment, successive, ?_⟩
  rw [Framing.Format.encode_cons, ← appended]
  exact tokenFirst

/-- The clock that the sensor stamps with against the clock of the server: its own
clock, until the server has accepted it. -/
def lag (drift : Int) (delay : Option Int) : Int :=
  delay.elim drift Neg.neg

/-- The offset fits into a `long`: 24 days on Windows, and any time elsewhere. -/
def FitsLong (longBits : Nat) (drift late : Int) : Prop :=
  -2 ^ longBits ≤ -(drift + late) * 2 ∧ -drift * 2 < 2 ^ longBits

instance (longBits : Nat) (drift late : Int) : Decidable (FitsLong longBits drift late) :=
  inferInstanceAs (Decidable (_ ∧ _))

/-- Every message that has set the offset had been on its way for at most `late`. -/
structure Stamped (longBits : Nat) (drift late : Int) (program : SensorProgram) : Prop where
  width : program.longBits = longBits
  ahead : program.drift = drift
  offset : drift + program.timeOffset = lag drift program.delay
  delay : ∀ delay ∈ program.delay, 0 ≤ delay ∧ delay ≤ late
  measures : ∀ measure ∈ program.measures,
    measure.timestamp = measure.time + lag drift measure.delay ∧
      ∀ delay ∈ measure.delay, 0 ≤ delay ∧ delay ≤ late

/-- The server's time in a message is not ahead of its clock, and at most `late`
behind it when the sensor hears it. -/
def punctual (late : Int) : SensorLabel → SensorProgram → Bool
  | .network answer, program =>
      match program.loop.heard answer with
      | some (.accepted serverTime) =>
          serverTime ≤ program.time && program.time ≤ serverTime + late
      | _ => true
  | _, _ => true

/-- The two conversions of `setCurTime` leave an offset that fits. -/
theorem toLong_offset {late delay : Int} (fits : FitsLong program.longBits program.drift late)
    (lower : 0 ≤ delay) (upper : delay ≤ late) :
    program.toLong (program.toLong (program.time - delay) - program.posixTime) =
      -(program.drift + delay) := by
  obtain ⟨least, most⟩ := fits
  have same : program.time - delay - (program.time + program.drift) =
      -(program.drift + delay) := by omega
  unfold toLong posixTime
  rw [Int.bmod_sub_bmod, same]
  apply Int.bmod_eq_of_le_mul_two <;> push_cast <;> omega

theorem Moves.stamped {label : SensorLabel} {late : Int} (moves : Moves token program label after)
    (fits : FitsLong longBits drift late) (told : punctual late label program = true)
    (stamped : program.Stamped longBits drift late) : after.Stamped longBits drift late := by
  cases moves with
  | @network answer loop handling stepped =>
      unfold hear
      split
      · next serverTime heard =>
          simp only [punctual, heard, Bool.and_eq_true, decide_eq_true_eq] at told
          have offset := @toLong_offset program late (program.time - serverTime)
            (by rwa [stamped.width, stamped.ahead]) (by omega) (by omega)
          rw [sub_sub_cancel] at offset
          refine ⟨stamped.width, stamped.ahead, ?_, ?_, stamped.measures⟩
          · simp only [offset, lag, Option.elim_some, stamped.ahead]
            omega
          · rintro delay ⟨⟩
            omega
      · exact ⟨stamped.width, stamped.ahead, stamped.offset, stamped.delay, stamped.measures⟩
  | measure measuring =>
      refine ⟨stamped.width, stamped.ahead, stamped.offset, stamped.delay, ?_⟩
      intro measure member
      rcases List.mem_append.mp member with earlier | last
      · exact stamped.measures measure earlier
      · obtain rfl := List.mem_singleton.mp last
        refine ⟨?_, stamped.delay⟩
        have offset := stamped.offset
        simp only [posixTime, stamped.ahead]
        omega
  | wake sleeping sent | send sending sent =>
      obtain ⟨outgoing, sender, stepped, rfl⟩ := sendStep_cases sent
      exact ⟨stamped.width, stamped.ahead, stamped.offset, stamped.delay, stamped.measures⟩
  | _ => exact ⟨stamped.width, stamped.ahead, stamped.offset, stamped.delay, stamped.measures⟩

/-- Whatever the sensor's own clock says, as long as the offset fits into a `long`, a
measurement behind an acceptance is stamped with the server's clock, less what a
message may be on its way. -/
theorem measures_stamped {late : Int} {taken : List (Transition SensorProgram SensorLabel)}
    (trace : Trace (Steps token) (start time drift longBits) taken program)
    (fits : FitsLong longBits drift late)
    (told : ∀ transition ∈ taken, punctual late transition.label transition.before = true) :
    ∀ measure ∈ program.measures,
      (measure.delay = none → measure.timestamp = measure.time + drift) ∧
      (measure.delay ≠ none →
        measure.time - late ≤ measure.timestamp ∧ measure.timestamp ≤ measure.time) := by
  have begun : Stamped longBits drift late (start time drift longBits) := by
    constructor
    · rfl
    · rfl
    · simp [start, lag]
    · simp [start]
    · simp [start]
  have stamped := (trace.keeps_of_meets
    (fun transition => punctual late transition.label transition.before = true) begun told
    fun _ _ _ stepped told stamped => stepped.moves.stamped fits told stamped).1
  intro measure member
  obtain ⟨timestamp, delayed⟩ := stamped.measures measure member
  cases heard : measure.delay with
  | none =>
      rw [heard] at timestamp
      exact ⟨fun _ => timestamp, fun synced => absurd rfl synced⟩
  | some delay =>
      rw [heard] at timestamp
      obtain ⟨lower, upper⟩ := delayed delay heard
      refine ⟨fun unsynced => (nomatch unsynced), fun _ => ?_⟩
      simp only [lag, Option.elim_some] at timestamp
      omega

/-- The sensor's clock is an hour ahead, and the server's message takes three
milliseconds; a `long` has 32 bits. -/
theorem measures_stamped_ahead : ∃ taken program,
    Trace (Steps [116]) (start 1000 3600000 32) taken program ∧
      program.measures.map (fun measure => (measure.time, measure.timestamp)) =
        [(1000, 3601000), (1010, 1007)] ∧
      ∀ measure ∈ program.measures, measure.delay ≠ none →
        measure.time - 5 ≤ measure.timestamp ∧ measure.timestamp ≤ measure.time := by
  have reached : (playMoves (step [116]) (punctual 5)
      [.test, .measure 1, .blockSendOnInit, .network { socket := 3 }, .network {}, .network {},
        .network { selected := 1, activeIn := fun _ => true },
        .network { received := .bytes [9, 0, 0, 0] }, .network {}, .network {}, .network {},
        .network { selected := 1, activeIn := fun _ => true }, .tick 3,
        .network { received := .bytes [97, 232, 3, 0, 0, 0, 0, 0, 0] }, .wake, .send .append,
        .send .check, .send (.sendData 0), .tick 7, .test, .measure 2]
      (start 1000 3600000 32)).map (fun program =>
        program.measures.map fun measure => (measure.time, measure.timestamp)) =
      some [(1000, 3601000), (1010, 1007)] := by
    decide +kernel
  obtain ⟨program, played, measured⟩ := Option.map_eq_some_iff.mp reached
  obtain ⟨taken, trace, told⟩ := Trace.of_playMoves .start played
  refine ⟨taken, program, trace, measured, ?_⟩
  intro measure member
  exact (measures_stamped trace (by decide) told measure member).2

end SensorProgram

end SensorManager
