import SensorManager.Server.Workers

/-!
# The connections of the executors

An executor replaces its connection when the database has lost it, and deletes
it behind its loop.  In between every call goes over a connection that it has
opened itself and not deleted yet, and no connection is left open.
-/

namespace SensorManager

variable {δ : Type}

/-- From `getNewConnection` to `delete connection`. -/
def WorkerStage.connected : WorkerStage → Bool
  | .connecting | .ended => false
  | .testing | .popping | .passing | .reconnecting | .leaving => true

/-- The stages of a sender, which has no connection to open or to delete. -/
def WorkerStage.forSender : WorkerStage → Bool
  | .testing | .popping | .passing | .ended => true
  | .connecting | .reconnecting | .leaving => false

namespace Program

open HandleEvent

variable {database : IDatabaseConnection δ} {program after : Program δ} {worker : Worker}

/-- The connections of the executors that have one. -/
def held (program : Program δ) (worker : Worker) : Option Nat :=
  if worker.connects && (program.stage worker).connected then program.connection worker else none

/-- The open connections are those of the variables. -/
structure Connected (program : Program δ) : Prop where
  fresh : ∀ event ∈ program.events, event.handle < program.created
  senders : ∀ worker, worker.connects = false →
    (program.stage worker).forSender = true ∧ program.connection worker = none
  known : ∀ worker, worker.connects = true → (program.stage worker).connected = true →
    (program.connection worker).isSome = true
  lawful : Lawful program.events program.held

/-- The open connections are those of the variables, until somebody calls
`std::terminate`.  What has been done with connections stays lawful. -/
structure Disposes (program : Program δ) : Prop where
  connected : program.terminated = false → program.Connected
  disciplined : Disciplined program.events

theorem connected_start (content : δ) : Connected (Program.start content) := by
  have none_held : (Program.start content).held = fun _ => none := by
    funext worker
    cases worker <;> rfl
  refine ⟨by simp [Program.start], ?_, ?_, ?_⟩
  · intro worker sender
    simp [Program.start, sender, WorkerStage.forSender]
  · intro worker connects connected
    simp [Program.start, connects, WorkerStage.connected] at connected
  · rw [none_held]
    exact .start

theorem held_of_connects (connects : worker.connects = true)
    (connected : (program.stage worker).connected = true) :
    program.held worker = program.connection worker := by
  simp [held, connects, connected]

theorem held_of_apart (apart : (program.stage worker).connected = false) :
    program.held worker = none := by
  simp [held, apart]

/-- A worker goes to another stage, with the connection it then has. -/
theorem held_goTo (program : Program δ) (worker : Worker) (stage : WorkerStage) :
    (program.goTo worker stage).held = Function.update program.held worker
      (if worker.connects && stage.connected then program.connection worker else none) := by
  funext other
  by_cases isWorker : other = worker
  · subst isWorker
    simp [held, goTo]
  · simp [held, goTo, isWorker]

section Stages

variable {stage : WorkerStage}

theorem forSender_goTo
    (senders : ∀ worker, worker.connects = false →
      (program.stage worker).forSender = true ∧ program.connection worker = none)
    (sender : worker.connects = false → stage.forSender = true) :
    ∀ other, other.connects = false →
      ((program.goTo worker stage).stage other).forSender = true ∧
        (program.goTo worker stage).connection other = none := by
  intro other isSender
  refine ⟨?_, (senders other isSender).2⟩
  by_cases isWorker : other = worker
  · subst isWorker
    rw [goTo_stage_same]
    exact sender isSender
  · rw [goTo_stage_other isWorker]
    exact (senders other isSender).1

/-- A step between two stages with a connection, or between two without one. -/
theorem Connected.turn (connected : program.Connected)
    (same : worker.connects = true → stage.connected = (program.stage worker).connected)
    (sender : worker.connects = false → stage.forSender = true) :
    (program.goTo worker stage).Connected := by
  refine ⟨connected.fresh, forSender_goTo connected.senders sender, ?_, ?_⟩
  · intro other connects isConnected
    by_cases isWorker : other = worker
    · subst isWorker
      rw [goTo_stage_same, same connects] at isConnected
      exact connected.known other connects isConnected
    · rw [goTo_stage_other isWorker] at isConnected
      exact connected.known other connects isConnected
  · have unchanged : (if worker.connects && stage.connected then program.connection worker
        else none) = program.held worker := by
      unfold held
      cases connects : worker.connects with
      | false => simp
      | true => simp [same connects]
    rw [held_goTo, unchanged, Function.update_eq_self]
    exact connected.lawful

/-- A connection is opened. -/
theorem Connected.opens (connected : program.Connected)
    (connecting : program.stage worker = .connecting) :
    Connected
      { program.goTo worker .testing with
        connection := Function.update program.connection worker (some program.created)
        created := program.created + 1
        events := program.events ++ [.created worker program.created] } := by
  have connects : worker.connects = true := by
    by_contra sender
    have stage := (connected.senders worker (by simpa using sender)).1
    rw [connecting] at stage
    cases stage
  refine ⟨?_, ?_, ?_, ?_⟩
  · intro event member
    rcases List.mem_append.mp member with earlier | last
    · have below := connected.fresh event earlier
      dsimp only
      omega
    · obtain rfl := List.mem_singleton.mp last
      exact Nat.lt_succ_self _
  · intro other sender
    have different : other ≠ worker := by
      rintro rfl
      exact absurd connects (by simp [sender])
    simpa [goTo, different] using connected.senders other sender
  · intro other otherConnects isConnected
    by_cases isWorker : other = worker
    · simp [isWorker]
    · simp only [goTo, Function.update_of_ne isWorker] at isConnected ⊢
      exact connected.known other otherConnects isConnected
  · have idle : program.held worker = none := held_of_apart (by rw [connecting]; rfl)
    have fresh : ∀ event ∈ program.events, event.handle ≠ program.created :=
      fun event member => (connected.fresh event member).ne
    convert connected.lawful.created idle fresh using 1
    funext other
    by_cases isWorker : other = worker
    · subst isWorker
      simp [held, goTo, connects, WorkerStage.connected]
    · simp [held, goTo, isWorker]

theorem stages_behindDelete (behind : (program.stage worker).behindDelete = some stage)
    (connected : program.Connected) :
    worker.connects = true ∧ (program.stage worker).connected = true ∧
      stage.connected = false := by
  refine ⟨?_, ?_, ?_⟩
  · by_contra sender
    have forSender := (connected.senders worker (by simpa using sender)).1
    revert behind forSender
    cases program.stage worker <;> simp [WorkerStage.behindDelete, WorkerStage.forSender]
  · revert behind
    cases program.stage worker <;> simp [WorkerStage.behindDelete, WorkerStage.connected]
  · revert behind
    cases program.stage worker <;> simp [WorkerStage.behindDelete] <;> rintro rfl <;> rfl

/-- A connection is deleted. -/
theorem Connected.deletes (connected : program.Connected) {conn : Nat}
    (behind : (program.stage worker).behindDelete = some stage)
    (isConn : program.connection worker = some conn) :
    Connected
      { program.goTo worker stage with
        events := program.events ++ [.released worker conn] } := by
  obtain ⟨connects, wasConnected, isApart⟩ := stages_behindDelete behind connected
  have holds : program.held worker = some conn := by
    rw [held_of_connects connects wasConnected, isConn]
  refine ⟨?_, ?_, ?_, ?_⟩
  · intro event member
    rcases List.mem_append.mp member with earlier | last
    · exact connected.fresh event earlier
    · obtain rfl := List.mem_singleton.mp last
      exact connected.fresh (.created worker conn) (connected.lawful.created_of_held holds)
  · refine forSender_goTo connected.senders fun sender => ?_
    exact absurd connects (by simp [sender])
  · intro other otherConnects isConnected
    by_cases isWorker : other = worker
    · subst isWorker
      simp only [goTo, Function.update_self, isApart] at isConnected
      cases isConnected
    · simp only [goTo, Function.update_of_ne isWorker] at isConnected
      exact connected.known other otherConnects isConnected
  · have closes := held_goTo program worker stage
    rw [isApart, Bool.and_false, if_neg Bool.false_ne_true] at closes
    exact closes ▸ connected.lawful.released holds

/-- The call of an executor goes over its connection. -/
theorem Connected.use (connected : program.Connected) (passing : program.stage worker = .passing) :
    (program.use worker).Connected := by
  unfold Program.use
  split
  · cases isConn : program.connection worker with
    | none =>
        rw [Option.map_none, Option.toList_none, List.append_nil]
        exact connected
    | some conn =>
        have connects : worker.connects = true := by
          by_contra sender
          have none_known := (connected.senders worker (by simpa using sender)).2
          rw [isConn] at none_known
          cases none_known
        have holds : program.held worker = some conn := by
          rw [held_of_connects connects (by rw [passing]; rfl), isConn]
        refine ⟨?_, connected.senders, connected.known, connected.lawful.used holds⟩
        intro event member
        rcases List.mem_append.mp member with earlier | last
        · exact connected.fresh event earlier
        · obtain rfl := List.mem_singleton.mp last
          exact connected.fresh (.created worker conn) (connected.lawful.created_of_held holds)
  · rw [List.append_nil]
    exact connected

end Stages

theorem goesOn_stages (threads : Threads δ) (worker : Worker) :
    (threads.goesOn worker).connected = true ∧
      (worker.connects = false → (threads.goesOn worker).forSender = true) := by
  rcases threads.goesOn_cases worker with testing | ⟨connects, passing | reconnecting⟩
  · rw [testing]
    exact ⟨rfl, fun _ => rfl⟩
  · rw [passing]
    exact ⟨rfl, fun _ => rfl⟩
  · rw [reconnecting]
    exact ⟨rfl, fun sender => by simp [sender] at connects⟩

theorem Connected.moved {label : ProgramLabel} (connected : program.Connected)
    (moves : Moves database program label after) (alive : after.terminated = false) :
    after.Connected := by
  cases moves with
  | gotSignal | network | joins | kills | joinsNetwork | endsTurn =>
      exact ⟨connected.fresh, connected.senders, connected.known, connected.lawful⟩
  | @pops _ worker _ _ popping =>
      have same : worker.connects = true →
          WorkerStage.passing.connected = (program.stage worker).connected := by
        rw [popping]
        exact fun _ => rfl
      obtain ⟨fresh, senders, known, lawful⟩ := connected.turn same fun _ => rfl
      exact ⟨fresh, senders, known, lawful⟩
  | @works _ worker _ _ passing =>
      obtain ⟨isConnected, forSender⟩ := goesOn_stages program.threads worker
      have same : worker.connects = true →
          (program.threads.goesOn worker).connected = (program.stage worker).connected := by
        rw [passing, isConnected]
        exact fun _ => rfl
      obtain ⟨fresh, senders, known, lawful⟩ := (connected.use passing).turn same forSender
      exact ⟨fresh, senders, known, lawful⟩
  | stays testing =>
      refine connected.turn (fun _ => ?_) fun _ => rfl
      rw [testing]
      rfl
  | leaves testing =>
      refine connected.turn (fun connects => ?_) fun sender => ?_
      · rw [testing, if_pos connects]
        rfl
      · rw [if_neg (by simp [sender])]
        rfl
  | connects connecting => exact connected.opens connecting
  | refused | unset | deleteThrows => cases alive
  | deletes behind isConn => exact connected.deletes behind isConn

theorem disposes_start (content : δ) : Disposes (Program.start content) :=
  ⟨fun _ => connected_start content, Lawful.disciplined .start⟩

theorem Disposes.step {label : ProgramLabel} (disposes : program.Disposes)
    (stepped : step database label program = some after) : after.Disposes := by
  obtain ⟨alive, moves⟩ := moves_of_step stepped
  have connected := disposes.connected alive
  refine ⟨connected.moved moves, ?_⟩
  have goesOn : after.terminated = false → Disciplined after.events :=
    fun still => (connected.moved moves still).lawful.disciplined
  cases moves with
  | refused | deleteThrows => exact disposes.disciplined
  | unset connecting =>
      -- The connection is open, and nobody will ever close it.
      exact (connected.opens connecting).lawful.disciplined
  | gotSignal | network | joins | kills | joinsNetwork | endsTurn | pops | works | stays
  | leaves | connects | deletes => exact goesOn alive

theorem Reachable.disposes {content : δ}
    (reachable : Reachable database (Program.start content) program) : program.Disposes := by
  induction reachable with
  | start => exact disposes_start content
  | next label _ stepped ih => exact ih.step stepped

/-- Every call of an executor goes over a connection that it has opened before and
not deleted yet, and so does every `delete`.  A connection that was opened is the
one that its executor has, or was deleted, as long as nothing has thrown where
nobody catches it. -/
theorem connections_disciplined {content : δ}
    (reachable : Reachable database (Program.start content) program) :
    Disciplined program.events ∧
      (program.terminated = false →
        (∀ worker, worker.connects = true → (program.stage worker).connected = true →
          ∃ conn, program.connection worker = some conn ∧
            .created worker conn ∈ program.events ∧
            ∀ other, .released other conn ∉ program.events) ∧
        ∀ worker conn, .created worker conn ∈ program.events →
          program.held worker = some conn ∨ .released worker conn ∈ program.events) := by
  have disposes := reachable.disposes
  refine ⟨disposes.disciplined, fun alive => ?_⟩
  obtain ⟨-, -, known, lawful⟩ := disposes.connected alive
  refine ⟨?_, fun worker conn created => lawful.held_or_released created⟩
  intro worker connects connected
  obtain ⟨conn, isConn⟩ := Option.isSome_iff_exists.mp (known worker connects connected)
  have holds : program.held worker = some conn := by
    rw [held_of_connects connects connected, isConn]
  exact ⟨conn, isConn, lawful.created_of_held holds, lawful.not_released_of_held holds⟩

/-- The executor of the administrators loses its connection in the first statement,
opens another one, and leaves its loop. -/
def lostOnce : List ProgramLabel :=
  [.connect .administratorRequestsExecutor .opened, .test .administratorRequestsExecutor,
    .thread (.thread (.network (.accept .administrator 0 5 .zero))),
    .thread (.thread (.network
      (.administratorFrame 0 { clientId := 0, commandType := .getAllSensors }))),
    .thread (.thread (.takeAdministrator [] 0)), .thread (.thread .executeAdministrator),
    .thread (.thread .executeAdministrator), .delete .administratorRequestsExecutor false,
    .connect .administratorRequestsExecutor .opened, .gotSignal,
    .test .administratorRequestsExecutor, .delete .administratorRequestsExecutor false]

theorem connections_disciplined_lostOnce :
    Disciplined [.created Worker.administratorRequestsExecutor 0,
      .used .administratorRequestsExecutor 0, .released .administratorRequestsExecutor 0,
      .created .administratorRequestsExecutor 1, .released .administratorRequestsExecutor 1] := by
  have played : (play DatabaseConnection.sample lostOnce
      (Program.start { Database.sample with faults := [some 3114] })).map (·.events) =
      some [.created Worker.administratorRequestsExecutor 0,
        .used .administratorRequestsExecutor 0, .released .administratorRequestsExecutor 0,
        .created .administratorRequestsExecutor 1,
        .released .administratorRequestsExecutor 1] := by decide +kernel
  obtain ⟨program, reached, events⟩ := Option.map_eq_some_iff.mp played
  exact events ▸ (connections_disciplined (Reachable.start.of_play reached)).1

end Program

end SensorManager
