import SensorManager.Server.Joins

/-!
# The end of the server

`gotSignal` only sets `quit`, which the workers test between two passes: one that
waits in `pop` takes one more item first.  A worker whose queue stays empty keeps
`init` waiting, and an answer that comes behind the end of its sender stays in the
queue.
-/

namespace SensorManager

variable {δ κ α : Type}

/-- The label is the `pop` of the worker. -/
def ProgramLabel.pops (worker : Worker) : ProgramLabel → Bool
  | .thread label => label.mover = .pops worker
  | _ => false

namespace Pass

variable {process later : Pass δ α} {server changed : Server δ}

theorem goesOn_ended (result : Except SQLException α) :
    (Pass.goesOn (.ended result : Pass δ α) == .passing) = false := by
  rw [Pass.goesOn.eq_def]
  split
  · next same => cases same
  · split <;> decide
  · decide

theorem goesOn_of_step (stepped : process.step server = some (later, changed)) :
    (Pass.goesOn process == .passing) = true := by
  cases process with
  | ended result => cases stepped
  | act action next => rfl

end Pass

namespace Side

variable {lane : Lane δ κ α} {side after : Side δ κ α} {server changed : Server δ}

theorem busy_take {execute : Stamped κ → Pass δ α}
    (taken : side.take lane execute server = some (after, changed)) :
    after.executor.isSome = true ∧ after.sender = side.sender := by
  unfold Side.take at taken
  split at taken
  · cases taken
    exact ⟨rfl, rfl⟩
  · cases taken

/-- An executor is still busy where it goes on with its pass. -/
theorem busy_execute (executed : side.execute lane server = some (after, changed)) :
    after.executor.isSome =
      ((side.executor.map fun busy => busy.2.goesOn).getD .testing == .passing) ∧
      after.sender = side.sender := by
  unfold Side.execute at executed
  split at executed
  · cases executed
  · next busy =>
      cases executed
      simp [busy, Pass.goesOn_ended]
  · next busy =>
      cases executed
      simp [busy, Pass.goesOn_ended]
  · next process _ _ busy =>
      obtain ⟨⟨later, reached⟩, stepped, same⟩ := Option.map_eq_some_iff.mp executed
      cases same
      simp [busy, Pass.goesOn_of_step stepped]

theorem busy_pick (picked : side.pick lane server = some (after, changed)) :
    after.sender.isSome = true ∧ after.executor = side.executor := by
  unfold Side.pick at picked
  split at picked
  · cases picked
    exact ⟨rfl, rfl⟩
  · cases picked

theorem busy_hand {sent : Int} (handed : side.hand lane sent server = some (after, changed)) :
    after.sender = none ∧ after.executor = side.executor := by
  unfold Side.hand at handed
  split at handed
  · cases handed
  · split at handed
    · cases handed
      exact ⟨rfl, rfl⟩
    · cases handed
      exact ⟨rfl, rfl⟩

end Side

namespace Threads

open Side Server

variable {database : IDatabaseConnection δ} {threads after : Threads δ}

/-- The workers that are in a pass. -/
def busy (threads : Threads δ) : Worker → Bool
  | .administratorRequestsExecutor => threads.administrators.executor.isSome
  | .administratorResponsesSender => threads.administrators.sender.isSome
  | .monitoringRequestsExecutor => threads.monitoring.executor.isSome
  | .monitoringResponsesSender => threads.monitoring.sender.isSome
  | .sensorRequestsExecutor => threads.sensorExecutor.isSome

/-- The workers that are in a pass after a step. -/
def busyAfter (threads : Threads δ) : Mover → Worker → Bool
  | .network _ => threads.busy
  | .pops worker => Function.update threads.busy worker true
  | .works worker => Function.update threads.busy worker (threads.goesOn worker == .passing)

theorem busy_of_outStep {label : OutLabel}
    (stepped : outStep database label threads = some after) :
    after.busy = threads.busyAfter label.mover := by
  funext worker
  cases label with
  | trySend => cases stepped; rfl
  | thread label =>
      cases label with
      | network label =>
          simp only [outStep, Threads.step, Threads.network] at stepped
          split at stepped
          · split at stepped
            · cases stepped
              cases worker <;> rfl
            · cases stepped
          · cases stepped
      | takeSensor serverTime sent =>
          simp only [outStep, Threads.step, Threads.takeSensor] at stepped
          split at stepped
          · cases stepped
            cases worker <;> rfl
          · cases stepped
      | executeSensor =>
          simp only [outStep, Threads.step, Threads.executeSensor] at stepped
          split at stepped
          · cases stepped
          · next executor =>
              cases stepped
              cases worker <;>
                simp [busy, busyAfter, OutLabel.mover, goesOn, executor, Pass.goesOn_ended]
          · next process _ executor =>
              obtain ⟨moved, ran, rfl⟩ := Option.map_eq_some_iff.mp stepped
              have passes := Pass.goesOn_of_step ran
              cases worker <;>
                simp [busy, busyAfter, OutLabel.mover, goesOn, executor, passes]
      | takeAdministrator rands sent =>
          obtain ⟨moved, taken, rfl⟩ := Option.map_eq_some_iff.mp stepped
          obtain ⟨executor, sender⟩ := busy_take taken
          cases worker <;> simp [busy, busyAfter, OutLabel.mover, executor, sender]
      | executeAdministrator =>
          obtain ⟨moved, executed, rfl⟩ := Option.map_eq_some_iff.mp stepped
          obtain ⟨executor, sender⟩ := busy_execute executed
          cases worker <;> simp [busy, busyAfter, OutLabel.mover, executor, sender, goesOn]
      | pickAdministrator =>
          obtain ⟨moved, picked, rfl⟩ := Option.map_eq_some_iff.mp stepped
          obtain ⟨sender, executor⟩ := busy_pick picked
          cases worker <;> simp [busy, busyAfter, OutLabel.mover, executor, sender]
      | handAdministrator sent =>
          obtain ⟨moved, handed, rfl⟩ := Option.map_eq_some_iff.mp stepped
          obtain ⟨sender, executor⟩ := busy_hand handed
          cases worker <;> simp [busy, busyAfter, OutLabel.mover, executor, sender, goesOn]
      | takeMonitoring =>
          obtain ⟨moved, taken, rfl⟩ := Option.map_eq_some_iff.mp stepped
          obtain ⟨executor, sender⟩ := busy_take taken
          cases worker <;> simp [busy, busyAfter, OutLabel.mover, executor, sender]
      | executeMonitoring =>
          obtain ⟨moved, executed, rfl⟩ := Option.map_eq_some_iff.mp stepped
          obtain ⟨executor, sender⟩ := busy_execute executed
          cases worker <;> simp [busy, busyAfter, OutLabel.mover, executor, sender, goesOn]
      | pickMonitoring =>
          obtain ⟨moved, picked, rfl⟩ := Option.map_eq_some_iff.mp stepped
          obtain ⟨sender, executor⟩ := busy_pick picked
          cases worker <;> simp [busy, busyAfter, OutLabel.mover, executor, sender]
      | handMonitoring sent =>
          obtain ⟨moved, handed, rfl⟩ := Option.map_eq_some_iff.mp stepped
          obtain ⟨sender, executor⟩ := busy_hand handed
          cases worker <;> simp [busy, busyAfter, OutLabel.mover, executor, sender, goesOn]

end Threads

/-- The queue that a worker waits for is empty. -/
def Threads.starved (threads : Threads δ) : Worker → Prop
  | .administratorRequestsExecutor => threads.server.administratorRequestsQueue = []
  | .administratorResponsesSender => threads.server.administratorResponsesQueue = []
  | .monitoringRequestsExecutor => threads.server.monitoringRequestsQueue = []
  | .monitoringResponsesSender => threads.server.monitoringResponsesQueue = []
  | .sensorRequestsExecutor => threads.server.sensorRequestsQueue = []

/-- A worker that has nothing to do can take an item that waits for it. -/
theorem Threads.pops_of_idle {database : IDatabaseConnection δ} {threads : Threads δ}
    {worker : Worker} (idle : threads.busy worker = false) (waits : ¬ threads.starved worker) :
    ∃ label, label.mover = .pops worker ∧
      (Threads.outStep database label threads).isSome = true := by
  cases worker with
  | administratorRequestsExecutor =>
      obtain ⟨stamped, rest, queue⟩ := List.exists_cons_of_ne_nil waits
      refine ⟨.thread (.takeAdministrator [] 0), rfl, ?_⟩
      have executor : threads.administrators.executor = none := by simpa [busy] using idle
      simp [outStep, Threads.step, onAdministrators, Side.take, administratorLane, executor, queue]
  | administratorResponsesSender =>
      obtain ⟨response, rest, queue⟩ := List.exists_cons_of_ne_nil waits
      refine ⟨.thread .pickAdministrator, rfl, ?_⟩
      have sender : threads.administrators.sender = none := by simpa [busy] using idle
      simp [outStep, Threads.step, onAdministrators, Side.pick, administratorLane, sender, queue]
  | monitoringRequestsExecutor =>
      obtain ⟨stamped, rest, queue⟩ := List.exists_cons_of_ne_nil waits
      refine ⟨.thread .takeMonitoring, rfl, ?_⟩
      have executor : threads.monitoring.executor = none := by simpa [busy] using idle
      simp [outStep, Threads.step, onMonitoring, Side.take, monitoringLane, executor, queue]
  | monitoringResponsesSender =>
      obtain ⟨response, rest, queue⟩ := List.exists_cons_of_ne_nil waits
      refine ⟨.thread .pickMonitoring, rfl, ?_⟩
      have sender : threads.monitoring.sender = none := by simpa [busy] using idle
      simp [outStep, Threads.step, onMonitoring, Side.pick, monitoringLane, sender, queue]
  | sensorRequestsExecutor =>
      obtain ⟨stamped, rest, queue⟩ := List.exists_cons_of_ne_nil waits
      refine ⟨.thread (.takeSensor 0 0), rfl, ?_⟩
      have executor : threads.sensorExecutor = none := by simpa [busy] using idle
      simp [outStep, Threads.step, Threads.takeSensor, executor, queue]

theorem Threads.not_starved_of_pops {database : IDatabaseConnection δ}
    {threads after : Threads δ} {worker : Worker} {label : OutLabel}
    (mover : label.mover = .pops worker)
    (stepped : Threads.outStep database label threads = some after) : ¬ threads.starved worker := by
  intro starved
  cases label with
  | trySend => cases mover
  | thread label =>
      cases label with
      | network | executeSensor | executeAdministrator | handAdministrator | executeMonitoring
      | handMonitoring => cases mover
      | takeSensor =>
          cases mover
          simp_all [outStep, Threads.step, Threads.takeSensor, Threads.starved]
      | takeAdministrator =>
          cases mover
          simp_all [outStep, Threads.step, onAdministrators, Side.take, administratorLane,
            Threads.starved]
      | pickAdministrator =>
          cases mover
          simp_all [outStep, Threads.step, onAdministrators, Side.pick, administratorLane,
            Threads.starved]
      | takeMonitoring =>
          cases mover
          simp_all [outStep, Threads.step, onMonitoring, Side.take, monitoringLane,
            Threads.starved]
      | pickMonitoring =>
          cases mover
          simp_all [outStep, Threads.step, onMonitoring, Side.pick, monitoringLane,
            Threads.starved]

/-- The step is one of a worker or of the main thread. -/
def ProgramLabel.ofModel : ProgramLabel → Prop
  | .gotSignal | .endTurn .. => False
  | .thread label => ∀ channel, label.mover ≠ .network channel
  | .test _ | .connect .. | .delete .. | .main => True

namespace Program

open Server

variable {database : IDatabaseConnection δ} {program after : Program δ} {worker : Worker}

/-- A worker that is in a pass stands there. -/
def Seated (program : Program δ) : Prop :=
  ∀ worker, program.stage worker = .passing ↔ program.threads.busy worker = true

theorem seated_start (content : δ) : Seated (Program.start content) := by
  intro worker
  cases worker <;> simp [Program.start, Threads.start, Threads.busy, Worker.connects]

/-- A worker goes from one stage outside its passes to another. -/
theorem Seated.goTo (seated : program.Seated) {stage : WorkerStage}
    (outside : program.stage worker ≠ .passing) (stays : stage ≠ .passing) :
    ∀ other, (program.goTo worker stage).stage other = .passing ↔
      program.threads.busy other = true := by
  intro other
  by_cases same : other = worker
  · subst same
    rw [goTo_stage_same, ← seated other]
    simp [outside, stays]
  · rw [goTo_stage_other same, seated other]

theorem Seated.moved {label : ProgramLabel} (seated : program.Seated)
    (moves : Moves database program label after) : after.Seated := by
  have outside : ∀ {worker : Worker} {stage : WorkerStage}, program.stage worker = stage →
      stage ≠ .passing → program.stage worker ≠ .passing := by
    rintro worker stage rfl different
    exact different
  cases moves with
  | gotSignal | refused | unset | deleteThrows | joins | kills | joinsNetwork | endsTurn =>
      exact seated
  | network mover handling moved =>
      intro worker
      rw [Threads.busy_of_outStep moved, mover]
      exact seated worker
  | @pops label target threads mover popping moved =>
      intro worker
      change _ ↔ threads.busy worker = true
      rw [Threads.busy_of_outStep moved, mover, Threads.busyAfter]
      by_cases same : worker = target
      · simp [same]
      · simpa [same] using seated worker
  | @works label target threads mover passing moved =>
      intro worker
      change _ ↔ threads.busy worker = true
      rw [Threads.busy_of_outStep moved, mover, Threads.busyAfter]
      by_cases same : worker = target
      · simp [same]
      · simpa [same, use] using seated worker
  | stays testing => exact seated.goTo (outside testing (by decide)) (by decide)
  | leaves testing =>
      refine seated.goTo (outside testing (by decide)) ?_
      split <;> decide
  | connects connecting => exact seated.goTo (outside connecting (by decide)) (by decide)
  | @deletes worker stage _ behind =>
      refine seated.goTo ?_ ?_
      · intro passing
        rw [passing] at behind
        cases behind
      · rintro rfl
        revert behind
        cases program.stage worker <;> simp [WorkerStage.behindDelete]

theorem Reachable.seated {content : δ}
    (reachable : Reachable database (Program.start content) program) : program.Seated := by
  induction reachable with
  | start => exact seated_start content
  | next label _ stepped ih => exact ih.moved (moves_of_step stepped).2

/-- The items that a worker may still take from its queue when `quit` is set. -/
def itemsLeft (program : Program δ) (worker : Worker) : Nat :=
  if program.stage worker = .popping then 1 else 0

theorem itemsLeft_goTo {stage : WorkerStage} (standing : program.stage worker ≠ .popping)
    (stays : stage ≠ .popping) (other : Worker) :
    (program.goTo worker stage).itemsLeft other = program.itemsLeft other := by
  unfold itemsLeft
  by_cases same : other = worker
  · subst same
    rw [goTo_stage_same, if_neg stays, if_neg standing]
  · rw [goTo_stage_other same]

/-- With `quit` set, a step takes an item that was still to be taken, or leaves
the items as they are. -/
theorem itemsLeft_moved {label : ProgramLabel} (moves : Moves database program label after)
    (quit : program.quit = true) (worker : Worker) :
    after.quit = true ∧
      after.itemsLeft worker + (if label.pops worker then 1 else 0) = program.itemsLeft worker := by
  cases moves with
  | gotSignal => exact ⟨rfl, rfl⟩
  | refused | unset | deleteThrows | joins | kills | joinsNetwork | endsTurn => exact ⟨quit, rfl⟩
  | network mover =>
      refine ⟨quit, ?_⟩
      simp [ProgramLabel.pops, mover, itemsLeft]
  | @pops label target threads mover popping =>
      refine ⟨quit, ?_⟩
      by_cases same : target = worker
      · subst same
        simp [ProgramLabel.pops, mover, itemsLeft, popping]
      · simp [ProgramLabel.pops, mover, itemsLeft, same, goTo_stage_other (Ne.symm same)]
  | @works label target threads mover passing =>
      refine ⟨quit, ?_⟩
      have stays : program.threads.goesOn target ≠ .popping := by
        rcases program.threads.goesOn_cases target with goesOn | ⟨-, goesOn | goesOn⟩
        all_goals
          rw [goesOn]
          decide
      have silent : ProgramLabel.pops worker (.thread label) = false := by
        simp [ProgramLabel.pops, mover]
      rw [silent, if_neg Bool.false_ne_true]
      have standing : (program.use target).stage target ≠ .popping := by
        change program.stage target ≠ .popping
        rw [passing]
        decide
      exact itemsLeft_goTo standing stays worker
  | stays _ goesOn => exact absurd quit (by simp [goesOn])
  | leaves testing =>
      refine ⟨quit, itemsLeft_goTo (by rw [testing]; decide) ?_ worker⟩
      split <;> decide
  | connects connecting =>
      exact ⟨quit, itemsLeft_goTo (by rw [connecting]; decide) (by decide) worker⟩
  | @deletes target stage _ behind =>
      have standing : program.stage target ≠ .popping := by
        intro popping
        rw [popping] at behind
        cases behind
      have stays : stage ≠ .popping := by
        rintro rfl
        revert behind
        cases program.stage target <;> simp [WorkerStage.behindDelete]
      exact ⟨quit, itemsLeft_goTo standing stays worker⟩

/-- With `quit` set, every worker takes at most one more item from its queue, and
none unless it was in `pop` already. -/
theorem at_most_one_more {labels : List ProgramLabel} (quit : program.quit = true)
    (played : play database labels program = some after) (worker : Worker) :
    labels.countP (·.pops worker) ≤ if program.stage worker = .popping then 1 else 0 := by
  have counted : after.itemsLeft worker + labels.countP (·.pops worker) =
      program.itemsLeft worker := by
    induction labels generalizing program with
    | nil =>
        cases played
        rfl
    | cons label labels ih =>
        obtain ⟨middle, stepped, goesOn⟩ := Option.bind_eq_some_iff.mp played
        obtain ⟨stillQuit, moved⟩ := itemsLeft_moved (moves_of_step stepped).2 quit worker
        rw [List.countP_cons, ← moved, ← ih stillQuit goesOn]
        omega
  have left : labels.countP (·.pops worker) ≤ program.itemsLeft worker := by omega
  exact left

/-- An administrator's question is answered.  Then the server is told to quit, and
the sender leaves its loop while the executor waits in `pop`. -/
def senderLeaves : List ProgramLabel :=
  [.connect .administratorRequestsExecutor .opened, .test .administratorRequestsExecutor,
    .test .administratorResponsesSender,
    .thread (.thread (.network (.accept .administrator 0 5 .zero))),
    .thread (.thread (.network
      (.administratorFrame 0 { clientId := 0, commandType := .getAllSensors }))),
    .thread (.thread (.takeAdministrator [] 0)), .thread (.thread .executeAdministrator),
    .thread (.thread .executeAdministrator), .test .administratorRequestsExecutor,
    .thread (.thread .pickAdministrator), .thread (.thread (.handAdministrator 12)), .gotSignal,
    .test .administratorResponsesSender]

/-- The executor takes one more question and leaves its loop. -/
def executorLeaves : List ProgramLabel :=
  [.thread (.thread (.network
      (.administratorFrame 0 { clientId := 0, commandType := .getAllSensors }))),
    .thread (.thread (.takeAdministrator [] 0)), .thread (.thread .executeAdministrator),
    .thread (.thread .executeAdministrator), .test .administratorRequestsExecutor,
    .delete .administratorRequestsExecutor false]

theorem at_most_one_more_secondQuestion :
    executorLeaves.countP (·.pops .administratorRequestsExecutor) ≤ 1 := by
  have played : ((play DatabaseConnection.sample senderLeaves (Program.start Database.sample)).bind
      fun program => (play DatabaseConnection.sample executorLeaves program).map fun _ =>
        (program.quit, program.stage .administratorRequestsExecutor)) = some (true, .popping) := by
    decide +kernel
  obtain ⟨program, -, goesOn⟩ := Option.bind_eq_some_iff.mp played
  obtain ⟨after, goesOn, facts⟩ := Option.map_eq_some_iff.mp goesOn
  obtain ⟨quit, standing⟩ := Prod.mk.inj facts
  have atMost := at_most_one_more quit goesOn .administratorRequestsExecutor
  rwa [standing, if_pos rfl] at atMost

/-- The workers and the main thread wait, while every call of a pass comes to its
end. -/
structure Waits (database : IDatabaseConnection δ) (program : Program δ) : Prop where
  stuck : ∀ label, label.ofModel → step database label program = none
  returns : ∀ worker, program.stage worker = .passing →
    ∃ label, label.mover = .works worker ∧
      (Threads.outStep database label program.threads).isSome = true

/-- A worker that can do nothing has ended or waits for its queue. -/
theorem Waits.standing (waits : program.Waits database) (seated : program.Seated)
    (connected : program.Connected) (alive : program.terminated = false) (worker : Worker) :
    program.stage worker = .ended ∨
      program.stage worker = .popping ∧ program.threads.starved worker := by
  have deletes : ∀ stage, (program.stage worker).behindDelete = some stage → False := by
    intro stage behind
    obtain ⟨connects, isConnected, -⟩ := stages_behindDelete behind connected
    obtain ⟨conn, isConn⟩ := Option.isSome_iff_exists.mp (connected.known _ connects isConnected)
    have stuck := waits.stuck (.delete worker false) trivial
    simp [step, alive, delete, behind, isConn] at stuck
  cases standing : program.stage worker with
  | ended => exact .inl rfl
  | connecting =>
      have stuck := waits.stuck (.connect worker .opened) trivial
      simp [step, alive, connect, standing] at stuck
  | testing =>
      have stuck := waits.stuck (.test worker) trivial
      simp [step, alive, test, standing] at stuck
  | popping =>
      refine .inr ⟨rfl, ?_⟩
      by_contra filled
      have idle : program.threads.busy worker = false := by
        rw [← Bool.not_eq_true, ← seated worker, standing]
        decide
      obtain ⟨label, mover, popped⟩ := Threads.pops_of_idle idle filled
      have stuck := waits.stuck (.thread label) (by simp [ProgramLabel.ofModel, mover])
      simp [step, alive, thread, mover, standing] at stuck
      rw [stuck] at popped
      cases popped
  | passing =>
      obtain ⟨label, mover, worked⟩ := waits.returns worker standing
      have stuck := waits.stuck (.thread label) (by simp [ProgramLabel.ofModel, mover])
      simp [step, alive, thread, mover, standing] at stuck
      rw [stuck] at worked
      cases worked
  | reconnecting => exact (deletes .connecting (by rw [standing]; rfl)).elim
  | leaving => exact (deletes .ended (by rw [standing]; rfl)).elim

/-- When the workers and the main thread can do nothing any more, every worker has
ended or waits for an item in its empty queue, the handlers killed are those whose
workers, and the workers joined before them, have ended, and the server has shut
down if all workers and network threads have. -/
theorem shutdown_waits {content : δ}
    (reachable : Reachable database (Program.start content) program)
    (alive : program.terminated = false) (waits : program.Waits database) :
    (∀ worker, program.stage worker = .ended ∨
      program.stage worker = .popping ∧ program.threads.starved worker) ∧
    (∀ channel, program.killed channel = true ↔
      ∀ worker ∈ channel.joined, program.stage worker = .ended) ∧
    (program.main = [] ↔ (∀ worker, program.stage worker = .ended) ∧
      ∀ channel, program.handling channel = false) := by
  have ending := reachable.ending
  obtain ⟨done, split, joined, left, killed⟩ := reachable.ending
  have stuck := waits.stuck .main trivial
  refine ⟨waits.standing reachable.seated (reachable.disposes.connected alive) alive, ?_, ?_⟩
  · intro channel
    refine ⟨fun isKilled worker => ending.ended_of_killed isKilled, fun ended => ?_⟩
    by_contra isAlive
    rcases next_of_not_killed split (mt (killed channel).mpr isAlive) with
      ⟨other, kills⟩ | ⟨worker, isJoined, joins⟩
    · obtain ⟨rest, next⟩ := List.head?_eq_some_iff.mp kills
      simp [step, alive, mainStep, next] at stuck
    · obtain ⟨rest, next⟩ := List.head?_eq_some_iff.mp joins
      simp [step, alive, mainStep, next, ended worker isJoined] at stuck
  · constructor
    · intro finished
      rw [finished, List.append_nil] at split
      subst split
      refine ⟨fun worker => joined worker ?_, fun channel => left channel ?_⟩
      · cases worker <;> decide
      · cases channel <;> decide
    · rintro ⟨ended, handled⟩
      cases next : program.main with
      | nil => rfl
      | cons first rest =>
          cases first with
          | join worker => simp [step, alive, mainStep, next, ended worker] at stuck
          | killHandler channel => simp [step, alive, mainStep, next] at stuck
          | joinNetwork channel => simp [step, alive, mainStep, next, handled channel] at stuck

/-- Where all workers have ended or wait for their queues, and `init` for one of
them, nobody can do anything. -/
theorem waits_of_standing (standing : ∀ worker, program.stage worker = .ended ∨
      program.stage worker = .popping ∧ program.threads.starved worker)
    {rest : List MainStep} (next : program.main = .join worker :: rest)
    (waits : program.stage worker ≠ .ended) : program.Waits database := by
  have apart : ∀ {worker : Worker} {stage : WorkerStage}, program.stage worker = stage →
      stage = .ended ∨ stage = .popping ∧ program.threads.starved worker := by
    rintro worker stage rfl
    exact standing worker
  refine ⟨?_, ?_⟩
  · intro label ours
    by_contra acts
    obtain ⟨after, stepped⟩ := Option.ne_none_iff_exists'.mp acts
    cases (moves_of_step stepped).2 with
    | gotSignal | endsTurn => exact ours
    | network mover => exact ours _ mover
    | pops mover popping popped =>
        rcases apart popping with ended | ⟨-, starved⟩
        · cases ended
        · exact Threads.not_starved_of_pops mover popped starved
    | works _ stands | stays stands | leaves stands | connects stands | refused stands
    | unset stands =>
        rcases apart stands with ended | ⟨popping, -⟩
        · cases ended
        · cases popping
    | @deletes target _ _ behind | @deleteThrows target _ _ behind =>
        rcases standing target with stands | ⟨stands, -⟩
        all_goals
          rw [stands] at behind
          cases behind
    | joins joins ended =>
        cases next.symm.trans joins
        exact waits ended
    | kills kills => cases next.symm.trans kills
    | joinsNetwork joins => cases next.symm.trans joins
  · intro other passing
    rcases apart passing with ended | ⟨popping, -⟩
    · cases ended
    · cases popping

/-- Nobody has asked anything when the server is told to quit. -/
def quitUnasked : List ProgramLabel :=
  [.connect .administratorRequestsExecutor .opened, .connect .monitoringRequestsExecutor .opened,
    .connect .sensorRequestsExecutor .opened, .test .administratorRequestsExecutor,
    .test .administratorResponsesSender, .test .monitoringRequestsExecutor,
    .test .monitoringResponsesSender, .test .sensorRequestsExecutor, .gotSignal]

theorem shutdown_waits_unasked :
    ∃ program : Program Database, program.quit = true ∧
      ∀ channel, program.killed channel = false := by
  let played := play DatabaseConnection.sample quitUnasked (Program.start Database.sample)
  have runs : played.map (fun program => (program.quit, program.terminated, program.main)) =
      some (true, false, mainSteps) := by decide +kernel
  have stands : played.map (fun program => (
      program.stage .administratorRequestsExecutor, program.stage .administratorResponsesSender,
      program.stage .monitoringRequestsExecutor, program.stage .monitoringResponsesSender,
      program.stage .sensorRequestsExecutor)) =
      some (.popping, .popping, .popping, .popping, .popping) := by decide +kernel
  have unasked : played.map (fun program => (
      program.threads.server.administratorRequestsQueue.isEmpty,
      program.threads.server.administratorResponsesQueue.isEmpty,
      program.threads.server.monitoringRequestsQueue.isEmpty,
      program.threads.server.monitoringResponsesQueue.isEmpty,
      program.threads.server.sensorRequestsQueue.isEmpty)) =
      some (true, true, true, true, true) := by decide +kernel
  obtain ⟨program, reached, facts⟩ := Option.map_eq_some_iff.mp runs
  rw [reached, Option.map_some, Option.some.injEq] at stands unasked
  simp only [Prod.mk.injEq, List.isEmpty_iff] at facts stands unasked
  obtain ⟨quit, alive, main⟩ := facts
  obtain ⟨first, second, third, fourth, fifth⟩ := stands
  obtain ⟨noFirst, noSecond, noThird, noFourth, noFifth⟩ := unasked
  have standing : ∀ worker, program.stage worker = .ended ∨
      program.stage worker = .popping ∧ program.threads.starved worker := by
    intro worker
    cases worker with
    | administratorRequestsExecutor => exact .inr ⟨first, noFirst⟩
    | administratorResponsesSender => exact .inr ⟨second, noSecond⟩
    | monitoringRequestsExecutor => exact .inr ⟨third, noThird⟩
    | monitoringResponsesSender => exact .inr ⟨fourth, noFourth⟩
    | sensorRequestsExecutor => exact .inr ⟨fifth, noFifth⟩
  have waits : program.Waits DatabaseConnection.sample :=
    waits_of_standing standing main (by rw [third]; decide)
  have killed := (shutdown_waits (Reachable.start.of_play reached) alive waits).2.1
  refine ⟨program, quit, fun channel => ?_⟩
  rw [← Bool.not_eq_true, killed channel]
  intro ended
  have joined : Worker.monitoringRequestsExecutor ∈ channel.joined := by cases channel <;> decide
  have isEnded := ended _ joined
  rw [third] at isEnded
  cases isEnded

/-- The answers of a side are those handed out and those in the queue. -/
def Leaves (lane : Lane δ κ α) (before after : Side δ κ α) (server : Server δ) :
    Prop :=
  after.handed = before.handed ∧
    (Pipeline.answered after.finished).map Prod.snd = before.handed ++ lane.responses server

theorem Leaves.of_coherent {lane : Lane δ κ α} {before after : Side δ κ α}
    {server : Server δ} (handed : after.handed = before.handed) (idle : after.sender = none)
    (coherent : (after.pipeline lane server).Coherent) : Leaves lane before after server := by
  refine ⟨handed, ?_⟩
  have answers := coherent.answers
  change after.handed ++ after.sender.toList ++ lane.responses server =
    (Pipeline.answered after.finished).map Prod.snd at answers
  rw [← answers, idle, handed]
  simp

theorem idle_of_ended {content : δ}
    (reachable : Reachable database (Program.start content) program)
    (ended : program.stage worker = .ended) : program.threads.busy worker = false := by
  rw [← Bool.not_eq_true, ← reachable.seated worker, ended]
  decide

/-- What a program and one that it has become share. -/
theorem Reachable.keeps_of_play {labels : List ProgramLabel} {content : δ}
    (reachable : Reachable database (Program.start content) program)
    (played : play database labels program = some after) {β : Type} (part : Threads δ → β)
    (ended : program.stage worker = .ended)
    (keeps : ∀ before later, before.busy worker = false → Threads.Turned before later →
      part later = part before) :
    after.stage worker = .ended ∧ part after.threads = part program.threads := by
  induction labels generalizing program with
  | nil =>
      cases played
      exact ⟨ended, rfl⟩
  | cons label labels ih =>
      obtain ⟨middle, stepped, goesOn⟩ := Option.bind_eq_some_iff.mp played
      have moves := (moves_of_step stepped).2
      have outbound := reachable.outRun.outbound
      obtain ⟨stillEnded, same⟩ :=
        ih (reachable.next label stepped) goesOn (ended_of_moves moves ended)
      refine ⟨stillEnded, same.trans ?_⟩
      have idle := idle_of_ended reachable ended
      cases moves with
      | gotSignal | stays | leaves | connects | refused | unset | deletes | deleteThrows | joins
      | kills | joinsNetwork | endsTurn => rfl
      | network _ _ moved | pops _ _ moved | works _ _ moved =>
          exact keeps _ _ idle (Threads.turned_of_step outbound.sound outbound.atWork moved)

/-- When its sender has ended, no more answers are handed out on a channel: those
that are in the queue, and those that the executor may still add, are lost. -/
theorem answers_left {labels : List ProgramLabel} {content : δ}
    (reachable : Reachable database (Program.start content) program)
    (played : play database labels program = some after) :
    (program.stage .administratorResponsesSender = .ended →
      Leaves (administratorLane δ) program.threads.administrators after.threads.administrators
        after.threads.server) ∧
    (program.stage .monitoringResponsesSender = .ended →
      Leaves (monitoringLane δ) program.threads.monitoring after.threads.monitoring
        after.threads.server) := by
  have later := reachable.of_play played
  have sound := later.outRun.outbound.sound
  refine ⟨fun ended => ?_, fun ended => ?_⟩
  · obtain ⟨stillEnded, handed⟩ := reachable.keeps_of_play played
      (fun threads => threads.administrators.handed) ended fun before after idle turned =>
        turned.administrators.handed_of_idle (by simpa [Threads.busy] using idle)
    have idle := idle_of_ended later stillEnded
    exact .of_coherent handed (by simpa [Threads.busy] using idle)
      sound.administrators.coherent
  · obtain ⟨stillEnded, handed⟩ := reachable.keeps_of_play played
      (fun threads => threads.monitoring.handed) ended fun before after idle turned =>
        turned.monitoring.handed_of_idle (by simpa [Threads.busy] using idle)
    have idle := idle_of_ended later stillEnded
    exact .of_coherent handed (by simpa [Threads.busy] using idle) sound.monitoring.coherent

theorem answers_left_secondQuestion :
    ∃ program after : Program Database,
      program.threads.administrators.handed.length = 1 ∧
      Leaves (administratorLane Database) program.threads.administrators
        after.threads.administrators after.threads.server ∧
      after.threads.server.administratorResponsesQueue.length = 1 := by
  have played : ((play DatabaseConnection.sample senderLeaves (Program.start Database.sample)).bind
      fun program => (play DatabaseConnection.sample executorLeaves program).map fun after =>
        (program.stage .administratorResponsesSender,
          program.threads.administrators.handed.length,
          after.threads.server.administratorResponsesQueue.length)) = some (.ended, 1, 1) := by
    decide +kernel
  obtain ⟨program, reached, goesOn⟩ := Option.bind_eq_some_iff.mp played
  obtain ⟨after, goesOn, facts⟩ := Option.map_eq_some_iff.mp goesOn
  simp only [Prod.mk.injEq] at facts
  obtain ⟨ended, handed, queue⟩ := facts
  exact ⟨program, after, handed,
    (answers_left (Reachable.start.of_play reached) goesOn).1 ended, queue⟩

end Program

end SensorManager
