import Mathlib.Data.List.Infix
import SensorManager.Server.Connections

/-!
# The handlers that `init` kills

`init` joins the workers one after the other and kills a handler behind those
that send through it.  From then on only its network thread knows the clients
of the channel.
-/

namespace SensorManager

variable {δ : Type}

/-- Whose clients a step may touch.  The executors only know those of the sensor
channel. -/
def Mover.channel : Mover → Channel
  | .network channel => channel
  | .works .administratorResponsesSender => .administrator
  | .works .monitoringResponsesSender => .monitoring
  | .works _ | .pops _ => .sensor

namespace Threads

open Side Server

variable {database : IDatabaseConnection δ} {threads after : Threads δ}

theorem sameClients_of_network {label : Label}
    (stepped : network database label threads = some after) {channel : Channel}
    (other : channel ≠ label.channel) : SameClients channel threads.server after.server := by
  unfold Threads.network at stepped
  split at stepped
  · next isNetwork =>
      split at stepped
      · next server ran =>
          cases stepped
          cases networkStep_of_ran isNetwork ran with
          | accept => exact ⟨handler_accept_other _ _ _ _ other, rfl, rfl⟩
          | lost => exact (Works.disconnectClient ..).other.2 channel other
          | sensorFrame => exact (serves_receiveSensorFrame ..).works.other.2 channel other
          | administratorFrame | monitoringFrame => exact ⟨rfl, rfl, rfl⟩
      · cases stepped
  · cases stepped

/-- A step touches the clients of one channel at most. -/
theorem sameClients_of_outStep {label : OutLabel} (atWork : AtWork threads)
    (stepped : outStep database label threads = some after)
    {channel : Channel} (other : channel ≠ label.mover.channel) :
    SameClients channel threads.server after.server := by
  cases label with
  | trySend target slot sent =>
      cases stepped
      exact (works_trySend ..).other.2 channel other
  | thread label =>
      cases label with
      | network label => exact sameClients_of_network stepped other
      | takeSensor serverTime sent =>
          simp only [outStep, Threads.step, Threads.takeSensor] at stepped
          split at stepped
          · cases stepped
            exact ⟨rfl, rfl, rfl⟩
          · cases stepped
      | executeSensor =>
          simp only [outStep, Threads.step, Threads.executeSensor] at stepped
          split at stepped
          · cases stepped
          · cases stepped
            exact ⟨rfl, rfl, rfl⟩
          · next process _ busy =>
              obtain ⟨moved, ran, rfl⟩ := Option.map_eq_some_iff.mp stepped
              exact ((atWork.sensor process busy).of_step ran).1.works.other.2 channel other
      | takeAdministrator rands sent =>
          obtain ⟨moved, taken, rfl⟩ := Option.map_eq_some_iff.mp stepped
          exact (serves_take administratorLane_posts (fun stamped =>
            Pass.serves_executeAdministratorRequest stamped.request rands sent)
            taken).1.works.other.2 channel other
      | executeAdministrator =>
          obtain ⟨moved, executed, rfl⟩ := Option.map_eq_some_iff.mp stepped
          exact (serves_execute administratorLane_posts atWork.administrators
            executed).1.works.other.2 channel other
      | pickAdministrator =>
          obtain ⟨moved, picked, rfl⟩ := Option.map_eq_some_iff.mp stepped
          exact (serves_pick administratorLane_posts atWork.administrators
            picked).1.works.other.2 channel other
      | handAdministrator sent =>
          obtain ⟨moved, handed, rfl⟩ := Option.map_eq_some_iff.mp stepped
          exact (works_hand administratorLane_posts handed).other.2 channel other
      | takeMonitoring =>
          obtain ⟨moved, taken, rfl⟩ := Option.map_eq_some_iff.mp stepped
          have serves := serves_take monitoringLane_posts (fun stamped =>
            Pass.serves_executeMonitoringRequest stamped.request) taken
          exact serves.1.works.other.2 channel other
      | executeMonitoring =>
          obtain ⟨moved, executed, rfl⟩ := Option.map_eq_some_iff.mp stepped
          exact (serves_execute monitoringLane_posts atWork.monitoring
            executed).1.works.other.2 channel other
      | pickMonitoring =>
          obtain ⟨moved, picked, rfl⟩ := Option.map_eq_some_iff.mp stepped
          exact (serves_pick monitoringLane_posts atWork.monitoring
            picked).1.works.other.2 channel other
      | handMonitoring sent =>
          obtain ⟨moved, handed, rfl⟩ := Option.map_eq_some_iff.mp stepped
          exact (works_hand monitoringLane_posts handed).other.2 channel other

end Threads

/-- Whose end `init` awaits before it kills the handler of a channel. -/
def Channel.joined : Channel → List Worker
  | .monitoring => [.monitoringRequestsExecutor, .monitoringResponsesSender]
  | .administrator =>
      [.monitoringRequestsExecutor, .monitoringResponsesSender, .administratorRequestsExecutor,
        .administratorResponsesSender]
  | .sensor =>
      [.monitoringRequestsExecutor, .monitoringResponsesSender, .administratorRequestsExecutor,
        .administratorResponsesSender, .sensorRequestsExecutor]

namespace Program

open Server

variable {database : IDatabaseConnection δ} {program after : Program δ} {worker : Worker}
  {channel : Channel}

section Main

variable {done rest : List MainStep}

theorem mem_channels (channel : Channel) :
    channel ∈ [Channel.sensor, .administrator, .monitoring] := by
  cases channel <;> simp

/-- The workers of a channel are joined before its handler is killed. -/
theorem joined_of_kill (split : mainSteps = done ++ rest) (kills : .killHandler channel ∈ done)
    (joined : worker ∈ channel.joined) : .join worker ∈ done := by
  have checked : ∀ done ∈ mainSteps.inits,
      ∀ channel ∈ [Channel.sensor, .administrator, .monitoring], .killHandler channel ∈ done →
      ∀ worker ∈ channel.joined, .join worker ∈ done := by
    decide
  have member : done ∈ mainSteps.inits := (List.mem_inits _ _).mpr ⟨rest, split.symm⟩
  exact checked done member channel (mem_channels channel) kills worker joined

/-- What stands before a kill is another kill or a worker to be joined. -/
theorem next_of_not_killed (split : mainSteps = done ++ rest)
    (waits : .killHandler channel ∉ done) :
    (∃ other, rest.head? = some (.killHandler other)) ∨
      ∃ worker ∈ channel.joined, rest.head? = some (.join worker) := by
  have checked : ∀ done ∈ mainSteps.inits,
      ∀ channel ∈ [Channel.sensor, .administrator, .monitoring], .killHandler channel ∉ done →
      (∃ other ∈ [Channel.sensor, .administrator, .monitoring],
        (mainSteps.drop done.length).head? = some (.killHandler other)) ∨
      ∃ worker ∈ channel.joined,
        (mainSteps.drop done.length).head? = some (.join worker) := by
    decide
  have member : done ∈ mainSteps.inits := (List.mem_inits _ _).mpr ⟨rest, split.symm⟩
  have next : mainSteps.drop done.length = rest := by rw [split, List.drop_left]
  rcases checked done member channel (mem_channels channel) waits with
    ⟨other, -, kills⟩ | ⟨worker, joined, joins⟩
  · exact .inl ⟨other, next ▸ kills⟩
  · exact .inr ⟨worker, joined, next ▸ joins⟩

end Main

/-- What the main thread has done is done for good. -/
def Ending (program : Program δ) : Prop :=
  ∃ done, mainSteps = done ++ program.main ∧
    (∀ worker, .join worker ∈ done → program.stage worker = .ended) ∧
    (∀ channel, .joinNetwork channel ∈ done → program.handling channel = false) ∧
    ∀ channel, program.killed channel = true ↔ .killHandler channel ∈ done

theorem ending_start (content : δ) : Ending (Program.start content) :=
  ⟨[], rfl, by simp, by simp, by simp [Program.start]⟩

/-- A worker that has ended takes no step. -/
theorem ended_of_moves {label : ProgramLabel} (moves : Moves database program label after)
    (ended : program.stage worker = .ended) : after.stage worker = .ended := by
  have apart : ∀ {other : Worker} {stage : WorkerStage}, program.stage other = stage →
      stage ≠ .ended → worker ≠ other := by
    rintro other stage standing different rfl
    exact different (standing.symm.trans ended)
  cases moves with
  | gotSignal | network | refused | unset | deleteThrows | joins | kills | joinsNetwork
  | endsTurn => exact ended
  | pops _ standing | works _ standing | stays standing | leaves standing
  | connects standing =>
      rw [goTo_stage_other (apart standing (by decide))]
      exact ended
  | deletes behind =>
      rw [goTo_stage_other (by rintro rfl; rw [ended] at behind; cases behind)]
      exact ended

theorem Ending.moved {label : ProgramLabel} (ending : program.Ending)
    (moves : Moves database program label after) : after.Ending := by
  obtain ⟨done, split, joined, left, killed⟩ := ending
  have still : ∀ worker, .join worker ∈ done → after.stage worker = .ended :=
    fun worker member => ended_of_moves moves (joined worker member)
  cases moves with
  | gotSignal | network | pops | works | stays | leaves | connects | refused | unset | deletes
  | deleteThrows => exact ⟨done, split, still, left, killed⟩
  | @endsTurn channel throws handling =>
      refine ⟨done, split, still, ?_, killed⟩
      intro other member
      by_cases same : other = channel
      · simp [same]
      · simpa [same] using left other member
  | @joins worker rest next ended =>
      refine ⟨done ++ [.join worker], by simp [split, next], ?_, by simpa using left,
        by simpa using killed⟩
      intro other member
      rcases List.mem_append.mp member with earlier | last
      · exact joined other earlier
      · obtain rfl : other = worker := by simpa using last
        exact ended
  | @kills channel rest next =>
      refine ⟨done ++ [.killHandler channel], by simp [split, next], ?_, by simpa using left, ?_⟩
      · intro worker member
        exact joined worker (by simpa using member)
      · intro other
        by_cases same : other = channel
        · simp [same]
        · simp [same, killed other]
  | @joinsNetwork channel rest next ended =>
      refine ⟨done ++ [.joinNetwork channel], by simp [split, next], ?_, ?_, by simpa using killed⟩
      · intro worker member
        exact joined worker (by simpa using member)
      · intro other member
        rcases List.mem_append.mp member with earlier | last
        · exact left other earlier
        · obtain rfl : other = channel := by simpa using last
          exact ended

theorem Reachable.ending {content : δ}
    (reachable : Reachable database (Program.start content) program) : program.Ending := by
  induction reachable with
  | start => exact ending_start content
  | next label _ stepped ih => exact ih.moved (moves_of_step stepped).2

/-- The workers of a killed handler's channel have ended. -/
theorem Ending.ended_of_killed (ending : program.Ending) (killed : program.killed channel = true)
    (joined : worker ∈ channel.joined) : program.stage worker = .ended := by
  obtain ⟨done, split, ended, -, kills⟩ := ending
  exact ended worker (joined_of_kill split ((kills channel).mp killed) joined)

/-- Whoever works on the clients of a channel is joined before its handler is
killed. -/
theorem mem_joined (worker : Worker) :
    worker ∈ (Mover.pops worker).channel.joined ∧
      worker ∈ (Mover.works worker).channel.joined := by
  cases worker <;> decide

/-- Once the handler of a channel is killed, nobody but its network thread touches
its clients or gives them a message. -/
theorem killed_untouched {content : δ}
    (reachable : Reachable database (Program.start content) program)
    (killed : program.killed channel = true) {label : ProgramLabel}
    (stepped : step database label program = some after)
    (other : ∀ move, label = .thread move → move.mover ≠ .network channel) :
    SameClients channel program.threads.server after.threads.server := by
  have ending := reachable.ending
  have outbound := reachable.outRun.outbound
  have busy : ∀ {worker : Worker} {stage : WorkerStage}, program.stage worker = stage →
      stage ≠ .ended → worker ∉ channel.joined := by
    rintro worker stage standing different joined
    exact different (standing.symm.trans (ending.ended_of_killed killed joined))
  cases (moves_of_step stepped).2 with
  | gotSignal | stays | leaves | connects | refused | unset | deletes | deleteThrows | joins
  | kills | joinsNetwork | endsTurn => exact ⟨rfl, rfl, rfl⟩
  | network mover _ moved =>
      apply Threads.sameClients_of_outStep outbound.atWork moved
      rintro rfl
      exact other _ rfl (by rw [mover]; rfl)
  | pops mover standing moved =>
      apply Threads.sameClients_of_outStep outbound.atWork moved
      rintro rfl
      rw [mover] at busy
      exact busy standing (by decide) (mem_joined _).1
  | works mover standing moved =>
      apply Threads.sameClients_of_outStep outbound.atWork moved
      rintro rfl
      rw [mover] at busy
      exact busy standing (by decide) (mem_joined _).2

/-- The threads of the monitors end after a last question, and their handler is
killed. -/
def monitoringEnds : List ProgramLabel :=
  [.connect .monitoringRequestsExecutor .opened, .test .monitoringRequestsExecutor,
    .test .monitoringResponsesSender, .gotSignal,
    .thread (.thread (.network (.accept .monitoring 0 5 .zero))),
    .thread (.thread (.network (.monitoringFrame 0
      { clientId := 0, commandType := .getSetOfMeasurements, sensorId := 7, type := 2 }))),
    .thread (.thread .takeMonitoring), .thread (.thread .executeMonitoring),
    .thread (.thread .executeMonitoring), .test .monitoringRequestsExecutor,
    .delete .monitoringRequestsExecutor false, .thread (.thread .pickMonitoring),
    .thread (.thread (.handMonitoring 9)), .test .monitoringResponsesSender, .main, .main, .main]

theorem killed_untouched_monitoring :
    ∃ program after : Program Database, program.killed .monitoring = true ∧
      program.threads.server.outBuffer .monitoring 0 ≠ [] ∧
      SameClients .monitoring program.threads.server after.threads.server := by
  have played : ((play DatabaseConnection.sample monitoringEnds
      (Program.start Database.sample)).bind fun program =>
      (step DatabaseConnection.sample (.thread (.trySend .administrator 0 5)) program).map fun _ =>
        (program.killed .monitoring, program.threads.server.outBuffer .monitoring 0)) =
      some (true, [0, 0, 7, 0, 0, 0, 0]) := by decide +kernel
  obtain ⟨program, reached, goesOn⟩ := Option.bind_eq_some_iff.mp played
  obtain ⟨after, stepped, facts⟩ := Option.map_eq_some_iff.mp goesOn
  obtain ⟨killed, outBuffer⟩ := Prod.mk.inj facts
  refine ⟨program, after, killed, by simp [outBuffer], ?_⟩
  refine killed_untouched (Reachable.start.of_play reached) killed stepped ?_
  rintro move ⟨⟩
  decide

end Program

end SensorManager
