import Mathlib.Logic.Relation
import SensorManager.Server.Threads

/-!
# The passes that the executors make in a run

A pass begins with the question that the executor takes from its queue, and each of
its calls is made in the state that the server is in at that step of the run.  An
answer is what the pass over its own question has come to, and not what another
pass over an equal question could have given.
-/

namespace SensorManager

open Relation

variable {δ κ α : Type}

namespace Side

/-- What a step of some thread means for the executor of a lane. -/
inductive ExecutorTurn (programs : κ → Pass δ α → Prop) (before : Side δ κ α)
    (server : Server δ) (after : Side δ κ α) (changed : Server δ) : Prop
  | same (executor : after.executor = before.executor)
      (finished : after.finished = before.finished)
  | takes {stamped : Stamped κ} {process : Pass δ α} (idle : before.executor = none)
      (program : programs stamped.request process)
      (executor : after.executor = some (stamped, process))
      (finished : after.finished = before.finished)
  | calls {stamped : Stamped κ} {process later : Pass δ α}
      (busy : before.executor = some (stamped, process))
      (called : process.step server = some (later, changed))
      (executor : after.executor = some (stamped, later))
      (finished : after.finished = before.finished)
  | ends {stamped : Stamped κ} {result : Except SQLException α}
      (busy : before.executor = some (stamped, .ended result)) (executor : after.executor = none)
      (finished : after.finished = before.finished ++
        [(stamped, result.map fun value => { stamped with request := value })])

variable {lane : Lane δ κ α} {programs : κ → Pass δ α → Prop}
  {side after : Side δ κ α} {server changed : Server δ}

theorem executorTurn_take {execute : Stamped κ → Pass δ α}
    (begins : ∀ stamped, programs stamped.request (execute stamped))
    (taken : side.take lane execute server = some (after, changed)) :
    ExecutorTurn programs side server after changed := by
  unfold Side.take at taken
  split at taken
  · next idle _ =>
      cases taken
      exact .takes idle (begins _) rfl rfl
  · cases taken

theorem executorTurn_execute (executed : side.execute lane server = some (after, changed)) :
    ExecutorTurn programs side server after changed := by
  unfold Side.execute at executed
  split at executed
  · cases executed
  · next stamped value busy =>
      cases executed
      exact .ends busy rfl rfl
  · next stamped error busy =>
      cases executed
      exact .ends busy rfl rfl
  · next stamped process _ _ busy =>
      obtain ⟨⟨later, reached⟩, stepped, same⟩ := Option.map_eq_some_iff.mp executed
      cases same
      exact .calls busy stepped rfl rfl

theorem executorTurn_pick (picked : side.pick lane server = some (after, changed)) :
    ExecutorTurn programs side server after changed := by
  unfold Side.pick at picked
  split at picked
  · cases picked
    exact .same rfl rfl
  · cases picked

theorem executorTurn_hand {sent : Int}
    (handed : side.hand lane sent server = some (after, changed)) :
    ExecutorTurn programs side server after changed := by
  unfold Side.hand at handed
  split at handed
  · cases handed
  · split at handed <;> cases handed <;> exact .same rfl rfl

end Side

namespace Threads

open Side

section Passes

variable {moves : Threads δ → Threads δ → Prop} {side : Threads δ → Side δ κ α}
  {programs : κ → Pass δ α → Prop} {initial before after threads : Threads δ}
  {earlier : List (Stamped κ × Except SQLException (Stamped α))} {stamped : Stamped κ}
  {process : Pass δ α} {value : α}

/-- The executor is at a question, behind the earlier ones: it has taken the question
in the run with a pass over it, has made each call of the pass in the state of that
step, and has `process` left. -/
inductive Executes (moves : Threads δ → Threads δ → Prop) (side : Threads δ → Side δ κ α)
    (programs : κ → Pass δ α → Prop) (initial : Threads δ)
    (earlier : List (Stamped κ × Except SQLException (Stamped α))) (stamped : Stamped κ) :
    Threads δ → Pass δ α → Prop
  | takes {before after : Threads δ} {process : Pass δ α}
      (run : ReflTransGen moves initial before) (moved : moves before after)
      (idle : (side before).executor = none) (program : programs stamped.request process)
      (busy : (side after).executor = some (stamped, process))
      (dealt : (side after).finished = earlier) :
      Executes moves side programs initial earlier stamped after process
  | calls {before after : Threads δ} {process later : Pass δ α}
      (executes : Executes moves side programs initial earlier stamped before process)
      (moved : moves before after) (called : process.step before.server = some (later, after.server))
      (busy : (side after).executor = some (stamped, later))
      (dealt : (side after).finished = earlier) :
      Executes moves side programs initial earlier stamped after later
  | waits {before after : Threads δ} {process : Pass δ α}
      (executes : Executes moves side programs initial earlier stamped before process)
      (moved : moves before after) (busy : (side after).executor = some (stamped, process))
      (dealt : (side after).finished = earlier) :
      Executes moves side programs initial earlier stamped after process

/-- The pass that the executor has made over the question has returned the value. -/
def Executed (moves : Threads δ → Threads δ → Prop) (side : Threads δ → Side δ κ α)
    (programs : κ → Pass δ α → Prop) (initial threads : Threads δ)
    (earlier : List (Stamped κ × Except SQLException (Stamped α))) (stamped : Stamped κ)
    (value : α) : Prop :=
  ∃ moment, Executes moves side programs initial earlier stamped moment (.ended (.ok value)) ∧
    ReflTransGen moves moment threads

theorem Executes.busy
    (executes : Executes moves side programs initial earlier stamped threads process) :
    (side threads).executor = some (stamped, process) := by
  cases executes with
  | takes run moved idle program busy dealt => exact busy
  | calls executes moved called busy dealt => exact busy
  | waits executes moved busy dealt => exact busy

theorem Executes.dealt
    (executes : Executes moves side programs initial earlier stamped threads process) :
    (side threads).finished = earlier := by
  cases executes with
  | takes run moved idle program busy dealt => exact dealt
  | calls executes moved called busy dealt => exact dealt
  | waits executes moved busy dealt => exact dealt

theorem Executes.run
    (executes : Executes moves side programs initial earlier stamped threads process) :
    ReflTransGen moves initial threads := by
  induction executes with
  | takes run moved => exact run.tail moved
  | calls _ moved _ _ _ ih => exact ih.tail moved
  | waits _ moved _ _ ih => exact ih.tail moved

/-- What is left of a pass comes to nothing that the pass could not come to. -/
theorem Executes.computes
    (executes : Executes moves side programs initial earlier stamped threads process) :
    ∃ program, programs stamped.request program ∧
      ∀ result, process.Computes result → program.Computes result := by
  induction executes with
  | takes run moved idle program => exact ⟨_, program, fun _ computes => computes⟩
  | calls executes moved called busy dealt ih =>
      obtain ⟨program, allowed, computes⟩ := ih
      exact ⟨program, allowed, fun result ended => computes result (ended.of_step called)⟩
  | waits _ _ _ _ ih => exact ih

theorem Executed.next (executed : Executed moves side programs initial before earlier stamped value)
    (moved : moves before after) :
    Executed moves side programs initial after earlier stamped value := by
  obtain ⟨moment, executes, run⟩ := executed
  exact ⟨moment, executes, run.tail moved⟩

theorem Executed.computes
    (executed : Executed moves side programs initial threads earlier stamped value) :
    ∃ program, programs stamped.request program ∧ program.Computes (.ok value) := by
  obtain ⟨moment, executes, -⟩ := executed
  obtain ⟨program, allowed, computes⟩ := executes.computes
  exact ⟨program, allowed, computes _ (.ended _)⟩

/-- The executor is in a pass of the run, and every answer that has been added in the
run is what such a pass has returned. -/
structure OwnPasses (moves : Threads δ → Threads δ → Prop) (side : Threads δ → Side δ κ α)
    (programs : κ → Pass δ α → Prop) (initial threads : Threads δ) : Prop where
  executor : ∀ stamped process, (side threads).executor = some (stamped, process) →
    Executes moves side programs initial (side threads).finished stamped threads process
  finished : ∀ earlier stamped response later,
    (side threads).finished = earlier ++ (stamped, .ok response) :: later →
    (side initial).finished.length ≤ earlier.length →
    Executed moves side programs initial threads earlier stamped response.request

theorem OwnPasses.step (run : ReflTransGen moves initial before)
    (own : OwnPasses moves side programs initial before) (moved : moves before after)
    (turn : ExecutorTurn programs (side before) before.server (side after) after.server) :
    OwnPasses moves side programs initial after := by
  have kept : ∀ earlier stamped response later,
      (side before).finished = earlier ++ (stamped, .ok response) :: later →
      (side initial).finished.length ≤ earlier.length →
      Executed moves side programs initial after earlier stamped response.request :=
    fun earlier stamped response later split added =>
      (own.finished earlier stamped response later split added).next moved
  cases turn with
  | same executor finished =>
      refine ⟨?_, by rwa [finished]⟩
      intro stamped process busy
      rw [finished]
      exact .waits (own.executor stamped process (executor ▸ busy)) moved busy finished
  | takes idle program executor finished =>
      refine ⟨?_, by rwa [finished]⟩
      intro stamped process busy
      obtain ⟨rfl, rfl⟩ := Prod.mk.inj (Option.some.inj (executor.symm.trans busy))
      exact .takes run moved idle program busy rfl
  | calls working called executor finished =>
      refine ⟨?_, by rwa [finished]⟩
      intro stamped process busy
      obtain ⟨rfl, rfl⟩ := Prod.mk.inj (Option.some.inj (executor.symm.trans busy))
      rw [finished]
      exact .calls (own.executor _ _ working) moved called busy finished
  | @ends ending result working executor finished =>
      refine ⟨by simp [executor], ?_⟩
      rw [finished]
      intro earlier stamped response later split added
      -- The last answer is that of the pass which has just ended.
      rcases List.eq_nil_or_concat later with rfl | ⟨middle, last, rfl⟩
      · obtain ⟨rfl, same⟩ := List.append_inj' split rfl
        obtain ⟨rfl, isOk⟩ := Prod.mk.inj (List.cons.inj same).1
        cases result with
        | error error => cases isOk
        | ok value =>
            cases isOk
            exact ⟨before, own.executor _ _ working, .single moved⟩
      · rw [List.concat_eq_append, ← List.cons_append, ← List.append_assoc] at split
        exact kept earlier stamped response middle (List.append_inj_left' split rfl) added

/-- Of an executor that starts without a question. -/
theorem ownPasses_of_run
    (turns : ∀ before after, moves before after →
      ExecutorTurn programs (side before) before.server (side after) after.server)
    (idle : (side initial).executor = none)
    (run : ReflTransGen moves initial threads) :
    OwnPasses moves side programs initial threads := by
  induction run with
  | refl =>
      refine ⟨by simp [idle], fun earlier stamped response later split added => ?_⟩
      rw [split, List.length_append, List.length_cons] at added
      omega
  | tail run moved ih => exact ih.step run moved (turns _ _ moved)

/-- If there was no answer before, all are of the run. -/
theorem OwnPasses.all (own : OwnPasses moves side programs initial threads)
    (fresh : (side initial).finished = []) (earlier stamped response later)
    (split : (side threads).finished = earlier ++ (stamped, .ok response) :: later) :
    Executed moves side programs initial threads earlier stamped response.request :=
  own.finished earlier stamped response later split (by simp [fresh])

end Passes

section Executors

variable {database : IDatabaseConnection δ} {initial before after threads : Threads δ}

/-- The passes that an administrator's request may give. -/
def administratorPrograms (database : IDatabaseConnection δ) (request : AdministratorRequest)
    (program : Pass δ AdministratorResponse) : Prop :=
  ∃ rands sent, program = Pass.executeAdministratorRequest database request rands sent

def monitoringPrograms (database : IDatabaseConnection δ) (request : MonitoringRequest)
    (program : Pass δ MonitoringResponse) : Prop :=
  program = Pass.executeMonitoringRequest database request

/-- How a step turns the executor of the administrators. -/
abbrev AdministratorsExecutor (database : IDatabaseConnection δ) (before after : Threads δ) :
    Prop :=
  ExecutorTurn (administratorPrograms database) before.administrators before.server
    after.administrators after.server

abbrev MonitoringExecutor (database : IDatabaseConnection δ) (before after : Threads δ) : Prop :=
  ExecutorTurn (monitoringPrograms database) before.monitoring before.server after.monitoring
    after.server

theorem executors_of_network {label : Label}
    (stepped : network database label before = some after) :
    AdministratorsExecutor database before after ∧ MonitoringExecutor database before after := by
  unfold Threads.network at stepped
  split at stepped
  · split at stepped
    · cases stepped
      exact ⟨.same rfl rfl, .same rfl rfl⟩
    · cases stepped
  · cases stepped

theorem executors_of_takeSensor {serverTime sent : Int}
    (stepped : takeSensor database serverTime sent before = some after) :
    AdministratorsExecutor database before after ∧ MonitoringExecutor database before after := by
  unfold Threads.takeSensor at stepped
  split at stepped
  · cases stepped
    exact ⟨.same rfl rfl, .same rfl rfl⟩
  · cases stepped

theorem executors_of_executeSensor (stepped : executeSensor before = some after) :
    AdministratorsExecutor database before after ∧ MonitoringExecutor database before after := by
  unfold Threads.executeSensor at stepped
  split at stepped
  · cases stepped
  · cases stepped
    exact ⟨.same rfl rfl, .same rfl rfl⟩
  · obtain ⟨⟨later, server⟩, -, rfl⟩ := Option.map_eq_some_iff.mp stepped
    exact ⟨.same rfl rfl, .same rfl rfl⟩

/-- Every step is a turn of both executors. -/
theorem executors_of_threadStep {label : ThreadLabel}
    (stepped : step database label before = some after) :
    AdministratorsExecutor database before after ∧ MonitoringExecutor database before after := by
  cases label with
  | network label => exact executors_of_network stepped
  | takeSensor serverTime sent => exact executors_of_takeSensor stepped
  | executeSensor => exact executors_of_executeSensor stepped
  | takeAdministrator rands sent =>
      obtain ⟨⟨side, server⟩, taken, rfl⟩ := Option.map_eq_some_iff.mp stepped
      exact ⟨executorTurn_take (fun _ => ⟨rands, sent, rfl⟩) taken, .same rfl rfl⟩
  | executeAdministrator =>
      obtain ⟨⟨side, server⟩, executed, rfl⟩ := Option.map_eq_some_iff.mp stepped
      exact ⟨executorTurn_execute executed, .same rfl rfl⟩
  | pickAdministrator =>
      obtain ⟨⟨side, server⟩, picked, rfl⟩ := Option.map_eq_some_iff.mp stepped
      exact ⟨executorTurn_pick picked, .same rfl rfl⟩
  | handAdministrator sent =>
      obtain ⟨⟨side, server⟩, handed, rfl⟩ := Option.map_eq_some_iff.mp stepped
      exact ⟨executorTurn_hand handed, .same rfl rfl⟩
  | takeMonitoring =>
      obtain ⟨⟨side, server⟩, taken, rfl⟩ := Option.map_eq_some_iff.mp stepped
      exact ⟨.same rfl rfl, executorTurn_take (fun _ => rfl) taken⟩
  | executeMonitoring =>
      obtain ⟨⟨side, server⟩, executed, rfl⟩ := Option.map_eq_some_iff.mp stepped
      exact ⟨.same rfl rfl, executorTurn_execute executed⟩
  | pickMonitoring =>
      obtain ⟨⟨side, server⟩, picked, rfl⟩ := Option.map_eq_some_iff.mp stepped
      exact ⟨.same rfl rfl, executorTurn_pick picked⟩
  | handMonitoring sent =>
      obtain ⟨⟨side, server⟩, handed, rfl⟩ := Option.map_eq_some_iff.mp stepped
      exact ⟨.same rfl rfl, executorTurn_hand handed⟩

/-- Some thread takes a step. -/
def Goes (database : IDatabaseConnection δ) (before after : Threads δ) : Prop :=
  ∃ label, step database label before = some after

theorem Reachable.goes (reachable : Reachable database initial threads) :
    ReflTransGen (Goes database) initial threads := by
  induction reachable with
  | start => exact .refl
  | next label _ stepped ih => exact ih.tail ⟨label, stepped⟩

variable {content : δ}

theorem Reachable.administratorPasses
    (reachable : Reachable database (Threads.start content) threads) :
    OwnPasses (Goes database) (·.administrators) (administratorPrograms database)
      (Threads.start content) threads :=
  ownPasses_of_run (fun _ _ ⟨_, stepped⟩ => (executors_of_threadStep stepped).1) rfl
    reachable.goes

theorem Reachable.monitoringPasses
    (reachable : Reachable database (Threads.start content) threads) :
    OwnPasses (Goes database) (·.monitoring) (monitoringPrograms database)
      (Threads.start content) threads :=
  ownPasses_of_run (fun _ _ ⟨_, stepped⟩ => (executors_of_threadStep stepped).2) rfl
    reachable.goes

end Executors

end Threads

end SensorManager
