import SensorManager.Lib.Handles
import SensorManager.Server.Turns

/-!
# The server from its start to its end

The threads that `init` starts, in the loops that surround their passes: they
open a database connection each, leave their loops when `quit` is set, and are
joined by `init`, which then ends the network threads.  What a thread does
within a pass is a step of `Threads`.
-/

namespace SensorManager

variable {δ α : Type}

/-- The threads that `init` starts. -/
inductive Worker where
  | administratorRequestsExecutor
  | administratorResponsesSender
  | monitoringRequestsExecutor
  | monitoringResponsesSender
  | sensorRequestsExecutor
  deriving DecidableEq, Repr

/-- The executors work on a database connection of their own. -/
def Worker.connects : Worker → Bool
  | .administratorRequestsExecutor | .monitoringRequestsExecutor | .sensorRequestsExecutor => true
  | .administratorResponsesSender | .monitoringResponsesSender => false

/-- Where a worker stands: in `getNewConnection`, at the test of `quit`, in `pop`,
in a pass, at the `delete connection` of its catch block or at the one behind its
loop, or at its end. -/
inductive WorkerStage where
  | connecting
  | testing
  | popping
  | passing
  | reconnecting
  | leaving
  | ended
  deriving DecidableEq, Repr

/-- Where a worker goes on that has deleted its connection. -/
def WorkerStage.behindDelete : WorkerStage → Option WorkerStage
  | .reconnecting => some .connecting
  | .leaving => some .ended
  | _ => none

/-- The code of `getErrorCode` for a connection that is lost. -/
def connectionLost : Int := 3114

/-- Where an executor goes on: with the next call, with its catch block, or with
its loop. -/
def Pass.goesOn : Pass δ α → WorkerStage
  | .act .. => .passing
  | .ended (.error (.failed errorCode)) =>
      if errorCode = connectionLost then .reconnecting else .testing
  | .ended _ => .testing

/-- Where a worker goes on after its next step within a pass. -/
def Threads.goesOn (threads : Threads δ) : Worker → WorkerStage
  | .administratorRequestsExecutor =>
      (threads.administrators.executor.map fun busy => busy.2.goesOn).getD .testing
  | .monitoringRequestsExecutor =>
      (threads.monitoring.executor.map fun busy => busy.2.goesOn).getD .testing
  | .sensorRequestsExecutor => (threads.sensorExecutor.map Pass.goesOn).getD .testing
  | .administratorResponsesSender | .monitoringResponsesSender => .testing

/-- Who takes a step: a network thread, or a worker in `pop` or in a pass. -/
inductive Mover where
  | network (channel : Channel)
  | pops (worker : Worker)
  | works (worker : Worker)
  deriving DecidableEq, Repr

def Label.channel : Label → Channel
  | .accept channel .. | .lost channel _ => channel
  | .sensorFrame .. | .executeSensor .. => .sensor
  | .administratorFrame .. | .executeAdministrator .. | .sendAdministrator _ => .administrator
  | .monitoringFrame .. | .executeMonitoring | .sendMonitoring _ => .monitoring

def OutLabel.mover : OutLabel → Mover
  | .thread (.network label) => .network label.channel
  | .trySend channel .. => .network channel
  | .thread (.takeSensor ..) => .pops .sensorRequestsExecutor
  | .thread .executeSensor => .works .sensorRequestsExecutor
  | .thread (.takeAdministrator ..) => .pops .administratorRequestsExecutor
  | .thread .executeAdministrator => .works .administratorRequestsExecutor
  | .thread .pickAdministrator => .pops .administratorResponsesSender
  | .thread (.handAdministrator _) => .works .administratorResponsesSender
  | .thread .takeMonitoring => .pops .monitoringRequestsExecutor
  | .thread .executeMonitoring => .works .monitoringRequestsExecutor
  | .thread .pickMonitoring => .pops .monitoringResponsesSender
  | .thread (.handMonitoring _) => .works .monitoringResponsesSender

/-- What the main thread does. -/
inductive MainStep where
  | join (worker : Worker)
  | killHandler (channel : Channel)
  | joinNetwork (channel : Channel)
  deriving DecidableEq, Repr

/-- `init` behind the start of its threads, and `main` behind `init`. -/
def mainSteps : List MainStep :=
  [.join .monitoringRequestsExecutor, .join .monitoringResponsesSender, .killHandler .monitoring,
    .join .administratorRequestsExecutor, .join .administratorResponsesSender,
    .killHandler .administrator, .join .sensorRequestsExecutor, .killHandler .sensor,
    .joinNetwork .sensor, .joinNetwork .monitoring, .joinNetwork .administrator]

/-- What becomes of `getNewConnection`: the connection is opened, or
`createConnection` throws, or `setStmtCacheSize` does. -/
inductive Connecting where
  | opened
  | refused
  | unset
  deriving DecidableEq, Repr

/-- The server with the loops of its workers.  `connection` are their variables of
this name, and `events` what has been done with connections.  `handling` tells
the network threads that are still in `startHandling`, and `terminated` whether
`std::terminate` was called. -/
structure Program (δ : Type) : Type 1 where
  threads : Threads δ
  quit : Bool := false
  stage : Worker → WorkerStage := fun worker => if worker.connects then .connecting else .testing
  connection : Worker → Option Nat := fun _ => none
  created : Nat := 0
  events : List (HandleEvent Worker Nat) := []
  main : List MainStep := mainSteps
  killed : Channel → Bool := fun _ => false
  handling : Channel → Bool := fun _ => true
  terminated : Bool := false

inductive ProgramLabel where
  | gotSignal
  | thread (label : OutLabel)
  | test (worker : Worker)
  | connect (worker : Worker) (outcome : Connecting)
  | delete (worker : Worker) (throws : Bool)
  | main
  | endTurn (channel : Channel) (throws : Bool)

theorem Pass.goesOn_cases (process : Pass δ α) :
    process.goesOn = .testing ∨ process.goesOn = .passing ∨ process.goesOn = .reconnecting := by
  rw [Pass.goesOn.eq_def]
  split
  · exact .inr (.inl rfl)
  · split
    · exact .inr (.inr rfl)
    · exact .inl rfl
  · exact .inl rfl

/-- A sender makes one call in a pass, and never reconnects. -/
theorem Threads.goesOn_cases (threads : Threads δ) (worker : Worker) :
    threads.goesOn worker = .testing ∨ worker.connects = true ∧
      (threads.goesOn worker = .passing ∨ threads.goesOn worker = .reconnecting) := by
  have executor : ∀ {β : Type 1} {α : Type} (busy : Option β) (process : β → Pass δ α),
      (busy.map fun value => (process value).goesOn).getD .testing = .testing ∨
        ((busy.map fun value => (process value).goesOn).getD .testing = .passing ∨
          (busy.map fun value => (process value).goesOn).getD .testing = .reconnecting) := by
    intro β α busy process
    cases busy with
    | none => exact .inl rfl
    | some value => exact (process value).goesOn_cases
  cases worker with
  | administratorRequestsExecutor =>
      exact (executor _ _).imp_right fun goesOn => ⟨rfl, goesOn⟩
  | monitoringRequestsExecutor =>
      exact (executor _ _).imp_right fun goesOn => ⟨rfl, goesOn⟩
  | sensorRequestsExecutor => exact (executor _ _).imp_right fun goesOn => ⟨rfl, goesOn⟩
  | administratorResponsesSender | monitoringResponsesSender => exact .inl rfl

namespace Program

def start (content : δ) : Program δ :=
  { threads := .start content }

def goTo (program : Program δ) (worker : Worker) (stage : WorkerStage) : Program δ :=
  { program with stage := Function.update program.stage worker stage }

/-- An executor may use its connection in any call of its pass. -/
def use (program : Program δ) (worker : Worker) : Program δ :=
  { program with
    events := program.events ++
      if program.threads.goesOn worker = .passing then
        ((program.connection worker).map (.used worker)).toList
      else [] }

def thread (database : IDatabaseConnection δ) (label : OutLabel) (program : Program δ) :
    Option (Program δ) :=
  match label.mover with
  | .network channel =>
      if program.handling channel then
        (Threads.outStep database label program.threads).map fun threads =>
          { program with threads := threads }
      else none
  | .pops worker =>
      if program.stage worker = .popping then
        (Threads.outStep database label program.threads).map fun threads =>
          { program.goTo worker .passing with threads := threads }
      else none
  | .works worker =>
      if program.stage worker = .passing then
        (Threads.outStep database label program.threads).map fun threads =>
          { (program.use worker).goTo worker (program.threads.goesOn worker) with
            threads := threads }
      else none

/-- `while (!quit)`. -/
def test (worker : Worker) (program : Program δ) : Option (Program δ) :=
  if program.stage worker = .testing then
    some (program.goTo worker
      (if program.quit then if worker.connects then .leaving else .ended else .popping))
  else none

/-- `getNewConnection`.  Nobody catches what it throws. -/
def connect (worker : Worker) (outcome : Connecting) (program : Program δ) :
    Option (Program δ) :=
  if program.stage worker = .connecting then
    match outcome with
    | .refused => some { program with terminated := true }
    | .unset =>
        some { program with
          created := program.created + 1
          events := program.events ++ [.created worker program.created]
          terminated := true }
    | .opened =>
        some { program.goTo worker .testing with
          connection := Function.update program.connection worker (some program.created)
          created := program.created + 1
          events := program.events ++ [.created worker program.created] }
  else none

/-- `delete connection`, which calls `terminateConnection`.  A destructor must not
throw. -/
def delete (worker : Worker) (throws : Bool) (program : Program δ) : Option (Program δ) :=
  match (program.stage worker).behindDelete, program.connection worker with
  | some stage, some conn =>
      if throws then some { program with terminated := true }
      else
        some { program.goTo worker stage with
          events := program.events ++ [.released worker conn] }
  | _, _ => none

def mainStep (program : Program δ) : Option (Program δ) :=
  match program.main with
  | [] => none
  | .join worker :: rest =>
      if program.stage worker = .ended then some { program with main := rest } else none
  | .killHandler channel :: rest =>
      some { program with
        main := rest
        killed := Function.update program.killed channel true }
  | .joinNetwork channel :: rest =>
      if program.handling channel then none else some { program with main := rest }

/-- A network thread leaves `startHandling`: at the end of a turn, for its handler
was killed, or with an exception that its thread catches. -/
def endTurn (channel : Channel) (throws : Bool) (program : Program δ) : Option (Program δ) :=
  if program.handling channel && (throws || program.killed channel) then
    some { program with handling := Function.update program.handling channel false }
  else none

def step (database : IDatabaseConnection δ) (label : ProgramLabel) (program : Program δ) :
    Option (Program δ) :=
  if program.terminated then none
  else
    match label with
    | .gotSignal => some { program with quit := true }
    | .thread label => thread database label program
    | .test worker => test worker program
    | .connect worker outcome => connect worker outcome program
    | .delete worker throws => delete worker throws program
    | .main => mainStep program
    | .endTurn channel throws => endTurn channel throws program

/-- The states that any order of the steps leads to. -/
inductive Reachable (database : IDatabaseConnection δ) (initial : Program δ) :
    Program δ → Prop
  | start : Reachable database initial initial
  | next {before after : Program δ} (label : ProgramLabel)
      (reachable : Reachable database initial before)
      (stepped : step database label before = some after) : Reachable database initial after

/-- The steps are taken one after the other. -/
def play (database : IDatabaseConnection δ) :
    List ProgramLabel → Program δ → Option (Program δ)
  | [], program => some program
  | label :: labels, program => (step database label program).bind (play database labels)

variable {database : IDatabaseConnection δ} {initial program after : Program δ}
  {worker : Worker}

theorem Reachable.of_play {labels : List ProgramLabel}
    (reachable : Reachable database initial program)
    (played : play database labels program = some after) :
    Reachable database initial after := by
  induction labels generalizing program with
  | nil =>
      cases played
      exact reachable
  | cons label labels ih =>
      obtain ⟨middle, stepped, goesOn⟩ := Option.bind_eq_some_iff.mp played
      exact ih (reachable.next label stepped) goesOn

section Fields

@[simp] theorem goTo_threads (program : Program δ) (worker : Worker) (stage : WorkerStage) :
    (program.goTo worker stage).threads = program.threads := rfl

@[simp] theorem goTo_stage_same (program : Program δ) (worker : Worker) (stage : WorkerStage) :
    (program.goTo worker stage).stage worker = stage := by
  simp [goTo]

@[simp] theorem goTo_stage_other {other : Worker} (different : other ≠ worker)
    (program : Program δ) (stage : WorkerStage) :
    (program.goTo worker stage).stage other = program.stage other := by
  simp [goTo, different]

end Fields

/-- Every way in which a step can go. -/
inductive Moves (database : IDatabaseConnection δ) (program : Program δ) :
    ProgramLabel → Program δ → Prop
  | gotSignal : Moves database program .gotSignal { program with quit := true }
  | network {label : OutLabel} {channel : Channel} {threads : Threads δ}
      (mover : label.mover = .network channel) (handling : program.handling channel = true)
      (stepped : Threads.outStep database label program.threads = some threads) :
      Moves database program (.thread label) { program with threads := threads }
  | pops {label : OutLabel} {worker : Worker} {threads : Threads δ}
      (mover : label.mover = .pops worker) (popping : program.stage worker = .popping)
      (stepped : Threads.outStep database label program.threads = some threads) :
      Moves database program (.thread label)
        { program.goTo worker .passing with threads := threads }
  | works {label : OutLabel} {worker : Worker} {threads : Threads δ}
      (mover : label.mover = .works worker) (passing : program.stage worker = .passing)
      (stepped : Threads.outStep database label program.threads = some threads) :
      Moves database program (.thread label)
        { (program.use worker).goTo worker (program.threads.goesOn worker) with
          threads := threads }
  | stays {worker : Worker} (testing : program.stage worker = .testing)
      (goesOn : program.quit = false) :
      Moves database program (.test worker) (program.goTo worker .popping)
  | leaves {worker : Worker} (testing : program.stage worker = .testing)
      (quit : program.quit = true) :
      Moves database program (.test worker)
        (program.goTo worker (if worker.connects then .leaving else .ended))
  | connects {worker : Worker} (connecting : program.stage worker = .connecting) :
      Moves database program (.connect worker .opened)
        { program.goTo worker .testing with
          connection := Function.update program.connection worker (some program.created)
          created := program.created + 1
          events := program.events ++ [.created worker program.created] }
  | refused {worker : Worker} (connecting : program.stage worker = .connecting) :
      Moves database program (.connect worker .refused) { program with terminated := true }
  | unset {worker : Worker} (connecting : program.stage worker = .connecting) :
      Moves database program (.connect worker .unset)
        { program with
          created := program.created + 1
          events := program.events ++ [.created worker program.created]
          terminated := true }
  | deletes {worker : Worker} {stage : WorkerStage} {conn : Nat}
      (behind : (program.stage worker).behindDelete = some stage)
      (connected : program.connection worker = some conn) :
      Moves database program (.delete worker false)
        { program.goTo worker stage with
          events := program.events ++ [.released worker conn] }
  | deleteThrows {worker : Worker} {stage : WorkerStage} {conn : Nat}
      (behind : (program.stage worker).behindDelete = some stage)
      (connected : program.connection worker = some conn) :
      Moves database program (.delete worker true) { program with terminated := true }
  | joins {worker : Worker} {rest : List MainStep} (next : program.main = .join worker :: rest)
      (ended : program.stage worker = .ended) :
      Moves database program .main { program with main := rest }
  | kills {channel : Channel} {rest : List MainStep}
      (next : program.main = .killHandler channel :: rest) :
      Moves database program .main
        { program with
          main := rest
          killed := Function.update program.killed channel true }
  | joinsNetwork {channel : Channel} {rest : List MainStep}
      (next : program.main = .joinNetwork channel :: rest)
      (left : program.handling channel = false) :
      Moves database program .main { program with main := rest }
  | endsTurn {channel : Channel} {throws : Bool} (handling : program.handling channel = true)
      (ends : throws = true ∨ program.killed channel = true) :
      Moves database program (.endTurn channel throws)
        { program with handling := Function.update program.handling channel false }

theorem moves_of_thread {label : OutLabel} (stepped : thread database label program = some after) :
    Moves database program (.thread label) after := by
  unfold thread at stepped
  split at stepped
  · next channel mover =>
      split at stepped
      · next handling =>
          obtain ⟨threads, moved, rfl⟩ := Option.map_eq_some_iff.mp stepped
          exact .network mover handling moved
      · cases stepped
  · next worker mover =>
      split at stepped
      · next popping =>
          obtain ⟨threads, moved, rfl⟩ := Option.map_eq_some_iff.mp stepped
          exact .pops mover popping moved
      · cases stepped
  · next worker mover =>
      split at stepped
      · next passing =>
          obtain ⟨threads, moved, rfl⟩ := Option.map_eq_some_iff.mp stepped
          exact .works mover passing moved
      · cases stepped

theorem moves_of_step {label : ProgramLabel} (stepped : step database label program = some after) :
    program.terminated = false ∧ Moves database program label after := by
  unfold step at stepped
  split at stepped
  · cases stepped
  · next alive =>
      refine ⟨by simpa using alive, ?_⟩
      cases label with
      | gotSignal =>
          cases stepped
          exact .gotSignal
      | thread label => exact moves_of_thread stepped
      | test worker =>
          simp only [test] at stepped
          split at stepped
          · next testing =>
              cases stepped
              split
              · next quit => exact .leaves testing quit
              · next goesOn => exact .stays testing (by simpa using goesOn)
          · cases stepped
      | connect worker outcome =>
          simp only [connect] at stepped
          split at stepped
          · next connecting =>
              cases outcome with
              | opened =>
                  cases stepped
                  exact .connects connecting
              | refused =>
                  cases stepped
                  exact .refused connecting
              | unset =>
                  cases stepped
                  exact .unset connecting
          · cases stepped
      | delete worker throws =>
          simp only [delete] at stepped
          split at stepped
          · next stage conn behind connected =>
              cases throws with
              | false =>
                  cases stepped
                  exact .deletes behind connected
              | true =>
                  cases stepped
                  exact .deleteThrows behind connected
          · cases stepped
      | main =>
          simp only [mainStep] at stepped
          split at stepped
          · cases stepped
          · next worker rest next =>
              split at stepped
              · next ended =>
                  cases stepped
                  exact .joins next ended
              · cases stepped
          · next channel rest next =>
              cases stepped
              exact .kills next
          · next channel rest next =>
              split at stepped
              · cases stepped
              · next left =>
                  cases stepped
                  exact .joinsNetwork next (by simpa using left)
      | endTurn channel throws =>
          simp only [endTurn] at stepped
          split at stepped
          · next ends =>
              cases stepped
              simp only [Bool.and_eq_true, Bool.or_eq_true] at ends
              exact .endsTurn ends.1 ends.2
          · cases stepped

/-- A run of the program is a run of its threads. -/
theorem Reachable.outRun {content : δ}
    (reachable : Reachable database (Program.start content) program) :
    Threads.OutRun database (fun _ _ => True) (Threads.start content) program.threads := by
  induction reachable with
  | start => exact .start
  | next label _ stepped ih =>
      cases (moves_of_step stepped).2 with
      | network _ _ moved | pops _ _ moved | works _ _ moved => exact ih.next _ moved trivial
      | gotSignal | stays | leaves | connects | refused | unset | deletes | deleteThrows | joins
      | kills | joinsNetwork | endsTurn => exact ih

end Program

end SensorManager
