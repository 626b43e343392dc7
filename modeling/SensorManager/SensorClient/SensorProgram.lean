import SensorManager.SensorClient.InitFirst
import SensorManager.Server.Measurements

/-!
# The sensor program as a whole

`main` starts `sensorThread` and goes through `startHandling` itself.  The
listener stops both when the server rejects the sensor, and sets the clock that
measurements are stamped with when the server accepts it.
-/

namespace SensorManager

/-- Where `sensorThread` stands: at the test of `isKilled`, before `getMeasure`, in
`sleepMillis` with the measure, in `send`, or at its end. -/
inductive SensorThread where
  | testing
  | measuring
  | sleeping (timestamp value : Int)
  | sending
  | ended
  deriving DecidableEq, Repr

/-- Where `main` stands behind the start of the thread.  An exception that leaves
`startHandling` destroys a thread that is joinable, which terminates the
program.  So does the `SIGPIPE` of a `::send` to a connection that the server has
reset, which nothing handles. -/
inductive SensorMain where
  | blocking
  | handling
  | joined
  | terminated
  | signalled
  deriving DecidableEq, Repr

/-- What `getMeasure` has returned, and what it was based on: the clock of the
server at that moment, and how long the message that set the offset had been on
its way. -/
structure Measure where
  timestamp : Int
  value : Int
  time : Int
  delay : Option Int
  deriving DecidableEq, Repr

/-- The program, with the clock of the server and what the sensor's own clock is
ahead of it.  A `long` has `longBits` bits, 32 on Windows and 64 elsewhere.
`delay` and `measures` are not part of the program. -/
structure SensorProgram where
  loop : SensorLoop := .start
  thread : SensorThread := .testing
  main : SensorMain := .blocking
  timeOffset : Int := 0
  time : Int
  drift : Int
  longBits : Nat
  delay : Option Int := none
  measures : List Measure := []

/-- `sigpipe` stands for a `::send` that does not return. -/
inductive SensorLabel where
  | tick (millis : Nat)
  | blockSendOnInit
  | network (answer : Answer)
  | test
  | measure (value : Int)
  | wake
  | send (step : SendStep)
  | sigpipe
  | join

/-- Where `main` stands behind a stage of `startHandling`. -/
def SensorStage.main : SensorStage → SensorMain
  | .left (some _) => .terminated
  | _ => .handling

namespace SensorLoop

/-- What the listener hears in a step of the network thread. -/
def heard (loop : SensorLoop) (answer : Answer) : Option NetworkListener.Status :=
  if loop.stage = .tryRecv && loop.client.isConnected && loop.readyIn then
    match (loop.client.recvData answer.received answer.beyond).1 with
    | .ok (_, some msg) => some (NetworkListener.onGotRequest msg answer.beyond)
    | _ => none
  else none

end SensorLoop

namespace SensorProgram

/-- `getPosixTime`. -/
def posixTime (program : SensorProgram) : Int :=
  program.time + program.drift

/-- The conversion to `long`. -/
def toLong (program : SensorProgram) (value : Int) : Int :=
  value.bmod (2 ^ program.longBits)

/-- `setCurTime`, when the server has accepted the sensor. -/
def hear (program : SensorProgram) : Option NetworkListener.Status → SensorProgram
  | some (.accepted serverTime) =>
      { program with
        timeOffset := program.toLong (program.toLong serverTime - program.posixTime)
        delay := some (program.time - serverTime) }
  | _ => program

def network (token : List UInt8) (answer : Answer) (program : SensorProgram) :
    Option SensorProgram :=
  if program.main = .handling then
    (SensorLoop.startHandling token answer program.loop).map fun loop =>
      { program.hear (program.loop.heard answer) with
        loop := loop
        main := loop.stage.main }
  else none

/-- `while (!listener->isKilled())`. -/
def test (program : SensorProgram) : Option SensorProgram :=
  if program.thread = .testing then
    some { program with thread := if program.loop.killed then .ended else .measuring }
  else none

def measure (value : Int) (program : SensorProgram) : Option SensorProgram :=
  if program.thread = .measuring then
    let timestamp := program.posixTime + program.timeOffset
    some { program with
      thread := .sleeping timestamp value
      measures := program.measures ++ [{
        timestamp := timestamp
        value := value
        time := program.time
        delay := program.delay }] }
  else none

/-- A step of `send`, behind which the thread goes back to its loop if it has left
`addOutMsg`. -/
def sendStep (token : List UInt8) (step : SendStep) (program : SensorProgram) :
    Option SensorProgram :=
  (SensorLoop.turn token (.sender 0 step) program.loop).map fun loop =>
    { program with
      loop := loop
      thread := if loop.senders 0 = .idle then .testing else .sending }

/-- The thread wakes up and calls `send`. -/
def wake (token : List UInt8) (program : SensorProgram) : Option SensorProgram :=
  match program.thread with
  | .sleeping timestamp value => program.sendStep token (.addOutMsg (measureMsg timestamp value))
  | _ => none

def send (token : List UInt8) (step : SendStep) (program : SensorProgram) :
    Option SensorProgram :=
  if program.thread = .sending then program.sendStep token step else none

/-- The network thread or `sensorThread` is about to call `::send`. -/
def callsSend (program : SensorProgram) : Bool :=
  (program.main = .handling && program.loop.stage = .trySend &&
    program.loop.client.isConnected && program.loop.readyOut) ||
  (program.thread = .sending && program.loop.senders 0 = .sending)

def sigpipe (program : SensorProgram) : Option SensorProgram :=
  if program.callsSend then some { program with main := .signalled } else none

/-- `t.join()`, behind which the listener and the handler are deleted. -/
def join (program : SensorProgram) : Option SensorProgram :=
  if program.main = .handling && program.loop.stage = .left none && program.thread = .ended then
    some { program with main := .joined }
  else none

def step (token : List UInt8) (label : SensorLabel) (program : SensorProgram) :
    Option SensorProgram :=
  if program.main = .terminated || program.main = .signalled then none
  else
    match label with
    | .tick millis => some { program with time := program.time + millis }
    | .blockSendOnInit =>
        if program.main = .blocking then
          (SensorLoop.turn token .blockSendOnInit program.loop).map fun loop =>
            { program with loop := loop, main := .handling }
        else none
    | .network answer => program.network token answer
    | .test => program.test
    | .measure value => program.measure value
    | .wake => program.wake token
    | .send step => program.send token step
    | .sigpipe => program.sigpipe
    | .join => program.join

def Steps (token : List UInt8) (program : SensorProgram) (label : SensorLabel)
    (after : SensorProgram) : Prop :=
  step token label program = some after

def start (time drift : Int) (longBits : Nat := 64) : SensorProgram :=
  { time := time, drift := drift, longBits := longBits }

variable {token : List UInt8} {program after : SensorProgram}

/-- Every way in which a step can go. -/
inductive Moves (token : List UInt8) (program : SensorProgram) :
    SensorLabel → SensorProgram → Prop
  | tick (millis : Nat) :
      Moves token program (.tick millis) { program with time := program.time + millis }
  | blockSendOnInit (blocking : program.main = .blocking) :
      Moves token program .blockSendOnInit
        { program with
          loop := { program.loop with blockingSendOnInit := true }
          main := .handling }
  | network {answer : Answer} {loop : SensorLoop} (handling : program.main = .handling)
      (stepped : SensorLoop.startHandling token answer program.loop = some loop) :
      Moves token program (.network answer)
        { program.hear (program.loop.heard answer) with loop := loop, main := loop.stage.main }
  | leaves (testing : program.thread = .testing) (killed : program.loop.killed = true) :
      Moves token program .test { program with thread := .ended }
  | stays (testing : program.thread = .testing) (goesOn : program.loop.killed = false) :
      Moves token program .test { program with thread := .measuring }
  | measure {value : Int} (measuring : program.thread = .measuring) :
      Moves token program (.measure value)
        { program with
          thread := .sleeping (program.posixTime + program.timeOffset) value
          measures := program.measures ++ [{
            timestamp := program.posixTime + program.timeOffset
            value := value
            time := program.time
            delay := program.delay }] }
  | wake {timestamp value : Int} {after : SensorProgram}
      (sleeping : program.thread = .sleeping timestamp value)
      (sent : program.sendStep token (.addOutMsg (measureMsg timestamp value)) = some after) :
      Moves token program .wake after
  | send {step : SendStep} {after : SensorProgram} (sending : program.thread = .sending)
      (sent : program.sendStep token step = some after) : Moves token program (.send step) after
  | sigpipe (calls : program.callsSend = true) :
      Moves token program .sigpipe { program with main := .signalled }
  | join (handling : program.main = .handling) (left : program.loop.stage = .left none)
      (ended : program.thread = .ended) :
      Moves token program .join { program with main := .joined }

theorem Steps.moves {label : SensorLabel} (stepped : Steps token program label after) :
    Moves token program label after := by
  unfold Steps step at stepped
  split at stepped
  · cases stepped
  · cases label with
      | tick millis =>
          cases stepped
          exact .tick millis
      | blockSendOnInit =>
          dsimp only at stepped
          split at stepped
          · next blocking =>
              cases stepped
              exact .blockSendOnInit blocking
          · cases stepped
      | network answer =>
          simp only [network] at stepped
          split at stepped
          · next handling =>
              obtain ⟨loop, turned, rfl⟩ := Option.map_eq_some_iff.mp stepped
              exact .network handling turned
          · cases stepped
      | test =>
          simp only [test] at stepped
          split at stepped
          · next testing =>
              cases stepped
              cases killed : program.loop.killed with
              | true => exact .leaves testing killed
              | false => exact .stays testing killed
          · cases stepped
      | measure value =>
          simp only [measure] at stepped
          split at stepped
          · next measuring =>
              cases stepped
              exact .measure measuring
          · cases stepped
      | wake =>
          simp only [wake] at stepped
          split at stepped
          · next timestamp value sleeping => exact .wake sleeping stepped
          · cases stepped
      | send step =>
          simp only [send] at stepped
          split at stepped
          · next sending => exact .send sending stepped
          · cases stepped
      | sigpipe =>
          simp only [sigpipe] at stepped
          split at stepped
          · next calls =>
              cases stepped
              exact .sigpipe calls
          · cases stepped
      | join =>
          simp only [join] at stepped
          split at stepped
          · next ends =>
              cases stepped
              simp only [Bool.and_eq_true, decide_eq_true_eq] at ends
              exact .join ends.1.1 ends.1.2 ends.2
          · cases stepped

end SensorProgram

end SensorManager
