import SensorManager.JavaClient.Answered
import SensorManager.JavaClient.Selection
import SensorManager.Lib.Latest
import SensorManager.Lib.Trace
import SensorManager.Server.Overview

/-!
# The table of the monitoring client

A list of sensors replaces the one of the model and refreshes the table on the
thread of the network.  A double click reads the table and the sensors on the
thread of the user interface.  Either of them may run between two accesses of the
other.
-/

namespace SensorManager.JavaClient.Monitoring

/-- The list of sensors, if the call has one. -/
def ResponseExecutor.list : ResponseExecutor → Option (List Sensor)
  | .executeResponseGetAllSensors sensors => some sensors
  | .executeResponseGetSetOfMeasurements _ => none

/-- What is left of `executeResponseGetAllSensors`: the whole of
`refreshSensorTable`, what follows its loop, or the body of its `if`. -/
inductive Refresh where
  | returned
  | table
  | contains
  | deselect
  deriving DecidableEq, Repr

/-- What is left of `tableClicked`. -/
inductive Click where
  | returned
  | find (id : Int)
  | select (sensor : Option Sensor)
  | enable
  deriving DecidableEq, Repr

/-- The list of the calls is not part of the program. -/
structure Window where
  controller : Controller := {}
  refresh : Refresh := .returned
  click : Click := .returned
  executed : List ResponseExecutor := []
  deriving DecidableEq, Repr

inductive WindowLabel where
  | response (response : ResponseExecutor)
  | refreshSensorTable
  | tableClicked (row : Nat)
  | changeCurrentSensor
  | loadData
  deriving DecidableEq, Repr

namespace Window

/-- The thread of the network calls the `ResponseExecutor`. -/
def respond (response : ResponseExecutor) (window : Window) : Option Window :=
  if window.refresh = .returned then
    match response with
    | .executeResponseGetAllSensors sensors =>
        some { window with
          controller := { window.controller with
            model := { window.controller.model with sensors := sensors } }
          refresh := .table
          executed := window.executed ++ [response] }
    | .executeResponseGetSetOfMeasurements _ =>
        some { window with executed := window.executed ++ [response] }
  else none

/-- It goes on with the refresh. -/
def refreshSensorTable (window : Window) : Option Window :=
  let controller := window.controller
  match window.refresh with
  | .returned => none
  | .table =>
      some { window with
        controller := { controller with
          sensorsTable := controller.model.sensors.map SensorTable.ofSensor }
        refresh := .contains }
  | .contains =>
      some { window with
        refresh := if controller.model.containsCurrent then .returned else .deselect }
  | .deselect =>
      some { window with
        controller := { controller with
          model := controller.model.changeCurrentSensor none
          loadDataDisabled := true }
        refresh := .returned }

def tableClicked (row : Nat) (window : Window) : Option Window :=
  match window.click with
  | .returned =>
      match window.controller.sensorsTable[row]? with
      | none => some window
      | some selectedSensor => some { window with click := .find selectedSensor.sensorId }
  | _ => none

/-- The thread of the user interface goes on with the click. -/
def changeCurrentSensor (window : Window) : Option Window :=
  let controller := window.controller
  match window.click with
  | .returned => none
  | .find id =>
      some { window with click := .select (controller.model.findSensorById (some id)) }
  | .select sensor =>
      some { window with
        controller := { controller with
          model := { controller.model with currentDisplayedSensor := sensor } }
        click := .enable }
  | .enable =>
      some { window with
        controller := { controller with loadDataDisabled := false }
        click := .returned }

/-- What `loadData` does to the window: nothing, if a sensor is selected. -/
def loadData (window : Window) : Option Window :=
  if window.click = .returned then
    match window.controller.model.currentDisplayedSensor with
    | none =>
        some { window with controller := { window.controller with loadDataDisabled := true } }
    | some _ => some window
  else none

def step : WindowLabel → Window → Option Window
  | .response response => respond response
  | .refreshSensorTable => refreshSensorTable
  | .tableClicked row => tableClicked row
  | .changeCurrentSensor => changeCurrentSensor
  | .loadData => loadData

def Steps (before : Window) (label : WindowLabel) (after : Window) : Prop :=
  step label before = some after

/-- Some list that has come has the sensor. -/
def Listed (window : Window) (sensor : Sensor) : Prop :=
  ∃ response ∈ window.executed, ∃ sensors, response.list = some sensors ∧ sensor ∈ sensors

/-- The model has the last list, and so has the table unless it is still to be
filled.  What is selected was in some list, not always in the last one. -/
structure Sound (window : Window) : Prop where
  sensors : window.controller.model.sensors =
    (latest ResponseExecutor.list window.executed).getD []
  table : window.refresh ≠ .table → window.controller.sensorsTable =
    window.controller.model.sensors.map SensorTable.ofSensor
  known : ∀ sensor ∈ window.controller.model.sensors, window.Listed sensor
  selected : ∀ sensor, window.controller.model.currentDisplayedSensor = some sensor →
    window.Listed sensor
  selecting : ∀ sensor, window.click = .select (some sensor) → window.Listed sensor

variable {window after : Window} {label : WindowLabel} {sensor : Sensor}

theorem sound_start : Sound {} where
  sensors := rfl
  table _ := rfl
  known := by simp
  selected := by simp
  selecting := by simp

theorem Listed.more {response : ResponseExecutor} (listed : window.Listed sensor)
    (executed : after.executed = window.executed ++ [response]) : after.Listed sensor := by
  obtain ⟨earlier, member, among⟩ := listed
  refine ⟨earlier, ?_, among⟩
  rw [executed]
  exact List.mem_append_left _ member

theorem Sound.respond {response : ResponseExecutor} (sound : window.Sound)
    (stepped : window.respond response = some after) : after.Sound := by
  unfold Window.respond at stepped
  split at stepped
  · cases response with
    | executeResponseGetAllSensors sensors =>
        cases stepped
        have isLast : latest ResponseExecutor.list
            (window.executed ++ [.executeResponseGetAllSensors sensors]) = some sensors :=
          latest_append_some rfl
        refine ⟨?_, fun filled => absurd rfl filled, fun sensor member => ?_, ?_, ?_⟩
        · dsimp only
          rw [isLast, Option.getD_some]
        · exact ⟨_, List.mem_append_right _ (List.mem_singleton_self _), sensors, rfl, member⟩
        · exact fun sensor isCurrent => (sound.selected sensor isCurrent).more rfl
        · exact fun sensor isFound => (sound.selecting sensor isFound).more rfl
    | executeResponseGetSetOfMeasurements measurements =>
        cases stepped
        have same : latest ResponseExecutor.list
            (window.executed ++ [.executeResponseGetSetOfMeasurements measurements]) =
              latest ResponseExecutor.list window.executed := latest_append_none rfl
        refine ⟨?_, sound.table, ?_, ?_, ?_⟩
        · dsimp only
          rw [same]
          exact sound.sensors
        · exact fun sensor member => (sound.known sensor member).more rfl
        · exact fun sensor isCurrent => (sound.selected sensor isCurrent).more rfl
        · exact fun sensor isFound => (sound.selecting sensor isFound).more rfl
  · cases stepped

theorem Sound.refreshSensorTable (sound : window.Sound)
    (stepped : window.refreshSensorTable = some after) : after.Sound := by
  unfold Window.refreshSensorTable at stepped
  dsimp only at stepped
  split at stepped
  · cases stepped
  · cases stepped
    exact ⟨sound.sensors, fun _ => rfl, sound.known, sound.selected, sound.selecting⟩
  · next isContains =>
      cases stepped
      have table := sound.table (by simp [isContains])
      exact ⟨sound.sensors, fun _ => table, sound.known, sound.selected, sound.selecting⟩
  · next isDeselect =>
      cases stepped
      have table := sound.table (by simp [isDeselect])
      refine ⟨sound.sensors, fun _ => table, sound.known, ?_, sound.selecting⟩
      intro sensor isCurrent
      -- No sensor has `null` for its id.
      have nothing : window.controller.model.findSensorById none = some sensor := isCurrent
      rw [Controller.findSensorById_null] at nothing
      cases nothing

theorem Sound.tableClicked {row : Nat} (sound : window.Sound)
    (stepped : window.tableClicked row = some after) : after.Sound := by
  unfold Window.tableClicked at stepped
  split at stepped
  · split at stepped
    · cases stepped
      exact sound
    · cases stepped
      exact ⟨sound.sensors, sound.table, sound.known, sound.selected, by simp⟩
  · cases stepped

theorem Sound.changeCurrentSensor (sound : window.Sound)
    (stepped : window.changeCurrentSensor = some after) : after.Sound := by
  unfold Window.changeCurrentSensor at stepped
  dsimp only at stepped
  split at stepped
  · cases stepped
  · next id _ =>
      cases stepped
      refine ⟨sound.sensors, sound.table, sound.known, sound.selected, ?_⟩
      intro sensor isFound
      have found : window.controller.model.findSensorById (some id) = some sensor := by
        simpa using isFound
      exact sound.known sensor (List.mem_of_find?_eq_some found)
  · next isSelect =>
      cases stepped
      refine ⟨sound.sensors, sound.table, sound.known, ?_, by simp⟩
      rintro sensor rfl
      exact sound.selecting sensor isSelect
  · cases stepped
    exact ⟨sound.sensors, sound.table, sound.known, sound.selected, by simp⟩

theorem Sound.loadData (sound : window.Sound) (stepped : window.loadData = some after) :
    after.Sound := by
  unfold Window.loadData at stepped
  split at stepped
  · split at stepped
    · cases stepped
      exact ⟨sound.sensors, sound.table, sound.known, sound.selected, sound.selecting⟩
    · cases stepped
      exact sound
  · cases stepped

theorem Sound.step (sound : window.Sound) (stepped : step label window = some after) :
    after.Sound := by
  cases label with
  | response response => exact sound.respond stepped
  | refreshSensorTable => exact sound.refreshSensorTable stepped
  | tableClicked row => exact sound.tableClicked stepped
  | changeCurrentSensor => exact sound.changeCurrentSensor stepped
  | loadData => exact sound.loadData stepped

/-- Whatever the order of the steps. -/
theorem sound_run {steps : List (Transition Window WindowLabel)}
    (trace : Trace Steps {} steps window) : window.Sound :=
  (trace.keeps sound_start fun _ _ _ stepped sound => sound.step stepped).1

end Window

theorem list_executed (response : MonitoringResponse) :
    (executed response).list =
      if response.commandType = .getAllSensorsMonitoring then
        some (response.sensors.map ofServer)
      else none := by
  unfold executed
  cases response.commandType with
  | getAllSensorsMonitoring => rfl
  | getSetOfMeasurements => rfl

section EndToEnd

open ClientHandler Framing SerializerMonitoringMessage

variable {δ : Type} {database : IDatabaseConnection δ}
  {meets : Threads δ → Threads δ → Prop} {content : δ} {threads moment : Threads δ}
  {window : Window}

/-- The executor of the server is at the question, and the query returns the
sensors. -/
structure Overview (database : IDatabaseConnection δ) (moment : Threads δ)
    (stamped : Stamped MonitoringRequest) (sensors : List SensorManager.Sensor) : Prop where
  executor : ∃ process, moment.monitoring.executor = some (stamped, process)
  queried : ∃ changed, database.getAllSensorsWithMeasurements.runOn moment.server.database =
    some (.ok sensors, changed)

/-- The list of an answer was read at a moment of the run. -/
theorem overview_of_executed
    {earlier : List (Stamped MonitoringRequest × Except SQLException (Stamped MonitoringResponse))}
    {question : Stamped MonitoringRequest × Stamped MonitoringResponse}
    (returned : Threads.MonitoringExecuted database meets (Threads.start content) threads earlier
      question.1 question.2.request)
    {sensors : List Sensor} (list : (executed question.2.request).list = some sensors) :
    ∃ moment found, Threads.OutRun database meets (Threads.start content) moment ∧
      Threads.OutRun database meets moment threads ∧
      Overview database moment question.1 found ∧ sensors = found.map ofServer := by
  rw [list_executed] at list
  split at list
  · next command =>
      rw [commandType_of_executed returned] at command
      cases list
      obtain ⟨moment, started, goesOn, executor, -, queried⟩ :=
        (Threads.monitoringLists command returned).outRuns
      exact ⟨moment, _, started, goesOn, ⟨executor, queried⟩, rfl⟩
  · cases list

/-- So was one that has a sensor, whichever answer it came with. -/
theorem overview_of_listed {conn : Nat}
    {served : List (Stamped MonitoringRequest × Stamped MonitoringResponse)}
    (answers : threads.monitoring.Answers
      (Threads.MonitoringExecuted database meets (Threads.start content) threads) conn served)
    (executes : window.executed = served.map fun pair => executed pair.2.request)
    {shown : Sensor} (listed : window.Listed shown) :
    ∃ question ∈ served, ∃ moment sensors,
      Threads.OutRun database meets (Threads.start content) moment ∧
      Threads.OutRun database meets moment threads ∧
      Overview database moment question.1 sensors ∧
      ∃ sensor ∈ sensors, shown = ofServer sensor := by
  obtain ⟨response, isCalled, sensors, list, among⟩ := listed
  rw [executes] at isCalled
  obtain ⟨question, member, rfl⟩ := List.mem_map.mp isCalled
  obtain ⟨_, _, -, returned⟩ := answers.split member
  obtain ⟨moment, found, started, goesOn, overview, rfl⟩ := overview_of_executed returned list
  obtain ⟨sensor, isFound, rfl⟩ := List.mem_map.mp among
  exact ⟨question, member, moment, found, started, goesOn, overview, sensor, isFound, rfl⟩

/-- Whatever the threads of the server, the network and the threads of the client
do: unless the table is being filled, it is empty and no list has been answered,
or it lists the sensors that the database gave at one moment of the run, when the
executor was at the question of this monitor that the last list answers.  Of the
sensor that is selected there was such a moment, too. -/
theorem table_lists_overview
    (run : Threads.OutRun database Threads.HandsToAsker (Threads.start content) threads)
    {slot : Int} {conn : Nat} (held : threads.server.holder .monitoring slot = some conn)
    (sendable : ∀ response ∈ threads.monitoring.handed, response.conn = conn →
      Sendable response.request ∧
        (serializeResponseMessage response.request).length ≤ responseFormat.limit)
    {events : List ReadEvent}
    (arrived : received events <+: threads.server.taken .monitoring conn)
    (whole : WholeFrames events)
    {steps : List (Transition Window WindowLabel)} (trace : Trace Window.Steps {} steps window)
    (called : window.executed =
      calls analyzeResponse (ClientHandler.run (returns analyzeResponse) events))
    (filled : window.refresh ≠ .table) :
    ∃ served, threads.monitoring.Answers
        (Threads.MonitoringExecuted database Threads.HandsToAsker (Threads.start content) threads)
        conn served ∧
      window.executed = served.map (fun pair => executed pair.2.request) ∧
      (((∀ pair ∈ served, pair.1.request.commandType ≠ .getAllSensorsMonitoring) ∧
          window.controller.sensorsTable = []) ∨
        ∃ first question last moment sensors, served = first ++ question :: last ∧
          (∀ pair ∈ last, pair.1.request.commandType ≠ .getAllSensorsMonitoring) ∧
          Threads.OutRun database Threads.HandsToAsker (Threads.start content) moment ∧
          Threads.OutRun database Threads.HandsToAsker moment threads ∧
          Overview database moment question.1 sensors ∧
          window.controller.sensorsTable =
            sensors.map fun sensor => .ofSensor (ofServer sensor)) ∧
      (∀ selected, window.controller.model.currentDisplayedSensor = some selected →
        ∃ question ∈ served, ∃ moment sensors,
          Threads.OutRun database Threads.HandsToAsker (Threads.start content) moment ∧
          Threads.OutRun database Threads.HandsToAsker moment threads ∧
          Overview database moment question.1 sensors ∧
          ∃ sensor ∈ sensors, selected = ofServer sensor) := by
  obtain ⟨-, served, answers, calledWith, -⟩ := executes_answers run.delivers.monitoring
    run.outbound.sound.monitoring (run.monitoringPasses.all rfl) held (decodes_sendable sendable)
    (run.whole held) arrived whole
  have sameCommand : ∀ pair ∈ served,
      pair.2.request.commandType = pair.1.request.commandType := by
    intro pair member
    obtain ⟨_, _, -, returned⟩ := answers.split member
    exact commandType_of_executed returned
  have sound := Window.sound_run trace
  have executes := called.trans calledWith
  have noList : ∀ pair ∈ served, (executed pair.2.request).list = none →
      pair.1.request.commandType ≠ .getAllSensorsMonitoring := by
    intro pair member none_ command
    rw [list_executed, sameCommand pair member, if_pos command] at none_
    cases none_
  have table := sound.table filled
  rw [sound.sensors, executes, latest_map] at table
  refine ⟨served, answers, executes, ?_, ?_⟩
  · rcases latest_cases (fun pair => (executed pair.2.request).list) served with
      ⟨noLists, empty⟩ | ⟨first, question, last, sensors, rfl, noLists, list, isLast⟩
    · rw [empty] at table
      exact .inl ⟨fun pair member => noList pair member (noLists pair member), table⟩
    · have member : question ∈ first ++ question :: last := by simp
      obtain ⟨_, _, -, returned⟩ := answers.split member
      obtain ⟨moment, found, started, goesOn, overview, rfl⟩ := overview_of_executed returned list
      rw [isLast, Option.getD_some, List.map_map] at table
      refine .inr ⟨first, question, last, moment, found, rfl, ?_, started, goesOn, overview,
        table⟩
      exact fun pair later => noList pair (by simp [later]) (noLists pair later)
  · intro selected isCurrent
    exact overview_of_listed answers executes (sound.selected selected isCurrent)

/-- An active sensor with the name "A" and a measurement. -/
def oneMeasured : Registry :=
  { rows := [{
      id := 1
      token := [116]
      columns := { name := [65], ip := [49], port := 7, status := .active } }]
    measurements := [(1, 20, 1000)] }

def overviewReadings : Readings :=
  { Readings.nothing with
    latest := fun registry => Registry.OrderById.stable.arrange (registry.joined fun _ => []) }

def overviewAsked : List OutLabel :=
  [.thread (.network (.accept .monitoring 0 5 .zero)),
    .thread (.network (.monitoringFrame 0
      { clientId := 0, commandType := .getAllSensorsMonitoring })),
    .thread .takeMonitoring, .thread .executeMonitoring, .thread .executeMonitoring,
    .thread .pickMonitoring, .thread (.handMonitoring 100)]

def overviewResponse : MonitoringResponse :=
  { clientId := 0
    commandType := .getAllSensorsMonitoring
    sensors := [{
      id := 1
      name := [65]
      ip := [49]
      port := 7
      currentMeasurement := { value := 20, label := [] } }] }

def overviewRead : List ReadEvent :=
  [.channelRead0 ([46, 0, 0, 0] ++ serializeResponseMessage overviewResponse),
    .channelReadComplete]

/-- The list arrives, and the user selects its sensor. -/
def overviewClicked : List WindowLabel :=
  [.response (executed overviewResponse), .refreshSensorTable, .refreshSensorTable,
    .tableClicked 0, .refreshSensorTable, .changeCurrentSensor, .changeCurrentSensor,
    .changeCurrentSensor]

theorem sendable_overviewResponse : Sendable overviewResponse ∧
    (serializeResponseMessage overviewResponse).length ≤ responseFormat.limit := by
  refine ⟨?_, by decide⟩
  rintro sensor (_ | ⟨_, ⟨⟩⟩)
  exact ⟨by decide, by decide, by decide, by decide, by decide⟩

theorem wholeFrames_overviewRead : WholeFrames overviewRead := by
  apply wholeFrames_singleRead (serializeResponseMessage overviewResponse)
  · exact ⟨serializeResponseMessage_ne_nil _, sendable_overviewResponse.2⟩
  · decide

theorem table_lists_overview_clicked :
    ∃ (threads moment : Threads Registry) (stamped : Stamped MonitoringRequest)
      (sensors : List SensorManager.Sensor) (window : Window),
      Threads.OutRun (Registry.connection .counting overviewReadings) Threads.HandsToAsker
        (Threads.start oneMeasured) moment ∧
      Threads.OutRun (Registry.connection .counting overviewReadings) Threads.HandsToAsker
        moment threads ∧
      Overview (Registry.connection .counting overviewReadings) moment stamped sensors ∧
      window.controller.sensorsTable =
        sensors.map (fun sensor => .ofSensor (ofServer sensor)) ∧
      window.controller.sensorsTable.map (fun row =>
        (row.sensorId, row.sensorCurrentMeasurement)) = [(1, 20)] ∧
      window.controller.selectedId = some 1 := by
  let database := Registry.connection .counting overviewReadings
  let played := Threads.playOut database Threads.askersHold overviewAsked
    (Threads.start oneMeasured)
  have finished : played.map (fun threads => (threads.server.holder .monitoring 0,
      threads.server.taken .monitoring 0)) =
      some (some 0, received overviewRead) := by decide +kernel
  have answered : played.map (fun threads => threads.monitoring.handed.map (·.request)) =
      some [overviewResponse] := by decide +kernel
  obtain ⟨threads, wasPlayed, facts⟩ := Option.map_eq_some_iff.mp finished
  rw [wasPlayed, Option.map_some, Option.some.injEq] at answered
  simp only [Prod.mk.injEq] at facts
  obtain ⟨held, taken⟩ := facts
  have run := Threads.OutRun.start.of_playOut Threads.handsToAsker_of_askersHold wasPlayed
  have sendable : ∀ response ∈ threads.monitoring.handed, response.conn = 0 →
      Sendable response.request ∧
        (serializeResponseMessage response.request).length ≤ responseFormat.limit := by
    intro response member _
    have among : response.request ∈ threads.monitoring.handed.map (·.request) :=
      List.mem_map_of_mem member
    rw [answered, List.mem_singleton] at among
    rw [among]
    exact sendable_overviewResponse
  have arrived : received overviewRead <+: threads.server.taken .monitoring 0 := by
    rw [taken]
  have clicked : (follow Window.step overviewClicked {}).map (fun followed =>
      (followed.2.refresh, followed.2.controller.selectedId,
        followed.2.controller.sensorsTable.map fun row =>
          (row.sensorId, row.sensorCurrentMeasurement))) =
      some (.returned, some 1, [(1, 20)]) := by decide +kernel
  have calledBy : (follow Window.step overviewClicked {}).map (·.2.executed) =
      some (calls analyzeResponse
        (ClientHandler.run (returns analyzeResponse) overviewRead)) := by decide +kernel
  obtain ⟨⟨steps, window⟩, followed, state⟩ := Option.map_eq_some_iff.mp clicked
  rw [followed, Option.map_some, Option.some.injEq] at calledBy
  have trace : Trace Window.Steps {} ([] ++ steps) window :=
    .of_follow Window.step overviewClicked .start followed
  simp only [Prod.mk.injEq] at state
  obtain ⟨returned, selectedId, values⟩ := state
  obtain ⟨served, -, -, ⟨-, empty⟩ | ⟨_, question, _, moment, sensors, -, -, started, goesOn,
      overview, table⟩, -⟩ := table_lists_overview run held sendable arrived
    wholeFrames_overviewRead trace calledBy (by simp [returned])
  · rw [empty] at values
    cases values
  · exact ⟨threads, moment, question.1, sensors, window, started, goesOn, overview, table, values,
      selectedId⟩

end EndToEnd

end SensorManager.JavaClient.Monitoring
