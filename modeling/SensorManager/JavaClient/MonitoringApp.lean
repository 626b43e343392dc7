import SensorManager.JavaClient.MonitoringChart
import SensorManager.JavaClient.MonitoringTable

/-!
# The monitoring client as a whole

The same two threads change the table and the chart.  The one of the user
interface ends the handler of an event before it turns to the next, but while the
dialog of `loadData` is open it handles all events save clicks.
-/

namespace SensorManager.JavaClient.Monitoring

structure MonitoringApp where
  window : Window := {}
  chart : Chart := {}
  deriving DecidableEq, Repr

inductive AppLabel where
  | response (response : ResponseExecutor)
  | refreshSensorTable
  | runLater
  | tableClicked (row : Nat)
  | changeCurrentSensor
  | loadData
  | dialogEnds (result : Option Choice)
  | sendRequestGetAllSensors
  | showData (raced : List Series)
  deriving DecidableEq, Repr

namespace MonitoringApp

def onWindow (label : WindowLabel) (app : MonitoringApp) : Option MonitoringApp :=
  (Window.step label app.window).map fun window => { app with window := window }

def onChart (label : ChartLabel) (app : MonitoringApp) : Option MonitoringApp :=
  (Chart.step label app.chart).map fun chart => { app with chart := chart }

def onBoth (windowLabel : WindowLabel) (chartLabel : ChartLabel) (app : MonitoringApp) :
    Option MonitoringApp := do
  let window ← Window.step windowLabel app.window
  let chart ← Chart.step chartLabel app.chart
  return { window := window, chart := chart }

/-- An event that is handled after the click. -/
def onIdle (label : ChartLabel) (app : MonitoringApp) : Option MonitoringApp :=
  if app.window.click = .returned then app.onChart label else none

def step : AppLabel → MonitoringApp → Option MonitoringApp
  | .response response => onBoth (.response response) (.response response)
  | .refreshSensorTable => onWindow .refreshSensorTable
  | .runLater => onChart .runLater
  | .tableClicked row => fun app =>
      if app.chart.dialog = none then app.onWindow (.tableClicked row) else none
  | .changeCurrentSensor => onWindow .changeCurrentSensor
  | .loadData => fun app =>
      app.onBoth .loadData (.loadData app.window.controller.selectedId)
  | .dialogEnds result => onIdle (.dialogEnds result)
  | .sendRequestGetAllSensors => onIdle .sendRequestGetAllSensors
  | .showData raced => onIdle (.showData raced)

def Steps (before : MonitoringApp) (label : AppLabel) (after : MonitoringApp) : Prop :=
  step label before = some after

end MonitoringApp

/-- The call that a step makes. -/
def WindowLabel.called : WindowLabel → List ResponseExecutor
  | .response call => [call]
  | _ => []

def ChartLabel.called : ChartLabel → List ResponseExecutor
  | .response call => [call]
  | _ => []

theorem Window.executed_step {label : WindowLabel} {window after : Window}
    (stepped : Window.step label window = some after) :
    after.executed = window.executed ++ label.called := by
  cases label with
  | response response =>
      change window.respond response = some after at stepped
      unfold Window.respond at stepped
      split at stepped
      · cases response with
        | executeResponseGetAllSensors | executeResponseGetSetOfMeasurements =>
            cases stepped
            rfl
      · cases stepped
  | refreshSensorTable =>
      change window.refreshSensorTable = some after at stepped
      unfold Window.refreshSensorTable at stepped
      dsimp only at stepped
      split at stepped
      · cases stepped
      all_goals
        cases stepped
        exact (List.append_nil _).symm
  | tableClicked row =>
      change window.tableClicked row = some after at stepped
      unfold Window.tableClicked at stepped
      split at stepped
      · split at stepped
        all_goals
          cases stepped
          exact (List.append_nil _).symm
      · cases stepped
  | changeCurrentSensor =>
      change window.changeCurrentSensor = some after at stepped
      unfold Window.changeCurrentSensor at stepped
      dsimp only at stepped
      split at stepped
      · cases stepped
      all_goals
        cases stepped
        exact (List.append_nil _).symm
  | loadData =>
      change window.loadData = some after at stepped
      unfold Window.loadData at stepped
      split at stepped
      · split at stepped
        all_goals
          cases stepped
          exact (List.append_nil _).symm
      · cases stepped

theorem Window.Listed.step {label : WindowLabel} {window after : Window} {sensor : Sensor}
    (listed : window.Listed sensor) (stepped : Window.step label window = some after) :
    after.Listed sensor := by
  obtain ⟨response, member, among⟩ := listed
  refine ⟨response, ?_, among⟩
  rw [Window.executed_step stepped]
  exact List.mem_append_left _ member

/-- What a step means for the questions: nothing, the dialog is opened for the
sensor that is selected, or what was chosen in it is asked. -/
inductive Chart.Asks (chart : Chart) : ChartLabel → Chart → Prop
  | same {label : ChartLabel} {after : Chart} (dialog : after.dialog = chart.dialog)
      (asked : after.asked = chart.asked) : Asks chart label after
  | opens {current : Option Int} {after : Chart} (dialog : after.dialog = current)
      (asked : after.asked = chart.asked) : Asks chart (.loadData current) after
  | closes {result : Option Choice} {after : Chart} (dialog : after.dialog = none)
      (asked : after.asked = chart.asked) : Asks chart (.dialogEnds result) after
  | asks {id : Int} {choice : Choice} {after : Chart} (isOpen : chart.dialog = some id)
      (dialog : after.dialog = none)
      (asked : after.asked = chart.asked ++ [.getSetOfMeasurements (.ofInt id) choice.type]) :
      Asks chart (.dialogEnds (some choice)) after

theorem Chart.asks_step {label : ChartLabel} {chart after : Chart}
    (stepped : Chart.step label chart = some after) :
    chart.Asks label after ∧ after.executed = chart.executed ++ label.called := by
  cases label with
  | loadData current =>
      change chart.loadData current = some after at stepped
      unfold Chart.loadData at stepped
      split at stepped
      · cases stepped
        exact ⟨.opens rfl rfl, (List.append_nil _).symm⟩
      · cases stepped
  | dialogEnds result =>
      change chart.dialogEnds result = some after at stepped
      unfold Chart.dialogEnds at stepped
      split at stepped
      · cases stepped
      · cases stepped
        exact ⟨.closes rfl rfl, (List.append_nil _).symm⟩
      · next isOpen =>
          cases stepped
          refine ⟨.asks isOpen rfl ?_, (List.append_nil _).symm⟩
          simp [Chart.asked, Command.isReport]
  | sendRequestGetAllSensors =>
      cases stepped
      refine ⟨.same rfl ?_, (List.append_nil _).symm⟩
      simp [Chart.asked, Command.isReport]
  | response response =>
      change chart.respond response = some after at stepped
      unfold Chart.respond at stepped
      split at stepped
      · cases stepped
      · cases response with
        | executeResponseGetAllSensors =>
            cases stepped
            exact ⟨.same rfl rfl, rfl⟩
        | executeResponseGetSetOfMeasurements =>
            dsimp only at stepped
            split at stepped
            · cases stepped
              exact ⟨.same rfl rfl, rfl⟩
            · cases stepped
  | runLater =>
      change chart.runLater = some after at stepped
      unfold Chart.runLater at stepped
      split at stepped
      · cases stepped
        exact ⟨.same rfl rfl, (List.append_nil _).symm⟩
      · cases stepped
  | showData raced =>
      change chart.showData raced = some after at stepped
      unfold Chart.showData at stepped
      split at stepped
      · cases stepped
      · cases stepped
        exact ⟨.same rfl rfl, (List.append_nil _).symm⟩

namespace MonitoringApp

variable {app after : MonitoringApp} {label : AppLabel}

/-- A step moves the window, the chart or both. -/
inductive Moves (app : MonitoringApp) : MonitoringApp → Prop
  | window {label : WindowLabel} {after : MonitoringApp}
      (stepped : Window.step label app.window = some after.window) (silent : label.called = [])
      (chart : after.chart = app.chart) : Moves app after
  | chart {label : ChartLabel} {after : MonitoringApp}
      (stepped : Chart.step label app.chart = some after.chart) (silent : label.called = [])
      (asks : ∀ current, label ≠ .loadData current) (window : after.window = app.window) :
      Moves app after
  | both {windowLabel : WindowLabel} {chartLabel : ChartLabel} {after : MonitoringApp}
      (window : Window.step windowLabel app.window = some after.window)
      (chart : Chart.step chartLabel app.chart = some after.chart)
      (called : windowLabel.called = chartLabel.called)
      (asks : ∀ current, chartLabel = .loadData current →
        current = app.window.controller.selectedId) : Moves app after

theorem moves_onWindow {label : WindowLabel} (silent : label.called = [])
    (stepped : app.onWindow label = some after) : app.Moves after := by
  obtain ⟨window, moved, rfl⟩ := Option.map_eq_some_iff.mp stepped
  exact .window moved silent rfl

theorem moves_onChart {label : ChartLabel} (silent : label.called = [])
    (asks : ∀ current, label ≠ .loadData current) (stepped : app.onChart label = some after) :
    app.Moves after := by
  obtain ⟨chart, moved, rfl⟩ := Option.map_eq_some_iff.mp stepped
  exact .chart moved silent asks rfl

theorem moves_onBoth {windowLabel : WindowLabel} {chartLabel : ChartLabel}
    (called : windowLabel.called = chartLabel.called)
    (asks : ∀ current, chartLabel = .loadData current →
      current = app.window.controller.selectedId)
    (stepped : app.onBoth windowLabel chartLabel = some after) : app.Moves after := by
  obtain ⟨window, windowMoved, rest⟩ := Option.bind_eq_some_iff.mp stepped
  obtain ⟨chart, chartMoved, same⟩ := Option.bind_eq_some_iff.mp rest
  cases same
  exact .both windowMoved chartMoved called asks

theorem moves_onIdle {label : ChartLabel} (silent : label.called = [])
    (asks : ∀ current, label ≠ .loadData current) (stepped : app.onIdle label = some after) :
    app.Moves after := by
  unfold onIdle at stepped
  split at stepped
  · exact moves_onChart silent asks stepped
  · cases stepped

theorem moves_of_step (stepped : step label app = some after) : app.Moves after := by
  cases label with
  | response response => exact moves_onBoth rfl (by rintro current ⟨⟩) stepped
  | refreshSensorTable => exact moves_onWindow rfl stepped
  | runLater => exact moves_onChart rfl (by rintro current ⟨⟩) stepped
  | tableClicked row =>
      unfold MonitoringApp.step at stepped
      dsimp only at stepped
      split at stepped
      · exact moves_onWindow rfl stepped
      · cases stepped
  | changeCurrentSensor => exact moves_onWindow rfl stepped
  | loadData =>
      refine moves_onBoth rfl ?_ stepped
      rintro current ⟨⟩
      rfl
  | dialogEnds result => exact moves_onIdle rfl (by rintro current ⟨⟩) stepped
  | sendRequestGetAllSensors => exact moves_onIdle rfl (by rintro current ⟨⟩) stepped
  | showData raced => exact moves_onIdle rfl (by rintro current ⟨⟩) stepped

/-- What holds of every run of the window alone, or of the chart alone, holds of them
here. -/
theorem traces_run {steps : List (Transition MonitoringApp AppLabel)}
    (trace : Trace Steps {} steps app) :
    (∃ windowSteps, Trace Window.Steps {} windowSteps app.window) ∧
      ∃ chartSteps, Trace Chart.Steps {} chartSteps app.chart := by
  induction trace with
  | start => exact ⟨⟨[], .start⟩, ⟨[], .start⟩⟩
  | next _ stepped ih =>
      obtain ⟨⟨windowSteps, windowTrace⟩, chartSteps, chartTrace⟩ := ih
      cases moves_of_step stepped with
      | window moved silent chart =>
          exact ⟨⟨_, windowTrace.next moved⟩, chartSteps, by rwa [chart]⟩
      | chart moved silent noDialog window =>
          exact ⟨⟨windowSteps, by rwa [window]⟩, _, chartTrace.next moved⟩
      | both window chart called opens =>
          exact ⟨⟨_, windowTrace.next window⟩, _, chartTrace.next chart⟩

/-- Both are told of the same calls.  What is asked is for sensors that some list
had. -/
structure Sound (app : MonitoringApp) : Prop where
  window : app.window.Sound
  executed : app.chart.executed = app.window.executed
  dialog : ∀ id, app.chart.dialog = some id →
    ∃ sensor, app.window.Listed sensor ∧ sensor.id = id
  asked : ∀ command ∈ app.chart.asked, ∃ sensor choice, app.window.Listed sensor ∧
    command = .getSetOfMeasurements (.ofInt sensor.id) (Choice.type choice)

theorem sound_start : Sound {} where
  window := Window.sound_start
  executed := rfl
  dialog := nofun
  asked := by simp [Chart.asked]

theorem Sound.of_asks {label : ChartLabel} (sound : app.Sound) (window : after.window.Sound)
    (executed : after.chart.executed = after.window.executed)
    (grown : ∀ sensor, app.window.Listed sensor → after.window.Listed sensor)
    (asks : app.chart.Asks label after.chart)
    (opens : ∀ current, label = .loadData current →
      current = app.window.controller.selectedId) : after.Sound := by
  have kept : ∀ command ∈ app.chart.asked, ∃ sensor choice, after.window.Listed sensor ∧
      command = .getSetOfMeasurements (.ofInt sensor.id) (Choice.type choice) := by
    intro command member
    obtain ⟨sensor, choice, listed, same⟩ := sound.asked command member
    exact ⟨sensor, choice, grown sensor listed, same⟩
  cases asks with
  | same dialog asked =>
      refine ⟨window, executed, ?_, by rwa [asked]⟩
      rw [dialog]
      intro id isOpen
      obtain ⟨sensor, listed, same⟩ := sound.dialog id isOpen
      exact ⟨sensor, grown sensor listed, same⟩
  | @opens current _ dialog asked =>
      refine ⟨window, executed, ?_, by rwa [asked]⟩
      rw [dialog, opens current rfl]
      intro id isSelected
      obtain ⟨sensor, isCurrent, same⟩ := Option.map_eq_some_iff.mp isSelected
      exact ⟨sensor, grown sensor (sound.window.selected sensor isCurrent), same⟩
  | closes dialog asked =>
      refine ⟨window, executed, ?_, by rwa [asked]⟩
      rw [dialog]
      nofun
  | @asks id choice _ isOpen dialog asked =>
      refine ⟨window, executed, ?_, ?_⟩
      · rw [dialog]
        nofun
      · rw [asked]
        intro command member
        rcases List.mem_append.mp member with old | new
        · exact kept command old
        · obtain ⟨sensor, listed, rfl⟩ := sound.dialog id isOpen
          exact ⟨sensor, choice, grown sensor listed, List.mem_singleton.mp new⟩

theorem Sound.step (sound : app.Sound) (moves : app.Moves after) : after.Sound := by
  cases moves with
  | window stepped silent chart =>
      have asks : app.chart.Asks .runLater after.chart := .same (by rw [chart]) (by rw [chart])
      refine sound.of_asks (sound.window.step stepped) ?_ (fun _ listed => listed.step stepped)
        asks (by rintro current ⟨⟩)
      rw [chart, Window.executed_step stepped, silent, List.append_nil]
      exact sound.executed
  | chart stepped silent noDialog window =>
      obtain ⟨asks, executed⟩ := Chart.asks_step stepped
      refine sound.of_asks (by rw [window]; exact sound.window) ?_ (fun _ listed => ?_) asks
        fun current opens => absurd opens (noDialog current)
      · rw [window, executed, silent, List.append_nil]
        exact sound.executed
      · rwa [window]
  | both window chart called opens =>
      obtain ⟨asks, executed⟩ := Chart.asks_step chart
      refine sound.of_asks (sound.window.step window) ?_ (fun _ listed => listed.step window) asks
        opens
      rw [executed, Window.executed_step window, called, sound.executed]

/-- Whatever the order of the steps. -/
theorem sound_run {steps : List (Transition MonitoringApp AppLabel)}
    (trace : Trace Steps {} steps app) : app.Sound :=
  (trace.keeps sound_start fun _ _ _ stepped sound => sound.step (moves_of_step stepped)).1

end MonitoringApp

section EndToEnd

open ClientHandler Framing SerializerMonitoringMessage

variable {δ : Type} {database : IDatabaseConnection δ} {content : δ} {threads : Threads δ}
  {app : MonitoringApp}

/-- Whatever the threads of the server, the network and the threads of the client
do: a monitor asks for reports on sensors only that the server has listed.  The
list was read at a moment of the run, when the executor was at a question of this
monitor. -/
theorem asks_for_listed
    (run : Threads.OutRun database Threads.HandsToAsker (Threads.start content) threads)
    {slot : Int} {conn : Nat} (held : threads.server.holder .monitoring slot = some conn)
    (sendable : ∀ response ∈ threads.monitoring.handed, response.conn = conn →
      Sendable response.request ∧
        (serializeResponseMessage response.request).length ≤ responseFormat.limit)
    {events : List ReadEvent}
    (arrived : received events <+: threads.server.taken .monitoring conn)
    (whole : WholeFrames events)
    {steps : List (Transition MonitoringApp AppLabel)}
    (trace : Trace MonitoringApp.Steps {} steps app) (called : app.window.executed =
      calls analyzeResponse (ClientHandler.run (returns analyzeResponse) events))
    (asks : ((threads.monitoring.asked.filter (·.conn = conn)).map (·.request)).Sublist
      (app.chart.sent.map (Command.request slot))) :
    ∃ served, threads.monitoring.Answers
        (Threads.MonitoringExecuted database Threads.HandsToAsker (Threads.start content) threads)
        conn served ∧
      app.window.executed = served.map (fun pair => executed pair.2.request) ∧
      ∀ stamped ∈ threads.monitoring.asked, stamped.conn = conn →
        stamped.request.commandType = .getSetOfMeasurements →
        ∃ question ∈ served, ∃ moment sensors,
          Threads.OutRun database Threads.HandsToAsker (Threads.start content) moment ∧
          Threads.OutRun database Threads.HandsToAsker moment threads ∧
          Overview database moment question.1 sensors ∧
          ∃ sensor ∈ sensors, ∃ choice : Choice, stamped.request =
            (Command.getSetOfMeasurements (.ofInt sensor.id) choice.type).request slot := by
  obtain ⟨-, served, answers, calledWith, -⟩ := executes_answers run.delivers.monitoring
    run.outbound.sound.monitoring (run.monitoringPasses.all rfl) held (decodes_sendable sendable)
    (run.whole held) arrived whole
  have sound := MonitoringApp.sound_run trace
  have executes := called.trans calledWith
  refine ⟨served, answers, executes, ?_⟩
  intro stamped isAsked isConn command
  have isSent : stamped.request ∈ app.chart.sent.map (Command.request slot) := by
    apply asks.subset
    apply List.mem_map_of_mem
    simpa using ⟨isAsked, isConn⟩
  obtain ⟨sent, member, same⟩ := List.mem_map.mp isSent
  have report : sent.isReport = true := by
    rw [← isReport_request slot sent, same]
    simp [isReport, command]
  obtain ⟨shown, choice, listed, rfl⟩ := sound.asked sent (List.mem_filter.mpr ⟨member, report⟩)
  obtain ⟨question, isServed, moment, sensors, started, goesOn, overview, sensor, isSensor, rfl⟩ :=
    overview_of_listed answers executes listed
  exact ⟨question, isServed, moment, sensors, started, goesOn, overview, sensor, isSensor, choice,
    same.symm⟩

/-- After the answer the monitor asks for the last hour of a sensor. -/
def thenAsked : List OutLabel :=
  overviewAsked ++ [.thread (.network (.monitoringFrame 0 Threads.askLastHour))]

/-- The timer asks for the list, and the user selects its sensor and a period. -/
def listedChosen : List AppLabel :=
  [.sendRequestGetAllSensors, .response (executed overviewResponse), .refreshSensorTable,
    .refreshSensorTable, .refreshSensorTable, .tableClicked 0, .changeCurrentSensor,
    .changeCurrentSensor, .changeCurrentSensor, .loadData, .dialogEnds (some .lastHour)]

theorem asks_for_listed_lastHour :
    ∃ (threads moment : Threads Registry) (stamped question : Stamped MonitoringRequest)
      (sensors : List SensorManager.Sensor),
      stamped ∈ threads.monitoring.asked ∧ stamped.request = Threads.askLastHour ∧
      Threads.OutRun (Registry.connection .counting overviewReadings) Threads.HandsToAsker
        (Threads.start oneMeasured) moment ∧
      Threads.OutRun (Registry.connection .counting overviewReadings) Threads.HandsToAsker
        moment threads ∧
      Overview (Registry.connection .counting overviewReadings) moment question sensors ∧
      ∃ sensor ∈ sensors, (Int32.ofInt sensor.id).toInt = 1 := by
  let database := Registry.connection .counting overviewReadings
  let played := Threads.playOut database Threads.askersHold thenAsked (Threads.start oneMeasured)
  have finished : played.map (fun threads => (threads.server.holder .monitoring 0,
      threads.server.taken .monitoring 0)) =
      some (some 0, received overviewRead) := by decide +kernel
  have answered : played.map (fun threads => threads.monitoring.handed.map (·.request)) =
      some [overviewResponse] := by decide +kernel
  have asked : played.map (fun threads =>
      (threads.monitoring.asked.filter (·.conn = 0)).map (·.request)) =
      some [{ clientId := 0, commandType := .getAllSensorsMonitoring }, Threads.askLastHour] := by
    decide +kernel
  obtain ⟨threads, wasPlayed, facts⟩ := Option.map_eq_some_iff.mp finished
  rw [wasPlayed, Option.map_some, Option.some.injEq] at answered asked
  simp only [Prod.mk.injEq] at facts
  obtain ⟨held, taken⟩ := facts
  have run := Threads.OutRun.start.of_playOut Threads.handsToAsker_of_askersHold wasPlayed
  have sendable : ∀ response ∈ threads.monitoring.handed, response.conn = 0 →
      Sendable response.request ∧
        (serializeResponseMessage response.request).length ≤ responseFormat.limit := by
    intro response member _
    have among : response.request ∈ threads.monitoring.handed.map (·.request) :=
      List.mem_map_of_mem member
    rw [answered, List.mem_singleton] at among
    rw [among]
    exact sendable_overviewResponse
  have arrived : received overviewRead <+: threads.server.taken .monitoring 0 := by
    rw [taken]
  have chosen : (follow MonitoringApp.step listedChosen {}).map (·.2.chart.sent) =
      some [.getAllSensors, .getSetOfMeasurements 1 0] := by decide +kernel
  have calledBy : (follow MonitoringApp.step listedChosen {}).map (·.2.window.executed) =
      some (calls analyzeResponse
        (ClientHandler.run (returns analyzeResponse) overviewRead)) := by decide +kernel
  obtain ⟨⟨steps, app⟩, followed, sent⟩ := Option.map_eq_some_iff.mp chosen
  rw [followed, Option.map_some, Option.some.injEq] at calledBy
  have trace : Trace MonitoringApp.Steps {} ([] ++ steps) app :=
    .of_follow MonitoringApp.step listedChosen .start followed
  have asks : ((threads.monitoring.asked.filter (·.conn = 0)).map (·.request)).Sublist
      (app.chart.sent.map (Command.request 0)) := by
    rw [asked, sent]
    exact List.Sublist.refl _
  obtain ⟨served, -, -, forListed⟩ := asks_for_listed run held sendable arrived
    wholeFrames_overviewRead trace calledBy asks
  have isLast : Threads.askLastHour ∈
      (threads.monitoring.asked.filter (·.conn = 0)).map (·.request) := by
    rw [asked]
    simp
  obtain ⟨stamped, isAsked, request⟩ := List.mem_map.mp isLast
  obtain ⟨member, isConn⟩ := List.mem_filter.mp isAsked
  obtain ⟨question, -, moment, sensors, started, goesOn, overview, sensor, isSensor, choice,
    same⟩ := forListed stamped member (of_decide_eq_true isConn) (by rw [request]; rfl)
  rw [request] at same
  exact ⟨threads, moment, stamped, question.1, sensors, member, request, started, goesOn, overview,
    sensor, isSensor, (congrArg MonitoringRequest.sensorId same).symm⟩

end EndToEnd

end SensorManager.JavaClient.Monitoring
