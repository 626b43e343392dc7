import SensorManager.JavaClient.Answered
import SensorManager.JavaClient.Commands
import SensorManager.Lib.Decimal
import SensorManager.Lib.Latest
import SensorManager.Lib.Trace
import SensorManager.Server.Reports

/-!
# The chart of the monitoring client

`loadData`, `showData` and the calls of the `ResponseExecutor`, with what the
`Controller` of the monitoring client has for the chart.  The thread of the
network changes the list of measurements without regard to the thread of the
user interface; `showData` that reads the list meanwhile may have any outcome.
-/

namespace SensorManager.JavaClient.Monitoring

def javaString (text : String) : JavaString :=
  text.toList.map fun character => UInt16.ofNat character.toNat

/-- What the dialog of `loadData` offers. -/
inductive Choice where
  | lastHour
  | last24Hours
  | lastMonth
  deriving DecidableEq, Repr

def Choice.text : Choice → JavaString
  | .lastHour => javaString "Last hour"
  | .last24Hours => javaString "Last 24 hours"
  | .lastMonth => javaString "Last month"

def Choice.type : Choice → Int32
  | .lastHour => 0
  | .last24Hours => 1
  | .lastMonth => 2

theorem Choice.type_injective {first second : Choice}
    (same : first.type.toInt = second.type.toInt) : first = second := by
  cases first with
  | lastHour | last24Hours | lastMonth =>
      cases second with
      | lastHour | last24Hours | lastMonth => first | rfl | exact absurd same (by decide)

structure Series where
  name : JavaString
  data : List (JavaString × Int)
  deriving DecidableEq, Repr

/-- The series that `showData` adds. -/
def seriesOf (measurementsType : Option JavaString) (measurements : List Measurement) : Series :=
  { name :=
      match measurements with
      | [] => javaString "No data found"
      | first :: _ =>
          javaString "Data from " ++ measurementsType.getD (javaString "null") ++
            javaString " from sensorID: " ++ ascii (Decimal.print first.id)
    data := measurements.map fun measurement => (measurement.label, measurement.value) }

/-- The measurements, if the call is for a report. -/
def ResponseExecutor.report : ResponseExecutor → Option (List Measurement)
  | .executeResponseGetSetOfMeasurements measurements => some measurements
  | .executeResponseGetAllSensors _ => none

def Command.isReport : Command → Bool
  | .getSetOfMeasurements .. => true
  | .getAllSensors => false

/-- `dialog` is the id of the sensor for which the dialog is open.  `storing` is
set while the thread of the network has changed the measurements and has not yet
called `runLater`, and `pending` counts the calls of `showData` that wait.  The
list of the calls of the `ResponseExecutor` is not part of the program. -/
structure Chart where
  measurements : List Measurement := []
  measurementsType : Option JavaString := none
  lineChart : List Series := []
  dialog : Option Int := none
  storing : Bool := false
  pending : Nat := 0
  sent : List Command := []
  executed : List ResponseExecutor := []
  deriving DecidableEq, Repr

/-- A step of one of the threads.  Which sensor is selected is left open. -/
inductive ChartLabel where
  | loadData (current : Option Int)
  | dialogEnds (result : Option Choice)
  | sendRequestGetAllSensors
  | response (response : ResponseExecutor)
  | runLater
  | showData (raced : List Series)
  deriving DecidableEq, Repr

namespace Chart

/-- The reports that were asked for. -/
def asked (chart : Chart) : List Command :=
  chart.sent.filter Command.isReport

def reports (chart : Chart) : List (List Measurement) :=
  chart.executed.filterMap ResponseExecutor.report

/-- The measurements have been replaced, and are not yet shown. -/
def Behind (chart : Chart) : Prop :=
  chart.storing = true ∨ 0 < chart.pending

def loadData (current : Option Int) (chart : Chart) : Option Chart :=
  match chart.dialog with
  | none => some { chart with dialog := current }
  | some _ => none

/-- The rest of `loadData`, with what the user has chosen. -/
def dialogEnds (result : Option Choice) (chart : Chart) : Option Chart :=
  match chart.dialog, result with
  | none, _ => none
  | some _, none => some { chart with dialog := none }
  | some id, some choice =>
      some { chart with
        dialog := none
        sent := chart.sent ++ [.getSetOfMeasurements (.ofInt id) choice.type]
        measurementsType := some choice.text }

/-- The thread of the network calls the `ResponseExecutor`.  A report comes only
after it was asked for. -/
def respond (response : ResponseExecutor) (chart : Chart) : Option Chart :=
  if chart.storing then none
  else match response with
  | .executeResponseGetAllSensors _ =>
      some { chart with executed := chart.executed ++ [response] }
  | .executeResponseGetSetOfMeasurements measurements =>
      if chart.reports.length < chart.asked.length then
        some { chart with
          measurements := measurements
          storing := true
          executed := chart.executed ++ [response] }
      else none

def runLater (chart : Chart) : Option Chart :=
  if chart.storing then some { chart with storing := false, pending := chart.pending + 1 }
  else none

/-- The measurements are shown, unless they are being replaced. -/
def showData (raced : List Series) (chart : Chart) : Option Chart :=
  match chart.pending with
  | 0 => none
  | pending + 1 =>
      some { chart with
        pending := pending
        lineChart :=
          if chart.storing then raced
          else [seriesOf chart.measurementsType chart.measurements] }

def step : ChartLabel → Chart → Option Chart
  | .loadData current => loadData current
  | .dialogEnds result => dialogEnds result
  | .sendRequestGetAllSensors => fun chart =>
      some { chart with sent := chart.sent ++ [.getAllSensors] }
  | .response response => respond response
  | .runLater => runLater
  | .showData raced => showData raced

def Steps (before : Chart) (label : ChartLabel) (after : Chart) : Prop :=
  step label before = some after

/-- What is shown is the last report.  Its name has what the user has chosen last,
unless that has not been answered yet. -/
inductive Shown (chart : Chart) : Prop
  | nothing (noReport : chart.reports = []) (empty : chart.lineChart = [])
  | report {measurements : List Measurement} {measurementsType : Option JavaString}
      (last : chart.reports.getLast? = some measurements)
      (series : chart.lineChart = [seriesOf measurementsType measurements])
      (chosen : chart.reports.length = chart.asked.length →
        measurementsType = chart.measurementsType)

structure Sound (chart : Chart) : Prop where
  answered : chart.reports.length ≤ chart.asked.length
  measurements : chart.measurements = chart.reports.getLast?.getD []
  asks : ∀ command ∈ chart.asked, ∃ id choice,
    command = .getSetOfMeasurements id (Choice.type choice)
  chosen : ∀ command, chart.asked.getLast? = some command →
    ∃ id choice, command = .getSetOfMeasurements id (Choice.type choice) ∧
      chart.measurementsType = some choice.text
  behind : chart.Behind → chart.reports ≠ []
  shown : ¬ chart.Behind → chart.Shown

variable {chart after : Chart} {label : ChartLabel}

theorem sound_start : Sound {} where
  answered := le_rfl
  measurements := rfl
  asks := by simp [asked]
  chosen := by simp [asked]
  behind := by simp [Behind]
  shown _ := .nothing rfl rfl

/-- A step that has to do with neither reports nor the chart. -/
theorem Sound.of_same (sound : chart.Sound) (asked : after.asked = chart.asked)
    (reports : after.reports = chart.reports) (measurements : after.measurements =
      chart.measurements) (measurementsType : after.measurementsType = chart.measurementsType)
    (lineChart : after.lineChart = chart.lineChart) (behind : after.Behind ↔ chart.Behind) :
    after.Sound where
  answered := by
    rw [asked, reports]
    exact sound.answered
  measurements := by
    rw [measurements, reports]
    exact sound.measurements
  asks := by
    rw [asked]
    exact sound.asks
  chosen := by
    rw [asked, measurementsType]
    exact sound.chosen
  behind isBehind := by
    rw [reports]
    exact sound.behind (behind.mp isBehind)
  shown upToDate := by
    rcases sound.shown (fun isBehind => upToDate (behind.mpr isBehind)) with
      ⟨noReport, empty⟩ | ⟨last, series, chosen⟩
    · exact .nothing (reports.trans noReport) (lineChart.trans empty)
    · refine .report ((congrArg _ reports).trans last) (lineChart.trans series) ?_
      rw [reports, asked, measurementsType]
      exact chosen

theorem Sound.loadData {current : Option Int} (sound : chart.Sound)
    (stepped : chart.loadData current = some after) : after.Sound := by
  unfold Chart.loadData at stepped
  split at stepped
  · cases stepped
    exact sound.of_same rfl rfl rfl rfl rfl .rfl
  · cases stepped

/-- A choice that has not been answered. -/
theorem Sound.dialogEnds {result : Option Choice} (sound : chart.Sound)
    (stepped : chart.dialogEnds result = some after) : after.Sound := by
  unfold Chart.dialogEnds at stepped
  split at stepped
  · cases stepped
  · cases stepped
    exact sound.of_same rfl rfl rfl rfl rfl .rfl
  · next id choice _ =>
      cases stepped
      have answered := sound.answered
      have more : (chart.sent ++ [Command.getSetOfMeasurements (.ofInt id) choice.type]).filter
          Command.isReport = chart.asked ++ [.getSetOfMeasurements (.ofInt id) choice.type] := by
        rw [List.filter_append]
        rfl
      refine ⟨?_, sound.measurements, ?_, ?_, sound.behind, fun upToDate => ?_⟩
      · unfold asked
        rw [more, List.length_append]
        exact Nat.le_add_right_of_le answered
      · unfold asked
        rw [more]
        intro command member
        rcases List.mem_append.mp member with old | new
        · exact sound.asks command old
        · exact ⟨_, choice, List.mem_singleton.mp new⟩
      · unfold asked
        rw [more]
        intro command isLast
        obtain rfl : Command.getSetOfMeasurements (.ofInt id) choice.type = command := by
          simpa using isLast
        exact ⟨_, choice, rfl, rfl⟩
      · rcases sound.shown upToDate with ⟨noReport, empty⟩ | ⟨last, series, -⟩
        · exact .nothing noReport empty
        · refine .report last series fun all => ?_
          -- The new question has no answer yet.
          have same : chart.reports.length = (chart.asked ++
              [Command.getSetOfMeasurements (.ofInt id) choice.type]).length := by
            rw [← more]
            exact all
          rw [List.length_append] at same
          exact absurd answered (by rw [same]; simp)

theorem Sound.respond {response : ResponseExecutor} (sound : chart.Sound)
    (stepped : chart.respond response = some after) : after.Sound := by
  unfold Chart.respond at stepped
  split at stepped
  · cases stepped
  · cases response with
    | executeResponseGetAllSensors sensors =>
        cases stepped
        refine sound.of_same rfl ?_ rfl rfl rfl .rfl
        simp [reports, ResponseExecutor.report]
    | executeResponseGetSetOfMeasurements measurements =>
        dsimp only at stepped
        split at stepped
        · next waits =>
            cases stepped
            have more : (chart.executed ++
                [ResponseExecutor.executeResponseGetSetOfMeasurements measurements]).filterMap
                  ResponseExecutor.report = chart.reports ++ [measurements] := by
              simp [reports, ResponseExecutor.report]
            refine ⟨?_, ?_, sound.asks, sound.chosen, fun _ => ?_,
              fun upToDate => absurd (.inl rfl) upToDate⟩
            · unfold reports
              rw [more, List.length_append]
              exact waits
            · unfold reports
              rw [more]
              simp
            · unfold reports
              rw [more]
              simp
        · cases stepped

theorem Sound.runLater (sound : chart.Sound) (stepped : chart.runLater = some after) :
    after.Sound := by
  unfold Chart.runLater at stepped
  split at stepped
  · next storing =>
      cases stepped
      refine sound.of_same rfl rfl rfl rfl rfl ⟨fun _ => .inl storing, fun _ => .inr ?_⟩
      exact Nat.succ_pos _
  · cases stepped

/-- The chart gets the measurements, which are those of the last report. -/
theorem Sound.showData {raced : List Series} (sound : chart.Sound)
    (stepped : chart.showData raced = some after) : after.Sound := by
  unfold Chart.showData at stepped
  split at stepped
  · cases stepped
  · next pending waiting =>
      cases stepped
      have answered : chart.reports ≠ [] := by
        apply sound.behind
        right
        rw [waiting]
        exact Nat.succ_pos pending
      refine ⟨sound.answered, sound.measurements, sound.asks, sound.chosen, fun _ => answered,
        fun upToDate => ?_⟩
      have last : chart.reports.getLast? = some chart.measurements := by
        rw [sound.measurements, List.getLast?_eq_some_getLast answered]
        rfl
      refine .report last ?_ fun _ => rfl
      exact if_neg fun storing => upToDate (.inl storing)

theorem Sound.step (sound : chart.Sound) (stepped : step label chart = some after) :
    after.Sound := by
  cases label with
  | loadData current => exact sound.loadData stepped
  | dialogEnds result => exact sound.dialogEnds stepped
  | sendRequestGetAllSensors =>
      cases stepped
      refine sound.of_same ?_ rfl rfl rfl rfl .rfl
      simp [asked, Command.isReport]
  | response response => exact sound.respond stepped
  | runLater => exact sound.runLater stepped
  | showData raced => exact sound.showData stepped

/-- Whatever the order of the steps. -/
theorem sound_run {steps : List (Transition Chart ChartLabel)}
    (trace : Trace Steps {} steps chart) : chart.Sound :=
  (trace.keeps sound_start fun _ _ _ stepped sound => sound.step stepped).1

end Chart

section Questions

variable {δ : Type} {database : IDatabaseConnection δ}

theorem report_executed (response : MonitoringResponse) :
    (executed response).report =
      if response.commandType = .getSetOfMeasurements then
        some (response.measurements.map (tagged response.sensorId))
      else none := by
  unfold executed
  cases response.commandType with
  | getAllSensorsMonitoring => rfl
  | getSetOfMeasurements => rfl

/-- A report is of the sensor that was asked for. -/
theorem sensorId_of_executed {meets : Threads δ → Threads δ → Prop} {initial threads : Threads δ}
    {earlier : List (Stamped MonitoringRequest × Except SQLException (Stamped MonitoringResponse))}
    {stamped : Stamped MonitoringRequest} {response : MonitoringResponse}
    (returned : Threads.MonitoringExecuted database meets initial threads earlier stamped response)
    (command : stamped.request.commandType = .getSetOfMeasurements) :
    response.sensorId = stamped.request.sensorId := by
  obtain ⟨_, rfl, computes⟩ := returned.computes
  unfold Pass.executeMonitoringRequest at computes
  rw [command] at computes
  obtain ⟨_, -, computes⟩ := computes.of_bind
  rw [computes.of_pure]

/-- The query that a choice asks for. -/
def Choice.query (database : IDatabaseConnection δ) :
    Choice → Int → DatabaseCall δ SensorMeasurement
  | .lastHour => database.getLastHour
  | .last24Hours => database.getLastDay
  | .lastMonth => database.getLastMonth

theorem Choice.getSetOfMeasurements (choice : Choice) (request : MonitoringRequest)
    (type : request.type = choice.type.toInt) :
    Pass.getSetOfMeasurements database request =
      Process.call (Server.callDatabase (choice.query database request.sensorId)) := by
  unfold Pass.getSetOfMeasurements
  rw [type]
  cases choice with
  | lastHour | last24Hours | lastMonth => rfl

/-- The request is for a report. -/
def isReport (request : MonitoringRequest) : Bool :=
  request.commandType = .getSetOfMeasurements

theorem isReport_request (clientId : Int) (command : Command) :
    isReport (command.request clientId) = command.isReport := by
  cases command with
  | getAllSensors => rfl
  | getSetOfMeasurements sensorId type => rfl

/-- When as many reports have come as were asked for, the last one answers the
last question for a report. -/
theorem last_asked {served : List (Stamped MonitoringRequest × Stamped MonitoringResponse)}
    {sent : List Command} {clientId : Int}
    (within : (served.map (·.1.request)).Sublist (sent.map (Command.request clientId)))
    (all : (served.filter fun pair => isReport pair.1.request).length =
      (sent.filter Command.isReport).length)
    {first last : List (Stamped MonitoringRequest × Stamped MonitoringResponse)}
    {question : Stamped MonitoringRequest × Stamped MonitoringResponse}
    (parts : served = first ++ question :: last) (report : isReport question.1.request = true)
    (noLater : ∀ pair ∈ last, isReport pair.1.request = false) :
    ∃ command, (sent.filter Command.isReport).getLast? = some command ∧
      command.request clientId = question.1.request := by
  have commands : (sent.map (Command.request clientId)).filter isReport =
      (sent.filter Command.isReport).map (Command.request clientId) := by
    rw [List.filter_map]
    exact congrArg _ (List.filter_congr fun command _ => isReport_request clientId command)
  have questions : (served.map (·.1.request)).filter isReport =
      (served.filter fun pair => isReport pair.1.request).map (·.1.request) := by
    rw [List.filter_map]
    rfl
  have same : (served.filter fun pair => isReport pair.1.request).map (·.1.request) =
      (sent.filter Command.isReport).map (Command.request clientId) := by
    rw [← questions, ← commands]
    apply (within.filter isReport).eq_of_length
    rw [questions, commands, List.length_map, List.length_map, all]
  have lastly := congrArg List.getLast? same
  have only : (question :: last).filter (fun pair => isReport pair.1.request) = [question] := by
    simpa [report] using noLater
  rw [parts, List.filter_append, only, List.map_append, List.map_singleton,
    List.getLast?_append, List.getLast?_singleton, Option.some_or, List.getLast?_map] at lastly
  exact Option.map_eq_some_iff.mp lastly.symm

theorem length_reports {served : List (Stamped MonitoringRequest × Stamped MonitoringResponse)}
    (sameCommand : ∀ pair ∈ served,
      pair.2.request.commandType = pair.1.request.commandType) :
    (served.filterMap fun pair => (executed pair.2.request).report).length =
      (served.filter fun pair => isReport pair.1.request).length := by
  rw [List.length_filterMap_eq_countP, ← List.countP_eq_length_filter]
  apply List.countP_congr
  intro pair member
  rw [report_executed, sameCommand pair member]
  by_cases command : pair.1.request.commandType = .getSetOfMeasurements
  · simp [isReport, command]
  · simp [isReport, command]

end Questions

section EndToEnd

open ClientHandler Framing SerializerMonitoringMessage Chart

variable {δ : Type} {database : IDatabaseConnection δ} {content : δ}
  {threads moment : Threads δ} {chart : Chart}

/-- The executor of the server is at the question, and the chart shows the report
that the database gives at that moment.  The name of the series has the period,
unless another question has not been answered yet. -/
structure ShownAt (database : IDatabaseConnection δ) (moment : Threads δ)
    (stamped : Stamped MonitoringRequest) (choice : Choice) (chart : Chart) : Prop where
  executor : ∃ process, moment.monitoring.executor = some (stamped, process)
  command : stamped.request.commandType = .getSetOfMeasurements
  type : stamped.request.type = choice.type.toInt
  series : ∃ found changed measurementsType,
    (choice.query database stamped.request.sensorId).runOn moment.server.database =
        some (.ok found, changed) ∧
      chart.lineChart = [seriesOf measurementsType
        (found.measurements.map (tagged stamped.request.sensorId))] ∧
      (chart.reports.length = chart.asked.length → measurementsType = some choice.text)

/-- What was asked for in a dialog. -/
theorem choice_of_asked (sound : chart.Sound) {slot : Int} {request : MonitoringRequest}
    (isAsked : request ∈ chart.sent.map (Command.request slot))
    (report : request.commandType = .getSetOfMeasurements) :
    ∃ choice : Choice, request.type = choice.type.toInt := by
  obtain ⟨command, isSent, rfl⟩ := List.mem_map.mp isAsked
  have isReport : command.isReport = true := by
    rw [← isReport_request slot command]
    simp [isReport, report]
  obtain ⟨id, choice, rfl⟩ := sound.asks command (List.mem_filter.mpr ⟨isSent, isReport⟩)
  exact ⟨choice, rfl⟩

variable {slot : Int} {conn : Nat} {choice : Choice}
  {served first last : List (Stamped MonitoringRequest × Stamped MonitoringResponse)}
  {question : Stamped MonitoringRequest × Stamped MonitoringResponse}

/-- The questions that are answered were sent, in this order. -/
theorem served_within
    {executed : List (Stamped MonitoringRequest ×
      Except SQLException (Stamped MonitoringResponse)) → Stamped MonitoringRequest →
      MonitoringResponse → Prop}
    (answers : threads.monitoring.Answers executed conn served)
    (asks : ((threads.monitoring.asked.filter (·.conn = conn)).map (·.request)).Sublist
      (chart.sent.map (Command.request slot))) :
    (served.map (·.1.request)).Sublist (chart.sent.map (Command.request slot)) := by
  have questions := answers.first.sublist.trans (Side.questionsOf_sublist _ conn)
  have requests := (questions.map (·.request)).trans asks
  rwa [List.map_map] at requests

/-- The report of an answer was read at a moment of the run. -/
theorem report_of_executed
    {earlier : List (Stamped MonitoringRequest × Except SQLException (Stamped MonitoringResponse))}
    (returned : Threads.MonitoringExecuted database Threads.HandsToAsker (Threads.start content)
      threads earlier question.1 question.2.request)
    (command : question.1.request.commandType = .getSetOfMeasurements)
    (type : question.1.request.type = choice.type.toInt) :
    ∃ moment found changed,
      Threads.OutRun database Threads.HandsToAsker (Threads.start content) moment ∧
      Threads.OutRun database Threads.HandsToAsker moment threads ∧
      (∃ process, moment.monitoring.executor = some (question.1, process)) ∧
      (choice.query database question.1.request.sensorId).runOn moment.server.database =
        some (.ok found, changed) ∧
      question.2.request.measurements = found.measurements := by
  obtain ⟨moment, started, goesOn, executor, -, -, found, changed, queried, given⟩ :=
    (Threads.monitoringReports choice.getSetOfMeasurements ⟨command, type⟩ returned).outRuns
  exact ⟨moment, found, changed, started, goesOn, executor, queried, given⟩

/-- When all reports have come, the user has chosen last what the last one answers. -/
theorem chosen_of_all (sound : chart.Sound)
    (within : (served.map (·.1.request)).Sublist (chart.sent.map (Command.request slot)))
    (all : (served.filter fun pair => isReport pair.1.request).length = chart.asked.length)
    (parts : served = first ++ question :: last)
    (command : question.1.request.commandType = .getSetOfMeasurements)
    (noLater : ∀ pair ∈ last, pair.1.request.commandType ≠ .getSetOfMeasurements)
    (type : question.1.request.type = choice.type.toInt) :
    chart.measurementsType = some choice.text := by
  obtain ⟨lastly, isLastly, same⟩ := last_asked within all parts (by simp [isReport, command])
    fun pair later => by simp [isReport, noLater pair later]
  obtain ⟨id, other, rfl, text⟩ := sound.chosen lastly isLastly
  have sameChoice : other = choice := by
    apply Choice.type_injective
    exact (congrArg MonitoringRequest.type same).trans type
  rw [← sameChoice]
  exact text

/-- Whatever the threads of the server, the network and the threads of the client
do: when the chart is up to date, it is empty and no report has been answered, or
it shows the report that the database gave at one moment of the run.  At that
moment the executor was at the question of this monitor that the last report
answers. -/
theorem chart_shows_report
    (run : Threads.OutRun database Threads.HandsToAsker (Threads.start content) threads)
    (held : threads.server.holder .monitoring slot = some conn)
    (sendable : ∀ response ∈ threads.monitoring.handed, response.conn = conn →
      Sendable response.request ∧
        (serializeResponseMessage response.request).length ≤ responseFormat.limit)
    {events : List ReadEvent}
    (arrived : received events <+: threads.server.taken .monitoring conn)
    (whole : WholeFrames events)
    {steps : List (Transition Chart ChartLabel)} (trace : Trace Chart.Steps {} steps chart)
    (called : chart.executed =
      calls analyzeResponse (ClientHandler.run (returns analyzeResponse) events))
    (asks : ((threads.monitoring.asked.filter (·.conn = conn)).map (·.request)).Sublist
      (chart.sent.map (Command.request slot))) (upToDate : ¬ chart.Behind) :
    ∃ served, threads.monitoring.Answers
        (Threads.MonitoringExecuted database Threads.HandsToAsker (Threads.start content) threads)
        conn served ∧
      chart.executed = served.map (fun pair => executed pair.2.request) ∧
      (((∀ pair ∈ served, pair.1.request.commandType ≠ .getSetOfMeasurements) ∧
          chart.lineChart = []) ∨
        ∃ first question last moment choice, served = first ++ question :: last ∧
          (∀ pair ∈ last, pair.1.request.commandType ≠ .getSetOfMeasurements) ∧
          Threads.OutRun database Threads.HandsToAsker (Threads.start content) moment ∧
          Threads.OutRun database Threads.HandsToAsker moment threads ∧
          ShownAt database moment question.1 choice chart) := by
  obtain ⟨-, served, answers, calledWith, -⟩ := executes_answers run.delivers.monitoring
    run.outbound.sound.monitoring (run.monitoringPasses.all rfl) held (decodes_sendable sendable)
    (run.whole held) arrived whole
  have sameCommand : ∀ pair ∈ served,
      pair.2.request.commandType = pair.1.request.commandType := by
    intro pair member
    obtain ⟨_, _, -, returned⟩ := answers.split member
    exact commandType_of_executed returned
  have sound := sound_run trace
  have executes := called.trans calledWith
  have reports : chart.reports =
      served.filterMap fun pair => (executed pair.2.request).report := by
    unfold Chart.reports
    rw [executes, List.filterMap_map]
    rfl
  have noReport : ∀ pair ∈ served, (executed pair.2.request).report = none →
      pair.1.request.commandType ≠ .getSetOfMeasurements := by
    intro pair member none_ command
    rw [report_executed, sameCommand pair member, if_pos command] at none_
    cases none_
  have within := served_within answers asks
  refine ⟨served, answers, executes, ?_⟩
  rcases latest_cases (fun pair => (executed pair.2.request).report) served with
    ⟨noReports, -⟩ | ⟨first, question, last, measurements, parts, noReports, report, isLast⟩
  · have nothing : chart.reports = [] := by
      rw [reports]
      exact List.filterMap_eq_nil_iff.mpr noReports
    refine .inl ⟨fun pair member => noReport pair member (noReports pair member), ?_⟩
    rcases sound.shown upToDate with ⟨-, empty⟩ | ⟨isLast, -, -⟩
    · exact empty
    · rw [nothing] at isLast
      cases isLast
  · have isLast : chart.reports.getLast? = some measurements := by
      rw [reports]
      exact isLast
    have member : question ∈ served := by simp [parts]
    have noLater : ∀ pair ∈ last, pair.1.request.commandType ≠ .getSetOfMeasurements :=
      fun pair later => noReport pair (by simp [parts, later]) (noReports pair later)
    have command : question.1.request.commandType = .getSetOfMeasurements := by
      by_contra other
      rw [report_executed, sameCommand question member, if_neg other] at report
      cases report
    obtain ⟨_, _, -, returned⟩ := answers.split member
    rw [report_executed, sameCommand question member, if_pos command,
      sensorId_of_executed returned command] at report
    obtain ⟨choice, type⟩ := choice_of_asked sound
      (within.subset (List.mem_map_of_mem (f := (·.1.request)) member)) command
    -- The report was read at one moment, and is the last one that has come.
    obtain ⟨moment, found, changed, started, goesOn, executor, queried, given⟩ :=
      report_of_executed returned command type
    rw [given] at report
    rcases sound.shown upToDate with ⟨nothing, -⟩ | ⟨shown, series, chosen⟩
    · rw [nothing] at isLast
      cases isLast
    · obtain rfl := Option.some.inj (shown.symm.trans (isLast.trans report.symm))
      refine .inr ⟨first, question, last, moment, choice, parts, noLater, started, goesOn,
        executor, command, type, found, changed, _, queried, series, fun all => ?_⟩
      have asked : (served.filter fun pair => isReport pair.1.request).length =
          chart.asked.length := by
        rw [← length_reports sameCommand, ← reports]
        exact all
      rw [chosen all]
      exact chosen_of_all sound within asked parts command noLater type

/-- A monitor asks for the last hour of a sensor, and the answer is written at once. -/
def lastHourAsked : List OutLabel :=
  [.thread (.network (.accept .monitoring 0 5 .zero)),
    .thread (.network (.monitoringFrame 0 Threads.askLastHour)),
    .thread .takeMonitoring, .thread .executeMonitoring, .thread .executeMonitoring,
    .thread .pickMonitoring, .thread (.handMonitoring 100)]

/-- The averages of two minutes. -/
def lastHourResponse : MonitoringResponse :=
  { clientId := 0
    commandType := .getSetOfMeasurements
    sensorId := 1
    measurements := [
      ⟨21, [49, 57, 55, 48, 47, 48, 49, 47, 48, 49, 32, 48, 50, 58, 49, 54]⟩,
      ⟨30, [49, 57, 55, 48, 47, 48, 49, 47, 48, 49, 32, 48, 50, 58, 49, 55]⟩] }

def lastHourRead : List ReadEvent :=
  [.channelRead0 ([76, 0, 0, 0] ++ serializeResponseMessage lastHourResponse),
    .channelReadComplete]

/-- The user has chosen, and the answer arrives and is shown. -/
def lastHourShown : List ChartLabel :=
  [.loadData (some 1), .dialogEnds (some .lastHour), .response (executed lastHourResponse),
    .runLater, .showData []]

theorem sendable_lastHourResponse : Sendable lastHourResponse ∧
    (serializeResponseMessage lastHourResponse).length ≤ responseFormat.limit := by
  refine ⟨⟨by decide, ?_⟩, by decide⟩
  rintro measurement (_ | ⟨_, _ | ⟨_, ⟨⟩⟩⟩)
  · exact ⟨by decide, by decide⟩
  · exact ⟨by decide, by decide⟩

theorem wholeFrames_lastHourRead : WholeFrames lastHourRead := by
  apply wholeFrames_singleRead (serializeResponseMessage lastHourResponse)
  · exact ⟨serializeResponseMessage_ne_nil _, sendable_lastHourResponse.2⟩
  · decide

theorem chart_shows_report_lastHour :
    ∃ (threads moment : Threads Registry) (chart : Chart)
      (stamped : Stamped MonitoringRequest),
      Threads.OutRun (Registry.connection .counting (.now fun _ => []))
        Threads.HandsToAsker (Threads.start Threads.twoMinutes) moment ∧
      Threads.OutRun (Registry.connection .counting (.now fun _ => []))
        Threads.HandsToAsker moment threads ∧
      ShownAt (Registry.connection .counting (.now fun _ => [])) moment stamped .lastHour
        chart ∧
      chart.lineChart.map (·.data.map Prod.snd) = [[21, 30]] := by
  let database := Registry.connection .counting (.now fun _ => [])
  let played := Threads.playOut database Threads.askersHold lastHourAsked
    (Threads.start Threads.twoMinutes)
  have finished : played.map (fun threads => (threads.server.holder .monitoring 0,
      threads.server.taken .monitoring 0)) =
      some (some 0, received lastHourRead) := by decide +kernel
  have answered : played.map (fun threads => threads.monitoring.handed.map (·.request)) =
      some [lastHourResponse] := by decide +kernel
  have asked : played.map (fun threads =>
      (threads.monitoring.asked.filter (·.conn = 0)).map (·.request)) =
      some [Threads.askLastHour] := by decide +kernel
  obtain ⟨threads, wasPlayed, facts⟩ := Option.map_eq_some_iff.mp finished
  rw [wasPlayed, Option.map_some, Option.some.injEq] at answered asked
  simp only [Prod.mk.injEq] at facts
  obtain ⟨held, taken⟩ := facts
  have run := Threads.OutRun.start.of_playOut Threads.handsToAsker_of_askersHold wasPlayed
  have sendable : ∀ response ∈ threads.monitoring.handed, response.conn = 0 →
      Sendable response.request ∧
        (serializeResponseMessage response.request).length ≤ responseFormat.limit := by
    intro response member _
    have among : response.request ∈ threads.monitoring.handed.map (·.request) :=
      List.mem_map_of_mem member
    rw [answered, List.mem_singleton] at among
    rw [among]
    exact sendable_lastHourResponse
  have arrived : received lastHourRead <+: threads.server.taken .monitoring 0 := by
    rw [taken]
  have shown : (follow Chart.step lastHourShown {}).map (fun followed =>
      (followed.2.storing, followed.2.pending, followed.2.sent, followed.2.reports.length)) =
      some (false, 0, [.getSetOfMeasurements 1 0], 1) := by decide +kernel
  have calledBy : (follow Chart.step lastHourShown {}).map (·.2.executed) =
      some (calls analyzeResponse
        (ClientHandler.run (returns analyzeResponse) lastHourRead)) := by decide +kernel
  have values : (follow Chart.step lastHourShown {}).map
      (·.2.lineChart.map (·.data.map Prod.snd)) = some [[21, 30]] := by decide +kernel
  obtain ⟨⟨steps, chart⟩, followed, state⟩ := Option.map_eq_some_iff.mp shown
  rw [followed, Option.map_some, Option.some.injEq] at calledBy values
  have trace : Trace Chart.Steps {} ([] ++ steps) chart :=
    .of_follow Chart.step lastHourShown .start followed
  simp only [Prod.mk.injEq] at state
  obtain ⟨storing, pending, sent, one⟩ := state
  have upToDate : ¬ chart.Behind := by simp [Chart.Behind, storing, pending]
  have asks : ((threads.monitoring.asked.filter (·.conn = 0)).map (·.request)).Sublist
      (chart.sent.map (Command.request 0)) := by
    rw [asked, sent]
    exact List.Sublist.refl _
  obtain ⟨served, answers, -, ⟨-, empty⟩ | ⟨first, question, last, moment, choice, parts, -,
      started, goesOn, shownAt⟩⟩ := chart_shows_report run held sendable arrived
    wholeFrames_lastHourRead trace calledBy asks upToDate
  · rw [empty] at values
    cases values
  · have isAsked : question.1.request ∈ [Threads.askLastHour] := by
      rw [← asked]
      apply List.mem_map_of_mem
      apply (Side.questionsOf_sublist _ _).subset
      exact answers.first.subset (List.mem_map_of_mem (by simp [parts]))
    have lastHour : choice = .lastHour := by
      have type := shownAt.type
      rw [List.mem_singleton.mp isAsked] at type
      exact Choice.type_injective type.symm
    rw [lastHour] at shownAt
    exact ⟨threads, moment, chart, question.1, started, goesOn, shownAt, values⟩

end EndToEnd

end SensorManager.JavaClient.Monitoring
