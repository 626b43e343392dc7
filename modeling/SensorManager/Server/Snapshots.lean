import SensorManager.Server.Executors
import SensorManager.Server.Storing

/-!
# What one query reads

The questions for sensors and for measurements are answered by one query each.
Whatever the other threads do meanwhile, the pass over such a question returns what
the database had at one moment, and at that moment the executor had dealt with
exactly the questions before this one.
-/

namespace SensorManager

open Process Relation Server

variable {δ κ α : Type}

namespace Registry

/-- The rows that `getAllSensors` selects. -/
def listed (registry : Registry) : List SensorRow :=
  registry.rows.filter fun row =>
    row.columns.status = .active || row.columns.status = .disconnected

end Registry

namespace Pass

/-- The pass is one query, which gives the response. -/
def Queries (gives : δ → α → Prop) (process : Pass δ α) : Prop :=
  (∀ result, process ≠ .ended result) ∧
    ∀ server later changed, process.step server = some (later, changed) →
      ∃ result, later = .ended result ∧
        ∀ response, result = .ok response → gives server.database response

theorem queries_act {β : Type} {gives : δ → α → Prop} {query : DatabaseCall δ β}
    {answer : β → α}
    (given : ∀ content value changed, query.runOn content = some (.ok value, changed) →
      gives content (answer value)) :
    Queries gives (.act (callDatabase query) fun value => .ended (.ok (answer value))) := by
  refine ⟨fun _ => nofun, ?_⟩
  intro server later changed stepped
  obtain ⟨⟨result, reached⟩, ran, same⟩ := Option.map_eq_some_iff.mp stepped
  obtain ⟨content, queried, rfl⟩ := Exec.runOn_zoom_eq_some.mp ran
  cases result with
  | ok value =>
      cases same
      refine ⟨_, rfl, ?_⟩
      rintro response ⟨⟩
      exact given _ _ _ queried
  | error error =>
      cases same
      exact ⟨_, rfl, nofun⟩

end Pass

namespace Threads

open Side

variable {database : IDatabaseConnection δ} {moves : Threads δ → Threads δ → Prop}
  {initial before after threads : Threads δ}

section Reads

variable {side : Threads δ → Side δ κ α} {programs : κ → Pass δ α → Prop}
  {gives : κ → δ → α → Prop}
  {earlier : List (Stamped κ × Except SQLException (Stamped α))} {stamped : Stamped κ}
  {process : Pass δ α} {response : α}

/-- The executor is at the question, has dealt with the earlier ones, and would
get the response. -/
structure Reads (side : Threads δ → Side δ κ α) (gives : κ → δ → α → Prop)
    (earlier : List (Stamped κ × Except SQLException (Stamped α))) (stamped : Stamped κ)
    (response : α) (threads : Threads δ) : Prop where
  executor : ∃ process, (side threads).executor = some (stamped, process)
  finished : (side threads).finished = earlier
  gives : gives stamped.request threads.server.database response

/-- It did at a moment of the run, and the next step was the query and gave it. -/
def HasRead (moves : Threads δ → Threads δ → Prop) (side : Threads δ → Side δ κ α)
    (gives : κ → δ → α → Prop) (initial threads : Threads δ)
    (earlier : List (Stamped κ × Except SQLException (Stamped α))) (stamped : Stamped κ)
    (response : α) : Prop :=
  ∃ moment called, ReflTransGen moves initial moment ∧ moves moment called ∧
    ReflTransGen moves called threads ∧ moment.Reads side gives earlier stamped response ∧
    (side called).executor = some (stamped, .ended (.ok response))

theorem HasRead.goes
    (hasRead : HasRead moves side gives initial before earlier stamped response)
    (goes : ReflTransGen moves before after) :
    HasRead moves side gives initial after earlier stamped response := by
  obtain ⟨moment, called, reached, moved, goesOn, reads⟩ := hasRead
  exact ⟨moment, called, reached, moved, goesOn.trans goes, reads⟩

/-- A pass that is one query has still to make it, or has made it at a moment of the
run. -/
theorem Executes.hasRead (single : κ → Prop)
    (queries : ∀ request process, programs request process → single request →
      process.Queries (gives request))
    (isSingle : single stamped.request)
    (executes : Executes moves side programs initial earlier stamped threads process) :
    process.Queries (gives stamped.request) ∨
      ∃ result, process = .ended result ∧ ∀ response, result = .ok response →
        HasRead moves side gives initial threads earlier stamped response := by
  induction executes with
  | takes run moved idle program => exact .inl (queries _ _ program isSingle)
  | @calls before after process later executes moved called busy dealt ih =>
      right
      rcases ih with ⟨-, query⟩ | ⟨result, rfl, -⟩
      · obtain ⟨result, isEnded, given⟩ := query _ _ _ called
        refine ⟨result, isEnded, fun response isOk => ?_⟩
        refine ⟨before, after, executes.run, moved, .refl, ?_, ?_⟩
        · exact ⟨⟨_, executes.busy⟩, executes.dealt, given response isOk⟩
        · rw [busy, isEnded, isOk]
      · cases called
  | waits executes moved busy dealt ih =>
      apply ih.imp_right
      rintro ⟨result, isEnded, reads⟩
      exact ⟨result, isEnded, fun response isOk => (reads response isOk).goes (.single moved)⟩

theorem Executed.hasRead (single : κ → Prop)
    (queries : ∀ request process, programs request process → single request →
      process.Queries (gives request))
    (isSingle : single stamped.request)
    (executed : Executed moves side programs initial threads earlier stamped response) :
    HasRead moves side gives initial threads earlier stamped response := by
  obtain ⟨moment, executes, goes⟩ := executed
  rcases executes.hasRead single queries isSingle with ⟨notEnded, -⟩ | ⟨_, isEnded, reads⟩
  · exact absurd rfl (notEnded _)
  · cases isEnded
    exact (reads response rfl).goes goes

end Reads

section Questions

variable {earlier : List (Stamped MonitoringRequest × Except SQLException (Stamped MonitoringResponse))}
  {stamped : Stamped MonitoringRequest} {response : MonitoringResponse}

/-- The lists with measurements that monitors get. -/
theorem monitoringLists (command : stamped.request.commandType = .getAllSensorsMonitoring)
    (executed : Executed moves (·.monitoring) (monitoringPrograms database) initial threads
      earlier stamped response) :
    HasRead moves (·.monitoring)
      (fun _ content response => ∃ changed,
        database.getAllSensorsWithMeasurements.runOn content =
          some (.ok response.sensors, changed)) initial threads earlier stamped response := by
  apply executed.hasRead (·.commandType = .getAllSensorsMonitoring) _ command
  rintro request _ rfl command
  unfold Pass.executeMonitoringRequest
  rw [command]
  exact Pass.queries_act fun content sensors changed queried => ⟨changed, queried⟩

/-- The reports that they get, of any one of the three queries. -/
theorem monitoringReports {type : Int} {query : Int → DatabaseCall δ SensorMeasurement}
    (asksFor : ∀ request : MonitoringRequest, request.type = type →
      Pass.getSetOfMeasurements database request =
        call (callDatabase (query request.sensorId)))
    (isReport : stamped.request.commandType = .getSetOfMeasurements ∧ stamped.request.type = type)
    (executed : Executed moves (·.monitoring) (monitoringPrograms database) initial threads
      earlier stamped response) :
    HasRead moves (·.monitoring)
      (fun request content response => response.sensorId = request.sensorId ∧ ∃ found changed,
        (query request.sensorId).runOn content = some (.ok found, changed) ∧
          response.measurements = found.measurements) initial threads earlier stamped response := by
  refine executed.hasRead
    (fun request => request.commandType = .getSetOfMeasurements ∧ request.type = type) ?_ isReport
  rintro request _ rfl ⟨command, isType⟩
  unfold Pass.executeMonitoringRequest
  rw [command]
  dsimp only
  rw [asksFor _ isType]
  exact Pass.queries_act fun content found changed queried =>
    ⟨rfl, found, changed, queried, rfl⟩

end Questions

end Threads

end SensorManager
