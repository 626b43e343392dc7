import Mathlib.Data.List.Nodup
import SensorManager.Lib.Trace
import SensorManager.JavaClient.Monitoring

/-!
# The selected sensor of the monitoring client

`MonitoringModel` and the part of the `Controller` that selects a sensor and
refreshes the table.  The user selects a row of the table; a response replaces
the sensors.
-/

namespace SensorManager.JavaClient.Monitoring

/-- A row of the table. -/
structure SensorTable where
  sensorId : Int
  sensorName : JavaString
  sensorIp : JavaString
  sensorPort : Int
  sensorCurrentMeasurement : Int
  deriving DecidableEq, Repr

def SensorTable.ofSensor (sensor : Sensor) : SensorTable :=
  { sensorId := sensor.id
    sensorName := sensor.name
    sensorIp := sensor.ip
    sensorPort := sensor.port
    sensorCurrentMeasurement := sensor.currentMeasurement }

structure MonitoringModel where
  sensors : List Sensor := []
  currentDisplayedSensor : Option Sensor := none
  deriving DecidableEq, Repr

namespace MonitoringModel

/-- `id` is none where the source passes `null`, which no id equals. -/
def findSensorById (model : MonitoringModel) (id : Option Int) : Option Sensor :=
  model.sensors.find? fun sensor => some sensor.id = id

def changeCurrentSensor (model : MonitoringModel) (id : Option Int) : MonitoringModel :=
  { model with currentDisplayedSensor := model.findSensorById id }

/-- `getSensors().contains(getCurrentDisplayedSensor())`: `equals` compares all
fields of two sensors, and no sensor of the list is `null`. -/
def containsCurrent (model : MonitoringModel) : Bool :=
  model.sensors.any fun sensor => model.currentDisplayedSensor = some sensor

end MonitoringModel

structure Controller where
  model : MonitoringModel := {}
  sensorsTable : List SensorTable := []
  loadDataDisabled : Bool := true
  deriving DecidableEq, Repr

/-- A double click on a row, or a response with the sensors of the server. -/
inductive MonitoringEvent where
  | tableClicked (row : Nat)
  | executeResponseGetAllSensors (sensors : List Sensor)
  deriving DecidableEq, Repr

namespace Controller

def tableClicked (controller : Controller) (row : Nat) : Controller :=
  match controller.sensorsTable[row]? with
  | none => controller
  | some selectedSensor =>
      { controller with
        model := controller.model.changeCurrentSensor (some selectedSensor.sensorId)
        loadDataDisabled := false }

def refreshSensorTable (controller : Controller) : Controller :=
  let controller :=
    { controller with sensorsTable := controller.model.sensors.map SensorTable.ofSensor }
  if !controller.model.containsCurrent then
    { controller with
      model := controller.model.changeCurrentSensor none
      loadDataDisabled := true }
  else controller

def executeResponseGetAllSensors (controller : Controller) (sensors : List Sensor) :
    Controller :=
  refreshSensorTable { controller with model := { controller.model with sensors := sensors } }

/-- The ids of the sensors in a response are unique. -/
def event : MonitoringEvent → Controller → Option Controller
  | .tableClicked row, controller => some (controller.tableClicked row)
  | .executeResponseGetAllSensors sensors, controller =>
      if (sensors.map Sensor.id).Nodup then
        some (controller.executeResponseGetAllSensors sensors)
      else none

def Events (before : Controller) (label : MonitoringEvent) (after : Controller) : Prop :=
  event label before = some after

def selectedId (controller : Controller) : Option Int :=
  controller.model.currentDisplayedSensor.map Sensor.id

/-- A response leaves the id of the selected sensor exactly when it has a
sensor with this id, and otherwise nothing is selected after it. -/
def KeepsSelection (transition : Transition Controller MonitoringEvent) : Prop :=
  ∀ sensors, transition.label = .executeResponseGetAllSensors sensors →
    (∀ id, transition.before.selectedId = some id →
      (transition.after.selectedId = some id ↔ id ∈ sensors.map Sensor.id) ∧
      (id ∉ sensors.map Sensor.id → transition.after.selectedId = none)) ∧
    (transition.before.selectedId = none → transition.after.selectedId = none)

/-- A sensor of a response with the id of the selected one equals it. -/
def ResponseEquals (transition : Transition Controller MonitoringEvent) : Prop :=
  ∀ sensors, transition.label = .executeResponseGetAllSensors sensors →
    ∀ current, transition.before.model.currentDisplayedSensor = some current →
      ∀ sensor ∈ sensors, sensor.id = current.id → sensor = current

variable {controller before after : Controller} {label : MonitoringEvent}
  {sensors : List Sensor} {current : Sensor}

theorem findSensorById_null (model : MonitoringModel) : model.findSensorById none = none := by
  simp [MonitoringModel.findSensorById]

theorem executeResponse_none (empty : controller.model.currentDisplayedSensor = none) :
    (controller.executeResponseGetAllSensors sensors).model.currentDisplayedSensor = none := by
  unfold executeResponseGetAllSensors refreshSensorTable
  dsimp only
  split
  · exact findSensorById_null _
  · exact empty

/-- The selected sensor stays exactly when the response has an equal one. -/
theorem executeResponse_some
    (selected : controller.model.currentDisplayedSensor = some current) :
    (controller.executeResponseGetAllSensors sensors).model.currentDisplayedSensor =
      if current ∈ sensors then some current else none := by
  have contained : (sensors.any fun sensor =>
      controller.model.currentDisplayedSensor = some sensor) = decide (current ∈ sensors) := by
    rw [selected, Bool.eq_iff_iff]
    simp
  unfold executeResponseGetAllSensors refreshSensorTable MonitoringModel.containsCurrent
  dsimp only
  rw [contained]
  by_cases member : current ∈ sensors
  · simp [member, selected]
  · simp [member, MonitoringModel.changeCurrentSensor, findSensorById_null]

theorem selectedId_response
    (selected : controller.model.currentDisplayedSensor = some current) :
    (controller.executeResponseGetAllSensors sensors).selectedId =
      if current ∈ sensors then some current.id else none := by
  rw [selectedId, executeResponse_some selected]
  split <;> rfl

theorem Events.response (events : Events before (.executeResponseGetAllSensors sensors) after) :
    (sensors.map Sensor.id).Nodup ∧ after = before.executeResponseGetAllSensors sensors := by
  simp only [Events, event, Option.ite_none_right_eq_some, Option.some.injEq] at events
  exact ⟨events.1, events.2.symm⟩

/-- A response keeps the selection exactly when no sensor in it has the id of
the selected one and differs from it. -/
theorem Events.keepsSelection (events : Events before label after) :
    KeepsSelection ⟨before, label, after⟩ ↔ ResponseEquals ⟨before, label, after⟩ := by
  constructor
  · rintro keeps sensors rfl current selected sensor member same
    obtain ⟨unique, rfl⟩ := events.response
    dsimp only at selected
    have before_id : before.selectedId = some current.id := by
      rw [selectedId, selected]
      rfl
    have kept := ((keeps sensors rfl).1 current.id before_id).1.mpr
      (List.mem_map.mpr ⟨sensor, member, same⟩)
    dsimp only at kept
    rw [selectedId_response selected, Option.ite_none_right_eq_some] at kept
    exact List.inj_on_of_nodup_map unique member kept.1 same
  · rintro equals sensors rfl
    obtain ⟨-, rfl⟩ := events.response
    refine ⟨?_, ?_⟩
    · intro id before_id
      obtain ⟨current, selected, rfl⟩ := Option.map_eq_some_iff.mp before_id
      have present : current.id ∈ sensors.map Sensor.id ↔ current ∈ sensors := by
        constructor
        · intro listed
          obtain ⟨sensor, member, same⟩ := List.mem_map.mp listed
          rwa [← equals sensors rfl current selected sensor member same]
        · exact List.mem_map_of_mem
      dsimp only
      rw [present, selectedId_response selected]
      constructor
      · simp
      · exact fun absent => if_neg absent
    · intro empty
      have none_selected : before.model.currentDisplayedSensor = none :=
        Option.map_eq_none_iff.mp empty
      dsimp only
      rw [selectedId, executeResponse_none none_selected]
      rfl

section Runs

variable {taken : List (Transition Controller MonitoringEvent)} {final : Controller}

/-- Over a run, every response keeps the selection exactly when none has a
sensor with the id of the selected one and another field changed. -/
theorem keepsSelection_iff (trace : Trace Events {} taken final) :
    (∀ transition ∈ taken, KeepsSelection transition) ↔
      ∀ transition ∈ taken, ResponseEquals transition :=
  forall₂_congr fun _ member => (trace.stepped member).keepsSelection

/-- A sensor is selected, and has another measurement in the next response. -/
theorem keepsSelection_fails :
    ∃ taken final, Trace Events {} taken final ∧
      taken.map (·.label) =
        [.executeResponseGetAllSensors [⟨1, [], [], 9000, 20⟩], .tableClicked 0,
          .executeResponseGetAllSensors [⟨1, [], [], 9000, 21⟩]] ∧
      ¬ ∀ transition ∈ taken, KeepsSelection transition := by
  have nothing : Trace Events {} [] {} := .start
  refine ⟨_, _, nothing.of_follow event
    [.executeResponseGetAllSensors [⟨1, [], [], 9000, 20⟩], .tableClicked 0,
      .executeResponseGetAllSensors [⟨1, [], [], 9000, 21⟩]] rfl, rfl, ?_⟩
  intro keeps
  have last := keeps _ (.tail _ (.tail _ (.head _))) [⟨1, [], [], 9000, 21⟩] rfl
  have kept := (last.1 1 rfl).1.mpr (by decide)
  cases kept

/-- A sensor is selected, and another one has another measurement in the next
response. -/
theorem keepsSelection_iff_others :
    ∃ taken final, Trace Events {} taken final ∧
      taken.map (·.label) =
        [.executeResponseGetAllSensors [⟨1, [], [], 9000, 20⟩, ⟨2, [], [], 9000, 5⟩],
          .tableClicked 0,
          .executeResponseGetAllSensors [⟨2, [], [], 9000, 6⟩, ⟨1, [], [], 9000, 20⟩]] ∧
      ∀ transition ∈ taken, KeepsSelection transition := by
  have nothing : Trace Events {} [] {} := .start
  have trace := nothing.of_follow event
    [.executeResponseGetAllSensors [⟨1, [], [], 9000, 20⟩, ⟨2, [], [], 9000, 5⟩],
      .tableClicked 0,
      .executeResponseGetAllSensors [⟨2, [], [], 9000, 6⟩, ⟨1, [], [], 9000, 20⟩]] rfl
  refine ⟨_, _, trace, rfl, (keepsSelection_iff trace).mpr ?_⟩
  intro transition member sensors called current selected sensor listed same
  simp only [List.nil_append, List.mem_cons, List.not_mem_nil, or_false] at member
  rcases member with rfl | rfl | rfl
  · cases selected
  · cases called
  · cases called
    cases selected
    rcases List.mem_cons.mp listed with rfl | last
    · cases same
    · exact List.mem_singleton.mp last

end Runs

end Controller

end SensorManager.JavaClient.Monitoring
