import SensorManager.JavaClient.AdministratorPanel
import SensorManager.JavaClient.Answered
import SensorManager.Lib.Latest

/-!
# From the table of the database to the table of the window

The window of an administrator lists the sensors of the last answer.  Only the
names may be others: those that the user has given, which were sent to the
server.
-/

namespace SensorManager.JavaClient.Administrator

open Process

/-- The list of sensors, if there is one in the call. -/
def ResponseExecutor.list : ResponseExecutor → Option (List Sensor)
  | .executeResponseGetAllSensors sensors => some sensors
  | _ => none

def lastList (executed : List ResponseExecutor) : List Sensor :=
  (latest ResponseExecutor.list executed).getD []

/-- The sensor that was received, with a name that was sent to the server if it
has another one. -/
structure NamedFrom (sent : List Command) (received shown : Sensor) : Prop where
  id : shown.id = received.id
  ip : shown.ip = received.ip
  port : shown.port = received.port
  connected : shown.connected = received.connected
  name : shown.name = received.name ∨ .updateSensorName (.ofInt shown.id) shown.name ∈ sent

namespace NamedFrom

variable {sent more : List Command} {received shown : Sensor} {sensors other : List Sensor}

theorem of_same (sensor : Sensor) : NamedFrom sent sensor sensor :=
  ⟨rfl, rfl, rfl, rfl, .inl rfl⟩

theorem of_more (named : NamedFrom sent received shown) (subset : sent ⊆ more) :
    NamedFrom more received shown :=
  { named with name := named.name.imp_right fun member => subset member }

theorem forall_more (named : List.Forall₂ (NamedFrom sent) sensors other)
    (subset : sent ⊆ more) : List.Forall₂ (NamedFrom more) sensors other :=
  named.imp fun _ _ named => named.of_more subset

/-- The user gives a sensor a name, which is to be sent. -/
theorem forall_setName {id : Int} {newName : JavaString}
    (named : List.Forall₂ (NamedFrom sent) sensors other) :
    List.Forall₂ (NamedFrom (sent ++ [.updateSensorName (.ofInt id) newName])) sensors
      (AdministratorModel.setName (some id) newName other) := by
  induction named with
  | nil => exact .nil
  | @cons received shown sensors others first rest ih =>
      unfold AdministratorModel.setName
      split
      · next same =>
          refine .cons { first with name := .inr ?_ }
            (forall_more rest (List.subset_append_left ..))
          rw [← Option.some.inj same]
          exact List.mem_append_right _ (List.mem_singleton_self _)
      · exact .cons (first.of_more (List.subset_append_left ..)) ih

end NamedFrom

namespace Controller

/-- The model has the sensors of the last list, when the commands that are due
have been sent. -/
def Knows (due : List Command) (controller : Controller) : Prop :=
  List.Forall₂ (NamedFrom (controller.sent ++ due)) (lastList controller.executed)
    controller.model.sensors

/-- What the other threads do: they may replace the sensors by those of a new
list. -/
structure Relists (before after : Controller) : Prop where
  sent : after.sent = before.sent
  current : after.model.currentDisplayedSensorId = before.model.currentDisplayedSensorId
  sensors : after.model.sensors = lastList after.executed ∨
    lastList after.executed = lastList before.executed ∧
      after.model.sensors = before.model.sensors

/-- A handler that ends with the sensors of the last list in the model. -/
def KeepsList {α : Type} (handler : Handler α) : Prop :=
  Outlined Relists (fun _ => Knows []) (Knows []) handler

variable {α β : Type} {due : List Command} {before after : Controller}

theorem stable_knows (due : List Command) : Stable Relists (Knows due) := by
  rintro before after knows ⟨sent, -, fresh | ⟨list, sensors⟩⟩
  · unfold Knows
    rw [fresh]
    exact List.forall₂_same.mpr fun sensor _ => .of_same sensor
  · unfold Knows
    rw [sent, list, sensors]
    exact knows

/-- Nothing but commands is added. -/
theorem Knows.of_sent (knows : before.Knows due) (executed : after.executed = before.executed)
    (sensors : after.model.sensors = before.model.sensors)
    (sent : before.sent <+: after.sent) : after.Knows due := by
  unfold Knows
  rw [executed, sensors]
  apply NamedFrom.forall_more knows
  exact List.append_subset.mpr
    ⟨List.subset_append_of_subset_left _ sent.subset, List.subset_append_right ..⟩

theorem keepsList_pure (value : α) : KeepsList (pure value : Handler α) :=
  .ended fun _ knows => knows

theorem KeepsList.bind {handler : Handler α} {rest : α → Handler β} (first : KeepsList handler)
    (second : ∀ value, KeepsList (rest value)) : KeepsList (handler >>= rest) :=
  Outlined.bind first second fun _ _ knows => knows

theorem keepsList_modify {change : Controller → Controller}
    (keeps : ∀ controller, (change controller).executed = controller.executed ∧
      (change controller).model.sensors = controller.model.sensors ∧
      controller.sent <+: (change controller).sent) : KeepsList (call (modify change)) := by
  apply Outlined.call
  · rintro before value after knows ⟨⟩
    obtain ⟨executed, sensors, sent⟩ := keeps before
    exact knows.of_sent executed sensors sent
  · rintro before error after knows ⟨⟩
  · exact fun _ => stable_knows []

theorem keepsList_get : KeepsList (call get) := by
  apply Outlined.call
  · rintro before value after knows ⟨⟩
    exact knows
  · rintro before error after knows ⟨⟩
  · exact fun _ => stable_knows []

theorem keepsList_displayedSensor : KeepsList (call displayedSensor) := by
  have same : ∀ before result after, displayedSensor.runOn before = some (result, after) →
      after = before := by
    intro before result after ran
    rw [runOn_displayedSensor] at ran
    cases found : before.model.getCurrentDisplayedSensor with
    | none =>
        rw [found] at ran
        cases ran
        rfl
    | some sensor =>
        rw [found] at ran
        cases ran
        rfl
  apply Outlined.call
  · intro before value after knows ran
    rw [same before _ after ran]
    exact knows
  · intro before error after knows ran
    rw [same before _ after ran]
    exact knows
  · exact fun _ => stable_knows []

theorem keepsList_sendForCurrent (commands : Int32 → List Command) :
    KeepsList (call (modify (sendForCurrent commands))) := by
  apply keepsList_modify
  intro controller
  unfold sendForCurrent
  split
  · exact ⟨rfl, rfl, List.prefix_append _ _⟩
  · exact ⟨rfl, rfl, List.prefix_rfl⟩

/-- The new name is in the model, and the command for it is due. -/
def Owes (newName : JavaString) (controller : Controller) : Prop :=
  ∃ id, controller.model.currentDisplayedSensorId = some id ∧
    controller.Knows [.updateSensorName (.ofInt id) newName]

def Owing (newName : JavaString) :
    Except NullPointerException PUnit → Controller → Prop
  | .ok _ => Owes newName
  | .error _ => Knows []

theorem stable_owes (newName : JavaString) : Stable Relists (Owes newName) := by
  rintro before after ⟨id, displayed, knows⟩ relists
  exact ⟨id, relists.current.trans displayed, stable_knows _ before after knows relists⟩

theorem outlined_updateSensorName (newName : JavaString) :
    Outlined Relists (Owing newName) (Knows []) (call (updateSensorName newName)) := by
  apply Outlined.call
  · intro before value after knows ran
    rw [runOn_updateSensorName] at ran
    cases displayed : before.model.currentDisplayedSensorId with
    | none =>
        have absent : before.model.getCurrentDisplayedSensor = none := by
          simp [AdministratorModel.getCurrentDisplayedSensor,
            AdministratorModel.findSensorById, displayed]
        rw [absent] at ran
        cases ran
    | some id =>
        split at ran
        · cases ran
          refine ⟨id, displayed, ?_⟩
          unfold Knows
          dsimp only
          rw [displayed, ← List.append_nil before.sent, List.append_assoc, List.nil_append]
          simpa using NamedFrom.forall_setName knows
        · cases ran
  · intro before error after knows ran
    rw [runOn_updateSensorName] at ran
    split at ran
    · cases ran
    · cases ran
      exact knows
  · exact fun _ => stable_owes newName

theorem keepsList_saveName (newName : JavaString) : KeepsList (saveName newName) := by
  refine Outlined.bind (outlined_updateSensorName newName) (fun _ => ?_)
    fun _ _ knows => knows
  have sends : Outlined Relists (fun _ => Knows []) (Owes newName)
      (call (modify (sendForCurrent fun id => [.updateSensorName id newName])) :
        Handler PUnit) := by
    apply Outlined.call
    · rintro before value after ⟨id, displayed, knows⟩ ⟨⟩
      unfold sendForCurrent
      rw [displayed]
      simpa [Knows, send] using knows
    · rintro before error after owes ⟨⟩
    · exact fun _ => stable_knows []
  refine Outlined.bind sends (fun _ => ?_) fun _ _ knows => knows
  have listed : KeepsList (call (modify refreshSensorTable)) :=
    keepsList_modify fun _ => ⟨rfl, rfl, List.prefix_rfl⟩
  exact listed.bind fun _ => keepsList_modify fun _ => ⟨rfl, rfl, List.prefix_rfl⟩

theorem keepsList_editNameClicked : KeepsList editNameClicked := by
  refine keepsList_get.bind fun controller => ?_
  have edits : KeepsList (editOrSave controller) := by
    unfold editOrSave
    split
    · refine KeepsList.bind (keepsList_modify fun _ => ⟨rfl, rfl, List.prefix_rfl⟩)
        fun _ => ?_
      split
      · exact keepsList_saveName _
      · exact keepsList_pure ()
    · exact keepsList_displayedSensor.bind fun _ =>
        keepsList_modify fun _ => ⟨rfl, rfl, List.prefix_rfl⟩
  exact edits.bind fun _ => keepsList_modify fun _ => ⟨rfl, rfl, List.prefix_rfl⟩

theorem keepsList_displays :
    KeepsList (do
      let sensor ← call displayedSensor
      call (modify (displaySensorDetails sensor))) :=
  keepsList_displayedSensor.bind fun _ =>
    keepsList_modify fun _ => ⟨rfl, rfl, List.prefix_rfl⟩

theorem keepsList_clear : KeepsList (call (modify clearSensorDetails)) :=
  keepsList_modify fun _ => ⟨rfl, rfl, List.prefix_rfl⟩

theorem keepsList_tableClicked (clickCount : Nat) (selectedSensor : Option SensorTable) :
    KeepsList (tableClicked clickCount selectedSensor) := by
  have stops : KeepsList
      (call (modify fun controller => { controller with isNameEditing := false })) :=
    keepsList_modify fun _ => ⟨rfl, rfl, List.prefix_rfl⟩
  refine stops.bind fun _ => ?_
  split
  · cases selectedSensor with
    | none => exact keepsList_pure ()
    | some row =>
        have changes : KeepsList (call <| modify fun controller =>
            { controller with model := controller.model.changeCurrentSensor row.sensorId }) :=
          keepsList_modify fun _ => ⟨rfl, rfl, List.prefix_rfl⟩
        exact changes.bind fun _ => keepsList_clear.bind fun _ => keepsList_displays
  · exact keepsList_pure ()

theorem keepsList_refreshAllViews : KeepsList refreshAllViews := by
  have details : KeepsList refreshDetails := by
    refine keepsList_get.bind fun controller => ?_
    cases controller.model.getCurrentDisplayedSensor with
    | none => exact keepsList_clear
    | some sensor => exact keepsList_displays
  exact details.bind fun _ => keepsList_modify fun _ => ⟨rfl, rfl, List.prefix_rfl⟩

theorem keepsList_runLater (first : Later) : KeepsList (runLater first) := by
  cases first with
  | refreshAllViews => exact keepsList_refreshAllViews
  | displayToken token => exact keepsList_pure ()
  | sendRequestGetAllSensors =>
      exact keepsList_modify fun _ => ⟨rfl, rfl, List.prefix_append _ _⟩

theorem keepsList_handler (event : UserEvent) (screen : Screen) :
    KeepsList (event.handler screen) := by
  cases event with
  | tableClicked clickCount row => exact keepsList_tableClicked _ _
  | addNewSensorClicked => exact keepsList_modify fun _ => ⟨rfl, rfl, List.prefix_append _ _⟩
  | disconnectClicked => exact keepsList_sendForCurrent _
  | revokeClicked => exact keepsList_sendForCurrent _
  | editNameClicked => exact keepsList_editNameClicked
  | saveSensorName => exact keepsList_editNameClicked
  | typed text => exact keepsList_modify fun _ => ⟨rfl, rfl, List.prefix_rfl⟩

end Controller

namespace Panel

open Controller

variable {panel : Panel} {before later : Controller} {label : PanelLabel}

theorem relists_respond {response : ResponseExecutor}
    (responded : respond response before = some later) : Relists before later := by
  unfold respond at responded
  split at responded
  · cases responded
  · cases responded
    cases response with
    | executeResponseGetAllSensors sensors =>
        exact ⟨rfl, rfl, .inl (by simp [lastList, latest, ResponseExecutor.list, execute])⟩
    | executeResponseUpdateSensorName | executeResponseRevokeSensor
    | executeResponseDisconnectSensor | executeResponseGenerateToken =>
        exact ⟨rfl, rfl, .inr ⟨by simp [lastList, latest, ResponseExecutor.list], rfl⟩⟩

theorem relists_refreshLater (asked : refreshLater before = some later) :
    Relists before later := by
  unfold refreshLater at asked
  split at asked
  · cases asked
    exact ⟨rfl, rfl, .inr ⟨rfl, rfl⟩⟩
  · cases asked

theorem relists_nameLabel {change : LabelRefresher → Option LabelRefresher}
    (changed : nameLabel change before = some later) : Relists before later := by
  obtain ⟨label, -, rfl⟩ := Option.map_eq_some_iff.mp changed
  exact ⟨rfl, rfl, .inr ⟨rfl, rfl⟩⟩

theorem relists_stateLabel {change : LabelRefresher → Option LabelRefresher}
    (changed : stateLabel change before = some later) : Relists before later := by
  obtain ⟨label, -, rfl⟩ := Option.map_eq_some_iff.mp changed
  exact ⟨rfl, rfl, .inr ⟨rfl, rfl⟩⟩

theorem relists_others (stepped : others label before = some later) : Relists before later := by
  cases label with
  | user event => cases stepped
  | runLater => cases stepped
  | act => cases stepped
  | response response => exact relists_respond stepped
  | refreshLater => exact relists_refreshLater stepped
  | timer =>
      cases stepped
      exact ⟨rfl, rfl, .inr ⟨rfl, rfl⟩⟩
  | nameCalls => exact relists_nameLabel stepped
  | stateCalls => exact relists_stateLabel stepped
  | nameWakes => exact relists_nameLabel stepped
  | stateWakes => exact relists_stateLabel stepped
  | nameUpdates => exact relists_nameLabel stepped
  | stateUpdates => exact relists_stateLabel stepped

theorem handles_list : Handles Relists (Knows []) (fun _ => Knows []) where
  others label before later stepped := relists_others stepped
  stable := stable_knows []
  throws _ := stable_knows []
  ends result controller knows := knows
  start := by
    refine ⟨by simp [start], ?_⟩
    rintro handler ⟨⟩
    exact ⟨Knows [], .nil, stable_knows [], keepsList_clear⟩
  user event controller enabled knows :=
    ⟨Knows [], knows, stable_knows [], keepsList_handler event controller.toScreen⟩
  runLater first later controller waiting knows :=
    ⟨Knows [], knows, stable_knows [], keepsList_runLater first⟩

/-- Between two handlers the model has the sensors of the last list. -/
theorem Reachable.knows (reached : Reachable panel) (free : panel.running = none) :
    List.Forall₂ (NamedFrom panel.controller.sent) (lastList panel.controller.executed)
      panel.controller.model.sensors := by
  have knows := (handles_list.holds reached).idle free
  unfold Knows at knows
  rwa [List.append_nil] at knows

end Panel

theorem list_executed (response : AdministratorResponse) :
    (executed response).list =
      if response.commandType = .getAllSensors then some (response.sensors.map ofServer)
      else none := by
  unfold executed
  cases response.commandType with
  | getAllSensors => rfl
  | updateSensorName | revokeSensor | disconnectSensor | generateToken => rfl

section EndToEnd

open ClientHandler Framing SerializerAdministratorMessage Registry

variable {ids : IdSource} {readings : Readings} {content : Registry}
  {threads moment : Threads Registry} {panel : Panel} {sent : List Command}

/-- An active sensor with the name "A". -/
def oneSensor : Registry :=
  { rows := [{
      id := 1
      token := [116]
      columns := { name := [65], ip := [49], port := 7, status := .active } }] }

end EndToEnd

end SensorManager.JavaClient.Administrator
