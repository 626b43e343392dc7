import SensorManager.JavaClient.AdministratorController

/-!
# The threads of the administrator's client

Events of the user and what `runLater` was called with are handled one after the
other.  Between any two reads of the sensors by a handler, the thread of the
network may replace them.  Until the refresh that it asks for has begun, the
views are behind the model.
-/

namespace SensorManager.JavaClient.Administrator

open Process

/-- What the views show and what they should show. -/
structure View where
  screen : Screen
  model : AdministratorModel
  nameText : Option JavaString
  stateText : Option JavaString

namespace View

/-- The details of a sensor. -/
structure Details (view : View) (sensor : Sensor) : Prop where
  name : view.nameText = some sensor.name
  state : view.stateText = some (Administrator.stateText sensor.connected)
  disconnect : view.screen.disconnectDisabled = !sensor.connected
  revoke : view.screen.revokeDisabled = false
  editName : view.screen.editNameDisabled = false

structure Cleared (view : View) : Prop where
  name : view.nameText = some hyphen
  state : view.stateText = some hyphen
  disconnect : view.screen.disconnectDisabled = true
  revoke : view.screen.revokeDisabled = true
  editName : view.screen.editNameDisabled = true
  editedName : view.screen.editedNameVisible = false

/-- The details are those of the displayed sensor, if it is in the model. -/
structure Detailed (view : View) : Prop where
  present : ∀ sensor, view.model.getCurrentDisplayedSensor = some sensor → view.Details sensor
  absent : view.model.getCurrentDisplayedSensor = none → view.Cleared

/-- So they are, and the table shows the sensors of the model. -/
structure Shows (view : View) : Prop extends Detailed view where
  table : view.screen.sensorsTable = view.model.sensors.map SensorTable.ofSensor

/-- A sensor is displayed. -/
def Displays (view : View) : Prop :=
  view.Shows ∧ ∃ sensor, view.model.getCurrentDisplayedSensor = some sensor

/-- The details that are left to do: the sensor has got a new name. -/
def Renamed (newName : JavaString) (view : View) : Prop :=
  ∃ sensor, view.model.getCurrentDisplayedSensor = some sensor ∧ sensor.name = newName ∧
    { view with nameText := some newName }.Details sensor

/-- The table has the new name already. -/
def Relisted (newName : JavaString) (view : View) : Prop :=
  view.Renamed newName ∧ view.screen.sensorsTable = view.model.sensors.map SensorTable.ofSensor

variable {view other : View} {sensor : Sensor}

theorem Detailed.of_details (found : view.model.getCurrentDisplayedSensor = some sensor)
    (details : view.Details sensor) : view.Detailed where
  present another isAnother := by
    obtain rfl := Option.some.inj (found.symm.trans isAnother)
    exact details
  absent absent := by cases found.symm.trans absent

/-- What is typed is not among the details. -/
theorem Shows.of_editing (shows_ : view.Shows) (model : other.model = view.model)
    (nameText : other.nameText = view.nameText) (stateText : other.stateText = view.stateText)
    (table : other.screen.sensorsTable = view.screen.sensorsTable)
    (disconnect : other.screen.disconnectDisabled = view.screen.disconnectDisabled)
    (revoke : other.screen.revokeDisabled = view.screen.revokeDisabled)
    (editName : other.screen.editNameDisabled = view.screen.editNameDisabled)
    (editedName : other.screen.editedNameVisible = view.screen.editedNameVisible) :
    other.Shows := by
  refine ⟨⟨fun sensor found => ?_, fun absent => ?_⟩, ?_⟩
  · rw [model] at found
    have details := shows_.present sensor found
    exact ⟨nameText.trans details.name, stateText.trans details.state,
      disconnect.trans details.disconnect, revoke.trans details.revoke,
      editName.trans details.editName⟩
  · rw [model] at absent
    have cleared := shows_.absent absent
    exact ⟨nameText.trans cleared.name, stateText.trans cleared.state,
      disconnect.trans cleared.disconnect, revoke.trans cleared.revoke,
      editName.trans cleared.editName, editedName.trans cleared.editedName⟩
  · rw [table, model, shows_.table]

/-- What has to do with the editing of a name may change while a sensor is
displayed. -/
theorem Displays.of_editing (displays : view.Displays) (model : other.model = view.model)
    (nameText : other.nameText = view.nameText) (stateText : other.stateText = view.stateText)
    (table : other.screen.sensorsTable = view.screen.sensorsTable)
    (disconnect : other.screen.disconnectDisabled = view.screen.disconnectDisabled)
    (revoke : other.screen.revokeDisabled = view.screen.revokeDisabled)
    (editName : other.screen.editNameDisabled = view.screen.editNameDisabled) :
    other.Displays := by
  obtain ⟨shows_, sensor, found⟩ := displays
  have isDisplayed : other.model.getCurrentDisplayedSensor = some sensor := by rw [model, found]
  have details := shows_.present sensor found
  refine ⟨⟨.of_details isDisplayed ?_, ?_⟩, sensor, isDisplayed⟩
  · exact ⟨nameText.trans details.name, stateText.trans details.state,
      disconnect.trans details.disconnect, revoke.trans details.revoke,
      editName.trans details.editName⟩
  · rw [table, model, shows_.table]

end View

namespace Controller

def view (controller : Controller) : View :=
  { screen := controller.toScreen
    model := controller.model
    nameText := controller.labelName.content
    stateText := controller.labelState.content }

/-- The sensors have been replaced, and no refresh of the views has begun since. -/
def Behind (controller : Controller) : Prop :=
  controller.stale = true

/-- A label whose thread waits for the next text shows the last one, as soon as
the update of it is applied. -/
def Labels (controller : Controller) : Prop :=
  controller.labelName.Shown ∧ controller.labelState.Shown

/-- A refresh is to be asked for, or it waits. -/
def RefreshComes (controller : Controller) : Prop :=
  controller.refreshDue = true ∨ .refreshAllViews ∈ controller.later

/-- What holds of the labels and of the queue of `runLater` at any time. -/
def Sound (controller : Controller) : Prop :=
  controller.Labels ∧ (controller.Behind → controller.RefreshComes)

/-- What no thread ever takes back but the one of the user interface, when it
begins with a refresh. -/
def Keeps (before after : Controller) : Prop :=
  (before.Behind → after.Behind) ∧ (before.Sound → after.Sound)

/-- What the other threads do: they touch what is shown by replacing the sensors
alone, and then the views are behind. -/
def Others (before after : Controller) : Prop :=
  Keeps before after ∧ (after.view = before.view ∨ after.Behind)

/-- Where a handler ends: it throws only when the views are behind. -/
def Leaves {α : Type} (holds : α → View → Prop) :
    Except NullPointerException α → Controller → Prop
  | .ok value, controller => controller.Sound ∧ (controller.Behind ∨ holds value controller.view)
  | .error _, controller => controller.Sound ∧ controller.Behind

/-- What a handler does, unless the views get behind. -/
def Does {α : Type} (pre : View → Prop) (handler : Handler α) (holds : α → View → Prop) : Prop :=
  Outlined Others (Leaves holds)
    (fun controller => controller.Sound ∧ (controller.Behind ∨ pre controller.view)) handler

variable {α β : Type} {pre post : View → Prop} {holds : α → View → Prop}

theorem Others.of_view {before after : Controller} (keeps : Keeps before after)
    (same : after.view = before.view) : Others before after :=
  ⟨keeps, .inl same⟩

theorem stable_behind : Stable Others fun controller => controller.Sound ∧ controller.Behind :=
  fun _ _ now others => ⟨others.1.2 now.1, others.1.1 now.2⟩

theorem stable_behind_or (holds : View → Prop) :
    Stable Others fun controller =>
      controller.Sound ∧ (controller.Behind ∨ holds controller.view) := by
  rintro before after ⟨sound, behind | now⟩ ⟨⟨stays, kept⟩, same | behind⟩
  · exact ⟨kept sound, .inl (stays behind)⟩
  · exact ⟨kept sound, .inl behind⟩
  · rw [same]
    exact ⟨kept sound, .inr now⟩
  · exact ⟨kept sound, .inl behind⟩

theorem does_pure {value : α} (leaves : ∀ view, pre view → holds value view) :
    Does pre (pure value) holds :=
  .ended fun controller now => ⟨now.1, now.2.imp_right (leaves controller.view)⟩

theorem Does.bind {handler : Handler α} {rest : α → Handler β} {last : β → View → Prop}
    (first : Does pre handler holds) (second : ∀ value, Does (holds value) (rest value) last) :
    Does pre (handler >>= rest) last :=
  Outlined.bind first second fun _ _ behind => behind

theorem Does.of_imp {stronger : View → Prop} {handler : Handler α}
    (does : Does pre handler holds) (implies : ∀ view, stronger view → pre view) :
    Does stronger handler holds :=
  Outlined.of_pre does fun controller now => ⟨now.1, now.2.imp_right (implies controller.view)⟩

theorem Does.of_holds {weaker : α → View → Prop} {handler : Handler α}
    (does : Does pre handler holds)
    (implies : ∀ value view, holds value view → weaker value view) : Does pre handler weaker := by
  apply Outlined.of_post does
  intro result controller leaves
  cases result with
  | ok value => exact ⟨leaves.1, leaves.2.imp_right (implies value controller.view)⟩
  | error error => exact leaves

theorem Does.going {handler : Handler α} {controller : Controller} (does : Does pre handler holds)
    (sound : controller.Sound) (now : controller.Behind ∨ pre controller.view) :
    handler.Going Others (Leaves holds) controller :=
  ⟨_, ⟨sound, now⟩, stable_behind_or pre, does⟩

theorem does_call {action : Exec NullPointerException Controller α}
    (returns : ∀ before value after, action.runOn before = some (.ok value, after) →
      Keeps before after ∧ (pre before.view → holds value after.view))
    (throws : ∀ before error after, action.runOn before = some (.error error, after) →
      Keeps before after ∧ ¬ pre before.view) :
    Does pre (call action) holds := by
  apply Outlined.call
  · intro before value after now ran
    obtain ⟨⟨stays, kept⟩, leaves⟩ := returns before value after ran
    exact ⟨kept now.1, now.2.imp stays leaves⟩
  · intro before error after now ran
    obtain ⟨⟨stays, kept⟩, impossible⟩ := throws before error after ran
    exact ⟨kept now.1, stays (now.2.resolve_right impossible)⟩
  · exact fun value => stable_behind_or (holds value)

theorem does_modify {change : Controller → Controller}
    (keeps : ∀ controller : Controller, Keeps controller (change controller))
    (leaves : ∀ controller : Controller, pre controller.view → post (change controller).view) :
    Does pre (call (modify change)) fun _ => post := by
  apply does_call
  · rintro before value after ⟨⟩
    exact ⟨keeps before, leaves before⟩
  · rintro before error after ⟨⟩

theorem does_get :
    Does pre (call get) fun controller view => pre view ∧ controller.view = view := by
  apply does_call
  · rintro before value after ⟨⟩
    exact ⟨⟨id, id⟩, fun now => ⟨now, rfl⟩⟩
  · rintro before error after ⟨⟩

theorem keeps_clearSensorDetails (controller : Controller) :
    Keeps controller controller.clearSensorDetails :=
  ⟨id, fun sound =>
    ⟨⟨LabelRefresher.shown_refresh _ _, LabelRefresher.shown_refresh _ _⟩, sound.2⟩⟩

theorem keeps_displaySensorDetails (sensor : Sensor) (controller : Controller) :
    Keeps controller (controller.displaySensorDetails sensor) :=
  ⟨id, fun sound =>
    ⟨⟨LabelRefresher.shown_refresh _ _, LabelRefresher.shown_refresh _ _⟩, sound.2⟩⟩

theorem runOn_displayedSensor (controller : Controller) :
    displayedSensor.runOn controller =
      match controller.model.getCurrentDisplayedSensor with
      | some sensor => some (.ok sensor, controller)
      | none => some (.error .thrown, controller) := by
  unfold displayedSensor
  rw [Exec.runOn_get_bind]
  cases controller.model.getCurrentDisplayedSensor with
  | none => rfl
  | some sensor => rfl

/-- The sensor is there, unless the views are behind. -/
theorem does_displayedSensor
    (present : ∀ view, pre view → ∃ sensor, view.model.getCurrentDisplayedSensor = some sensor) :
    Does pre (call displayedSensor) fun sensor view =>
      pre view ∧ view.model.getCurrentDisplayedSensor = some sensor := by
  apply does_call
  · intro before sensor after ran
    rw [runOn_displayedSensor] at ran
    cases found : before.model.getCurrentDisplayedSensor with
    | none =>
        rw [found] at ran
        cases ran
    | some other =>
        rw [found] at ran
        cases ran
        exact ⟨⟨id, id⟩, fun now => ⟨now, found⟩⟩
  · intro before error after ran
    rw [runOn_displayedSensor] at ran
    cases found : before.model.getCurrentDisplayedSensor with
    | none =>
        rw [found] at ran
        cases ran
        refine ⟨⟨id, id⟩, fun now => ?_⟩
        obtain ⟨sensor, isPresent⟩ := present _ now
        exact absurd (found.symm.trans isPresent) (by simp)
    | some other =>
        rw [found] at ran
        cases ran

section Handlers

variable {sensor : Sensor}

/-- A row of the table is of a sensor that can be found. -/
theorem findSensorById_of_row {sensors : List Sensor} {row : SensorTable} {current : Option Int}
    (member : row ∈ sensors.map SensorTable.ofSensor) :
    ∃ sensor, AdministratorModel.findSensorById ⟨sensors, current⟩ (some row.sensorId) =
      some sensor := by
  obtain ⟨sensor, isSensor, rfl⟩ := List.mem_map.mp member
  apply Option.isSome_iff_exists.mp
  exact List.find?_isSome.mpr ⟨sensor, isSensor, decide_eq_true rfl⟩

/-- The first sensor with the id is the one whose name is set. -/
theorem find_setName (id : Option Int) (newName : JavaString) (sensors : List Sensor) :
    (AdministratorModel.setName id newName sensors).find? (fun sensor => some sensor.id = id) =
      (sensors.find? fun sensor => some sensor.id = id).map
        fun sensor => { sensor with name := newName } := by
  induction sensors with
  | nil => rfl
  | cons first sensors ih =>
      unfold AdministratorModel.setName
      by_cases same : some first.id = id
      · simp [same]
      · rw [if_neg same, List.find?_cons_of_neg (by simpa using same), ih,
          List.find?_cons_of_neg (by simpa using same)]

theorem runOn_updateSensorName (newName : JavaString) (controller : Controller) :
    (updateSensorName newName).runOn controller =
      match controller.model.getCurrentDisplayedSensor with
      | some _ => some (.ok (),
          { controller with
            model.sensors := AdministratorModel.setName controller.model.currentDisplayedSensorId
              newName controller.model.sensors })
      | none => some (.error .thrown, controller) := by
  unfold updateSensorName
  rw [Exec.runOn_bind, runOn_displayedSensor]
  cases controller.model.getCurrentDisplayedSensor with
  | none => rfl
  | some sensor => rfl

theorem does_updateSensorName (newName : JavaString) :
    Does View.Displays (call (updateSensorName newName)) fun _ => View.Renamed newName := by
  apply does_call
  · intro before value after ran
    rw [runOn_updateSensorName] at ran
    cases found : before.model.getCurrentDisplayedSensor with
    | none =>
        rw [found] at ran
        cases ran
    | some sensor =>
        rw [found] at ran
        cases ran
        refine ⟨⟨id, id⟩, fun ⟨shows_, _⟩ => ?_⟩
        have details := shows_.present sensor found
        refine ⟨{ sensor with name := newName }, ?_, rfl, rfl, details.state,
          details.disconnect, details.revoke, details.editName⟩
        refine (find_setName _ newName before.model.sensors).trans ?_
        exact congrArg (Option.map _) found
  · intro before error after ran
    rw [runOn_updateSensorName] at ran
    cases found : before.model.getCurrentDisplayedSensor with
    | none =>
        rw [found] at ran
        cases ran
        refine ⟨⟨id, id⟩, fun ⟨_, sensor, isPresent⟩ => ?_⟩
        cases found.symm.trans isPresent
    | some other =>
        rw [found] at ran
        cases ran

theorem view_sendForCurrent (commands : Int32 → List Command) (controller : Controller) :
    (sendForCurrent commands controller).view = controller.view := by
  unfold sendForCurrent
  split
  · rfl
  · rfl

theorem keeps_sendForCurrent (commands : Int32 → List Command) (controller : Controller) :
    Keeps controller (sendForCurrent commands controller) := by
  unfold sendForCurrent
  split
  · exact ⟨id, id⟩
  · exact ⟨id, id⟩

theorem does_sendForCurrent (commands : Int32 → List Command) :
    Does pre (call (modify (sendForCurrent commands))) fun _ => pre :=
  does_modify (keeps_sendForCurrent commands) fun controller now => by
    rwa [view_sendForCurrent]

theorem does_saveName (newName : JavaString) :
    Does View.Displays (saveName newName) fun _ => View.Displays := by
  refine (does_updateSensorName newName).bind fun _ => ?_
  refine (does_sendForCurrent _).bind fun _ => ?_
  have listed : Does (View.Renamed newName) (call (modify refreshSensorTable))
      fun _ => View.Relisted newName :=
    does_modify (fun _ => ⟨id, id⟩) fun controller ⟨sensor, found, name, details⟩ =>
      ⟨⟨sensor, found, name, details.name, details.state, details.disconnect, details.revoke,
        details.editName⟩, rfl⟩
  refine listed.bind fun _ => ?_
  refine does_modify (fun _ => ⟨id, fun sound =>
    ⟨⟨LabelRefresher.shown_refresh _ _, sound.1.2⟩, sound.2⟩⟩) ?_
  rintro controller ⟨⟨sensor, found, rfl, details⟩, table⟩
  refine ⟨⟨.of_details found ?_, table⟩, sensor, found⟩
  exact ⟨details.name, details.state, details.disconnect, details.revoke, details.editName⟩

theorem does_editOrSave (controller : Controller) :
    Does View.Displays (editOrSave controller) fun _ => View.Displays := by
  unfold editOrSave
  split
  · have hides : Does View.Displays
        (call (modify fun controller =>
          { controller with editedNameVisible := false, editNameText := .edit }))
        fun _ => View.Displays :=
      does_modify (fun _ => ⟨id, id⟩) fun _ displays =>
        displays.of_editing rfl rfl rfl rfl rfl rfl rfl
    refine hides.bind fun _ => ?_
    split
    · exact does_saveName _
    · exact does_pure fun _ displays => displays
  · refine (does_displayedSensor fun view displays => displays.2).bind fun sensor => ?_
    exact does_modify (fun _ => ⟨id, id⟩) fun _ now =>
      now.1.of_editing rfl rfl rfl rfl rfl rfl rfl

theorem does_editNameClicked : Does View.Displays editNameClicked fun _ => View.Displays := by
  refine does_get.bind fun before => ?_
  refine Does.bind ((does_editOrSave before).of_imp fun _ now => now.1)
    fun _ => ?_
  exact does_modify (fun _ => ⟨id, id⟩) fun _ displays =>
    displays.of_editing rfl rfl rfl rfl rfl rfl rfl

/-- The row that was double-clicked is of a sensor. -/
def Picked (view : View) : Prop :=
  view.screen.sensorsTable = view.model.sensors.map SensorTable.ofSensor ∧
    ∃ sensor, view.model.getCurrentDisplayedSensor = some sensor

/-- A double click on a row of the table. -/
def Picks (selectedSensor : Option SensorTable) (view : View) : Prop :=
  view.Shows ∧ ∀ row, selectedSensor = some row → row ∈ view.screen.sensorsTable

theorem does_tableClicked (clickCount : Nat) (selectedSensor : Option SensorTable) :
    Does (Picks selectedSensor) (tableClicked clickCount selectedSensor) fun _ => View.Shows := by
  have stops : Does (Picks selectedSensor)
      (call (modify fun controller => { controller with isNameEditing := false }))
      fun _ => Picks selectedSensor := by
    refine does_modify (fun _ => ⟨id, id⟩) fun controller picks => ?_
    exact ⟨picks.1.of_editing rfl rfl rfl rfl rfl rfl rfl rfl, picks.2⟩
  refine stops.bind fun _ => ?_
  split
  · cases selectedSensor with
    | none => exact does_pure fun view picks => picks.1
    | some row =>
        have changes : Does (Picks (some row))
            (call <| modify fun controller =>
              { controller with model := controller.model.changeCurrentSensor row.sensorId })
            fun _ => Picked :=
          does_modify (fun _ => ⟨id, id⟩) fun controller picks => by
            have member := picks.2 row rfl
            rw [picks.1.table] at member
            exact ⟨picks.1.table, findSensorById_of_row member⟩
        have clears : Does Picked (call (modify clearSensorDetails)) fun _ => Picked :=
          does_modify keeps_clearSensorDetails fun _ picked => picked
        refine changes.bind fun _ => clears.bind fun _ => ?_
        refine (does_displayedSensor fun view picked => picked.2).bind fun sensor => ?_
        exact does_modify (keeps_displaySensorDetails sensor) fun controller now =>
          ⟨.of_details now.2 ⟨rfl, rfl, rfl, rfl, rfl⟩, now.1.1⟩
  · exact does_pure fun view picks => picks.1

theorem does_refreshDetails : Does (fun _ => True) refreshDetails fun _ => View.Detailed := by
  refine does_get.bind fun before => ?_
  have sameModel : ∀ view : View, True ∧ before.view = view → view.model = before.model := by
    rintro view ⟨-, rfl⟩
    rfl
  cases found : before.model.getCurrentDisplayedSensor with
  | none =>
      refine does_modify keeps_clearSensorDetails fun controller now => ⟨?_, fun _ => ?_⟩
      · intro sensor isDisplayed
        have absent : controller.model.getCurrentDisplayedSensor = none := by
          rw [← found]
          exact congrArg _ (sameModel controller.view now)
        cases absent.symm.trans isDisplayed
      · exact ⟨rfl, rfl, rfl, rfl, rfl, rfl⟩
  | some sensor =>
      have present : ∀ view : View, True ∧ before.view = view →
          ∃ sensor, view.model.getCurrentDisplayedSensor = some sensor := by
        intro view now
        rw [sameModel view now]
        exact ⟨sensor, found⟩
      refine (does_displayedSensor present).bind fun sensor => ?_
      exact does_modify (keeps_displaySensorDetails sensor) fun controller now =>
        .of_details now.2 ⟨rfl, rfl, rfl, rfl, rfl⟩

theorem does_refreshAllViews : Does (fun _ => True) refreshAllViews fun _ => View.Shows := by
  refine does_refreshDetails.bind fun _ => ?_
  refine does_modify (fun _ => ⟨id, id⟩) fun controller detailed => ⟨⟨?_, ?_⟩, rfl⟩
  · intro sensor found
    have details := detailed.present sensor found
    exact ⟨details.name, details.state, details.disconnect, details.revoke, details.editName⟩
  · intro absent
    have cleared := detailed.absent absent
    exact ⟨cleared.name, cleared.state, cleared.disconnect, cleared.revoke, cleared.editName,
      cleared.editedName⟩

end Handlers

end Controller

/-- What the user does.  A click on the table comes with the row that is
selected; `saveSensorName` is called for the key Enter. -/
inductive UserEvent where
  | tableClicked (clickCount row : Nat)
  | addNewSensorClicked
  | disconnectClicked
  | revokeClicked
  | editNameClicked
  | saveSensorName
  | typed (text : JavaString)
  deriving DecidableEq, Repr

namespace UserEvent

/-- Disabled buttons and hidden text fields get no events. -/
def enabled (screen : Screen) : UserEvent → Bool
  | .tableClicked .. | .addNewSensorClicked => true
  | .disconnectClicked => !screen.disconnectDisabled
  | .revokeClicked => !screen.revokeDisabled
  | .editNameClicked => !screen.editNameDisabled
  | .saveSensorName | .typed _ => screen.editedNameVisible

def handler (screen : Screen) : UserEvent → Handler Unit
  | .tableClicked clickCount row => Controller.tableClicked clickCount screen.sensorsTable[row]?
  | .addNewSensorClicked => Controller.addNewSensorClicked
  | .disconnectClicked => Controller.disconnectClicked
  | .revokeClicked => Controller.revokeClicked
  | .editNameClicked | .saveSensorName => Controller.editNameClicked
  | .typed text => call (modify fun controller => { controller with editedName := text })

end UserEvent

/-- The program; `running` is the rest of the handler that the thread of the
user interface is in. -/
structure Panel : Type 1 where
  controller : Controller := {}
  running : Option (Handler Unit) := none

inductive PanelLabel where
  | user (event : UserEvent)
  | runLater
  | act
  | response (response : ResponseExecutor)
  | refreshLater
  | timer
  | nameCalls
  | stateCalls
  | nameWakes
  | stateWakes
  | nameUpdates
  | stateUpdates
  deriving DecidableEq, Repr

namespace Panel

/-- `initialize` before its last line. -/
def start : Panel :=
  { running := some (call (modify Controller.clearSensorDetails)) }

/-- The next action of the handler, or its end.  What is thrown ends it, too. -/
def act (panel : Panel) : Option Panel :=
  match panel.running with
  | none => none
  | some (.ended _) => some { panel with running := none }
  | some handler =>
      (handler.step panel.controller).map fun stepped =>
        { controller := stepped.2, running := some stepped.1 }

/-- What the thread of the network does first in a call of the
`ResponseExecutor`. -/
def execute (response : ResponseExecutor) (controller : Controller) : Controller :=
  match response with
  | .executeResponseGetAllSensors sensors =>
      { controller with model.sensors := sensors, refreshDue := true, stale := true }
  | .executeResponseUpdateSensorName _ =>
      { controller with later := controller.later ++ [.refreshAllViews] }
  | .executeResponseRevokeSensor _ | .executeResponseDisconnectSensor _ => controller
  | .executeResponseGenerateToken tokenContent =>
      { controller with later := controller.later ++ [.displayToken tokenContent] }

def respond (response : ResponseExecutor) (controller : Controller) : Option Controller :=
  if controller.refreshDue then none
  else
    some { execute response controller with executed := controller.executed ++ [response] }

def refreshLater (controller : Controller) : Option Controller :=
  if controller.refreshDue then
    some { controller with
      later := controller.later ++ [.refreshAllViews]
      refreshDue := false }
  else none

def nameLabel (change : LabelRefresher → Option LabelRefresher) (controller : Controller) :
    Option Controller :=
  (change controller.labelName).map fun label => { controller with labelName := label }

def stateLabel (change : LabelRefresher → Option LabelRefresher) (controller : Controller) :
    Option Controller :=
  (change controller.labelState).map fun label => { controller with labelState := label }

/-- A step that is not one of a handler. -/
def others : PanelLabel → Controller → Option Controller
  | .response response => respond response
  | .refreshLater => refreshLater
  | .timer => fun controller =>
      some { controller with later := controller.later ++ [.sendRequestGetAllSensors] }
  | .nameCalls => nameLabel LabelRefresher.call
  | .stateCalls => stateLabel LabelRefresher.call
  | .nameWakes => nameLabel LabelRefresher.wake
  | .stateWakes => stateLabel LabelRefresher.wake
  | .nameUpdates => nameLabel LabelRefresher.applyUpdate
  | .stateUpdates => stateLabel LabelRefresher.applyUpdate
  | .user _ | .runLater | .act => fun _ => none

/-- The thread of the user interface takes up an event. -/
def begin (event : UserEvent) (panel : Panel) : Option Panel :=
  match panel.running with
  | none =>
      if event.enabled panel.controller.toScreen then
        some { panel with running := some (event.handler panel.controller.toScreen) }
      else none
  | some _ => none

/-- The first of what `runLater` was called with is taken up.  The views are no longer
behind when it is their refresh. -/
def takeUp (first : Later) (later : List Later) (controller : Controller) : Controller :=
  { controller with
    later := later
    stale := controller.stale && first ≠ .refreshAllViews }

def beginLater (panel : Panel) : Option Panel :=
  match panel.running, panel.controller.later with
  | none, first :: later =>
      some
        { controller := takeUp first later panel.controller
          running := some (Controller.runLater first) }
  | _, _ => none

def byOthers (label : PanelLabel) (panel : Panel) : Option Panel :=
  (others label panel.controller).map fun controller => { panel with controller := controller }

/-- The updates of the labels are applied by the thread of the user interface, so not
while it is in a handler. -/
def step (label : PanelLabel) (panel : Panel) : Option Panel :=
  match label with
  | .user event => panel.begin event
  | .runLater => panel.beginLater
  | .act => panel.act
  | .nameUpdates => if panel.running.isNone then panel.byOthers .nameUpdates else none
  | .stateUpdates => if panel.running.isNone then panel.byOthers .stateUpdates else none
  | label => panel.byOthers label

/-- The states that any order of the threads leads to. -/
inductive Reachable : Panel → Prop
  | start : Reachable start
  | next {panel after : Panel} (label : PanelLabel) (reached : Reachable panel)
      (stepped : panel.step label = some after) : Reachable after

section Invariant

open Controller

variable {panel after : Panel} {label : PanelLabel} {before later : Controller}

/-- Between two handlers `idle` holds.  The handler under way ends where `leaves`
holds. -/
structure Holds (rely : Controller → Controller → Prop) (idle : Controller → Prop)
    (leaves : Except NullPointerException Unit → Controller → Prop) (panel : Panel) : Prop where
  idle : panel.running = none → idle panel.controller
  busy : ∀ handler, panel.running = some handler →
    handler.Going rely leaves panel.controller

/-- The other threads do as `rely` says, and every handler that begins where
`idle` holds ends where it holds again. -/
structure Handles (rely : Controller → Controller → Prop) (idle : Controller → Prop)
    (leaves : Except NullPointerException Unit → Controller → Prop) : Prop where
  others : ∀ label before later, others label before = some later → rely before later
  stable : Stable rely idle
  throws : ∀ error, Stable rely (leaves (.error error))
  ends : ∀ result controller, leaves result controller → idle controller
  start : start.Holds rely idle leaves
  user : ∀ (event : UserEvent) (controller : Controller),
    event.enabled controller.toScreen = true → idle controller →
      (event.handler controller.toScreen).Going rely leaves controller
  runLater : ∀ (first : Later) (later : List Later) (controller : Controller),
    controller.later = first :: later → idle controller →
      (Controller.runLater first).Going rely leaves (takeUp first later controller)

section Handles

variable {rely : Controller → Controller → Prop} {idle : Controller → Prop}
  {leaves : Except NullPointerException Unit → Controller → Prop}

theorem Holds.begin {event : UserEvent} (handles : Handles rely idle leaves)
    (holds : panel.Holds rely idle leaves) (stepped : panel.begin event = some after) :
    after.Holds rely idle leaves := by
  unfold Panel.begin at stepped
  split at stepped
  · next free =>
      split at stepped
      · next enabled =>
          cases stepped
          refine ⟨by simp, ?_⟩
          rintro handler ⟨⟩
          exact handles.user event panel.controller enabled (holds.idle free)
      · cases stepped
  · cases stepped

theorem Holds.beginLater (handles : Handles rely idle leaves)
    (holds : panel.Holds rely idle leaves) (stepped : panel.beginLater = some after) :
    after.Holds rely idle leaves := by
  unfold Panel.beginLater at stepped
  split at stepped
  · next first rest free waiting =>
      cases stepped
      refine ⟨by simp, ?_⟩
      rintro handler ⟨⟩
      exact handles.runLater first rest panel.controller waiting (holds.idle free)
  · cases stepped

theorem Holds.act (handles : Handles rely idle leaves) (holds : panel.Holds rely idle leaves)
    (stepped : panel.act = some after) : after.Holds rely idle leaves := by
  unfold Panel.act at stepped
  split at stepped
  · cases stepped
  · next result ended =>
      cases stepped
      exact ⟨fun _ => handles.ends result _ (holds.busy _ ended).of_ended, by simp⟩
  · next handler _ running =>
      obtain ⟨⟨next, reached⟩, moved, rfl⟩ := Option.map_eq_some_iff.mp stepped
      refine ⟨by simp, ?_⟩
      rintro later ⟨⟩
      exact (holds.busy handler running).of_step handles.throws moved

theorem Holds.byOthers (handles : Handles rely idle leaves)
    (holds : panel.Holds rely idle leaves) (stepped : panel.byOthers label = some after) :
    after.Holds rely idle leaves := by
  obtain ⟨controller, moved, rfl⟩ := Option.map_eq_some_iff.mp stepped
  have relies := handles.others label _ _ moved
  exact ⟨fun free => handles.stable _ _ (holds.idle free) relies,
    fun handler running => (holds.busy handler running).of_rely relies⟩

theorem Holds.step (handles : Handles rely idle leaves) (holds : panel.Holds rely idle leaves)
    (stepped : panel.step label = some after) : after.Holds rely idle leaves := by
  cases label with
  | user event => exact holds.begin handles stepped
  | runLater => exact holds.beginLater handles stepped
  | act => exact holds.act handles stepped
  | response _ | refreshLater | timer | nameCalls | stateCalls | nameWakes | stateWakes =>
      exact holds.byOthers handles stepped
  | nameUpdates | stateUpdates =>
      simp only [Panel.step] at stepped
      split at stepped
      · exact holds.byOthers handles stepped
      · cases stepped

/-- The rule for all orders of the threads. -/
theorem Handles.holds (handles : Handles rely idle leaves) (reached : Reachable panel) :
    panel.Holds rely idle leaves := by
  induction reached with
  | start => exact handles.start
  | next label _ stepped ih => exact ih.step handles stepped

end Handles

/-- The window shows the model, unless it is behind. -/
def UpToDate (controller : Controller) : Prop :=
  controller.Sound ∧ (controller.Behind ∨ controller.view.Shows)

def Blank (view : View) : Prop :=
  view.model.sensors = [] ∧ view.screen.sensorsTable = []

theorem does_clear : Does Blank (call (modify clearSensorDetails)) fun _ => View.Shows := by
  refine does_modify keeps_clearSensorDetails fun controller blank => ?_
  have noSensor : controller.model.sensors = [] := blank.1
  refine ⟨⟨?_, fun _ => ⟨rfl, rfl, rfl, rfl, rfl, rfl⟩⟩, ?_⟩
  · intro sensor found
    have member : sensor ∈ controller.model.sensors := List.mem_of_find?_eq_some found
    rw [noSensor] at member
    cases member
  · refine blank.2.trans ?_
    change [] = controller.model.sensors.map SensorTable.ofSensor
    rw [noSensor, List.map_nil]

theorem sound_start : start.controller.Sound := by
  refine ⟨⟨?_, ?_⟩, ?_⟩
  · rintro ⟨⟩
  · rintro ⟨⟩
  · rintro ⟨⟩

theorem sound_append (more : Later) :
    before.Sound → { before with later := before.later ++ [more] }.Sound :=
  And.imp_right fun comes behind => (comes behind).imp_right (List.mem_append_left _)

theorem sound_takeUp {first : Later} {rest : List Later} (sound : before.Sound)
    (waiting : before.later = first :: rest) : (takeUp first rest before).Sound := by
  refine ⟨sound.1, fun behind => ?_⟩
  obtain ⟨stale, other⟩ : before.stale = true ∧ first ≠ .refreshAllViews := by
    simpa [Behind, takeUp] using behind
  rcases sound.2 stale with due | isWaiting
  · exact .inl due
  · rw [waiting] at isWaiting
    exact .inr (List.mem_of_ne_of_mem other.symm isWaiting)

theorem others_respond {response : ResponseExecutor}
    (responded : respond response before = some later) : Others before later := by
  unfold respond at responded
  split at responded
  · cases responded
  · cases responded
    cases response with
    | executeResponseGetAllSensors sensors =>
        exact ⟨⟨fun _ => rfl, fun sound => ⟨sound.1, fun _ => .inl rfl⟩⟩, .inr rfl⟩
    | executeResponseUpdateSensorName sensorId => exact .of_view ⟨id, sound_append _⟩ rfl
    | executeResponseRevokeSensor sensorId => exact .of_view ⟨id, id⟩ rfl
    | executeResponseDisconnectSensor sensorId => exact .of_view ⟨id, id⟩ rfl
    | executeResponseGenerateToken tokenContent => exact .of_view ⟨id, sound_append _⟩ rfl

theorem others_refreshLater (asked : refreshLater before = some later) : Others before later := by
  unfold refreshLater at asked
  split at asked
  · cases asked
    refine ⟨⟨id, fun sound => ⟨sound.1, fun _ => .inr ?_⟩⟩, .inl rfl⟩
    exact List.mem_append_right _ (List.mem_singleton_self _)
  · cases asked

theorem others_nameLabel {change : LabelRefresher → Option LabelRefresher}
    (shown : ∀ label after, label.Shown → change label = some after → after.Shown)
    (content : ∀ label after, change label = some after → after.content = label.content)
    (changed : nameLabel change before = some later) : Others before later := by
  obtain ⟨label, isChanged, rfl⟩ := Option.map_eq_some_iff.mp changed
  refine .of_view ⟨id, fun sound =>
    ⟨⟨shown _ _ sound.1.1 isChanged, sound.1.2⟩, sound.2⟩⟩ ?_
  unfold Controller.view
  rw [content _ _ isChanged]

theorem others_stateLabel {change : LabelRefresher → Option LabelRefresher}
    (shown : ∀ label after, label.Shown → change label = some after → after.Shown)
    (content : ∀ label after, change label = some after → after.content = label.content)
    (changed : stateLabel change before = some later) : Others before later := by
  obtain ⟨label, isChanged, rfl⟩ := Option.map_eq_some_iff.mp changed
  refine .of_view ⟨id, fun sound =>
    ⟨⟨sound.1.1, shown _ _ sound.1.2 isChanged⟩, sound.2⟩⟩ ?_
  unfold Controller.view
  rw [content _ _ isChanged]

theorem others_step (stepped : others label before = some later) : Others before later := by
  cases label with
  | user event => cases stepped
  | runLater => cases stepped
  | act => cases stepped
  | response response => exact others_respond stepped
  | refreshLater => exact others_refreshLater stepped
  | timer =>
      cases stepped
      exact .of_view ⟨id, sound_append _⟩ rfl
  | nameCalls =>
      exact others_nameLabel (fun _ _ _ => LabelRefresher.shown_call)
        (fun _ _ => LabelRefresher.content_call) stepped
  | stateCalls =>
      exact others_stateLabel (fun _ _ _ => LabelRefresher.shown_call)
        (fun _ _ => LabelRefresher.content_call) stepped
  | nameWakes =>
      exact others_nameLabel (fun _ _ _ => LabelRefresher.shown_wake)
        (fun _ _ => LabelRefresher.content_wake) stepped
  | stateWakes =>
      exact others_stateLabel (fun _ _ _ => LabelRefresher.shown_wake)
        (fun _ _ => LabelRefresher.content_wake) stepped
  | nameUpdates =>
      exact others_nameLabel (fun _ _ => LabelRefresher.shown_applyUpdate)
        (fun _ _ => LabelRefresher.content_applyUpdate) stepped
  | stateUpdates =>
      exact others_stateLabel (fun _ _ => LabelRefresher.shown_applyUpdate)
        (fun _ _ => LabelRefresher.content_applyUpdate) stepped

/-- What there is to be edited is displayed. -/
theorem displays_of_enabled {view : View} (shows_ : view.Shows)
    (enabled : view.screen.editNameDisabled = false ∨ view.screen.editedNameVisible = true) :
    view.Displays := by
  refine ⟨shows_, ?_⟩
  cases found : view.model.getCurrentDisplayedSensor with
  | some sensor => exact ⟨sensor, rfl⟩
  | none =>
      have cleared := shows_.absent found
      rcases enabled with button | field
      · cases cleared.editName.symm.trans button
      · cases cleared.editedName.symm.trans field

/-- Every event is handled. -/
theorem does_handler {screen : Screen} {event : UserEvent} (enabled : event.enabled screen) :
    Does (fun view => view.Shows ∧ view.screen = screen) (event.handler screen)
      fun _ => View.Shows := by
  cases event with
  | tableClicked clickCount row =>
      refine (does_tableClicked clickCount screen.sensorsTable[row]?).of_imp ?_
      rintro view ⟨shows_, rfl⟩
      exact ⟨shows_, fun _ => List.mem_of_getElem?⟩
  | addNewSensorClicked =>
      exact does_modify (fun _ => ⟨id, id⟩) fun _ now => now.1
  | disconnectClicked => exact (does_sendForCurrent _).of_imp fun _ now => now.1
  | revokeClicked => exact (does_sendForCurrent _).of_imp fun _ now => now.1
  | editNameClicked =>
      refine (does_editNameClicked.of_imp ?_).of_holds fun _ _ displays => displays.1
      rintro view ⟨shows_, rfl⟩
      exact displays_of_enabled shows_ (.inl (by simpa [UserEvent.enabled] using enabled))
  | saveSensorName =>
      refine (does_editNameClicked.of_imp ?_).of_holds fun _ _ displays => displays.1
      rintro view ⟨shows_, rfl⟩
      exact displays_of_enabled shows_ (.inr enabled)
  | typed text =>
      exact does_modify (fun _ => ⟨id, id⟩) fun _ now =>
        now.1.of_editing rfl rfl rfl rfl rfl rfl rfl rfl

theorem does_runLater (first : Later) :
    Does (fun view => first = .refreshAllViews ∨ view.Shows) (Controller.runLater first)
      fun _ => View.Shows := by
  cases first with
  | refreshAllViews => exact does_refreshAllViews.of_imp fun _ _ => trivial
  | displayToken token => exact does_pure fun view now => now.resolve_left nofun
  | sendRequestGetAllSensors =>
      exact does_modify (fun _ => ⟨id, id⟩) fun _ now => now.resolve_left nofun

theorem handles_shows : Handles Others UpToDate (Leaves fun _ => View.Shows) where
  others label before later stepped := others_step stepped
  stable := stable_behind_or View.Shows
  throws _ := stable_behind
  ends result controller left := by
    cases result with
    | ok value => exact left
    | error error => exact ⟨left.1, .inl left.2⟩
  start := by
    refine ⟨by simp [start], ?_⟩
    rintro handler ⟨⟩
    exact does_clear.going sound_start (.inr ⟨rfl, rfl⟩)
  user event controller enabled upToDate :=
    (does_handler enabled).going upToDate.1 (upToDate.2.imp_right fun shows_ => ⟨shows_, rfl⟩)
  runLater first later controller waiting upToDate := by
    refine (does_runLater first).going (sound_takeUp upToDate.1 waiting) ?_
    rcases upToDate.2 with behind | shows_
    · by_cases isRefresh : first = .refreshAllViews
      · exact .inr (.inl isRefresh)
      · refine .inl ?_
        have stale : controller.stale = true := behind
        simp [Behind, takeUp, stale, isRefresh]
    · exact .inr (.inr shows_)

/-- In whatever order the threads go on: a handler throws only when the views
are behind the model.  Between two handlers a refresh comes if they are, and otherwise
the window shows the model; the labels have the last texts as soon as their threads
wait for the next ones and their updates are applied. -/
theorem window_shows (reached : Reachable panel) :
    (∀ error, panel.running = some (.ended (.error error)) → panel.controller.Behind) ∧
      (panel.running = none →
        (panel.controller.Behind → panel.controller.RefreshComes) ∧
          (¬ panel.controller.Behind → panel.controller.view.Shows) ∧
          panel.controller.Labels) := by
  constructor
  · intro error ended
    exact ((handles_shows.holds reached).busy _ ended).of_ended.2
  · intro free
    obtain ⟨⟨labels, comes⟩, now⟩ := (handles_shows.holds reached).idle free
    exact ⟨comes, now.resolve_left, labels⟩

/-- The steps are taken one after the other. -/
def play : List PanelLabel → Panel → Option Panel
  | [], panel => some panel
  | label :: labels, panel => (panel.step label).bind (play labels)

theorem Reachable.of_play {labels : List PanelLabel} (reached : Reachable panel)
    (played : play labels panel = some after) : Reachable after := by
  induction labels generalizing panel with
  | nil =>
      cases played
      exact reached
  | cons label labels ih =>
      obtain ⟨middle, stepped, goesOn⟩ := Option.bind_eq_some_iff.mp played
      exact ih (reached.next label stepped) goesOn

/-- A click on "Edit" after the list without the sensor has come, and before the
refresh. -/
def clickTooLate : List PanelLabel :=
  [.act, .act, .response (.executeResponseGetAllSensors [⟨7, [65], [49], 9000, true⟩]),
    .refreshLater, .runLater, .act, .act, .act, .act,
    .user (.tableClicked 2 0), .act, .act, .act, .act, .act, .act,
    .response (.executeResponseGetAllSensors []), .user .editNameClicked, .act, .act]

theorem window_shows_clickTooLate :
    ∃ panel : Panel, Reachable panel ∧ panel.running = some (.ended (.error .thrown)) ∧
      panel.controller.Behind := by
  have played : (play clickTooLate start).bind (·.running) =
      some (.ended (.error .thrown)) := rfl
  obtain ⟨panel, reached, threw⟩ := Option.bind_eq_some_iff.mp played
  have reachable := Reachable.start.of_play reached
  exact ⟨panel, reachable, threw, (window_shows reachable).1 _ threw⟩

end Invariant

end Panel

end SensorManager.JavaClient.Administrator
