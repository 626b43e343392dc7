import SensorManager.JavaClient.Administrator
import SensorManager.JavaClient.CommunicationManager
import SensorManager.Lib.Process

/-!
# The window of the administrator

`Controller` of the administrator's client, with its `AdministratorModel` and
the two `LabelRefresher` threads.  The handlers run on the thread of the user
interface.  The thread of the network replaces the sensors of the model at any
time, and asks for a refresh of the views behind that.
-/

namespace SensorManager.JavaClient.Administrator

open Process

/-- Where the thread of a `LabelRefresher` stands: it has not yet called `wait`,
it waits for the first text or for the next one, or it has been notified. -/
inductive RefresherStage where
  | starting
  | waitsFirst
  | waits
  | woken
  deriving DecidableEq, Repr

/-- `message` is the text that the label is bound to.  `update` is what
`updateMessage` was last called with, as long as the thread of the user interface has
not set the message to it. -/
structure LabelRefresher where
  content : Option JavaString := none
  stage : RefresherStage := .starting
  update : Option (Option JavaString) := none
  message : Option JavaString := some []
  deriving DecidableEq, Repr

namespace LabelRefresher

/-- `notify` before the first `wait` is lost. -/
def refresh (text : JavaString) (label : LabelRefresher) : LabelRefresher :=
  { label with
    content := some text
    stage := if label.stage = .starting then .starting else .woken }

/-- What the thread does between two calls of `wait`. -/
def call (label : LabelRefresher) : Option LabelRefresher :=
  match label.stage with
  | .starting => some { label with stage := .waitsFirst }
  | .woken => some { label with update := some label.content, stage := .waits }
  | .waitsFirst | .waits => none

/-- A thread may wake up without having been notified. -/
def wake (label : LabelRefresher) : Option LabelRefresher :=
  match label.stage with
  | .waitsFirst | .waits => some { label with stage := .woken }
  | .starting | .woken => none

/-- The thread of the user interface does what `updateMessage` has asked for. -/
def applyUpdate (label : LabelRefresher) : Option LabelRefresher :=
  label.update.map fun message => { label with message := message, update := none }

/-- While its thread waits for the next text, the label has the last one, or an
update to it is under way. -/
def Shown (label : LabelRefresher) : Prop :=
  label.stage = .waits → label.update.getD label.message = label.content

variable {label after : LabelRefresher}

theorem shown_refresh (text : JavaString) (label : LabelRefresher) :
    (label.refresh text).Shown := by
  unfold LabelRefresher.refresh Shown
  dsimp only
  split
  · rintro ⟨⟩
  · rintro ⟨⟩

theorem shown_call (called : label.call = some after) : after.Shown := by
  unfold LabelRefresher.call at called
  split at called
  · cases called
    rintro ⟨⟩
  · cases called
    exact fun _ => rfl
  · cases called
  · cases called

theorem shown_wake (woke : label.wake = some after) : after.Shown := by
  unfold LabelRefresher.wake at woke
  split at woke
  · cases woke
    rintro ⟨⟩
  · cases woke
    rintro ⟨⟩
  · cases woke
  · cases woke

theorem shown_applyUpdate (shown : label.Shown) (applied : label.applyUpdate = some after) :
    after.Shown := by
  obtain ⟨message, waiting, rfl⟩ := Option.map_eq_some_iff.mp applied
  intro waits
  have last := shown waits
  rwa [waiting] at last

theorem content_applyUpdate (applied : label.applyUpdate = some after) :
    after.content = label.content := by
  obtain ⟨message, -, rfl⟩ := Option.map_eq_some_iff.mp applied
  rfl

theorem content_call (called : label.call = some after) : after.content = label.content := by
  unfold LabelRefresher.call at called
  split at called
  all_goals cases called
  all_goals rfl

theorem content_wake (woke : label.wake = some after) : after.content = label.content := by
  unfold LabelRefresher.wake at woke
  split at woke
  all_goals cases woke
  all_goals rfl

end LabelRefresher

/-- A row of the table. -/
structure SensorTable where
  sensorId : Int
  sensorName : JavaString
  sensorIp : JavaString
  sensorPort : Int
  deriving DecidableEq, Repr

def SensorTable.ofSensor (sensor : Sensor) : SensorTable :=
  { sensorId := sensor.id
    sensorName := sensor.name
    sensorIp := sensor.ip
    sensorPort := sensor.port }

structure AdministratorModel where
  sensors : List Sensor := []
  currentDisplayedSensorId : Option Int := none
  deriving DecidableEq, Repr

namespace AdministratorModel

/-- `id` is none where the source passes `null`, which no id equals. -/
def findSensorById (model : AdministratorModel) (id : Option Int) : Option Sensor :=
  model.sensors.find? fun sensor => some sensor.id = id

def getCurrentDisplayedSensor (model : AdministratorModel) : Option Sensor :=
  model.findSensorById model.currentDisplayedSensorId

def changeCurrentSensor (model : AdministratorModel) (id : Int) : AdministratorModel :=
  { model with currentDisplayedSensorId := some id }

/-- `setName` of the first sensor with the id. -/
def setName (id : Option Int) (newName : JavaString) : List Sensor → List Sensor
  | [] => []
  | sensor :: sensors =>
      if some sensor.id = id then { sensor with name := newName } :: sensors
      else sensor :: setName id newName sensors

end AdministratorModel

/-- What `Platform.runLater` was called with. -/
inductive Later where
  | refreshAllViews
  | displayToken (token : JavaString)
  | sendRequestGetAllSensors
  deriving DecidableEq, Repr

/-- The text of the button for the name. -/
inductive EditName where
  | edit
  | save
  deriving DecidableEq, Repr

/-- What only the thread of the user interface uses. -/
structure Screen where
  isNameEditing : Bool := false
  sensorsTable : List SensorTable := []
  disconnectDisabled : Bool := false
  revokeDisabled : Bool := false
  editNameDisabled : Bool := false
  editNameText : EditName := .edit
  editedName : JavaString := []
  editedNameVisible : Bool := false
  deriving DecidableEq, Repr

/-- `refreshDue` is set while the thread of the network has replaced the sensors
and not yet asked for the refresh.  Not part of the program are the list of the calls
that the thread of the network has made, and `stale`, which is set from where the
sensors are replaced to where a refresh of all views begins. -/
structure Controller extends Screen where
  model : AdministratorModel := {}
  labelName : LabelRefresher := {}
  labelState : LabelRefresher := {}
  later : List Later := []
  refreshDue : Bool := false
  stale : Bool := false
  sent : List Command := []
  executed : List ResponseExecutor := []
  deriving DecidableEq, Repr

/-- The text "-". -/
def hyphen : JavaString :=
  [45]

/-- "ONLINE" and "OFFLINE". -/
def stateText (connected : Bool) : JavaString :=
  if connected then [79, 78, 76, 73, 78, 69] else [79, 70, 70, 76, 73, 78, 69]

/-- "newToken" -/
def newToken : JavaString :=
  [110, 101, 119, 84, 111, 107, 101, 110]

/-- Code of the thread of the user interface, cut where it reads the sensors. -/
abbrev Handler := Process NullPointerException Controller

namespace Controller

def clearSensorDetails (controller : Controller) : Controller :=
  { controller with
    labelName := controller.labelName.refresh hyphen
    labelState := controller.labelState.refresh hyphen
    editNameText := .edit
    editedNameVisible := false
    editedName := hyphen
    disconnectDisabled := true
    revokeDisabled := true
    editNameDisabled := true }

def displaySensorDetails (sensor : Sensor) (controller : Controller) : Controller :=
  { controller with
    labelName := controller.labelName.refresh sensor.name
    labelState := controller.labelState.refresh (stateText sensor.connected)
    disconnectDisabled := !sensor.connected
    revokeDisabled := false
    editNameDisabled := false }

def refreshSensorTable (controller : Controller) : Controller :=
  { controller with sensorsTable := controller.model.sensors.map SensorTable.ofSensor }

/-- The sensor that is displayed; a use of `null` throws. -/
def displayedSensor : Exec NullPointerException Controller Sensor := do
  match (← get).model.getCurrentDisplayedSensor with
  | some sensor => pure sensor
  | none => throw .thrown

/-- A list that is replaced before `setName` has the sensors that were found in
it no more. -/
def updateSensorName (newName : JavaString) : Exec NullPointerException Controller Unit := do
  let _ ← displayedSensor
  modify fun controller =>
    { controller with
      model.sensors := AdministratorModel.setName controller.model.currentDisplayedSensorId
        newName controller.model.sensors }

def send (commands : List Command) (controller : Controller) : Controller :=
  { controller with sent := controller.sent ++ commands }

/-- The commands for the id of the sensor that is displayed. -/
def sendForCurrent (commands : Int32 → List Command) (controller : Controller) : Controller :=
  match controller.model.currentDisplayedSensorId with
  | some id => controller.send (commands (.ofInt id))
  | none => controller

def tableClicked (clickCount : Nat) (selectedSensor : Option SensorTable) : Handler Unit := do
  call (modify fun controller => { controller with isNameEditing := false })
  if clickCount = 2 then
    match selectedSensor with
    | none => pure ()
    | some selectedSensor => do
        call <| modify fun controller =>
          { controller with
            model := controller.model.changeCurrentSensor selectedSensor.sensorId }
        call (modify clearSensorDetails)
        let sensor ← call displayedSensor
        call (modify (displaySensorDetails sensor))
  else pure ()

def addNewSensorClicked : Handler Unit :=
  call (modify (send [.generateToken newToken]))

def disconnectClicked : Handler Unit :=
  call (modify (sendForCurrent fun id => [.disconnectSensor id, .getAllSensors]))

def revokeClicked : Handler Unit :=
  call (modify (sendForCurrent fun id => [.revokeSensor id, .getAllSensors]))

/-- The new name goes to the model, the server, the table and the label. -/
def saveName (newName : JavaString) : Handler Unit := do
  call (updateSensorName newName)
  call (modify (sendForCurrent fun id => [.updateSensorName id newName]))
  call (modify refreshSensorTable)
  call <| modify fun controller =>
    { controller with labelName := controller.labelName.refresh newName }

/-- The two branches of `editNameClicked`. -/
def editOrSave (controller : Controller) : Handler Unit :=
  if controller.isNameEditing then do
    call <| modify fun controller =>
      { controller with editedNameVisible := false, editNameText := .edit }
    if controller.editedName ≠ [] then saveName controller.editedName else pure ()
  else do
    let sensor ← call displayedSensor
    call <| modify fun controller =>
      { controller with
        editedName := sensor.name
        editedNameVisible := true
        editNameText := .save }

def editNameClicked : Handler Unit := do
  let controller ← call get
  editOrSave controller
  call (modify fun controller => { controller with isNameEditing := !controller.isNameEditing })

/-- The model is asked twice for the sensor. -/
def refreshDetails : Handler Unit := do
  let controller ← call get
  match controller.model.getCurrentDisplayedSensor with
  | some _ => do
      let sensor ← call displayedSensor
      call (modify (displaySensorDetails sensor))
  | none => call (modify clearSensorDetails)

def refreshAllViews : Handler Unit := do
  refreshDetails
  call (modify refreshSensorTable)

/-- The dialog for a token waits for the user and does nothing more. -/
def runLater : Later → Handler Unit
  | .refreshAllViews => refreshAllViews
  | .displayToken _ => pure ()
  | .sendRequestGetAllSensors => call (modify (send [.getAllSensors]))

end Controller

end SensorManager.JavaClient.Administrator
