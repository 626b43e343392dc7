import SensorManager.Server.Outcome
import SensorManager.Server.Parsers

/-!
# The listeners and untrusted messages

A call of `onGotRequest` reads fields whose places and sizes the sender has
chosen, and follows the pointer that `analyzeMessage` returns.  The conditions
below say for which messages it comes back.
-/

namespace SensorManager

open SerializerMessage

variable {δ : Type}

/-- What a call of `onGotRequest` comes to. -/
inductive Called (σ : Type) where
  | readsOutside
  | dereferencesNull
  | returns (after : σ)

/-- The body of the administrator and the monitoring listener: the request is
analyzed, dereferenced and queued. -/
def Called.ofAnalyzed {ρ : Type} (add : Stamped ρ → Server δ) (conn cause : Nat) :
    Option (Option ρ) → Called (Server δ)
  | none => .readsOutside
  | some none => .dereferencesNull
  | some (some request) => .returns (add { request := request, conn := conn, cause := cause })

def AdministratorListener.onGotRequest (server : Server δ) (clientId : Int) (msg : ByteString)
    (conn cause : Nat) : Called (Server δ) :=
  .ofAnalyzed server.addAdministratorRequestToExecute conn cause
    (SerializerAdministratorMessage.analyzeMessage clientId msg)

def MonitoringListener.onGotRequest (server : Server δ) (clientId : Int) (msg : ByteString)
    (conn cause : Nat) : Called (Server δ) :=
  .ofAnalyzed server.addMonitoringRequestToExecute conn cause
    (SerializerMonitoringMessage.analyzeMessage clientId msg)

namespace SensorListener

/-- The fields that `onGotRequest` gets with `getData`: position and size. -/
def fields (msg : ByteString) (beyond : BytesParser.Memory) : List (Nat × Nat) :=
  if BytesParser.parse 1 msg 0 beyond = 109 then [(0, 1), (1, 8), (9, 4)] else [(0, 1)]

/-- `onGotRequest`, with a look at what it reads. -/
def call (server : Server δ) (clientId : Int) (msg : ByteString) (beyond : BytesParser.Memory)
    (sent : Int) (conn cause : Nat) : Called (Server δ) :=
  if ∀ field ∈ fields msg beyond, field.1 + field.2 ≤ msg.length then
    .returns (onGotRequest server clientId msg beyond sent conn cause)
  else .readsOutside

end SensorListener

/-- The call returns; the queue is unchanged, or holds one more request, which is
made for the client. -/
def Called.Contained {ρ : Type} (queue : Server δ → List (Stamped ρ)) (clientOf : ρ → Int)
    (server : Server δ) (clientId : Int) (called : Called (Server δ)) : Prop :=
  ∃ after, called = .returns after ∧
    (queue after = queue server ∨
      ∃ stamped, queue after = queue server ++ [stamped] ∧ clientOf stamped.request = clientId)

/-- The messages that the administrator listener takes. -/
def AdministratorFits (msg : ByteString) : Prop :=
  8 ≤ msg.length ∧
    (intAt msg 4 = 0 ∨
      (intAt msg 4 = 1 ∧ 20 ≤ msg.length ∧ 20 + (intAt msg 16).toNat ≤ msg.length) ∨
      ((intAt msg 4 = 2 ∨ intAt msg 4 = 3) ∧ 16 ≤ msg.length) ∨
      (intAt msg 4 = 4 ∧ 12 ≤ msg.length ∧ 12 + (intAt msg 8).toNat ≤ msg.length))

def MonitoringFits (msg : ByteString) : Prop :=
  12 ≤ msg.length ∧ (intAt msg 8 = 0 ∨ (intAt msg 8 = 1 ∧ 28 ≤ msg.length))

def SensorFits (msg : ByteString) : Prop :=
  msg.head? = some 109 → 13 ≤ msg.length

instance (msg : ByteString) : Decidable (AdministratorFits msg) :=
  inferInstanceAs (Decidable (_ ∧ _))

instance (msg : ByteString) : Decidable (MonitoringFits msg) :=
  inferInstanceAs (Decidable (_ ∧ _))

instance (msg : ByteString) : Decidable (SensorFits msg) :=
  inferInstanceAs (Decidable (_ → _))

section Analyzed

variable {ρ : Type} {queue : Server δ → List (Stamped ρ)} {clientOf : ρ → Int}
  {server : Server δ} {clientId : Int} {add : Stamped ρ → Server δ} {conn cause : Nat}

/-- A listener that queues what it has analyzed returns when there is a request. -/
theorem contained_ofAnalyzed_iff {analyzed : Option (Option ρ)}
    (added : ∀ stamped, queue (add stamped) = queue server ++ [stamped])
    (made : ∀ request, analyzed = some (some request) → clientOf request = clientId) :
    (Called.ofAnalyzed add conn cause analyzed).Contained queue clientOf server clientId ↔
      ∃ request, analyzed = some (some request) := by
  constructor
  · rintro ⟨after, returned, -⟩
    cases analyzed with
    | none => cases returned
    | some pointer =>
        cases pointer with
        | none => cases returned
        | some request => exact ⟨request, rfl⟩
  · rintro ⟨request, rfl⟩
    exact ⟨_, rfl, .inr ⟨_, added _, made request rfl⟩⟩

end Analyzed

section Administrator

open SerializerAdministratorMessage

theorem intAt_drop (msg : ByteString) (first second : Nat) :
    intAt (msg.drop first) second = intAt msg (first + second) := by
  rw [intAt, intAt, List.drop_drop]

/-- A parser that has a result leaves it to `analyzeMessage` to return it. -/
theorem return_eq_some_iff {ρ : Type} {parsed : Option ρ} {request : ρ} :
    (do return some (← parsed)) = some (some request) ↔ parsed = some request := by
  cases parsed <;> simp

theorem analyzeCommand_eq_some_iff {clientId : Int} {commandType : Int32}
    {parameters : List UInt8} {request : AdministratorRequest} :
    analyzeCommand clientId commandType parameters = some (some request) ↔
      (commandType = 0 ∧ analyzeGetAllSensors clientId = request) ∨
      (commandType = 1 ∧ analyzeUpdateSensorName clientId parameters = some request) ∨
      (commandType = 2 ∧ analyzeRevokeSensor clientId parameters = some request) ∨
      (commandType = 3 ∧ analyzeDisconnectSensor clientId parameters = some request) ∨
      (commandType = 4 ∧ analyzeGenerateToken clientId parameters = some request) := by
  unfold analyzeCommand
  split_ifs with zero one two three four
  · simp [zero]
  · rw [return_eq_some_iff]
    simp [one]
  · rw [return_eq_some_iff]
    simp [two]
  · rw [return_eq_some_iff]
    simp [three]
  · rw [return_eq_some_iff]
    simp [four]
  · simp [zero, one, two, three, four]

/-- The requests that a message is taken for, by the command that it holds. -/
theorem analyzeMessage_eq_some_iff {clientId : Int} {msg : ByteString} (nonempty : msg ≠ [])
    {request : AdministratorRequest} :
    analyzeMessage clientId msg = some (some request) ↔
      8 ≤ msg.length ∧
        ((intAt msg 4 = 0 ∧ analyzeGetAllSensors clientId = request) ∨
        (intAt msg 4 = 1 ∧ analyzeUpdateSensorName clientId (msg.drop 8) = some request) ∨
        (intAt msg 4 = 2 ∧ analyzeRevokeSensor clientId (msg.drop 8) = some request) ∨
        (intAt msg 4 = 3 ∧ analyzeDisconnectSensor clientId (msg.drop 8) = some request) ∨
        (intAt msg 4 = 4 ∧ analyzeGenerateToken clientId (msg.drop 8) = some request)) := by
  rw [analyzeMessage_eq clientId nonempty]
  split
  · next long =>
      rw [analyzeCommand_eq_some_iff]
      simp only [ofInt_intAt_eq_iff (by omega : 4 + 4 ≤ msg.length), long, true_and]
      rfl
  · next short =>
      simp [short]

/-- Every request is made for the client whose message was analyzed. -/
theorem clientId_analyzeMessage {clientId : Int} {msg : ByteString} (nonempty : msg ≠ [])
    {request : AdministratorRequest}
    (analyzed : analyzeMessage clientId msg = some (some request)) :
    request.clientId = clientId := by
  obtain ⟨-, ⟨-, rfl⟩ | ⟨-, parsed⟩ | ⟨-, parsed⟩ | ⟨-, parsed⟩ | ⟨-, parsed⟩⟩ :=
    (analyzeMessage_eq_some_iff nonempty).mp analyzed
  · rfl
  · rw [analyzeUpdateSensorName_eq, Option.ite_none_right_eq_some] at parsed
    obtain rfl := Option.some.inj parsed.2
    rfl
  · rw [analyzeRevokeSensor, analyzeSensorId_eq, Option.ite_none_right_eq_some] at parsed
    obtain rfl := Option.some.inj parsed.2
    rfl
  · rw [analyzeDisconnectSensor, analyzeSensorId_eq, Option.ite_none_right_eq_some] at parsed
    obtain rfl := Option.some.inj parsed.2
    rfl
  · rw [analyzeGenerateToken_eq, Option.ite_none_right_eq_some] at parsed
    obtain rfl := Option.some.inj parsed.2
    rfl

theorem administratorFits_iff {clientId : Int} {msg : ByteString} (nonempty : msg ≠ []) :
    (∃ request, analyzeMessage clientId msg = some (some request)) ↔ AdministratorFits msg := by
  simp only [analyzeMessage_eq_some_iff nonempty, analyzeUpdateSensorName_eq,
    analyzeRevokeSensor, analyzeDisconnectSensor, analyzeSensorId_eq, analyzeGenerateToken_eq,
    Option.ite_none_right_eq_some, Option.some.injEq, exists_and_left, exists_or, exists_eq',
    and_true, intAt_drop, List.length_drop, Nat.reduceAdd, AdministratorFits]
  omega

end Administrator

section Monitoring

open SerializerMonitoringMessage

theorem monitoringFits_iff {clientId : Int} {msg : ByteString} (nonempty : msg ≠ []) :
    (∃ request, analyzeMessage clientId msg = some (some request)) ↔ MonitoringFits msg := by
  rw [analyzeMessage_eq clientId nonempty, MonitoringFits]
  split_ifs with long all one fits
  · simp [long, all]
  · simp [long, one, fits]
  · simp [one, fits]
  · simp [all, one]
  · simp [long]

theorem clientId_analyzeMonitoring {clientId : Int} {msg : ByteString} (nonempty : msg ≠ [])
    {request : MonitoringRequest}
    (analyzed : analyzeMessage clientId msg = some (some request)) :
    request.clientId = clientId := by
  rw [analyzeMessage_eq clientId nonempty] at analyzed
  split_ifs at analyzed with long all one fits
  · obtain rfl := Option.some.inj (Option.some.inj analyzed)
    rfl
  · obtain rfl := Option.some.inj (Option.some.inj analyzed)
    rfl
  · cases analyzed

end Monitoring

section Sensor

open SensorListener

/-- An answer or the end of the connection leaves other requests as they are. -/
theorem sensorRequestsQueue_send (server : Server δ) (channel : Channel) (clientId : Int)
    (msg : ByteString) (sent : Int) :
    (server.send channel clientId msg sent).sensorRequestsQueue = server.sensorRequestsQueue := by
  simp only [Server.send]
  split <;> rfl

theorem sensorRequestsQueue_disconnectClient (server : Server δ) (clientId : Int) :
    (server.disconnectClient .sensor clientId).sensorRequestsQueue = server.sensorRequestsQueue ∨
      ∃ stamped, (server.disconnectClient .sensor clientId).sensorRequestsQueue =
        server.sensorRequestsQueue ++ [stamped] ∧ stamped.request.clientId = clientId := by
  cases held : server.holder .sensor clientId with
  | none =>
      obtain ⟨handler, -, result⟩ := Server.disconnectClient_free .sensor clientId held
      rw [result]
      exact .inl rfl
  | some conn =>
      obtain ⟨handler, -, result⟩ := Server.disconnectClient_held .sensor clientId held
      rw [result]
      exact .inr ⟨_, rfl, rfl⟩

/-- What the sensor listener queues is made for its client. -/
theorem contained_onGotRequest (server : Server δ) (clientId : Int) (msg : ByteString)
    (beyond : BytesParser.Memory) (sent : Int) (conn cause : Nat) :
    (Called.returns (onGotRequest server clientId msg beyond sent conn cause)).Contained
      Server.sensorRequestsQueue SensorRequest.clientId server clientId := by
  refine ⟨_, rfl, ?_⟩
  unfold onGotRequest
  split
  · have kept := sensorRequestsQueue_send server .sensor clientId
      (measureAnswer (measureTimestamp msg beyond)) sent
    exact .inr ⟨_, congrArg (· ++ [_]) kept, rfl⟩
  · exact .inr ⟨_, rfl, rfl⟩
  · exact sensorRequestsQueue_disconnectClient server clientId

theorem sensorFits_iff {msg : ByteString} (nonempty : msg ≠ []) (beyond : BytesParser.Memory) :
    (∀ field ∈ fields msg beyond, field.1 + field.2 ≤ msg.length) ↔ SensorFits msg := by
  obtain ⟨byte, rest, rfl⟩ := List.exists_cons_of_ne_nil nonempty
  have isMeasure : BytesParser.parse 1 (byte :: rest) 0 beyond = 109 ↔ byte = 109 :=
    BytesParser.parse_first (by decide) beyond
  simp only [fields, isMeasure, SensorFits, List.head?_cons, Option.some.injEq,
    List.length_cons]
  split
  · next measure => simp [measure]; omega
  · next other => simp [other]

/-- Inside the message nothing else is read. -/
theorem onGotRequest_memory {msg : ByteString} (nonempty : msg ≠ []) (fits : SensorFits msg)
    (server : Server δ) (clientId sent : Int) (conn cause : Nat)
    (beyond other : BytesParser.Memory) :
    onGotRequest server clientId msg beyond sent conn cause =
      onGotRequest server clientId msg other sent conn cause := by
  obtain ⟨byte, rest, rfl⟩ := List.exists_cons_of_ne_nil nonempty
  rw [Server.onGotRequest_cons, Server.onGotRequest_cons]
  by_cases measure : byte = 109
  · have long : 13 ≤ (byte :: rest).length := fits (by rw [measure]; rfl)
    have timestamp : measureTimestamp (byte :: rest) beyond =
        measureTimestamp (byte :: rest) other := by
      rw [measureTimestamp, measureTimestamp, BytesParser.parse_of_inside (by omega),
        BytesParser.parse_of_inside (by omega)]
    have value : measureValue (byte :: rest) beyond = measureValue (byte :: rest) other := by
      rw [measureValue, measureValue, BytesParser.parse_of_inside (by omega),
        BytesParser.parse_of_inside (by omega)]
    rw [handleMeasureMsg, handleMeasureMsg, timestamp, value]
  · rw [if_neg measure, if_neg measure]

end Sensor

section Runs

/-- A message that the administrator listener takes is a step of the server. -/
theorem AdministratorListener.onGotRequest_eq (server : Server δ) (slot : Int)
    {msg : ByteString} (nonempty : msg ≠ []) {request : AdministratorRequest} {conn : Nat}
    (analyzed : SerializerAdministratorMessage.analyzeMessage
      ((server.handler .administrator).clientHandlers slot).clientId msg = some (some request)) :
    onGotRequest server ((server.handler .administrator).clientHandlers slot).clientId msg conn
        server.log.length =
      .returns (server.receiveAdministratorRequest slot request conn) := by
  rw [onGotRequest, analyzed, Server.receiveAdministratorRequest,
    ← clientId_analyzeMessage nonempty analyzed]
  rfl

theorem MonitoringListener.onGotRequest_eq (server : Server δ) (slot : Int)
    {msg : ByteString} (nonempty : msg ≠ []) {request : MonitoringRequest} {conn : Nat}
    (analyzed : SerializerMonitoringMessage.analyzeMessage
      ((server.handler .monitoring).clientHandlers slot).clientId msg = some (some request)) :
    onGotRequest server ((server.handler .monitoring).clientHandlers slot).clientId msg conn
        server.log.length =
      .returns (server.receiveMonitoringRequest slot request conn) := by
  rw [onGotRequest, analyzed, Server.receiveMonitoringRequest,
    ← clientId_analyzeMonitoring nonempty analyzed]
  rfl

end Runs

/-- For a message that the framing layer delivers, the calls of the listeners
come back, with at most one request more in their queues, exactly when the
message fits the reads of its parser.  What the sensor listener then does depends on
no memory beyond the message. -/
theorem listeners_contained_iff (server : Server δ) (clientId : Int) {msg : ByteString}
    (delivered : Server.deliverable msg = true) (beyond : BytesParser.Memory) (sent : Int)
    (conn cause : Nat) :
    ((AdministratorListener.onGotRequest server clientId msg conn cause).Contained
        Server.administratorRequestsQueue AdministratorRequest.clientId server clientId ↔
      AdministratorFits msg) ∧
    ((MonitoringListener.onGotRequest server clientId msg conn cause).Contained
        Server.monitoringRequestsQueue MonitoringRequest.clientId server clientId ↔
      MonitoringFits msg) ∧
    ((SensorListener.call server clientId msg beyond sent conn cause).Contained
        Server.sensorRequestsQueue SensorRequest.clientId server clientId ↔
      SensorFits msg) ∧
    (SensorFits msg → ∀ other,
      SensorListener.onGotRequest server clientId msg other sent conn cause =
        SensorListener.onGotRequest server clientId msg beyond sent conn cause) := by
  have nonempty : msg ≠ [] := by
    rintro rfl
    cases delivered
  refine ⟨?_, ?_, ?_, fun fits other =>
    onGotRequest_memory nonempty fits server clientId sent conn cause other beyond⟩
  · rw [← administratorFits_iff nonempty]
    exact contained_ofAnalyzed_iff (fun _ => rfl) fun _ => clientId_analyzeMessage nonempty
  · rw [← monitoringFits_iff nonempty]
    exact contained_ofAnalyzed_iff (fun _ => rfl) fun _ => clientId_analyzeMonitoring nonempty
  · rw [← sensorFits_iff nonempty beyond]
    constructor
    · rintro ⟨after, returned, -⟩
      by_contra outside
      rw [SensorListener.call, if_neg outside] at returned
      cases returned
    · intro inside
      rw [SensorListener.call, if_pos inside]
      exact contained_onGotRequest server clientId msg beyond sent conn cause

/-- The command to revoke sensor 7. -/
theorem listeners_contained_iff_revoke :
    (AdministratorListener.onGotRequest (Server.start ()) 0
      [0, 0, 0, 4, 0, 0, 0, 2, 0, 0, 0, 4, 0, 0, 0, 7] 0 0).Contained
        Server.administratorRequestsQueue AdministratorRequest.clientId (Server.start ()) 0 := by
  apply (listeners_contained_iff (Server.start ()) 0 (by decide) (fun _ => 0) 0 0 0).1.mpr
  decide

/-- One byte is too short for a command, and a command that does not exist is
the null pointer. -/
theorem listeners_not_contained_shortAndUnknown :
    AdministratorListener.onGotRequest (Server.start ()) 0 [1] 0 0 = .readsOutside ∧
      AdministratorListener.onGotRequest (Server.start ()) 0 [0, 0, 0, 4, 0, 0, 0, 9] 0 0 =
        .dereferencesNull ∧
      ¬ (AdministratorListener.onGotRequest (Server.start ()) 0 [1] 0 0).Contained
        Server.administratorRequestsQueue AdministratorRequest.clientId (Server.start ()) 0 := by
  have short : AdministratorListener.onGotRequest (Server.start ()) 0 [1] 0 0 = .readsOutside :=
    rfl
  refine ⟨short, rfl, ?_⟩
  rintro ⟨after, returned, -⟩
  rw [short] at returned
  cases returned

end SensorManager
