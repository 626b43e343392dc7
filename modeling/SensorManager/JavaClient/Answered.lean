import SensorManager.JavaClient.Administrator
import SensorManager.JavaClient.Dispatch
import SensorManager.JavaClient.Monitoring
import SensorManager.Server.Delivery

/-!
# Answers from end to end

What the executors of the server compute, its senders serialise and its sockets
take, and what the `ResponseExecutor` of a Java client is called with at the
other end of the connection.
-/

namespace SensorManager.JavaClient

open Framing SerializerMessage

namespace ClientHandler

variable {γ β : Type} {analyzeResponse : List UInt8 → Except JavaException (Option γ)}
  {serialize : β → List UInt8} {execute : β → γ} {answers : List β} {events : List ReadEvent}

/-- `analyzeResponse` with the call that it makes left out. -/
def returns (analyzeResponse : List UInt8 → Except JavaException (Option γ))
    (message : List UInt8) : Except JavaException Unit :=
  (analyzeResponse message).map fun _ => ()

/-- The calls of the `ResponseExecutor`, in their order. -/
def calls (analyzeResponse : List UInt8 → Except JavaException (Option γ))
    (handler : ClientHandler) : List γ :=
  handler.analyzed.filterMap fun message => (analyzeResponse message).toOption.join

/-- At every end of a read the bytes so far are whole frames. -/
def WholeFrames (events : List ReadEvent) : Prop :=
  AtEveryComplete events fun earlier => ∃ messages,
    (∀ message ∈ messages, responseFormat.Allowed message) ∧
      received earlier = responseFormat.encode messages

theorem received_extends {earlier : List ReadEvent} {event : ReadEvent}
    (front : earlier ++ [event] <+: events) : received earlier <+: received events := by
  obtain ⟨later, rfl⟩ := front
  simp [received]

/-- A frame that comes in one read. -/
theorem wholeFrames_singleRead {bytes : List UInt8} (message : List UInt8)
    (allowed : responseFormat.Allowed message) (frame : bytes = responseFormat.encode [message]) :
    WholeFrames [.channelRead0 bytes, .channelReadComplete] := by
  rintro earlier ⟨rest, same⟩
  refine ⟨[message], by simpa using allowed, ?_⟩
  -- Only the second event is the end of a read.
  rcases earlier with _ | ⟨first, _ | ⟨second, more⟩⟩
  · cases same
  · cases same
    simpa [received] using frame
  · simp at same

/-- While the bytes come from the frames of messages that are understood, the
handler makes the calls of the first of them, and of all of them when all have
come. -/
theorem calls_of_front
    (decodes : ∀ answer ∈ answers, analyzeResponse (serialize answer) = .ok (some (execute answer)))
    (allowed : ∀ answer ∈ answers, responseFormat.Allowed (serialize answer))
    (front : received events <+: responseFormat.encode (answers.map serialize))
    (whole : WholeFrames events) :
    (run (returns analyzeResponse) events).caught = none ∧
      ∃ first, first <+: answers ∧
        calls analyzeResponse (run (returns analyzeResponse) events) = first.map execute ∧
        (∀ earlier, events = earlier ++ [.channelReadComplete] →
          received events = responseFormat.encode (answers.map serialize) → first = answers) := by
  have messages : ∀ message ∈ answers.map serialize, responseFormat.Allowed message := by
    intro message member
    obtain ⟨answer, isAnswer, rfl⟩ := List.mem_map.mp member
    exact allowed answer isAnswer
  have analysed : ∀ message ∈ answers.map serialize,
      returns analyzeResponse message = .ok () := by
    intro message member
    obtain ⟨answer, isAnswer, rfl⟩ := List.mem_map.mp member
    rw [returns, decodes answer isAnswer]
    rfl
  have cut : AtEveryComplete events fun earlier =>
      Whole (returns analyzeResponse) (answers.map serialize) (received earlier) := by
    intro earlier within
    obtain ⟨bodies, bodiesAllowed, stream⟩ := whole earlier within
    have first : bodies <+: answers.map serialize := by
      apply Format.prefix_of_encode_prefix (fun body member => (messages body member).fits)
        fun body member => (bodiesAllowed body member).fits
      rw [← stream]
      exact (received_extends within).trans front
    exact ⟨bodies, first, stream, fun body member => analysed body (first.subset member)⟩
  obtain ⟨isOpen, inOrder, split⟩ := run_of_whole messages cut
  obtain ⟨rest, isAll⟩ := inOrder
  obtain ⟨first, later, rfl, isFirst, -⟩ := List.map_eq_append_iff.mp isAll.symm
  refine ⟨isOpen, first, List.prefix_append _ _, ?_, ?_⟩
  · rw [calls, ← isFirst, List.filterMap_map, ← List.filterMap_eq_map]
    apply List.filterMap_congr
    intro answer member
    simp [decodes answer (List.mem_append_left _ member), Except.toOption]
  · intro earlier ends arrived
    have emptied : (run (returns analyzeResponse) events).buffer = [] := by
      rw [ends, run_append] at isOpen ⊢
      exact (analyzeBuffer_returns (returned_of_isOpen isOpen)).1
    rw [emptied, List.append_nil, arrived, ← isFirst, List.map_append,
      Format.encode_append] at split
    have nothing : responseFormat.encode (later.map serialize) = [] :=
      List.append_cancel_left (split.trans (List.append_nil _).symm)
    have none_left : later = [] := by
      cases later with
      | nil => rfl
      | cons answer later =>
          have frame := Format.frame_ne_nil (allowed answer (by simp))
          simp [frame] at nothing
    rw [none_left, List.append_nil]

end ClientHandler

section EndToEnd

open ClientHandler

variable {δ κ α γ η : Type} {lane : Lane δ κ α} {channel : Channel} {serialize : α → ByteString}
  {clientIn : κ → Int} {programs : κ → Pass δ α → Prop} {keyIn : κ → Int × η}
  {keyOf : α → Int × η} {side : Side δ κ α} {server : Server δ}
  {executed : List (Stamped κ × Except SQLException (Stamped α)) → Stamped κ → α → Prop}

/-- What a client has executed are the answers to the first of its questions, and
to all of them when nothing is under way. -/
theorem executes_answers (delivering : side.Delivering channel serialize clientIn server)
    (sound : side.Sound lane programs keyIn keyOf server)
    (own : ∀ earlier stamped response later,
      side.finished = earlier ++ (stamped, .ok response) :: later →
      executed earlier stamped response.request) {slot : Int} {conn : Nat}
    (held : server.holder channel slot = some conn)
    {analyzeResponse : List UInt8 → Except JavaException (Option γ)} {execute : α → γ}
    (decodes : ∀ response ∈ side.handed, response.conn = conn →
      responseFormat.Allowed (serialize response.request) ∧
        analyzeResponse (serialize response.request) = .ok (some (execute response.request)))
    (taken : server.taken channel conn ++ server.outBuffer channel slot =
      wire.encode (server.sentTo channel conn)) {events : List ReadEvent}
    (arrived : received events <+: server.taken channel conn) (whole : WholeFrames events) :
    (run (returns analyzeResponse) events).caught = none ∧
      ∃ served, side.Answers executed conn served ∧
        calls analyzeResponse (run (returns analyzeResponse) events) =
          served.map (fun pair => execute pair.2.request) ∧
        (∀ earlier, side.Drained lane server → server.outBuffer channel slot = [] →
          events = earlier ++ [.channelReadComplete] →
          received events = server.taken channel conn →
          served.map Prod.fst = side.questionsOf conn) := by
  obtain ⟨served, answers, handed, sent, all⟩ := delivering.served sound own held
  have encoded : wire.encode (server.sentTo channel conn) =
      responseFormat.encode (served.map fun pair => serialize pair.2.request) := by
    rw [sent]
    rfl
  rw [encoded] at taken
  have understood : ∀ pair ∈ served, responseFormat.Allowed (serialize pair.2.request) ∧
      analyzeResponse (serialize pair.2.request) = .ok (some (execute pair.2.request)) :=
    fun pair member => decodes pair.2 (handed (List.mem_map_of_mem member)) (answers.of_conn member)
  obtain ⟨isOpen, first, front, called, complete⟩ := calls_of_front
    (fun pair member => (understood pair member).2) (fun pair member => (understood pair member).1)
    (arrived.trans ⟨_, taken⟩) whole
  refine ⟨isOpen, first, answers.front front, called, ?_⟩
  intro earlier drained emptied ends received
  rw [emptied, List.append_nil] at taken
  rw [complete earlier ends (received.trans taken), all drained]

end EndToEnd

section Clients

open ClientHandler

variable {δ : Type} {database : IDatabaseConnection δ}
  {meets : Threads δ → Threads δ → Prop} {initial threads : Threads δ}

namespace Administrator

open SerializerAdministratorMessage

/-- The client understands the responses that it can be sent in a frame. -/
theorem decodes_sendable {responses : List (Stamped AdministratorResponse)} {conn : Nat}
    (sendable : ∀ response ∈ responses, response.conn = conn → Sendable response.request ∧
      (serializeResponseMessage response.request).length ≤ responseFormat.limit) :
    ∀ response ∈ responses, response.conn = conn →
      responseFormat.Allowed (serializeResponseMessage response.request) ∧
        analyzeResponse (serializeResponseMessage response.request) =
          .ok (some (executed response.request)) := by
  intro response member own
  obtain ⟨plain, small⟩ := sendable response member own
  have holds : (serializeResponseMessage response.request).length < 2 ^ 31 := by
    simp only [responseFormat] at small
    omega
  obtain ⟨rest, written, called⟩ := branch_serialized plain holds
  refine ⟨⟨serializeResponseMessage_ne_nil _, small⟩, ?_⟩
  rw [written]
  exact analyzeResponse_branch called

/-- An answer is of the type of its question. -/
theorem commandType_of_executed
    {earlier : List (Stamped AdministratorRequest ×
      Except SQLException (Stamped AdministratorResponse))}
    {stamped : Stamped AdministratorRequest} {response : AdministratorResponse}
    (executed : Threads.AdministratorExecuted database meets initial threads earlier stamped
      response) : response.commandType = stamped.request.commandType := by
  obtain ⟨_, ⟨rands, sent, rfl⟩, computes⟩ := executed.computes
  exact (Pass.computes_executeAdministratorRequest computes).2

/-- The `ResponseExecutor` of an administrator is called with the answers to its
own questions, in their order and once each, whatever the threads of the server
and the network do, as long as no answer goes to a slot that another connection
has taken over, the answers to this client are such that the two sides read them
alike, and no read ends within a frame. -/
theorem administrator_executes_answers {content : δ}
    (run : Threads.OutRun database Threads.HandsToAsker (Threads.start content) threads)
    {slot : Int} {conn : Nat} (held : threads.server.holder .administrator slot = some conn)
    (sendable : ∀ response ∈ threads.administrators.handed, response.conn = conn →
      Sendable response.request ∧
        (serializeResponseMessage response.request).length ≤ responseFormat.limit)
    {events : List ReadEvent}
    (arrived : received events <+: threads.server.taken .administrator conn)
    (whole : WholeFrames events) :
    (ClientHandler.run (returns analyzeResponse) events).caught = none ∧
      ∃ served, threads.administrators.Answers
          (Threads.AdministratorExecuted database Threads.HandsToAsker (Threads.start content)
            threads) conn served ∧
        calls analyzeResponse (ClientHandler.run (returns analyzeResponse) events) =
          served.map (fun pair => executed pair.2.request) ∧
        (∀ earlier, threads.administrators.Drained (administratorLane δ) threads.server →
          threads.server.outBuffer .administrator slot = [] →
          events = earlier ++ [.channelReadComplete] →
          received events = threads.server.taken .administrator conn →
          served.map Prod.fst = threads.administrators.questionsOf conn) := by
  exact executes_answers run.delivers.administrators run.outbound.sound.administrators
    (run.administratorPasses.all rfl) held (decodes_sendable sendable) (run.whole held)
    arrived whole

/-- An administrator asks twice.  The socket takes the first answer in two parts
and the client reads it in two others. -/
def twoQuestions : List OutLabel :=
  [.thread (.network (.accept .administrator 0 5 .zero)),
    .thread (.network (.administratorFrame 0 { clientId := 0, commandType := .getAllSensors })),
    .thread (.takeAdministrator [] 0), .thread .executeAdministrator,
    .thread (.network (.administratorFrame 0
      { clientId := 0, commandType := .disconnectSensor, sensorId := 1 })),
    .thread .executeAdministrator, .thread .pickAdministrator, .thread (.handAdministrator 6),
    .thread (.takeAdministrator [] 0), .trySend .administrator 0 100]

def twoReads : List ReadEvent :=
  [.channelRead0 [8, 0, 0], .channelRead0 [0, 0, 0, 0, 0, 0, 0, 0, 0], .channelReadComplete]

theorem wholeFrames_twoReads : WholeFrames twoReads := by
  rintro earlier ⟨rest, same⟩
  refine ⟨[[0, 0, 0, 0, 0, 0, 0, 0]], by simp [Format.Allowed, responseFormat], ?_⟩
  -- Only the third event is the end of a read.
  rcases earlier with _ | ⟨first, _ | ⟨second, _ | ⟨third, more⟩⟩⟩
  · cases same
  · cases same
  · cases same
    decide
  · simp [twoReads] at same

theorem administrator_executes_answers_twoQuestions :
    ∃ (threads : Threads Database)
      (served : List (Stamped AdministratorRequest × Stamped AdministratorResponse)),
      threads.administrators.asked.length = 2 ∧
      threads.administrators.Answers
        (Threads.AdministratorExecuted DatabaseConnection.sample Threads.HandsToAsker
          (Threads.start Database.sample) threads) 0 served ∧
      served.map (fun pair => executed pair.2.request) =
        [.executeResponseGetAllSensors []] := by
  let played := Threads.playOut DatabaseConnection.sample Threads.askersHold twoQuestions
    (Threads.start Database.sample)
  have finished : played.map (fun threads => (threads.administrators.asked.length,
      threads.server.holder .administrator 0, threads.server.taken .administrator 0)) =
      some (2, some 0, received twoReads) := by decide +kernel
  obtain ⟨threads, reached, facts⟩ := Option.map_eq_some_iff.mp finished
  simp only [Prod.mk.injEq] at facts
  obtain ⟨asked, held, taken⟩ := facts
  have answered : played.map (fun threads => threads.administrators.handed.map fun response =>
      (response.request.commandType, response.request.sensors.length,
        (serializeResponseMessage response.request).length)) =
      some [(.getAllSensors, 0, 8)] := by decide +kernel
  rw [reached, Option.map_some, Option.some.injEq] at answered
  have run := Threads.OutRun.start.of_playOut Threads.handsToAsker_of_askersHold reached
  have sendable : ∀ response ∈ threads.administrators.handed, response.conn = 0 →
      Sendable response.request ∧
        (serializeResponseMessage response.request).length ≤ responseFormat.limit := by
    intro response member _
    have among : (response.request.commandType, response.request.sensors.length,
        (serializeResponseMessage response.request).length) ∈
          [(AdministratorCommandTypes.getAllSensors, 0, 8)] := by
      rw [← answered]
      exact List.mem_map.mpr ⟨response, member, rfl⟩
    simp only [List.mem_singleton, Prod.mk.injEq, List.length_eq_zero_iff] at among
    obtain ⟨command, sensors, length⟩ := among
    exact ⟨by simp [Sendable, command, sensors], by rw [length]; decide⟩
  have arrived : received twoReads <+: threads.server.taken .administrator 0 := by
    rw [taken]
  obtain ⟨-, served, answers, called, -⟩ := administrator_executes_answers run held sendable
    arrived wholeFrames_twoReads
  refine ⟨threads, served, asked, answers, called.symm.trans ?_⟩
  decide +kernel

end Administrator

namespace Monitoring

open SerializerMonitoringMessage

theorem decodes_sendable {responses : List (Stamped MonitoringResponse)} {conn : Nat}
    (sendable : ∀ response ∈ responses, response.conn = conn → Sendable response.request ∧
      (serializeResponseMessage response.request).length ≤ responseFormat.limit) :
    ∀ response ∈ responses, response.conn = conn →
      responseFormat.Allowed (serializeResponseMessage response.request) ∧
        analyzeResponse (serializeResponseMessage response.request) =
          .ok (some (executed response.request)) := by
  intro response member own
  obtain ⟨plain, small⟩ := sendable response member own
  have holds : (serializeResponseMessage response.request).length < 2 ^ 31 := by
    simp only [responseFormat] at small
    omega
  obtain ⟨rest, written, called⟩ := branch_serialized plain holds
  refine ⟨⟨serializeResponseMessage_ne_nil _, small⟩, ?_⟩
  rw [written]
  exact analyzeResponse_branch called

theorem commandType_of_executed
    {earlier : List (Stamped MonitoringRequest × Except SQLException (Stamped MonitoringResponse))}
    {stamped : Stamped MonitoringRequest} {response : MonitoringResponse}
    (executed : Threads.MonitoringExecuted database meets initial threads earlier stamped
      response) : response.commandType = stamped.request.commandType := by
  obtain ⟨_, rfl, computes⟩ := executed.computes
  exact (Pass.computes_executeMonitoringRequest computes).2

/-- So is the `ResponseExecutor` of a monitor. -/
theorem monitoring_executes_answers {content : δ}
    (run : Threads.OutRun database Threads.HandsToAsker (Threads.start content) threads)
    {slot : Int} {conn : Nat} (held : threads.server.holder .monitoring slot = some conn)
    (sendable : ∀ response ∈ threads.monitoring.handed, response.conn = conn →
      Sendable response.request ∧
        (serializeResponseMessage response.request).length ≤ responseFormat.limit)
    {events : List ReadEvent}
    (arrived : received events <+: threads.server.taken .monitoring conn)
    (whole : WholeFrames events) :
    (ClientHandler.run (returns analyzeResponse) events).caught = none ∧
      ∃ served, threads.monitoring.Answers
          (Threads.MonitoringExecuted database Threads.HandsToAsker (Threads.start content)
            threads) conn served ∧
        calls analyzeResponse (ClientHandler.run (returns analyzeResponse) events) =
          served.map (fun pair => executed pair.2.request) ∧
        (∀ earlier, threads.monitoring.Drained (monitoringLane δ) threads.server →
          threads.server.outBuffer .monitoring slot = [] →
          events = earlier ++ [.channelReadComplete] →
          received events = threads.server.taken .monitoring conn →
          served.map Prod.fst = threads.monitoring.questionsOf conn) := by
  exact executes_answers run.delivers.monitoring run.outbound.sound.monitoring
    (run.monitoringPasses.all rfl) held (decodes_sendable sendable) (run.whole held)
    arrived whole

/-- A monitor asks for the last month of a sensor without measurements, and the
answer arrives at once. -/
def oneQuestion : List OutLabel :=
  [.thread (.network (.accept .monitoring 0 5 .zero)),
    .thread (.network (.monitoringFrame 0
      { clientId := 0, commandType := .getSetOfMeasurements, sensorId := 7, type := 2 })),
    .thread .takeMonitoring, .thread .executeMonitoring, .thread .executeMonitoring,
    .thread .pickMonitoring, .thread (.handMonitoring 100)]

def oneRead : List ReadEvent :=
  [.channelRead0 [12, 0, 0, 0, 0, 0, 0, 1, 0, 0, 0, 7, 0, 0, 0, 0], .channelReadComplete]

theorem wholeFrames_oneRead : WholeFrames oneRead := by
  apply wholeFrames_singleRead [0, 0, 0, 1, 0, 0, 0, 7, 0, 0, 0, 0]
  · simp [Format.Allowed, responseFormat]
  · decide

theorem monitoring_executes_answers_oneQuestion :
    ∃ (threads : Threads Database)
      (served : List (Stamped MonitoringRequest × Stamped MonitoringResponse)),
      threads.monitoring.Answers
        (Threads.MonitoringExecuted DatabaseConnection.sample Threads.HandsToAsker
          (Threads.start Database.sample) threads) 0 served ∧
      served.map (fun pair => executed pair.2.request) =
        [.executeResponseGetSetOfMeasurements []] ∧
      served.map Prod.fst = threads.monitoring.questionsOf 0 := by
  let played := Threads.playOut DatabaseConnection.sample Threads.askersHold oneQuestion
    (Threads.start Database.sample)
  have finished : played.map (fun threads => (threads.server.holder .monitoring 0,
      threads.server.outBuffer .monitoring 0, threads.server.taken .monitoring 0)) =
      some (some 0, [], received oneRead) := by decide +kernel
  obtain ⟨threads, reached, facts⟩ := Option.map_eq_some_iff.mp finished
  simp only [Prod.mk.injEq] at facts
  obtain ⟨held, outBuffer, taken⟩ := facts
  have answered : played.map (fun threads => threads.monitoring.handed.map fun response =>
      (response.request.commandType, response.request.sensorId,
        response.request.measurements.length,
        (serializeResponseMessage response.request).length)) =
      some [(.getSetOfMeasurements, 7, 0, 12)] := by decide +kernel
  have idle : played.map (fun threads => (threads.server.monitoringRequestsQueue.isEmpty,
      threads.monitoring.executor.isNone, threads.server.monitoringResponsesQueue.isEmpty,
      threads.monitoring.sender.isNone)) = some (true, true, true, true) := by decide +kernel
  rw [reached, Option.map_some, Option.some.injEq] at answered idle
  simp only [Prod.mk.injEq, List.isEmpty_iff, Option.isNone_iff_eq_none] at idle
  obtain ⟨requests, executor, responses, sender⟩ := idle
  have run := Threads.OutRun.start.of_playOut Threads.handsToAsker_of_askersHold reached
  have sendable : ∀ response ∈ threads.monitoring.handed, response.conn = 0 →
      Sendable response.request ∧
        (serializeResponseMessage response.request).length ≤ responseFormat.limit := by
    intro response member _
    have among : (response.request.commandType, response.request.sensorId,
        response.request.measurements.length,
        (serializeResponseMessage response.request).length) ∈
          [(MonitoringCommandTypes.getSetOfMeasurements, (7 : Int), 0, 12)] := by
      rw [← answered]
      exact List.mem_map.mpr ⟨response, member, rfl⟩
    simp only [List.mem_singleton, Prod.mk.injEq, List.length_eq_zero_iff] at among
    obtain ⟨command, sensorId, measurements, length⟩ := among
    refine ⟨?_, by rw [length]; decide⟩
    simp only [Sendable, command, sensorId, measurements]
    exact ⟨by decide, by simp⟩
  have arrived : received oneRead <+: threads.server.taken .monitoring 0 := by
    rw [taken]
  obtain ⟨-, served, answers, called, complete⟩ := monitoring_executes_answers run held sendable
    arrived wholeFrames_oneRead
  refine ⟨threads, served, answers, called.symm.trans ?_, ?_⟩
  · decide +kernel
  · exact complete [oneRead.head (by simp [oneRead])] ⟨requests, executor, responses, sender⟩
      outBuffer rfl taken.symm

end Monitoring

end Clients

end SensorManager.JavaClient
