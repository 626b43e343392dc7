import SensorManager.SensorClient.SensorRuns
import SensorManager.Server.Turns

/-!
# Between the server and a sensor

In every order of the calls of its threads, the server sends a sensor only
messages that the sensor's listener understands, and the reason for which a
sensor is killed is the last of them.  In every run of the sensor program the
server's listener gets the token and the measurements that were made.
-/

namespace SensorManager

open Framing Function Process

namespace Client

/-- A client that receives a front of frames hands out the first of the messages,
and does not throw. -/
theorem Reading.recvAll_front {client : Client} (reading : client.Reading [])
    {calls : List RecvCall} (hands : client.HandsOut calls) {bodies : List (List UInt8)}
    (allowed : ∀ body ∈ bodies, wire.Allowed body)
    (front : receivedBytes calls <+: wire.encode bodies) :
    (client.recvAll calls).1 <+: bodies ∧ ∃ last, (client.recvAll calls).2 = .ok last := by
  obtain ⟨rest, decodes, ending⟩ := reading.recvAll_decodes hands
  rw [List.nil_append] at decodes
  obtain ⟨more, split⟩ := front
  rw [decodes.split, List.append_assoc] at split
  obtain ⟨later, rfl, remaining⟩ := Format.encode_eq_append allowed decodes.allowed split.symm
  refine ⟨List.prefix_append _ _, ?_⟩
  cases outcome : (client.recvAll calls).2 with
  | ok last => exact ⟨last, rfl⟩
  | error exception =>
      rw [outcome] at ending
      obtain ⟨-, complete, bad⟩ := ending
      rw [← Format.header_append complete more, remaining] at bad
      cases later with
      | nil =>
          have nothing := congrArg List.length remaining
          simp only [List.length_append, Format.encode_nil, List.length_nil] at nothing
          omega
      | cons body later =>
          have isAllowed := allowed body (by simp)
          rw [Format.encode_cons, Format.header_frame isAllowed] at bad
          have := isAllowed.length_pos
          have := isAllowed.2
          simp only [wire_limit] at this
          omega

end Client

namespace NetworkListener

def killSensorRevoked : Int := 1
def killSensorDisconnected : Int := 2
def killSensorIncorrectToken : Int := 3
def killSensorTokenActive : Int := 4

/-- The text that a rejection is printed with. -/
def getKillReason (reason : Int) : String :=
  if reason = killSensorIncorrectToken then "Incorrect or revoked token"
  else if reason = killSensorDisconnected then "Disconnected by admin"
  else if reason = killSensorRevoked then "Revoked by admin"
  else if reason = killSensorTokenActive then "Sensor with this token is already active"
  else "Undefined reason"

end NetworkListener

namespace Server

open BytesParser SensorListener

variable {δ : Type} {server after : Server δ} {msg : ByteString} {conn : Nat} {reason : Int}

/-- The messages for sensors. -/
inductive ToSensor : ByteString → Prop
  | lastAccepted (timestamp : Int) : ToSensor (measureAnswer timestamp)
  | accepted (serverTime : Int) : ToSensor (activeMessage serverTime)
  | rejected {reason : Int} (valid : reason ∈ killReasons) : ToSensor (killMessage reason)

/-- The listener of the sensor takes a message for what the server meant. -/
structure Understood (msg : ByteString) (status : NetworkListener.Status) : Prop where
  known : status ≠ .unknown
  heard : ∀ beyond, NetworkListener.onGotRequest msg beyond = status
  reason : ∀ reason, status = .rejected reason → msg = killMessage reason ∧
    NetworkListener.getKillReason reason ≠ "Undefined reason"

theorem parse_status {size : Nat} (status : Int) (value : Int) (beyond : Memory)
    (small : -128 ≤ status ∧ status < 128) :
    parse 1 (appendBytes size (appendBytes 1 [] status) value) 0 beyond = status :=
  @parse_appendBytes 1 [] status (by norm_num; omega) (by norm_num; omega) (toBytes size value)
    beyond

/-- What follows the status is read as it was written, up to the width of the field. -/
theorem parse_field {size : Nat} (status : Int) (value : Int) (beyond : Memory) :
    parse size (appendBytes size (appendBytes 1 [] status) value) 1 beyond =
      Bytes.toInt (toBytes size value) := by
  rw [parse_of_inside (by simp [appendBytes, toBytes])]
  simp [appendBytes, toBytes, List.take_of_length_le]

theorem killReason_range (valid : reason ∈ killReasons) : 1 ≤ reason ∧ reason ≤ 4 := by
  simp only [killReasons, List.mem_cons, List.not_mem_nil, or_false] at valid
  rcases valid with rfl | rfl | rfl | rfl <;> decide

theorem ToSensor.understood (toSensor : ToSensor msg) : ∃ status, Understood msg status := by
  cases toSensor with
  | lastAccepted timestamp =>
      refine ⟨.lastAccepted (Bytes.toInt (toBytes 8 timestamp)), by simp, ?_, by simp⟩
      intro beyond
      unfold NetworkListener.onGotRequest measureAnswer
      rw [parse_status 49 timestamp beyond (by decide), if_pos rfl, parse_field]
  | accepted serverTime =>
      refine ⟨.accepted (Bytes.toInt (toBytes 8 serverTime)), by simp, ?_, by simp⟩
      intro beyond
      unfold NetworkListener.onGotRequest activeMessage
      rw [parse_status 97 serverTime beyond (by decide), if_neg (by decide), if_pos rfl,
        parse_field]
  | @rejected reason valid =>
      obtain ⟨lower, upper⟩ := killReason_range valid
      refine ⟨.rejected reason, by simp, ?_, ?_⟩
      · intro beyond
        have read : Bytes.toInt (toBytes 4 reason) = reason :=
          Bytes.toInt_ofInt (by norm_num; omega) (by norm_num; omega)
        unfold NetworkListener.onGotRequest killMessage
        rw [parse_status 114 reason beyond (by decide), if_neg (by decide), if_neg (by decide),
          if_pos rfl, parse_field, read]
      · rintro other ⟨⟩
        refine ⟨rfl, ?_⟩
        simp only [killReasons, List.mem_cons, List.not_mem_nil, or_false] at valid
        rcases valid with rfl | rfl | rfl | rfl <;> decide

theorem ToSensor.allowed (toSensor : ToSensor msg) : wire.Allowed msg := by
  cases toSensor with
  | lastAccepted timestamp =>
      exact ⟨measureAnswer_ne_nil timestamp, by simp [measureAnswer, appendBytes, toBytes]⟩
  | accepted serverTime =>
      exact ⟨activeMessage_ne_nil serverTime, by simp [activeMessage, appendBytes, toBytes]⟩
  | @rejected reason valid =>
      exact ⟨killMessage_ne_nil reason, by simp [killMessage, appendBytes, toBytes]⟩

/-- Nobody holds the connection, and nobody ever will again. -/
def Over (server : Server δ) (channel : Channel) (conn : Nat) : Prop :=
  conn < server.connections ∧ ∀ slot, server.holder channel slot ≠ some conn

/-- What is sent to the sensors, up to the end of their connections. -/
structure Talk (server : Server δ) : Prop where
  toSensor : ∀ conn, ∀ msg ∈ server.sentTo .sensor conn, ToSensor msg
  killed : ∀ conn front reason later,
    server.sentTo .sensor conn = front ++ killMessage reason :: later →
    later = [] ∧ server.Over .sensor conn

theorem Over.fewer {channel : Channel} (gone : server.Over channel conn)
    (fewer : Fewer channel server after) : after.Over channel conn :=
  ⟨gone.1.trans_le fewer.connections, fun slot held => gone.2 slot (fewer.holders slot conn held)⟩

/-- A sensor loses its slot, or some bytes. -/
theorem Talk.fewer (talk : server.Talk) (fewer : Fewer .sensor server after) : after.Talk := by
  constructor
  · rw [fewer.sentTo]
    exact talk.toSensor
  · rw [fewer.sentTo]
    intro conn front reason later split
    obtain ⟨last, gone⟩ := talk.killed conn front reason later split
    exact ⟨last, gone.fewer fewer⟩

/-- A new connection is none of those that are over. -/
theorem Talk.accept (talk : server.Talk) {slot socket : Int}
    (range : (server.handler .sensor).inRange slot = true) (bound : socket > -1)
    (service : SockAddr) : (server.accept .sensor slot socket service).Talk := by
  refine ⟨talk.toSensor, ?_⟩
  intro conn front reason later split
  obtain ⟨last, made, nobody⟩ := talk.killed conn front reason later split
  refine ⟨last, made.trans (Nat.lt_succ_self _), ?_⟩
  intro other held
  rw [holder, handler_accept, ClientsHandler.holder_bindHandler range bound] at held
  by_cases same : other = slot
  · obtain rfl : server.connections = conn := by simpa [same] using held
    exact lt_irrefl _ made
  · rw [update_of_ne same] at held
    exact nobody other held

/-- A message at the end of a list, or before it. -/
theorem last_or_before {α : Type} {messages front later : List α} {msg last : α}
    (split : messages ++ [last] = front ++ msg :: later) :
    later = [] ∧ msg = last ∨ ∃ rest, messages = front ++ msg :: rest := by
  rcases List.eq_nil_or_concat later with rfl | ⟨rest, final, rfl⟩
  · obtain ⟨-, same⟩ := List.append_inj' split rfl
    exact .inl ⟨rfl, (List.singleton_inj.mp same).symm⟩
  · have longer : messages ++ [last] = (front ++ msg :: rest) ++ [final] := by simpa using split
    exact .inr ⟨rest, (List.append_inj' longer rfl).1⟩

/-- A message is sent to a connection that is not over. -/
theorem Talk.sentTo_send (talk : server.Talk) {slot : Int} (toSensor : ToSensor msg) (sent : Int)
    (conn : Nat) :
    (∀ other ∈ (server.send .sensor slot msg sent).sentTo .sensor conn, ToSensor other) ∧
      ∀ front reason later,
        (server.send .sensor slot msg sent).sentTo .sensor conn =
          front ++ killMessage reason :: later →
        later = [] ∧ (server.Over .sensor conn ∨
          server.holder .sensor slot = some conn ∧ msg = killMessage reason) := by
  rw [Server.sentTo_send slot sent toSensor.allowed.1]
  by_cases held : server.holder .sensor slot = some conn
  · rw [ClientsHandler.sentWith, ClientsHandler.addTo_self _ held]
    constructor
    · intro other member
      rcases List.mem_append.mp member with earlier | last
      · exact talk.toSensor conn other earlier
      · obtain rfl := List.mem_singleton.mp last
        exact toSensor
    · intro front reason later split
      rcases last_or_before split with ⟨last, same⟩ | ⟨rest, before⟩
      · exact ⟨last, .inr ⟨held, same.symm⟩⟩
      · obtain ⟨-, -, nobody⟩ := talk.killed conn front reason rest before
        exact absurd held (nobody slot)
  · rw [ClientsHandler.sentWith, ClientsHandler.addTo_other _ held]
    refine ⟨talk.toSensor conn, ?_⟩
    intro front reason later split
    obtain ⟨last, gone⟩ := talk.killed conn front reason later split
    exact ⟨last, .inl gone⟩

/-- Messages with different statuses are not the same. -/
theorem status_eq {first second : Int} {size other : Nat} {left right : Int}
    (firstSmall : -128 ≤ first ∧ first < 128) (secondSmall : -128 ≤ second ∧ second < 128)
    (same : appendBytes size (appendBytes 1 [] first) left =
      appendBytes other (appendBytes 1 [] second) right) : first = second := by
  have read := @parse_status size first left (fun _ => 0) firstSmall
  rw [same, parse_status second right _ secondSmall] at read
  exact read.symm

/-- A message that is not the reason of a kill ends nothing. -/
theorem Talk.send (talk : server.Talk) {slot : Int} (toSensor : ToSensor msg)
    (goesOn : ∀ reason, msg ≠ killMessage reason) (sent : Int) :
    (server.send .sensor slot msg sent).Talk := by
  refine ⟨fun conn => (talk.sentTo_send toSensor sent conn).1, ?_⟩
  intro conn front reason later split
  obtain ⟨last, gone | ⟨-, same⟩⟩ :=
    (talk.sentTo_send toSensor sent conn).2 front reason later split
  · refine ⟨last, ?_⟩
    unfold Over
    rw [connections_send, holder_send]
    exact gone
  · exact absurd same (goesOn reason)

/-- Whoever is disconnected held no other slot. -/
theorem over_disconnectClient {channel : Channel} (buffered : server.Buffered) {slot : Int}
    (held : server.holder channel slot = some conn) :
    (server.disconnectClient channel slot).Over channel conn := by
  refine ⟨?_, ?_⟩
  · rw [connections_disconnectClient]
    exact (buffered channel).below slot conn held
  · intro other holds
    have serving : (server.handler channel).Serving := (server.handlers channel).property
    rw [holder, handler_disconnectClient, ClientsHandler.disconnectClient_held serving held,
      ClientsHandler.holder_disconnectHandler] at holds
    by_cases same : other = slot
    · simp [same] at holds
    · rw [update_of_ne same] at holds
      exact same ((buffered channel).apart other slot conn holds held)

theorem Serves.talk (serves : Serves server after) (buffered : server.Buffered)
    (talk : server.Talk) : after.Talk := by
  induction serves with
  | @same server after handlers connections taken sentTo =>
      refine talk.fewer ⟨connections.ge, ?_, congrFun sentTo .sensor⟩
      intro slot conn held
      rwa [holder, handler, handlers] at held
  | lastAccepted server slot timestamp sent =>
      apply talk.send (.lastAccepted timestamp)
      intro reason same
      cases status_eq (by decide) (by decide) same
  | accepted server slot serverTime sent =>
      apply talk.send (.accepted serverTime)
      intro reason same
      cases status_eq (by decide) (by decide) same
  | @killSensor server slot reason valid sent =>
      have fewer := fewer_disconnectClient
        (server.send .sensor slot (killMessage reason) sent) .sensor slot
      have told := @Talk.sentTo_send δ server (killMessage reason) talk slot (.rejected valid) sent
      constructor
      · intro conn
        unfold Server.killSensor
        rw [fewer.sentTo]
        exact (told conn).1
      · intro conn front other later split
        unfold Server.killSensor at split ⊢
        rw [fewer.sentTo] at split
        obtain ⟨last, gone | ⟨held, -⟩⟩ := (told conn).2 front other later split
        · refine ⟨last, Over.fewer ?_ fewer⟩
          unfold Over
          rw [connections_send, holder_send]
          exact gone
        · refine ⟨last, over_disconnectClient ?_ ?_⟩
          · exact (Works.send server slot (killMessage_ne_nil reason) sent).buffered buffered
          · rw [holder_send]
            exact held
  | deliver server slot msg =>
      refine talk.fewer ⟨le_rfl, ?_, rfl⟩
      intro other conn held
      rwa [holder, handler_deliver, ClientsHandler.holder_deliver] at held
  | disconnectClient server slot => exact talk.fewer (fewer_disconnectClient server .sensor slot)
  | trans first _ left right => exact right (first.works.buffered buffered) (left buffered talk)

theorem SensorTurn.talk (turn : SensorTurn server after) (buffered : server.Buffered)
    (talk : server.Talk) : after.Talk := by
  cases turn with
  | serves serves => exact serves.talk buffered talk
  | accept range bound accepted =>
      subst accepted
      exact talk.accept range bound _
  | fewer fewer => exact talk.fewer fewer

theorem talk_start (content : δ) : (start content).Talk := by
  constructor
  · intro conn msg member
    cases member
  · intro conn front reason later split
    cases front <;> cases split

end Server

namespace Threads

open Server Client

variable {δ : Type} {database : IDatabaseConnection δ} {threads : Threads δ}
  {meets : Threads δ → Threads δ → Prop} {content : δ}

theorem OutRun.talk (run : OutRun database meets (Threads.start content) threads) :
    threads.server.Talk := by
  induction run with
  | start => exact talk_start content
  | next label run stepped met ih =>
      have outbound := run.outbound
      exact (turned_of_step outbound.sound outbound.atWork stepped).sensors.talk
        outbound.buffered ih

/-- What a sensor receives of what was sent to its connection, in whatever pieces, gives
it the first of the messages and never an exception.  It understands each of them,
and behind the reason for which it is killed there is nothing more to come. -/
theorem sensor_hears (run : OutRun database meets (Threads.start content) threads) {conn : Nat}
    {client : Client} (reading : client.Reading []) {calls : List RecvCall}
    (hands : client.HandsOut calls)
    (arrived : receivedBytes calls <+: wire.encode (threads.server.sentTo .sensor conn)) :
    ((client.recvAll calls).1 <+: threads.server.sentTo .sensor conn ∧
      ∃ last, (client.recvAll calls).2 = .ok last) ∧
      ∀ front msg later, (client.recvAll calls).1 = front ++ msg :: later →
        ∃ status, status ≠ .unknown ∧
          (∀ beyond, NetworkListener.onGotRequest msg beyond = status) ∧
          ∀ reason, status = .rejected reason →
            NetworkListener.getKillReason reason ≠ "Undefined reason" ∧
              (client.recvAll calls).1 = threads.server.sentTo .sensor conn ∧ later = [] ∧
              threads.server.Over .sensor conn := by
  have talk := run.talk
  have received := reading.recvAll_front hands
    (fun msg member => (talk.toSensor conn msg member).allowed) arrived
  refine ⟨received, ?_⟩
  intro front msg later split
  obtain ⟨rest, whole⟩ := received.1
  rw [split, List.append_assoc, List.cons_append] at whole
  have member : msg ∈ threads.server.sentTo .sensor conn := by simp [← whole]
  obtain ⟨status, understood⟩ := (talk.toSensor conn msg member).understood
  refine ⟨status, understood.known, understood.heard, ?_⟩
  intro reason rejected
  obtain ⟨rfl, text⟩ := understood.reason reason rejected
  obtain ⟨nothing, gone⟩ := talk.killed conn front reason _ whole.symm
  obtain ⟨rfl, rfl⟩ := List.append_eq_nil_iff.mp nothing
  exact ⟨text, split.trans whole, rfl, gone⟩

/-- A sensor is accepted, and an administrator disconnects it. -/
def disconnected : List OutLabel :=
  [.thread (.network (.accept .sensor 0 6 .zero)),
    .thread (.network (.sensorFrame 0 [105, 84] (fun _ => 0) 0)), .thread (.takeSensor 17 3),
    .thread .executeSensor, .thread .executeSensor, .thread .executeSensor,
    .thread .executeSensor, .thread .executeSensor, .thread .executeSensor,
    .trySend .sensor 0 2, .thread (.network (.accept .administrator 0 5 .zero)),
    .thread (.network (.administratorFrame 0
      { clientId := 0, commandType := .disconnectSensor, sensorId := 1 })),
    .thread (.takeAdministrator [] 20), .thread .executeAdministrator,
    .thread .executeAdministrator]

/-- The socket of the sensor program before its first byte. -/
def listening : Client :=
  (Client.unbound false false false).reset.connected false false 3 (-1) .zero [105, 84] 0

def pieces : List RecvCall :=
  [⟨[9, 0, 0, 0], fun _ => 0⟩, ⟨[97, 17, 0, 0, 0, 0, 0, 0, 0], fun _ => 0⟩,
    ⟨[5, 0], fun _ => 0⟩, ⟨[0, 0], fun _ => 0⟩, ⟨[114, 2, 0], fun _ => 0⟩,
    ⟨[0, 0], fun _ => 0⟩]

theorem sensor_hears_disconnected : ∃ threads : Threads Database,
    threads.server.sentTo .sensor 0 = [[97, 17, 0, 0, 0, 0, 0, 0, 0], [114, 2, 0, 0, 0]] ∧
      (listening.recvAll pieces).1 <+: threads.server.sentTo .sensor 0 ∧
      ∃ last, (listening.recvAll pieces).2 = .ok last := by
  have played : (playOut DatabaseConnection.sample (fun _ => true) disconnected
      (Threads.start Database.sample)).map (fun threads => threads.server.sentTo .sensor 0) =
      some [[97, 17, 0, 0, 0, 0, 0, 0, 0], [114, 2, 0, 0, 0]] := by decide +kernel
  obtain ⟨threads, reached, sent⟩ := Option.map_eq_some_iff.mp played
  have run : OutRun DatabaseConnection.sample (fun _ _ => True) (Threads.start Database.sample)
      threads := .of_playOut (fun _ _ _ => trivial) .start reached
  have hands : listening.HandsOut pieces := by decide +kernel
  have arrived : receivedBytes pieces <+: wire.encode (threads.server.sentTo .sensor 0) := by
    rw [sent]
    decide +kernel
  have heard := (sensor_hears run (reading_connected ..) hands arrived).1
  exact ⟨threads, sent, heard⟩

end Threads

namespace Measure

/-- The measurements that the fields of a message can hold. -/
def Fits (measure : Measure) : Prop :=
  (-2 ^ 31 ≤ measure.value ∧ measure.value < 2 ^ 31) ∧
    0 ≤ measure.timestamp ∧ measure.timestamp < 2 ^ 63

theorem allowed (measure : Measure) : wire.Allowed measure.message := by
  have length : measure.message.length = 13 := SensorProgram.length_measureMsg _ _
  refine ⟨?_, ?_⟩
  · apply List.ne_nil_of_length_pos
    rw [length]
    omega
  · rw [length]
    decide

end Measure

namespace SensorProgram

open Client Server BytesParser SensorListener

variable {token : List UInt8} {time drift : Int} {longBits : Nat} {program : SensorProgram}

/-- What the server receives of the bytes that a connection of the sensor has taken, in
whatever pieces, are the token and successive measurements.  The listener takes
the first for the token, and queues the others as they were made. -/
theorem server_hears {taken : List (Transition SensorProgram SensorLabel)}
    (trace : Trace (Steps token) (start time drift longBits) taken program)
    (quiet : ∀ transition ∈ taken, silent transition.label transition.before = true)
    (short : token.length < 512) (fits : ∀ measure ∈ program.measures, measure.Fits)
    {connection : Outgoing} (member : connection ∈ program.loop.connections)
    {client : Client} (reading : client.Reading []) {calls : List RecvCall}
    (hands : client.HandsOut calls) (arrived : receivedBytes calls <+: connection.taken) :
    ∃ segment, segment <:+: program.measures ∧
      (client.recvAll calls).1 <+: (105 :: token) :: segment.map Measure.message ∧
      (∃ last, (client.recvAll calls).2 = .ok last) ∧
      ∀ {δ : Type} (server : Server δ) (clientId sent : Int) (beyond : Memory)
        (conn cause : Nat),
        SensorListener.onGotRequest server clientId (105 :: token) beyond sent conn cause =
          server.addSensorRequestToExecute
            { request := .onConnected clientId ((server.handler .sensor).getIp clientId)
                ((server.handler .sensor).getPort clientId) token
              conn := conn
              cause := cause } ∧
        ∀ measure ∈ segment,
          SensorListener.onGotRequest server clientId measure.message beyond sent conn cause =
            (server.send .sensor clientId (measureAnswer measure.timestamp)
              sent).addSensorRequestToExecute
                { request := .measurement clientId measure.value (measure.timestamp / 1000)
                  conn := conn
                  cause := cause } := by
  obtain ⟨segment, successive, front⟩ := connection_frames trace quiet member
  have allowed : ∀ body ∈ NetworkListener.beforeFirstSend token :: segment.map Measure.message,
      wire.Allowed body := by
    intro body isBody
    rcases List.mem_cons.mp isBody with rfl | measured
    · exact ⟨List.cons_ne_nil _ _, by simp [NetworkListener.beforeFirstSend]; omega⟩
    · obtain ⟨measure, -, rfl⟩ := List.mem_map.mp measured
      exact measure.allowed
  obtain ⟨heard, returned⟩ := reading.recvAll_front hands allowed (arrived.trans front)
  refine ⟨segment, successive, heard, returned, ?_⟩
  intro δ server clientId sent beyond conn cause
  constructor
  · rw [onGotRequest_cons, if_neg (by decide), if_pos rfl]
    rfl
  · intro measure isMember
    obtain ⟨value, timestamp⟩ := fits measure (successive.subset isMember)
    exact onGotRequest_measureMsg server clientId sent beyond conn cause value timestamp

/-- The sensor connects, measures and sends. -/
def firstMeasurement : List SensorLabel :=
  [.blockSendOnInit, .network { socket := 3 }, .network {}, .test, .measure 7, .wake,
    .send .append, .send .check, .send (.sendData 23)]

/-- The server's side of the connection before the first byte. -/
def accepting : Client :=
  (Client.unbound true false false).reset.connected false false 6 0 .zero [] 0

def frames : List RecvCall :=
  [⟨[2, 0, 0], fun _ => 0⟩, ⟨[0], fun _ => 0⟩, ⟨[105, 116], fun _ => 0⟩,
    ⟨[13, 0, 0, 0], fun _ => 0⟩, ⟨[109, 5, 0, 0, 0, 0, 0, 0, 0, 7, 0, 0, 0], fun _ => 0⟩]

theorem server_hears_firstMeasurement : ∃ (program : SensorProgram) (segment : List Measure),
    program.measures = [{ timestamp := 5, value := 7, time := 0, delay := none }] ∧
      segment <:+: program.measures ∧
      (accepting.recvAll frames).1 = [[105, 116], [109, 5, 0, 0, 0, 0, 0, 0, 0, 7, 0, 0, 0]] ∧
      (accepting.recvAll frames).1 <+: [105, 116] :: segment.map Measure.message := by
  have measured : (playMoves (step [116]) silent firstMeasurement (start 0 5)).map
      (fun program => program.measures) =
      some [{ timestamp := 5, value := 7, time := 0, delay := none }] := by decide +kernel
  have sent : (playMoves (step [116]) silent firstMeasurement (start 0 5)).map
      (fun program => program.loop.outgoing.taken) = some (receivedBytes frames) := by
    decide +kernel
  obtain ⟨program, played, measures⟩ := Option.map_eq_some_iff.mp measured
  rw [played] at sent
  have bytes : program.loop.outgoing.taken = receivedBytes frames := Option.some.inj sent
  have arrived : receivedBytes frames <+: program.loop.outgoing.taken := by
    rw [bytes]
  obtain ⟨taken, trace, quiet⟩ := Trace.of_playMoves .start played
  have fits : ∀ measure ∈ program.measures, measure.Fits := by
    rw [measures]
    intro measure member
    obtain rfl := List.mem_singleton.mp member
    exact ⟨by decide, by decide⟩
  have member : program.loop.outgoing ∈ program.loop.connections := by
    simp [SensorLoop.connections]
  have hands : accepting.HandsOut frames := by decide +kernel
  have heard : (accepting.recvAll frames).1 =
      [[105, 116], [109, 5, 0, 0, 0, 0, 0, 0, 0, 7, 0, 0, 0]] := by decide +kernel
  obtain ⟨segment, successive, front, -⟩ := server_hears trace quiet (by decide) fits member
    (reading_connected ..) hands arrived
  exact ⟨program, segment, measures, successive, heard, front⟩

end SensorProgram

end SensorManager
