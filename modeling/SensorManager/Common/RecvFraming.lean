import SensorManager.Common.Client
import SensorManager.Lib.Framing

/-!
# The receive side delivers the frames of the stream

`Reading` locates a client inside the bytes that follow the last complete
frame.  One call of `recvData` moves it forward by what the socket returned,
and so any cut of a stream into calls delivers the frames of the stream.
-/

namespace SensorManager

open Framing

/-- The frames of a connection handler: a 32-bit length of 1 to 512. -/
def wire : Format :=
  { width := 4, limit := 512, holds := by decide }

@[simp] theorem wire_width : wire.width = 4 := rfl

@[simp] theorem wire_limit : wire.limit = 512 := rfl

namespace Client

/-- One call of `recvData` whose `socket_recv` returns `data`. -/
structure RecvCall where
  data : List UInt8
  beyond : BytesParser.Memory

/-- The bytes that the calls take from the stream. -/
def receivedBytes (calls : List RecvCall) : List UInt8 :=
  (calls.map RecvCall.data).flatten

/-- Successive calls of `recvData`, with the messages they hand to the
listener, up to the first call that throws. -/
def recvAll (client : Client) :
    List RecvCall → List (List UInt8) × Except ConnectionException Client
  | [] => ([], .ok client)
  | call :: calls =>
      match client.recvData (.bytes call.data) call.beyond with
      | (.error exception, _) => ([], .error exception)
      | (.ok (_, msg), next) =>
          (msg.toList ++ (next.recvAll calls).1, (next.recvAll calls).2)

/-- The socket keeps to its contract: each call returns at least one byte and
at most as many as were requested.  No call follows one that throws. -/
def HandsOut (client : Client) : List RecvCall → Prop
  | [] => True
  | call :: calls =>
      call.data ≠ [] ∧ (call.data.length : Int) ≤ client.toReceive ∧
        match client.recvData (.bytes call.data) call.beyond with
        | (.error _, _) => calls = []
        | (.ok _, next) => next.HandsOut calls

instance decidableHandsOut : (client : Client) → (calls : List RecvCall) →
    Decidable (client.HandsOut calls)
  | _, [] => .isTrue trivial
  | client, call :: calls =>
      have : Decidable
          (match client.recvData (.bytes call.data) call.beyond with
            | (.error _, _) => calls = []
            | (.ok _, next) => next.HandsOut calls) :=
        match client.recvData (.bytes call.data) call.beyond with
        | (.error _, _) => decidable_of_iff (calls.isEmpty = true) List.isEmpty_iff
        | (.ok _, next) => decidableHandsOut next calls
      inferInstanceAs (Decidable (_ ∧ _ ∧ _))

/-- The length field at the front of `rest` is complete and not allowed. -/
def BadHeader (rest : List UInt8) : Prop :=
  4 ≤ rest.length ∧ (wire.header rest ≤ 0 ∨ 512 < wire.header rest)

instance (rest : List UInt8) : Decidable (BadHeader rest) :=
  inferInstanceAs (Decidable (_ ∧ _))

/-- The bytes still missing from the length field, or else from the body, that
`rest` is the beginning of. -/
def missing (rest : List UInt8) : Int :=
  if rest.length < 4 then 4 - rest.length
  else 4 + wire.header rest - rest.length

/-- The client is inside a length field whose first bytes are `rest`. -/
structure InHeader (client : Client) (rest : List UInt8) : Prop where
  remainingIn : client.remainingIn = 0
  remainingInLen : client.remainingInLen = 4 - rest.length
  short : rest.length < 4
  inBuffer : client.inBuffer = rest

/-- The client is inside the body of the frame whose first bytes are `rest`. -/
structure InBody (client : Client) (rest : List UInt8) : Prop where
  remainingIn : client.remainingIn = 4 + wire.header rest - rest.length
  remainingInLen : client.remainingInLen = 0
  field : 4 ≤ rest.length
  unfinished : (rest.length : Int) < 4 + wire.header rest
  allowed : wire.header rest ≤ 512
  inBuffer : client.inBuffer = rest.drop 4

/-- The client has read `rest` since the last complete frame. -/
structure Reading (client : Client) (rest : List UInt8) : Prop where
  listener : client.listener = true
  place : InHeader client.beginMessage rest ∨ InBody client.beginMessage rest

theorem reading_nil {client : Client} (listener : client.listener = true)
    (remainingIn : client.remainingIn = 0)
    (remainingInLen : client.remainingInLen = 0) : client.Reading [] := by
  refine ⟨listener, .inl ?_⟩
  constructor <;> simp [beginMessage, remainingIn, remainingInLen]

theorem beginMessage_of_remainingIn {client : Client}
    (unfinished : client.remainingIn ≠ 0) : client.beginMessage = client := by
  simp [beginMessage, unfinished]

theorem beginMessage_of_remainingInLen {client : Client}
    (unfinished : client.remainingInLen ≠ 0) : client.beginMessage = client := by
  simp [beginMessage, unfinished]

theorem Reading.toReceive_eq {client : Client} {rest : List UInt8}
    (reading : client.Reading rest) : client.toReceive = missing rest := by
  rcases reading.place with header | body
  · have := header.short
    simp only [toReceive, header.remainingIn, header.remainingInLen, missing,
      header.short, if_true]
    omega
  · have := body.unfinished
    have := body.field
    simp only [toReceive, body.remainingIn, body.remainingInLen, missing,
      Nat.not_lt.mpr body.field, if_false]
    omega

theorem Reading.toReceive_pos {client : Client} {rest : List UInt8}
    (reading : client.Reading rest) : 1 ≤ client.toReceive := by
  rw [reading.toReceive_eq, missing]
  rcases reading.place with header | body
  · have := header.short
    simp only [header.short, if_true]
    omega
  · have := body.unfinished
    have := body.field
    simp only [Nat.not_lt.mpr body.field, if_false]
    omega

/-- Between two frames, and inside one, no further frame is complete. -/
theorem Reading.stuck {client : Client} {rest : List UInt8}
    (reading : client.Reading rest) :
    ∀ body, wire.Allowed body → ¬ wire.frame body <+: rest := by
  apply Format.stuck_of_short
  intro long
  rcases reading.place with header | body
  · have := header.short
    simp only [wire_width] at long
    omega
  · simpa using body.unfinished

theorem Reading.not_badHeader {client : Client} {rest : List UInt8}
    (reading : client.Reading rest) : ¬ BadHeader rest := by
  rintro ⟨long, bad⟩
  rcases reading.place with header | body
  · have := header.short
    omega
  · have := body.unfinished
    have := body.allowed
    omega

/-- A complete length field is read as the signed header of its bytes. -/
theorem parse_header {rest : List UInt8} (complete : rest.length = 4)
    (beyond : BytesParser.Memory) :
    BytesParser.parse 4 rest 0 beyond = wire.header rest := by
  rw [BytesParser.parse_of_inside (by omega)]
  simp [Bytes.toInt, Format.header, complete]

/-- What one call of `recvData` does to a client that has read `rest` since
the last complete frame, when the socket returns `data`. -/
inductive Advances (client : Client) (rest data : List UInt8)
    (beyond : BytesParser.Memory) : Prop where
  | partly (next : Client)
      (call : client.recvData (.bytes data) beyond = (.ok (data.length, none), next))
      (reading : next.Reading (rest ++ data))
  | message (next : Client) (msg : List UInt8)
      (call : client.recvData (.bytes data) beyond =
        (.ok (data.length, some msg), next))
      (allowed : wire.Allowed msg)
      (frame : wire.frame msg = rest ++ data)
      (reading : next.Reading [])
  | throws (next : Client) (exception : ConnectionException)
      (call : client.recvData (.bytes data) beyond = (.error exception, next))
      (errorType : exception.errorType = .dataLen)
      (bad : BadHeader (rest ++ data))

theorem recvData_bytes {data : List UInt8} (nonempty : data ≠ [])
    (client : Client) (beyond : BytesParser.Memory) :
    client.recvData (.bytes data) beyond =
      let client :=
        { client.beginMessage with
          inBuffer := client.beginMessage.inBuffer ++ data }
      if client.remainingInLen > 0 then client.recvLength data.length beyond
      else client.recvBody data.length := by
  have positive := List.length_pos_iff.mpr nonempty
  have countPositive : ¬ ((data.length : Int) ≤ 0) := by omega
  simp only [recvData, Received.count, Received.data, countPositive, if_false]

theorem InHeader.advances {client : Client} {rest data : List UInt8}
    (listener : client.listener = true)
    (header : InHeader client.beginMessage rest)
    (nonempty : data ≠ []) (fits : rest.length + data.length ≤ 4)
    (beyond : BytesParser.Memory) : client.Advances rest data beyond := by
  have positive := List.length_pos_iff.mpr nonempty
  have short := header.short
  have call := recvData_bytes nonempty client beyond
  simp only [header.inBuffer, header.remainingInLen] at call
  rw [if_pos (by omega), recvLength] at call
  simp only at call
  by_cases complete : rest.length + data.length = 4
  · have field : (rest ++ data).length = 4 := by simpa using complete
    rw [if_pos (by omega), parse_header field] at call
    by_cases tooLong : wire.header (rest ++ data) > 512
    · rw [if_pos (by simpa [maxMsg] using tooLong)] at call
      exact .throws _ _ call rfl ⟨field.ge, .inr tooLong⟩
    rw [if_neg (by simpa [maxMsg] using tooLong)] at call
    by_cases tooShort : wire.header (rest ++ data) ≤ 0
    · rw [if_pos tooShort] at call
      exact .throws _ _ call rfl ⟨field.ge, .inl tooShort⟩
    rw [if_neg tooShort] at call
    refine .partly _ call ⟨by simpa using listener, .inr ?_⟩
    rw [beginMessage_of_remainingIn (by simp only; omega)]
    constructor
    · simp only [field]
      omega
    · simp only
      omega
    · exact field.ge
    · simp only [field]
      omega
    · omega
    · simp [← field]
  · rw [if_neg (by omega)] at call
    refine .partly _ call ⟨by simpa using listener, .inl ?_⟩
    rw [beginMessage_of_remainingInLen (by simp only; omega)]
    constructor <;> simp [header.remainingIn] <;> omega

theorem InBody.advances {client : Client} {rest data : List UInt8}
    (listener : client.listener = true)
    (body : InBody client.beginMessage rest)
    (nonempty : data ≠ [])
    (fits : (rest.length + data.length : Int) ≤ 4 + wire.header rest)
    (beyond : BytesParser.Memory) : client.Advances rest data beyond := by
  have positive := List.length_pos_iff.mpr nonempty
  have field := body.field
  have sameHeader : wire.header (rest ++ data) = wire.header rest :=
    Format.header_append (by simpa using field) data
  have buffered : (rest ++ data).drop 4 = rest.drop 4 ++ data :=
    List.drop_append_of_le_length field
  have call := recvData_bytes nonempty client beyond
  simp only [body.inBuffer, body.remainingInLen, ← buffered] at call
  rw [if_neg (by omega), recvBody] at call
  simp only [body.remainingIn, beginMessage_listener, listener, if_true] at call
  by_cases complete : (rest.length + data.length : Int) = 4 + wire.header rest
  · rw [if_pos (by omega)] at call
    have announced :
        wire.header (rest ++ data) = (rest ++ data).length - wire.width := by
      simp only [sameHeader, List.length_append, wire_width]
      omega
    have allowed := body.allowed
    have small : (rest ++ data).length - wire.width ≤ wire.limit := by
      simp only [List.length_append, wire_width, wire_limit]
      omega
    refine .message _ _ call ⟨?_, ?_⟩
      (Format.frame_drop (by simp; omega) announced small) ?_
    · have := body.unfinished
      apply List.ne_nil_of_length_pos
      simp only [List.length_drop, List.length_append]
      omega
    · simp only [wire_width, wire_limit, List.length_drop] at small ⊢
      exact small
    · apply reading_nil
      · rfl
      · simp only [gotMsg]
        omega
      · rfl
  · rw [if_neg (by omega)] at call
    refine .partly _ call ⟨by simp, .inr ?_⟩
    rw [beginMessage_of_remainingIn (by simp only; omega)]
    have allowed := body.allowed
    constructor <;> simp [sameHeader] <;> omega

theorem Reading.advances {client : Client} {rest data : List UInt8}
    (reading : client.Reading rest) (nonempty : data ≠ [])
    (fits : (data.length : Int) ≤ client.toReceive)
    (beyond : BytesParser.Memory) : client.Advances rest data beyond := by
  rw [reading.toReceive_eq, missing] at fits
  rcases reading.place with header | body
  · have short := header.short
    rw [if_pos short] at fits
    exact header.advances reading.listener nonempty (by omega) beyond
  · have field := body.field
    rw [if_neg (by omega)] at fits
    exact body.advances reading.listener nonempty (by omega) beyond

@[simp] theorem receivedBytes_nil : receivedBytes [] = [] := rfl

@[simp] theorem receivedBytes_cons (call : RecvCall) (calls : List RecvCall) :
    receivedBytes (call :: calls) = call.data ++ receivedBytes calls := rfl

theorem BadHeader.append {rest : List UInt8} (bad : BadHeader rest)
    (more : List UInt8) : BadHeader (rest ++ more) := by
  have sameHeader : wire.header (rest ++ more) = wire.header rest :=
    Format.header_append bad.1 more
  refine ⟨?_, by rw [sameHeader]; exact bad.2⟩
  have := bad.1
  simp only [List.length_append]
  omega

/-- Nothing that follows a bad length field is a frame. -/
theorem BadHeader.decodes_append
    {stream rest : List UInt8} {bodies : List (List UInt8)}
    (bad : BadHeader rest) (decodes : wire.Decodes stream bodies rest)
    (more : List UInt8) :
    wire.Decodes (stream ++ more) bodies (rest ++ more) := by
  have next : wire.Decodes (rest ++ more) [] (rest ++ more) :=
    Format.Decodes.nil_of_stuck (Format.stuck_of_invalid (bad.append more).2)
  simpa using decodes.extend next

/-- Any sequence of calls decodes the bytes received, from the place where the
client stands to the place where it ends or to a bad length field. -/
theorem Reading.recvAll_decodes {client : Client} {rest : List UInt8}
    (reading : client.Reading rest) {calls : List RecvCall}
    (hands : client.HandsOut calls) :
    ∃ newRest,
      wire.Decodes (rest ++ receivedBytes calls) (client.recvAll calls).1 newRest ∧
      match (client.recvAll calls).2 with
      | .ok last => last.Reading newRest
      | .error exception =>
          exception.errorType = .dataLen ∧ BadHeader newRest := by
  induction calls generalizing client rest with
  | nil =>
      refine ⟨rest, ?_, reading⟩
      simpa [recvAll] using Format.Decodes.nil_of_stuck reading.stuck
  | cons call calls ih =>
      obtain ⟨nonempty, fits, later⟩ := hands
      rcases reading.advances nonempty fits call.beyond with
        ⟨next, step, nextReading⟩ | ⟨next, msg, step, allowed, frame, nextReading⟩ |
        ⟨next, exception, step, errorType, bad⟩
      · rw [step] at later
        obtain ⟨newRest, decodes, ending⟩ := ih nextReading later
        refine ⟨newRest, ?_, by simpa only [recvAll, step] using ending⟩
        simpa [recvAll, step] using decodes
      · rw [step] at later
        obtain ⟨newRest, decodes, ending⟩ := ih nextReading later
        refine ⟨newRest, ?_, by simpa only [recvAll, step] using ending⟩
        have framed := decodes.cons allowed
        rw [frame] at framed
        simpa [recvAll, step] using framed
      · rw [step] at later
        subst later
        refine ⟨rest ++ call.data, ?_, ?_⟩
        · have stuck := Format.stuck_of_invalid bad.2
          simpa [recvAll, step] using Format.Decodes.nil_of_stuck stuck
        · simp only [recvAll, step]
          exact ⟨errorType, bad⟩

theorem reading_connected (client : Client) (blockSend blockRecv : Bool)
    (socket clientId : Int) (service : SockAddr) (initMsg : List UInt8)
    (conn : Nat) :
    (client.reset.connected blockSend blockRecv socket clientId service initMsg
      conn).Reading [] := by
  apply reading_nil <;> simp only [connected, reset] <;> split <;> rfl

/-- Frames that are received whole are delivered. -/
theorem Reading.recvAll_encode {client : Client} (reading : client.Reading [])
    {calls : List RecvCall} (hands : client.HandsOut calls) {bodies : List (List UInt8)}
    (allowed : ∀ body ∈ bodies, wire.Allowed body)
    (received : receivedBytes calls = wire.encode bodies) :
    (client.recvAll calls).1 = bodies := by
  obtain ⟨rest, decodes, -⟩ := reading.recvAll_decodes hands
  rw [List.nil_append, received] at decodes
  exact decodes.unique (Format.decodes_encode allowed)

/-- A client that has not thrown can be handed any part of what it asks for. -/
theorem HandsOut.more {client last : Client} {calls : List RecvCall}
    (hands : client.HandsOut calls) (ended : (client.recvAll calls).2 = .ok last)
    {call : RecvCall} (nonempty : call.data ≠ [])
    (fits : (call.data.length : Int) ≤ last.toReceive) :
    client.HandsOut (calls ++ [call]) := by
  induction calls generalizing client with
  | nil =>
      obtain rfl : client = last := by simpa [recvAll] using ended
      refine ⟨nonempty, fits, ?_⟩
      match client.recvData (.bytes call.data) call.beyond with
      | (.error _, _) => rfl
      | (.ok _, _) => trivial
  | cons first calls ih =>
      obtain ⟨firstNonempty, firstFits, rest⟩ := hands
      match step : client.recvData (.bytes first.data) first.beyond with
      | (.error exception, next) => simp [recvAll, step] at ended
      | (.ok (count, msg), next) =>
          rw [step] at rest
          simp only [recvAll, step] at ended
          refine ⟨firstNonempty, firstFits, ?_⟩
          rw [step]
          exact ih rest ended

/-- A sequence of calls hands out the stream: all of it, or what comes before
a call that throws. -/
def Takes (client : Client) (calls : List RecvCall) (stream : List UInt8) : Prop :=
  client.HandsOut calls ∧ ∃ unread, stream = receivedBytes calls ++ unread ∧
    (unread = [] ∨ ∃ exception, (client.recvAll calls).2 = .error exception)

/-- Byte by byte, every stream can be handed out. -/
theorem Reading.takes {client : Client} {rest : List UInt8} (reading : client.Reading rest)
    (beyond : BytesParser.Memory) (stream : List UInt8) :
    ∃ calls, client.Takes calls stream := by
  induction stream generalizing client rest with
  | nil => exact ⟨[], trivial, [], rfl, .inl rfl⟩
  | cons first stream ih =>
      have fits : (([first] : List UInt8).length : Int) ≤ client.toReceive := by
        simpa using reading.toReceive_pos
      have goesOn {next : Client} {count : Int} {msg : Option (List UInt8)}
          {nextRest : List UInt8} (nextReading : next.Reading nextRest)
          (step : client.recvData (.bytes [first]) beyond = (.ok (count, msg), next)) :
          ∃ calls, client.Takes calls (first :: stream) := by
        obtain ⟨calls, hands, unread, split, whole⟩ := ih nextReading
        refine ⟨⟨[first], beyond⟩ :: calls, ⟨by simp, fits, ?_⟩, unread, by simp [split], ?_⟩
        · rw [step]
          exact hands
        · simpa only [recvAll, step] using whole
      rcases reading.advances (by simp) fits beyond with
        ⟨next, step, nextReading⟩ | ⟨next, msg, step, -, -, nextReading⟩ |
        ⟨next, exception, step, -, -⟩
      · exact goesOn nextReading step
      · exact goesOn nextReading step
      · refine ⟨[⟨[first], beyond⟩], ⟨by simp, fits, ?_⟩, stream, by simp, ?_⟩
        · rw [step]
        · exact .inr ⟨exception, by simp only [recvAll, step]⟩

/-- However the stream is cut into calls, a client that was reset and then
bound to a connection delivers the bodies of the longest prefix of the stream
that is a sequence of frames, and a call throws exactly when the next complete
length field is not between 1 and 512.  Whatever was handed out, the next call
asks for at least one byte and for all that is missing from the length field or
the body it is in, and none behind it; the socket may return any part of that,
and so every stream can be handed out. -/
theorem recvAll_delivers_frames (client : Client) (blockSend blockRecv : Bool)
    (socket clientId : Int) (service : SockAddr) (initMsg : List UInt8)
    (conn : Nat) (start : Client)
    (bound : start = client.reset.connected blockSend blockRecv socket clientId
      service initMsg conn) :
    (∀ stream calls, start.Takes calls stream →
      wire.Longest stream (start.recvAll calls).1 ∧
        ((∃ exception, (start.recvAll calls).2 = .error exception ∧
            exception.errorType = .dataLen) ↔
          ∃ rest, stream = wire.encode (start.recvAll calls).1 ++ rest ∧
            BadHeader rest)) ∧
      (∀ calls last, start.HandsOut calls → (start.recvAll calls).2 = .ok last →
        ∃ rest, receivedBytes calls = wire.encode (start.recvAll calls).1 ++ rest ∧
          1 ≤ last.toReceive ∧ last.toReceive = missing rest ∧
          ∀ call : RecvCall, call.data ≠ [] → (call.data.length : Int) ≤ missing rest →
            start.HandsOut (calls ++ [call])) ∧
      ∀ stream, ∃ calls, start.Takes calls stream := by
  subst bound
  have reading := reading_connected client blockSend blockRecv socket clientId
    service initMsg conn
  refine ⟨?_, ?_, reading.takes fun _ => 0⟩
  · rintro stream calls ⟨hands, unread, handedOut, whole⟩
    obtain ⟨rest, decodes, ending⟩ := reading.recvAll_decodes hands
    rw [List.nil_append] at decodes
    refine ⟨?_, ?_, ?_⟩
    · rcases whole with rfl | ⟨exception, thrown⟩
      · rw [handedOut, List.append_nil]
        exact decodes.longest
      · simp only [thrown] at ending
        rw [handedOut]
        exact (ending.2.decodes_append decodes unread).longest
    · rintro ⟨exception, thrown, _⟩
      simp only [thrown] at ending
      refine ⟨rest ++ unread, ?_, ending.2.append unread⟩
      rw [handedOut, decodes.split, List.append_assoc]
    · rintro ⟨other, split, bad⟩
      cases outcome : (recvAll _ calls).2 with
      | error exception =>
          simp only [outcome] at ending
          exact ⟨exception, rfl, ending.1⟩
      | ok last =>
          simp only [outcome] at ending whole
          obtain rfl : unread = [] := by simpa using whole
          rw [handedOut, List.append_nil, decodes.split] at split
          obtain rfl := List.append_cancel_left split
          exact absurd bad ending.not_badHeader
  · intro calls last hands ended
    obtain ⟨rest, decodes, ending⟩ := reading.recvAll_decodes hands
    rw [List.nil_append] at decodes
    simp only [ended] at ending
    refine ⟨rest, decodes.split, ending.toReceive_pos, ending.toReceive_eq, ?_⟩
    intro call nonempty fits
    exact hands.more ended nonempty (by rwa [ending.toReceive_eq])

theorem recvAll_delivers_frames_cut_header :
    wire.Longest [1, 0, 0, 0, 7, 2, 0] [[7]] :=
  ((recvAll_delivers_frames (unbound true false false) false false 5 0 .zero [] 0 _ rfl).1
    [1, 0, 0, 0, 7, 2, 0]
    [⟨[1, 0], fun _ => 9⟩, ⟨[0, 0], fun _ => 9⟩, ⟨[7], fun _ => 9⟩,
      ⟨[2, 0], fun _ => 9⟩]
    ⟨by decide, [], rfl, .inl rfl⟩).1

end Client

end SensorManager
