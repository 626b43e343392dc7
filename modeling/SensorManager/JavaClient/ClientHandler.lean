import SensorManager.JavaClient.ConnectionUtil

/-!
# Receiving in the Java clients

The administrator and the monitoring client have the same `ClientHandler`.  It
collects the bytes of its connection and cuts them into messages when the
channel has nothing more to read.  What `analyzeResponse` throws on a message is
a parameter; the two clients differ in it.
-/

namespace SensorManager.JavaClient

/-- `analyzed` are the messages that `analyzeResponse` was called with, and
`caught` is set when `exceptionCaught` has closed the channel. -/
structure ClientHandler where
  buffer : List UInt8
  analyzed : List (List UInt8)
  caught : Option JavaException
  deriving DecidableEq, Repr

/-- What the channel tells the handler. -/
inductive ReadEvent where
  | channelRead0 (receivedBytes : List UInt8)
  | channelReadComplete
  deriving DecidableEq, Repr

namespace ClientHandler

/-- The handler of a new connection. -/
def create : ClientHandler :=
  { buffer := [], analyzed := [], caught := none }

def exceptionCaught (handler : ClientHandler) (cause : JavaException) : ClientHandler :=
  { handler with caught := some cause }

def addMessageToBuffer (handler : ClientHandler) (receivedMessage : List UInt8) :
    ClientHandler :=
  { handler with buffer := handler.buffer ++ receivedMessage }

/-- The first three statements of the loop of `analyzeBuffer`: the message at
the front of the buffer, and the new buffer. -/
def takeMessage (buffer : List UInt8) : Except JavaException (List UInt8 × List UInt8) := do
  let messageSize ← byteListToIntLittleEndian (← subList buffer 0 4)
  let message ← subList buffer 4 (4 + messageSize).toInt
  let remaining ← subList buffer (4 + messageSize).toInt buffer.length
  return (message, remaining)

theorem takeMessage_shorter {buffer message remaining : List UInt8}
    (taken : takeMessage buffer = .ok (message, remaining)) :
    remaining.length < buffer.length := by
  obtain ⟨field, -, sizing⟩ := except_bind_eq_ok.mp taken
  obtain ⟨messageSize, -, taking⟩ := except_bind_eq_ok.mp sizing
  obtain ⟨body, bodyTaken, leaving⟩ := except_bind_eq_ok.mp taking
  obtain ⟨rest, restTaken, returned⟩ := except_bind_eq_ok.mp leaving
  cases returned
  obtain ⟨-, ordered, long, -⟩ := subList_eq_ok bodyTaken
  obtain ⟨-, -, -, rfl⟩ := subList_eq_ok restTaken
  simp only [List.length_take, List.length_drop]
  omega

/-- The loop of `analyzeBuffer`. -/
def analyzeBuffer (analyzeResponse : List UInt8 → Except JavaException Unit)
    (handler : ClientHandler) : Except JavaException Unit × ClientHandler :=
  if handler.buffer.isEmpty then (.ok (), handler)
  else
    match _taken : takeMessage handler.buffer with
    | .error exception => (.error exception, handler)
    | .ok (message, remaining) =>
        let called :=
          { handler with buffer := remaining, analyzed := handler.analyzed ++ [message] }
        match analyzeResponse message with
        | .error exception => (.error exception, called)
        | .ok () => analyzeBuffer analyzeResponse called
termination_by handler.buffer.length
decreasing_by exact takeMessage_shorter _taken

/-- What the handler does with an event; an exception goes to
`exceptionCaught`. -/
def handle (analyzeResponse : List UInt8 → Except JavaException Unit)
    (handler : ClientHandler) : ReadEvent → ClientHandler
  | .channelRead0 receivedBytes => handler.addMessageToBuffer receivedBytes
  | .channelReadComplete =>
      match handler.analyzeBuffer analyzeResponse with
      | (.ok (), after) => after
      | (.error cause, after) => after.exceptionCaught cause

/-- A closed channel has no further events. -/
def receive (analyzeResponse : List UInt8 → Except JavaException Unit)
    (handler : ClientHandler) (event : ReadEvent) : ClientHandler :=
  if handler.caught.isSome then handler else handler.handle analyzeResponse event

/-- The handler after the events of a connection. -/
def run (analyzeResponse : List UInt8 → Except JavaException Unit)
    (events : List ReadEvent) : ClientHandler :=
  events.foldl (receive analyzeResponse) create

/-- A message and its length field fit in a Java list. -/
def responseFormat : Framing.Format :=
  { width := 4, limit := 2 ^ 31 - 5, holds := by norm_num }

theorem takeMessage_frame {message : List UInt8} (allowed : responseFormat.Allowed message)
    (later : List UInt8) :
    takeMessage (responseFormat.frame message ++ later) = .ok (message, later) := by
  have fits : message.length ≤ 2 ^ 31 - 5 := allowed.2
  have fieldLength : (Bytes.toLittleEndian 4 message.length).length = 4 := by simp
  obtain ⟨messageSize, sized, value⟩ := byteListToIntLittleEndian_of_length fieldLength
  have announced : messageSize.toInt = message.length := by
    rw [value, Bytes.toInt, fieldLength,
      Bytes.littleEndian_toLittleEndian (by norm_num; omega),
      Bytes.signed_of_lt (by norm_num; omega)]
  have four : Int32.toInt 4 = 4 := by decide
  have toIndex : (4 + messageSize).toInt = ((4 + message.length : Nat) : Int) := by
    rw [Int32.toInt_add, announced, four]
    apply Int.bmod_eq_of_le_mul_two <;> omega
  have long : (responseFormat.frame message ++ later).length =
      4 + message.length + later.length := by
    simp [responseFormat]
  have field : subList (responseFormat.frame message ++ later) 0 4 =
      .ok (Bytes.toLittleEndian 4 message.length) := by
    have taken := @subList_of_le (responseFormat.frame message ++ later) 0 4 (by omega) (by omega)
    simpa [Framing.Format.frame, responseFormat] using taken
  have body : subList (responseFormat.frame message ++ later) 4 (4 + message.length : Nat) =
      .ok message := by
    have taken := @subList_of_le (responseFormat.frame message ++ later) 4 (4 + message.length)
      (by omega) (by omega)
    simpa [Framing.Format.frame, responseFormat] using taken
  have tail : (responseFormat.frame message ++ later).drop (4 + message.length) = later :=
    List.drop_left' (by simp [responseFormat])
  have remaining : subList (responseFormat.frame message ++ later) (4 + message.length : Nat)
      (responseFormat.frame message ++ later).length = .ok later := by
    rw [subList_of_le (by omega) (by omega), tail, List.take_of_length_le (by omega)]
  refine except_bind_eq_ok.mpr ⟨_, field, ?_⟩
  refine except_bind_eq_ok.mpr ⟨_, sized, ?_⟩
  rw [toIndex]
  refine except_bind_eq_ok.mpr ⟨_, body, ?_⟩
  exact except_bind_eq_ok.mpr ⟨_, remaining, rfl⟩

section AnalyzeBuffer

variable {analyzeResponse : List UInt8 → Except JavaException Unit}

theorem analyzeBuffer_empty {handler : ClientHandler} (empty : handler.buffer = []) :
    handler.analyzeBuffer analyzeResponse = (.ok (), handler) := by
  rw [analyzeBuffer, if_pos (by simp [empty])]

theorem analyzeBuffer_throws {handler : ClientHandler} {exception : JavaException}
    (nonempty : handler.buffer ≠ []) (threw : takeMessage handler.buffer = .error exception) :
    handler.analyzeBuffer analyzeResponse = (.error exception, handler) := by
  rw [analyzeBuffer, if_neg (by simp [nonempty])]
  split
  · next other thrown =>
      cases threw.symm.trans thrown
      rfl
  · next message remaining taken => cases threw.symm.trans taken

theorem analyzeBuffer_takes {handler : ClientHandler} {message remaining : List UInt8}
    (taken : takeMessage handler.buffer = .ok (message, remaining)) :
    handler.analyzeBuffer analyzeResponse =
      let called :=
        { handler with buffer := remaining, analyzed := handler.analyzed ++ [message] }
      match analyzeResponse message with
      | .error exception => (.error exception, called)
      | .ok () => called.analyzeBuffer analyzeResponse := by
  have nonempty : handler.buffer ≠ [] := by
    have shorter := takeMessage_shorter taken
    exact List.ne_nil_of_length_pos (by omega)
  rw [analyzeBuffer, if_neg (by simp [nonempty])]
  split
  · next exception threw => cases taken.symm.trans threw
  · next other rest same =>
      cases taken.symm.trans same
      rfl

/-- When `analyzeBuffer` returns, the buffer is empty and the new messages were
analysed without an exception. -/
theorem analyzeBuffer_returns {handler after : ClientHandler}
    (returned : handler.analyzeBuffer analyzeResponse = (.ok (), after)) :
    after.buffer = [] ∧ after.caught = handler.caught ∧
      ∃ messages, after.analyzed = handler.analyzed ++ messages ∧
        ∀ message ∈ messages, analyzeResponse message = .ok () := by
  induction handler using analyzeBuffer.induct analyzeResponse with
  | case1 handler empty =>
      have emptied := List.isEmpty_iff.mp empty
      rw [analyzeBuffer_empty emptied] at returned
      cases returned
      exact ⟨emptied, rfl, [], by simp, by simp⟩
  | case2 handler nonempty exception threw =>
      rw [analyzeBuffer_throws (by simpa using nonempty) threw] at returned
      cases returned
  | case3 handler nonempty message remaining taken exception threw =>
      rw [analyzeBuffer_takes taken] at returned
      simp [threw] at returned
  | case4 handler nonempty message remaining taken called analysed ih =>
      rw [analyzeBuffer_takes taken] at returned
      simp only [analysed] at returned
      obtain ⟨emptied, kept, messages, same, each⟩ := ih returned
      refine ⟨emptied, kept, message :: messages, by simp [same, called], ?_⟩
      intro other member
      rcases List.mem_cons.mp member with rfl | later
      · exact analysed
      · exact each other later

/-- A buffer of whole frames is emptied. -/
theorem analyzeBuffer_encode {messages : List (List UInt8)}
    (allowed : ∀ message ∈ messages, responseFormat.Allowed message)
    (returns : ∀ message ∈ messages, analyzeResponse message = .ok ())
    {handler : ClientHandler} (whole : handler.buffer = responseFormat.encode messages) :
    handler.analyzeBuffer analyzeResponse =
      (.ok (), { handler with buffer := [], analyzed := handler.analyzed ++ messages }) := by
  induction messages generalizing handler with
  | nil =>
      obtain ⟨buffer, analyzed, caught⟩ := handler
      obtain rfl : buffer = [] := whole
      rw [analyzeBuffer_empty rfl, List.append_nil]
  | cons message messages ih =>
      have taken : takeMessage handler.buffer =
          .ok (message, responseFormat.encode messages) := by
        rw [whole, Framing.Format.encode_cons]
        exact takeMessage_frame (allowed message (by simp)) _
      rw [analyzeBuffer_takes taken]
      simp only [returns message (by simp)]
      rw [ih (fun other member => allowed other (by simp [member]))
        (fun other member => returns other (by simp [member])) rfl]
      simp

end AnalyzeBuffer

end ClientHandler

end SensorManager.JavaClient
