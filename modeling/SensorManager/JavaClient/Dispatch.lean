import SensorManager.JavaClient.ClientHandler

/-!
# What a Java client makes of the stream

A stream of frames reaches the handler cut at any points.  The handler
dispatches the messages as long as it is never told that a read is complete
while a frame is not.
-/

namespace SensorManager.JavaClient.ClientHandler

open Framing

variable {analyzeResponse : List UInt8 → Except JavaException Unit}
  {messages : List (List UInt8)} {events earlier : List ReadEvent}

/-- The bytes that the events bring. -/
def received (events : List ReadEvent) : List UInt8 :=
  events.flatMap fun
    | .channelRead0 receivedBytes => receivedBytes
    | .channelReadComplete => []

/-- The stream of the framed messages, cut into events with bytes in each. -/
structure Cuts (messages : List (List UInt8)) (events : List ReadEvent) : Prop where
  allowed : ∀ message ∈ messages, responseFormat.Allowed message
  nonempty : ∀ receivedBytes, .channelRead0 receivedBytes ∈ events → receivedBytes ≠ []
  stream : received events = responseFormat.encode messages

/-- The handler has dispatched the frames that are complete in the stream and
keeps the bytes of the one that is not; the channel is open. -/
structure Dispatched (messages : List (List UInt8)) (stream : List UInt8)
    (handler : ClientHandler) : Prop where
  inOrder : handler.analyzed <+: messages
  decodes : responseFormat.Decodes stream handler.analyzed handler.buffer
  isOpen : handler.caught = none

/-- The events bring whole frames, whose messages are analysed without an
exception. -/
def Whole (analyzeResponse : List UInt8 → Except JavaException Unit)
    (messages : List (List UInt8)) (stream : List UInt8) : Prop :=
  ∃ whole, whole <+: messages ∧ stream = responseFormat.encode whole ∧
    ∀ message ∈ whole, analyzeResponse message = .ok ()

/-- At every end of a read the stream so far has a property. -/
def AtEveryComplete (events : List ReadEvent) (holds : List ReadEvent → Prop) : Prop :=
  ∀ earlier, earlier ++ [.channelReadComplete] <+: events → holds earlier

theorem run_append (event : ReadEvent) :
    run analyzeResponse (earlier ++ [event]) =
      receive analyzeResponse (run analyzeResponse earlier) event := by
  simp [run]

theorem received_append (event : ReadEvent) :
    received (earlier ++ [event]) = received earlier ++ received [event] := by
  simp [received]

theorem receive_read {handler : ClientHandler} (isOpen : handler.caught = none)
    (receivedBytes : List UInt8) :
    receive analyzeResponse handler (.channelRead0 receivedBytes) =
      handler.addMessageToBuffer receivedBytes := by
  simp [receive, isOpen, handle]

theorem receive_complete {handler after : ClientHandler} (isOpen : handler.caught = none)
    (returned : handler.analyzeBuffer analyzeResponse = (.ok (), after)) :
    receive analyzeResponse handler .channelReadComplete = after := by
  simp [receive, isOpen, handle, returned]

/-- A channel that is open after an event was open before it. -/
theorem isOpen_of_receive {handler : ClientHandler} {event : ReadEvent}
    (isOpen : (receive analyzeResponse handler event).caught = none) :
    handler.caught = none := by
  cases caught : handler.caught with
  | none => rfl
  | some cause => simp [receive, caught] at isOpen

/-- A channel is open after the end of a read only if `analyzeBuffer` has
returned. -/
theorem returned_of_isOpen {handler : ClientHandler}
    (isOpen : (receive analyzeResponse handler .channelReadComplete).caught = none) :
    handler.analyzeBuffer analyzeResponse =
      (.ok (), receive analyzeResponse handler .channelReadComplete) := by
  have before := isOpen_of_receive isOpen
  cases ran : handler.analyzeBuffer analyzeResponse with
  | mk result after =>
      cases result with
      | ok done => rw [receive_complete before ran]
      | error cause =>
          simp [receive, before, handle, ran, exceptionCaught] at isOpen

/-- While the channel is open no message was analysed with an exception. -/
theorem run_returns (isOpen : (run analyzeResponse events).caught = none) :
    ∀ message ∈ (run analyzeResponse events).analyzed, analyzeResponse message = .ok () := by
  induction events using List.reverseRecOn with
  | nil => simp [run, create]
  | append_singleton events event ih =>
      rw [run_append] at isOpen ⊢
      have earlierReturned := ih (isOpen_of_receive isOpen)
      cases event with
      | channelRead0 receivedBytes =>
          rw [receive_read (isOpen_of_receive isOpen)]
          exact earlierReturned
      | channelReadComplete =>
          obtain ⟨-, -, new, same, newReturned⟩ :=
            analyzeBuffer_returns (returned_of_isOpen isOpen)
          intro message member
          rw [same] at member
          rcases List.mem_append.mp member with old | added
          · exact earlierReturned message old
          · exact newReturned message added

/-- What is dispatched at the end of a read are all bytes so far. -/
theorem whole_of_dispatched
    (dispatched : Dispatched messages (received earlier)
      (run analyzeResponse (earlier ++ [.channelReadComplete]))) :
    Whole analyzeResponse messages (received earlier) := by
  have isOpen := dispatched.isOpen
  have returned := run_returns isOpen
  refine ⟨_, dispatched.inOrder, ?_, returned⟩
  rw [run_append] at isOpen
  obtain ⟨emptied, -, -⟩ := analyzeBuffer_returns (returned_of_isOpen isOpen)
  have split := dispatched.decodes.split
  rw [run_append] at split ⊢
  rwa [emptied, List.append_nil] at split

/-- As long as every end of a read finds whole frames, the handler holds the
bytes after the messages it has dispatched. -/
theorem run_of_whole (allowed : ∀ message ∈ messages, responseFormat.Allowed message)
    (whole : AtEveryComplete events fun earlier =>
      Whole analyzeResponse messages (received earlier)) :
    (run analyzeResponse events).caught = none ∧
      (run analyzeResponse events).analyzed <+: messages ∧
      received events = responseFormat.encode (run analyzeResponse events).analyzed ++
        (run analyzeResponse events).buffer := by
  induction events using List.reverseRecOn with
  | nil => exact ⟨rfl, List.nil_prefix, rfl⟩
  | append_singleton events event ih =>
      obtain ⟨isOpen, inOrder, split⟩ :=
        ih fun earlier front => whole earlier (front.trans (List.prefix_append _ _))
      rw [run_append, received_append]
      cases event with
      | channelRead0 receivedBytes =>
          rw [receive_read isOpen]
          refine ⟨isOpen, inOrder, ?_⟩
          rw [split, List.append_assoc]
          simp [addMessageToBuffer, received]
      | channelReadComplete =>
          obtain ⟨bodies, front, stream, returns⟩ := whole events List.prefix_rfl
          have bodiesAllowed : ∀ body ∈ bodies, responseFormat.Allowed body :=
            fun body member => allowed body (front.subset member)
          obtain ⟨later, rfl, rest⟩ := Format.encode_eq_append bodiesAllowed
            (fun body member => allowed body (inOrder.subset member))
            (stream.symm.trans split)
          have ran := @analyzeBuffer_encode analyzeResponse later
            (fun body member => bodiesAllowed body (List.mem_append_right _ member))
            (fun body member => returns body (List.mem_append_right _ member)) _ rest
          rw [receive_complete isOpen ran]
          refine ⟨isOpen, front, ?_⟩
          simpa [received] using stream

theorem dispatched_of_whole (allowed : ∀ message ∈ messages, responseFormat.Allowed message)
    (whole : AtEveryComplete (earlier ++ [.channelReadComplete]) fun earlier =>
      Whole analyzeResponse messages (received earlier)) :
    Dispatched messages (received earlier)
      (run analyzeResponse (earlier ++ [.channelReadComplete])) := by
  obtain ⟨isOpen, inOrder, split⟩ := run_of_whole allowed whole
  have emptied : (run analyzeResponse (earlier ++ [.channelReadComplete])).buffer = [] := by
    rw [run_append] at isOpen ⊢
    exact (analyzeBuffer_returns (returned_of_isOpen isOpen)).1
  refine ⟨inOrder, ?_, isOpen⟩
  rw [emptied, List.append_nil, received_append, received, received] at split
  rw [emptied]
  have decodes := Format.decodes_encode fun body member => allowed body (inOrder.subset member)
  rw [← split] at decodes
  simpa [received] using decodes

/-- The messages are dispatched, in order and once each, at every end of a read
exactly when every end of a read finds whole frames, whose messages are
analysed without an exception. -/
theorem dispatched_iff (cuts : Cuts messages events) :
    (AtEveryComplete events fun earlier =>
      Dispatched messages (received earlier)
        (run analyzeResponse (earlier ++ [.channelReadComplete]))) ↔
      AtEveryComplete events fun earlier =>
        Whole analyzeResponse messages (received earlier) := by
  constructor
  · exact fun dispatched earlier front => whole_of_dispatched (dispatched earlier front)
  · intro whole earlier front
    apply dispatched_of_whole cuts.allowed
    exact fun sooner within => whole sooner (within.trans front)

/-- A frame in two chunks, with one end of the read after both. -/
theorem dispatched_iff_twoChunks :
    AtEveryComplete
        [.channelRead0 [8, 0, 0], .channelRead0 [0, 0, 0, 0, 1, 0, 0, 0, 7],
          .channelReadComplete]
      fun earlier => Dispatched [[0, 0, 0, 1, 0, 0, 0, 7]] (received earlier)
        (run (fun _ => .ok ()) (earlier ++ [.channelReadComplete])) := by
  have cuts : Cuts [[0, 0, 0, 1, 0, 0, 0, 7]]
      [.channelRead0 [8, 0, 0], .channelRead0 [0, 0, 0, 0, 1, 0, 0, 0, 7],
        .channelReadComplete] := by
    refine ⟨?_, ?_, by decide⟩
    · simp [Format.Allowed, responseFormat]
    · intro receivedBytes member
      rintro rfl
      simp at member
  apply (dispatched_iff cuts).mpr
  rintro earlier ⟨rest, same⟩
  refine ⟨[[0, 0, 0, 1, 0, 0, 0, 7]], List.prefix_rfl, ?_, by simp⟩
  -- Only the third event is the end of a read.
  rcases earlier with _ | ⟨first, _ | ⟨second, _ | ⟨third, more⟩⟩⟩
  · cases same
  · cases same
  · cases same
    decide
  · simp at same

/-- A read that ends within a frame closes the channel. -/
theorem not_dispatched_cutFrame :
    Cuts [[0, 0, 0, 1, 0, 0, 0, 7]]
        [.channelRead0 [8, 0, 0], .channelReadComplete,
          .channelRead0 [0, 0, 0, 0, 1, 0, 0, 0, 7], .channelReadComplete] ∧
      ¬ AtEveryComplete
        [.channelRead0 [8, 0, 0], .channelReadComplete,
          .channelRead0 [0, 0, 0, 0, 1, 0, 0, 0, 7], .channelReadComplete]
        fun earlier => Dispatched [[0, 0, 0, 1, 0, 0, 0, 7]] (received earlier)
          (run (fun _ => .ok ()) (earlier ++ [.channelReadComplete])) := by
  constructor
  · refine ⟨?_, ?_, by decide⟩
    · simp [Format.Allowed, responseFormat]
    · intro receivedBytes member
      rintro rfl
      simp at member
  · intro dispatched
    have isOpen := (dispatched [.channelRead0 [8, 0, 0]] ⟨_, rfl⟩).isOpen
    have threw : takeMessage [8, 0, 0] = .error .indexOutOfBounds := by decide
    have ran := @analyzeBuffer_throws (fun _ => .ok ())
      { buffer := [8, 0, 0], analyzed := [], caught := none } _ (by simp) threw
    rw [run_append] at isOpen
    have returned := returned_of_isOpen isOpen
    have read : run (fun _ => .ok ()) [.channelRead0 [8, 0, 0]] =
        { buffer := [8, 0, 0], analyzed := [], caught := none } := by
      decide
    rw [read, ran] at returned
    cases returned

end SensorManager.JavaClient.ClientHandler
