import SensorManager.SensorClient.SensorLoop

/-!
# The first bytes of a connection

The init frame is put in front of the output buffer when the socket has been
assigned already.  As long as no thread sends in between, every connection
begins with the init frame.
-/

namespace SensorManager.SensorLoop

open Framing Function

variable {token : List UInt8} {loop after : SensorLoop} {answer : Answer}

/-- The bytes of a connection are the beginning of the init frame and the
frames of the messages that were appended for it. -/
def TokenFirst (token : List UInt8) (connection : Outgoing) : Prop :=
  connection.taken <+:
    wire.frame (NetworkListener.beforeFirstSend token) ++ wire.encode connection.appended

instance (token : List UInt8) (connection : Outgoing) :
    Decidable (TokenFirst token connection) :=
  inferInstanceAs (Decidable (_ <+: _))

/-- The bytes of the client before and after the init frame is inserted. -/
def Begun (token : List UInt8) (greeted : Bool) (outgoing : Outgoing) : Prop :=
  if greeted then
    outgoing.bytes =
      wire.frame (NetworkListener.beforeFirstSend token) ++ wire.encode outgoing.appended
  else outgoing.taken = [] ∧ outgoing.bytes = wire.encode outgoing.appended

/-- The socket is given up, and the output buffer not yet cleared. -/
def Clearing (loop : SensorLoop) : Prop :=
  loop.stage = .clearAfterRecv ∨ loop.stage = .clearAfterSend

/-- Where the network thread stands before the init frame is inserted. -/
structure InitFirst (token : List UInt8) (loop : SensorLoop) : Prop where
  begun : Begun token loop.greeted loop.outgoing
  past : ∀ connection ∈ loop.past, TokenFirst token connection
  unbound : loop.greeted = false → loop.stage = .insertInit ∨ loop.client.isConnected = false
  inserting : loop.stage = .insertInit → loop.greeted = false
  ended : loop.connected = false → loop.greeted = false ∨ loop.Clearing
  clearing : loop.Clearing → loop.client.isConnected = false

theorem Begun.tokenFirst {greeted : Bool} {outgoing : Outgoing}
    (begun : Begun token greeted outgoing) : TokenFirst token outgoing := by
  unfold TokenFirst
  cases greeted with
  | true =>
      rw [← show outgoing.bytes = _ from begun]
      exact List.prefix_append _ _
  | false =>
      rw [show outgoing.taken = [] from begun.1]
      exact List.nil_prefix

/-- A client changes that keeps its output buffer. -/
theorem Begun.setClient {greeted : Bool} {outgoing : Outgoing} {client : Client}
    (begun : Begun token greeted outgoing)
    (buffer : client.outBuffer = outgoing.client.outBuffer) :
    Begun token greeted { outgoing with client := client } := by
  have bytes : Outgoing.bytes { outgoing with client := client } = outgoing.bytes := by
    unfold Outgoing.bytes
    rw [buffer]
  unfold Begun
  rw [bytes]
  exact begun

theorem Begun.sendData {outgoing : Outgoing} (begun : Begun token true outgoing) (sent : Int) :
    Begun token true (outgoing.sendData sent) := by
  have bytes : outgoing.bytes = _ := begun
  change (outgoing.sendData sent).bytes = _
  rw [Outgoing.bytes_sendData, bytes]
  rfl

theorem Begun.insertInit {outgoing : Outgoing} (begun : Begun token false outgoing) :
    Begun token true { outgoing with
      client := outgoing.client.insertInit (NetworkListener.beforeFirstSend token) } := by
  obtain ⟨nothing, bytes⟩ := begun
  have buffer : outgoing.client.outBuffer = wire.encode outgoing.appended := by
    unfold Outgoing.bytes at bytes
    rwa [nothing, List.nil_append] at bytes
  change Outgoing.bytes _ = _
  unfold Outgoing.bytes Client.insertInit
  dsimp only
  rw [if_pos (by simp [NetworkListener.beforeFirstSend]), Client.frame_eq, nothing, buffer,
    List.nil_append]

/-- A measurement thread appends whole frames, and takes bytes from the front
only once the init frame is there. -/
theorem Begun.step {greeted : Bool} {outgoing changed : Outgoing} {sender next : Sender}
    {step : SendStep} (begun : Begun token greeted outgoing)
    (stepped : outgoing.step sender step = some (changed, next))
    (silent : greeted = false → changed.taken = outgoing.taken) :
    Begun token greeted changed := by
  have bytes := Outgoing.step_bytes stepped
  have appended := Outgoing.step_appended stepped
  cases greeted with
  | true =>
      have before : outgoing.bytes = _ := begun
      change changed.bytes = _
      rw [bytes, appended, before, Format.encode_append, List.append_assoc]
  | false =>
      refine ⟨(silent rfl).trans begun.1, ?_⟩
      rw [bytes, appended, begun.2, Format.encode_append]

/-- A stage that neither binds nor gives up a connection. -/
theorem InitFirst.goto (first : InitFirst token loop) {client : Client}
    (bound : loop.stage ≠ .insertInit) (kept : ¬ loop.Clearing)
    (outgoing : after.outgoing = { loop.outgoing with client := client })
    (buffer : client.outBuffer = loop.client.outBuffer)
    (isConnected : client.isConnected = loop.client.isConnected)
    (greeted : after.greeted = loop.greeted) (past : after.past = loop.past)
    (connected : after.connected = loop.connected) (stage : after.stage ≠ .insertInit)
    (goesOn : ¬ after.Clearing) : InitFirst token after := by
  constructor
  · rw [greeted, outgoing]
    exact first.begun.setClient buffer
  · rw [past]
    exact first.past
  · intro notGreeted
    rw [greeted] at notGreeted
    right
    unfold SensorLoop.client
    rw [outgoing]
    exact isConnected.trans ((first.unbound notGreeted).resolve_left bound)
  · exact fun inserting => absurd inserting stage
  · intro ended
    rw [connected] at ended
    rw [greeted]
    exact .inl ((first.ended ended).resolve_right kept)
  · exact fun clearing => absurd clearing goesOn

theorem InitFirst.disconnectHandler (first : InitFirst token loop) {stage : SensorStage}
    (clearing : stage = .clearAfterRecv ∨ stage = .clearAfterSend) :
    InitFirst token (loop.disconnectHandler stage) := by
  have inserting : stage ≠ .insertInit := by
    rcases clearing with rfl | rfl <;> simp
  constructor
  · exact first.begun.setClient rfl
  · exact first.past
  · exact fun _ => .inr rfl
  · exact fun here => absurd here inserting
  · exact fun _ => .inr clearing
  · exact fun _ => rfl

theorem InitFirst.tryConnect (first : InitFirst token loop) (stage : loop.stage = .tryConnect) :
    InitFirst token (loop.tryConnect answer) := by
  have kept : ¬ loop.Clearing := by simp [Clearing, stage]
  unfold SensorLoop.tryConnect
  split
  · exact first.goto (by simp [stage]) kept rfl rfl rfl rfl rfl rfl (by simp)
      (by simp [Clearing])
  · next idle =>
      have notGreeted : loop.greeted = false :=
        (first.ended (Bool.not_eq_true _ ▸ idle)).resolve_right kept
      constructor
      · exact first.begun.setClient rfl
      · exact first.past
      · exact fun _ => .inl rfl
      · exact fun _ => notGreeted
      · exact fun _ => .inl notGreeted
      · simp [Clearing]

theorem InitFirst.insertInit (first : InitFirst token loop) (stage : loop.stage = .insertInit) :
    InitFirst token (loop.insertInit token) := by
  have begun := first.begun
  rw [first.inserting stage] at begun
  unfold SensorLoop.insertInit
  constructor
  · exact begun.insertInit
  · exact first.past
  · simp
  · simp
  · simp
  · simp [Clearing]

theorem InitFirst.trySelect (first : InitFirst token loop) (stage : loop.stage = .trySelect) :
    InitFirst token (loop.trySelect answer) := by
  have kept : ¬ loop.Clearing := by simp [Clearing, stage]
  unfold SensorLoop.trySelect
  split
  · exact first.goto (by simp [stage]) kept rfl rfl rfl rfl rfl rfl (by simp)
      (by simp [Clearing])
  · exact first.goto (by simp [stage]) kept rfl rfl rfl rfl rfl rfl (by simp)
      (by simp [Clearing])

/-- The listener may kill the handler, and does nothing else to it. -/
theorem onGotRequest_eq (msg : List UInt8) (beyond : BytesParser.Memory) :
    ∃ killed, loop.onGotRequest msg beyond = { loop with killed := killed } := by
  unfold SensorLoop.onGotRequest
  split <;> exact ⟨_, rfl⟩

theorem InitFirst.tryRecv (first : InitFirst token loop) (stage : loop.stage = .tryRecv) :
    InitFirst token (loop.tryRecv answer) := by
  have bound : loop.stage ≠ .insertInit := by simp [stage]
  have kept : ¬ loop.Clearing := by simp [Clearing, stage]
  unfold SensorLoop.tryRecv
  split
  · obtain ⟨inBuffer, remainingIn, remainingInLen, waitForInitMsg, same⟩ :=
      loop.client.recvData_eq answer.received answer.beyond
    dsimp only
    rw [same]
    split
    · exact first.goto bound kept rfl rfl rfl rfl rfl rfl (by simp) (by simp [Clearing])
    · next received msg _ =>
        have handled : ∀ reached : SensorLoop, InitFirst token { reached with stage := .trySend } →
            InitFirst token (if received ≤ 0 then reached.disconnectHandler .clearAfterRecv
              else { reached with stage := .trySend }) := by
          intro reached now
          split
          · exact InitFirst.disconnectHandler now (.inl rfl)
          · exact now
        apply handled
        cases msg with
        | none => exact first.goto bound kept rfl rfl rfl rfl rfl rfl (by simp) (by simp [Clearing])
        | some msg =>
            dsimp only [Option.elim_some]
            obtain ⟨killed, same⟩ := onGotRequest_eq msg answer.beyond
            rw [same]
            exact first.goto bound kept rfl rfl rfl rfl rfl rfl (by simp) (by simp [Clearing])
  · exact first.goto bound kept rfl rfl rfl rfl rfl rfl (by simp) (by simp [Clearing])

theorem next_stage (loop : SensorLoop) :
    loop.next ≠ .insertInit ∧ loop.next ≠ .clearAfterRecv ∧ loop.next ≠ .clearAfterSend := by
  unfold next
  split <;> simp

theorem InitFirst.trySend (first : InitFirst token loop) (stage : loop.stage = .trySend) :
    InitFirst token (loop.trySend answer) := by
  have bound : loop.stage ≠ .insertInit := by simp [stage]
  have kept : ¬ loop.Clearing := by simp [Clearing, stage]
  obtain ⟨notInserting, notAfterRecv, notAfterSend⟩ := loop.next_stage
  have later : ∀ reached : SensorLoop, reached.stage = loop.next → ¬ reached.Clearing := by
    rintro reached here (afterRecv | afterSend)
    · exact notAfterRecv (here ▸ afterRecv)
    · exact notAfterSend (here ▸ afterSend)
  unfold SensorLoop.trySend
  split
  · next ready =>
      have greeted : loop.greeted = true := by
        by_contra notGreeted
        have unbound := (first.unbound (Bool.not_eq_true _ ▸ notGreeted)).resolve_left bound
        simp [unbound] at ready
      have begun := first.begun
      rw [greeted] at begun
      have sent : InitFirst token { loop with outgoing := loop.outgoing.sendData answer.sent } := by
        refine ⟨?_, first.past, ?_, ?_, first.ended, fun clearing => absurd clearing kept⟩
        · dsimp only
          rw [greeted]
          exact begun.sendData answer.sent
        · exact fun notGreeted => absurd notGreeted (by simp [greeted])
        · exact fun inserting => absurd inserting bound
      dsimp only
      split
      · exact sent.disconnectHandler (.inr rfl)
      · exact sent.goto bound kept rfl rfl rfl rfl rfl rfl notInserting (later _ rfl)
  · exact first.goto bound kept rfl rfl rfl rfl rfl rfl notInserting (later _ rfl)

theorem InitFirst.clearOut (first : InitFirst token loop) (clearing : loop.Clearing)
    {stage : SensorStage} (inserting : stage ≠ .insertInit) (afterRecv : stage ≠ .clearAfterRecv)
    (afterSend : stage ≠ .clearAfterSend) : InitFirst token (loop.clearOut stage) := by
  constructor
  · exact ⟨rfl, rfl⟩
  · intro connection member
    rcases List.mem_append.mp member with earlier | last
    · exact first.past connection earlier
    · obtain rfl := List.mem_singleton.mp last
      exact first.begun.tokenFirst
  · exact fun _ => .inr (first.clearing clearing)
  · exact fun here => absurd here inserting
  · exact fun _ => .inl rfl
  · rintro (here | here)
    · exact absurd here afterRecv
    · exact absurd here afterSend

theorem InitFirst.startHandling (first : InitFirst token loop)
    (ran : SensorLoop.startHandling token answer loop = some after) : InitFirst token after := by
  obtain ⟨notInserting, notAfterRecv, notAfterSend⟩ := loop.next_stage
  unfold SensorLoop.startHandling at ran
  split at ran
  · next stage =>
      cases ran
      exact first.tryConnect stage
  · next stage =>
      cases ran
      exact first.insertInit stage
  · next stage =>
      cases ran
      exact first.goto (by simp [stage]) (by simp [Clearing, stage]) rfl rfl rfl rfl rfl rfl
        (by simp [setReadyHandlers]) (by simp [Clearing, setReadyHandlers])
  · next stage =>
      cases ran
      exact first.trySelect stage
  · next stage =>
      cases ran
      exact first.tryRecv stage
  · next stage =>
      cases ran
      exact first.clearOut (.inl stage) (by simp) (by simp) (by simp)
  · next stage =>
      cases ran
      exact first.trySend stage
  · next stage =>
      cases ran
      exact first.clearOut (.inr stage) notInserting notAfterRecv notAfterSend
  · cases ran

/-- `socket_send` fails on a socket that is not open. -/
def closedTakesNothing : Turn → SensorLoop → Bool
  | .sender _ (.sendData sent), loop => loop.client.isConnected || sent ≤ 0
  | _, _ => true

/-- No thread sends bytes between the assignment of the socket and the insertion
of the init frame. -/
def silentBeforeInit : Turn → SensorLoop → Bool
  | .sender _ (.sendData sent), loop => loop.stage ≠ .insertInit || sent ≤ 0
  | _, _ => true

/-- A step before the init frame is inserted takes no bytes. -/
theorem InitFirst.silent (first : InitFirst token loop) {thread : Nat} {step : SendStep}
    {changed : Outgoing} {moved : Sender}
    (stepped : loop.outgoing.step (loop.senders thread) step = some (changed, moved))
    (closed : closedTakesNothing (.sender thread step) loop = true)
    (silent : silentBeforeInit (.sender thread step) loop = true)
    (notGreeted : loop.greeted = false) : changed.taken = loop.outgoing.taken := by
  have nothing : (loop.senders thread).taken loop.outgoing.client step = [] := by
    cases step with
    | sendData sent =>
        have failed : sent ≤ 0 := by
          rcases first.unbound notGreeted with inserting | unbound
          · simpa [silentBeforeInit, inserting] using silent
          · simpa [closedTakesNothing, unbound] using closed
        have none : sent.toNat = 0 := by omega
        unfold Sender.taken
        split
        · simp_all [Client.takenBytes]
        · rfl
    | addOutMsg msg | append | check => simp [Sender.taken]
  obtain ⟨result, -, same⟩ := Option.map_eq_some_iff.mp stepped
  cases same
  dsimp only
  rw [nothing, List.append_nil]

theorem Turns.initFirst {label : Turn} (turns : Turns token loop label after)
    (closed : closedTakesNothing label loop = true)
    (silent : silentBeforeInit label loop = true) (first : InitFirst token loop) :
    InitFirst token after := by
  cases label with
  | network answer => exact first.startHandling turns
  | sender thread step =>
      obtain ⟨⟨changed, moved⟩, stepped, same⟩ := Option.map_eq_some_iff.mp turns
      subst same
      have isConnected : changed.client.isConnected = loop.client.isConnected :=
        Outgoing.step_isConnected stepped
      constructor
      · exact first.begun.step stepped (first.silent stepped closed silent)
      · exact first.past
      · intro notGreeted
        rcases first.unbound notGreeted with inserting | unbound
        · exact .inl inserting
        · exact .inr (isConnected.trans unbound)
      · exact first.inserting
      · exact first.ended
      · exact fun clearing => isConnected.trans (first.clearing clearing)
  | blockSendOnInit =>
      cases turns
      exact ⟨first.begun, first.past, first.unbound, first.inserting, first.ended, first.clearing⟩

theorem initFirst_start (token : List UInt8) : InitFirst token start := by
  constructor
  · exact ⟨rfl, rfl⟩
  · simp [start]
  · exact fun _ => .inr rfl
  · simp [start]
  · exact fun _ => .inl rfl
  · exact fun _ => rfl

/-- In every run in which no thread sends before the init frame is inserted,
every connection begins with the init frame, followed by the frames of whole
messages. -/
theorem token_first {taken : List (Transition SensorLoop Turn)}
    (trace : Trace (Turns token) start taken after)
    (closed : ∀ transition ∈ taken,
      closedTakesNothing transition.label transition.before = true)
    (silent : ∀ transition ∈ taken,
      silentBeforeInit transition.label transition.before = true) :
    ∀ connection ∈ after.connections, TokenFirst token connection := by
  have first := (trace.keeps_of_meets
    (fun transition => closedTakesNothing transition.label transition.before = true ∧
      silentBeforeInit transition.label transition.before = true)
    (initFirst_start token) (fun transition member =>
      ⟨closed transition member, silent transition member⟩)
    (fun _ _ _ turns meets now => turns.initFirst meets.1 meets.2 now)).1
  intro connection member
  rcases List.mem_append.mp member with earlier | last
  · exact first.past connection earlier
  · obtain rfl := List.mem_singleton.mp last
    exact first.begun.tokenFirst

/-- A thread appends a measurement while the sensor is not connected, and the
network thread then assigns a socket. -/
def backlog : List Turn :=
  [.blockSendOnInit, .sender 0 (.addOutMsg (measureMsg 1 2)), .sender 0 .append,
    .network { socket := 3 }]

/-- The connection breaks after a part of the measurement, and the next one
starts over. -/
theorem token_first_reconnected :
    ∃ taken after, Trace (Turns [116]) start taken after ∧
      after.connections.map (·.taken) =
        [[2, 0, 0, 0, 105, 116, 13, 0, 0], [2, 0, 0, 0, 105, 116]] ∧
      ∀ connection ∈ after.connections, TokenFirst [116] connection := by
  have played : (playMoves (turn [116])
      (fun label loop => closedTakesNothing label loop && silentBeforeInit label loop)
      (backlog ++ [.network {}, .sender 0 .check, .sender 0 (.sendData 9), .network {},
        .network { selected := 1, activeIn := fun _ => true }, .network {}, .network {},
        .network {}, .network { socket := 3 }, .network {},
        .sender 0 (.addOutMsg (measureMsg 3 4)), .sender 0 .append, .sender 0 .check,
        .sender 0 (.sendData 6)]) start).map (fun loop => loop.connections.map (·.taken)) =
      some [[2, 0, 0, 0, 105, 116, 13, 0, 0], [2, 0, 0, 0, 105, 116]] := by
    decide +kernel
  obtain ⟨after, reached, bytes⟩ := Option.map_eq_some_iff.mp played
  obtain ⟨taken, trace, checked⟩ := Trace.of_playMoves .start reached
  refine ⟨taken, after, trace, bytes, token_first trace ?_ ?_⟩
  · exact fun transition member => (Bool.and_eq_true_iff.mp (checked transition member)).1
  · exact fun transition member => (Bool.and_eq_true_iff.mp (checked transition member)).2

/-- The measurement that was waiting goes out before the init frame. -/
theorem not_token_first_backlog :
    ∃ taken after, Trace (Turns [116]) start taken after ∧
      (∀ transition ∈ taken,
        closedTakesNothing transition.label transition.before = true) ∧
      ¬ ∀ connection ∈ after.connections, TokenFirst [116] connection := by
  have played : (playMoves (turn [116]) closedTakesNothing
      (backlog ++ [.sender 0 .check, .sender 0 (.sendData 17), .network {}]) start).map
        (fun loop => loop.connections.all fun connection => TokenFirst [116] connection) =
      some false := by
    decide +kernel
  obtain ⟨after, reached, broken⟩ := Option.map_eq_some_iff.mp played
  obtain ⟨taken, trace, closed⟩ := Trace.of_playMoves .start reached
  refine ⟨taken, after, trace, closed, ?_⟩
  intro tokenFirst
  rw [List.all_eq_false] at broken
  obtain ⟨connection, member, fails⟩ := broken
  exact fails (decide_eq_true (tokenFirst connection member))

end SensorManager.SensorLoop
