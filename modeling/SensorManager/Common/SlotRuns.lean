import SensorManager.Common.Lifecycle

/-!
# The slots in a run of the loop

The free slot, the descriptor sets and `nfds` are computed early in an
iteration and used later, while listeners and other threads disconnect clients
in between: what the early stages have prepared for `tryAccept` still holds
when it gets there.
-/

namespace SensorManager.SelectLoop

open Function

variable {listener : IRequestListener} {loop after : SelectLoop} {answer : Answer} {slot : Int}

/-- The free slot that an iteration has found is still free. -/
def Vacant (loop : SelectLoop) : Prop :=
  0 ≤ loop.handler.freeHandler → loop.handler.inRange loop.handler.freeHandler = true ∧
    loop.handler.sockets loop.handler.freeHandler = -1

/-- What the stages before `tryAccept` have prepared for it. -/
structure Prepared (loop : SelectLoop) : Prop where
  vacant : loop.stage ∈ [.setReadyHandlers, .trySelect, .tryAccept] → loop.Vacant
  pending : loop.stage ∈ [.trySelect, .tryAccept] →
    loop.readyIn loop.handler.acceptingSocket = true → 0 ≤ loop.handler.freeHandler

/-- Slots may become free, but none is bound. -/
def Releases (loop after : SelectLoop) : Prop :=
  ∀ slot, after.handler.sockets slot = loop.handler.sockets slot ∨
    after.handler.sockets slot = -1

section Releases

theorem Releases.refl (loop : SelectLoop) : Releases loop loop :=
  fun _ => .inl rfl

theorem Releases.trans {middle : SelectLoop} (first : Releases loop middle)
    (second : Releases middle after) : Releases loop after := by
  intro slot
  rcases second slot with same | closed
  · rw [same]
    exact first slot
  · exact .inr closed

theorem releases_setClient {client : Client}
    (socket : client.socket = (loop.handler.clientHandlers slot).socket ∨ client.socket = -1) :
    Releases loop (loop.setClient slot client) := by
  intro other
  unfold SelectLoop.setClient
  rw [ClientsHandler.sockets_setClient]
  by_cases same : other = slot
  · subst same
    rwa [update_self]
  · rw [update_of_ne same]
    exact .inl rfl

theorem releases_send (clientId : Int) (msg : List UInt8) (sent : Int) :
    Releases loop (loop.send clientId msg sent) := by
  unfold SelectLoop.send ClientsHandler.send
  split
  · exact .refl loop
  · apply releases_setClient
    obtain ⟨buffer, same⟩ := (loop.handler.clientHandlers clientId).addOutMsg_eq msg sent
    rw [same]
    exact .inl rfl

theorem releases_disconnectHandler : Releases loop (loop.disconnectHandler slot) :=
  @releases_setClient loop slot (loop.handler.clientHandlers slot).disconnected (.inr rfl)

theorem releases_disconnectClient (clientId : Int) :
    Releases loop (loop.disconnectClient clientId) := by
  unfold SelectLoop.disconnectClient ClientsHandler.disconnectClient
  split
  · exact .refl loop
  · split
    · exact .refl loop
    · exact releases_disconnectHandler

theorem releases_foldl_react (clientId sent : Int) (reactions : List Reaction) :
    Releases loop (reactions.foldl (react clientId sent) loop) := by
  induction reactions generalizing loop with
  | nil => exact .refl loop
  | cons reaction reactions ih =>
      refine Releases.trans ?_ ih
      cases reaction with
      | send msg => exact releases_send clientId msg sent
      | disconnect => exact releases_disconnectClient clientId

theorem releases_closeUnless (count : Int) : Releases loop (loop.closeUnless slot count) := by
  unfold SelectLoop.closeUnless
  split
  · exact releases_disconnectHandler
  · exact .refl loop

theorem releases_recvData {result : Except ConnectionException (Int × Option (List UInt8))}
    {client : Client} {received : Received} {beyond : BytesParser.Memory}
    (called : (loop.handler.clientHandlers slot).recvData received beyond = (result, client)) :
    Releases loop (loop.setClient slot client) := by
  obtain ⟨inBuffer, remainingIn, remainingInLen, waitForInitMsg, same⟩ :=
    (loop.handler.clientHandlers slot).recvData_eq received beyond
  rw [called] at same
  subst same
  exact releases_setClient (.inl rfl)

theorem TryRecv.releases {result : Except Failure Unit}
    (handled : TryRecv listener loop slot answer result after) : Releases loop after := by
  cases handled with
  | skipped nothing => exact .refl loop
  | threw receives called => exact releases_recvData called
  | received receives called => exact (releases_recvData called).trans (releases_closeUnless _)
  | crashed receives called undefined => exact releases_recvData called
  | @signalled count client msg reactions done receives called reacts raised =>
      exact (releases_recvData called).trans (releases_foldl_react client.clientId _ done)
  | @delivered count client msg reactions receives called reacts survives =>
      refine Releases.trans ?_ (releases_closeUnless _)
      exact (releases_recvData called).trans (releases_foldl_react client.clientId _ reactions)

theorem releases_trySent (slot sent : Int) : Releases loop (loop.trySent slot sent) := by
  unfold SelectLoop.trySent
  split
  · refine Releases.trans ?_ (releases_closeUnless _)
    apply releases_setClient
    unfold Client.sendData
    split <;> exact .inl rfl
  · exact .refl loop

end Releases

/-- What the turn of another thread leaves alone. -/
structure Aside (loop after : SelectLoop) : Prop where
  stage : after.stage = loop.stage
  readyIn : after.readyIn = loop.readyIn
  acceptingSocket : after.handler.acceptingSocket = loop.handler.acceptingSocket
  freeHandler : after.handler.freeHandler = loop.handler.freeHandler
  maxClients : after.handler.maxClients = loop.handler.maxClients
  releases : Releases loop after

theorem Prepared.aside (prepared : loop.Prepared) (aside : Aside loop after) :
    after.Prepared := by
  constructor
  · intro stage found
    rw [aside.stage] at stage
    rw [aside.freeHandler] at found
    obtain ⟨range, free⟩ := prepared.vacant stage found
    rw [aside.freeHandler]
    refine ⟨?_, (aside.releases _).elim (·.trans free) id⟩
    unfold ClientsHandler.inRange at range ⊢
    rwa [aside.maxClients]
  · intro stage ready
    rw [aside.stage] at stage
    rw [aside.readyIn, aside.acceptingSocket] at ready
    rw [aside.freeHandler]
    exact prepared.pending stage ready

theorem aside_send (clientId : Int) (msg : List UInt8) (sent : Int) :
    Aside loop (loop.send clientId msg sent) := by
  refine ⟨rfl, rfl, ?_, ?_, ?_, releases_send clientId msg sent⟩ <;>
    unfold SelectLoop.send ClientsHandler.send <;> split <;> rfl

theorem aside_disconnectClient (clientId : Int) :
    Aside loop (loop.disconnectClient clientId) := by
  refine ⟨rfl, rfl, ?_, ?_, ?_, releases_disconnectClient clientId⟩ <;>
    unfold SelectLoop.disconnectClient ClientsHandler.disconnectClient <;> split <;>
    [rfl; split; rfl; split; rfl; split] <;> rfl

theorem aside_unlockRecv (clientId : Int) :
    Aside loop { loop with handler := loop.handler.unlockRecv clientId } := by
  unfold ClientsHandler.unlockRecv
  split
  · exact ⟨rfl, rfl, rfl, rfl, rfl, .refl loop⟩
  · exact ⟨rfl, rfl, rfl, rfl, rfl, releases_setClient (.inl rfl)⟩

theorem Turns.aside {label : Turn} (turns : Turns listener loop label after)
    (other : ∀ answer, label ≠ .network answer) : Aside loop after := by
  cases label with
  | network answer => exact absurd rfl (other answer)
  | send clientId msg sent =>
      cases turns.acts
      exact aside_send clientId msg sent
  | disconnectClient clientId =>
      cases turns.acts
      exact aside_disconnectClient clientId
  | unlockSend clientId =>
      cases turns.acts
      exact aside_unlockRecv clientId
  | unlockRecv clientId =>
      cases turns.acts
      exact aside_unlockRecv clientId
  | blockSendOnInit =>
      cases turns.acts
      exact ⟨rfl, rfl, rfl, rfl, rfl, .refl loop⟩
  | blockRecvOnInit =>
      cases turns.acts
      exact ⟨rfl, rfl, rfl, rfl, rfl, .refl loop⟩
  | killHandler =>
      cases turns.acts
      exact ⟨rfl, rfl, rfl, rfl, rfl, .refl loop⟩

/-- `getFreeHandler` finds a slot without a socket, or none. -/
theorem vacant_getFreeHandler (lifecycle : loop.Lifecycle) : loop.getFreeHandler.Vacant := by
  intro found
  unfold SelectLoop.getFreeHandler ClientsHandler.getFreeHandler at found ⊢
  dsimp only at found ⊢
  split at found
  · next index first =>
      have member := List.mem_of_find?_eq_some first
      have free := List.find?_some first
      rw [List.mem_range] at member
      rw [decide_eq_true_eq] at free
      refine ⟨?_, ?_⟩
      · simp only [ClientsHandler.inRange, Bool.not_eq_true', Bool.or_eq_false_iff,
          decide_eq_false_iff_not]
        omega
      · rcases lifecycle.descriptors.valid index with unbound | bound
        · exact unbound
        · exact absurd free (not_lt.mpr bound)
  · omega

theorem pending_setReadyHandlers (lifecycle : loop.Lifecycle)
    (ready : loop.setReadyHandlers.readyIn loop.handler.acceptingSocket = true) :
    0 ≤ loop.handler.freeHandler := by
  unfold SelectLoop.setReadyHandlers at ready
  simp only [decide_true, Bool.and_true, Bool.or_eq_true, Bool.and_eq_true, decide_eq_true_eq,
    List.any_eq_true, List.mem_map] at ready
  rcases ready with ⟨found, -⟩ | ⟨client, ⟨slot, -, rfl⟩, receives, socket⟩
  · exact found
  · -- the accepting socket is no client's
    have live : slot ∈ loop.handler.live := by
      rw [ClientsHandler.mem_live]
      unfold Client.isSomethingToRecv at receives
      split at receives
      · cases receives
      · rw [decide_eq_true_eq] at receives
        exact lt_of_lt_of_le (by omega) receives
    exact absurd socket (lifecycle.descriptors.listening slot live)

theorem NetworkTurn.prepared (turned : NetworkTurn listener loop answer after)
    (lifecycle : loop.Lifecycle) (prepared : loop.Prepared) : after.Prepared := by
  cases turned with
  | getFreeHandler stage =>
      exact ⟨fun _ => vacant_getFreeHandler lifecycle, by simp⟩
  | setReadyHandlers stage =>
      refine ⟨fun _ => prepared.vacant (by simp [stage]), ?_⟩
      exact fun _ => pending_setReadyHandlers lifecycle
  | selectFailed stage failed => constructor <;> simp
  | selected stage returned =>
      refine ⟨fun _ => prepared.vacant (by simp [stage]), ?_⟩
      intro _ ready
      unfold SelectLoop.selected at ready
      exact prepared.pending (by simp [stage]) (Bool.and_eq_true_iff.mp ready).1
  | notAccepting stage idle => constructor <;> simp
  | acceptFailed stage pending failed => constructor <;> simp
  | accepted stage pending returned => constructor <;> simp
  | recvFailed stage handled => constructor <;> simp
  | tryRecv stage handled =>
      unfold nextRecv
      constructor <;> split <;> simp
  | trySend stage =>
      unfold nextSend
      constructor <;> split <;> [skip; split; skip; split] <;> simp

theorem Lifecycle.unlockRecv (lifecycle : loop.Lifecycle) (clientId : Int) :
    Lifecycle { loop with handler := loop.handler.unlockRecv clientId } := by
  unfold ClientsHandler.unlockRecv
  split
  · exact lifecycle
  · exact lifecycle.setClient rfl rfl rfl (lifecycle.settled clientId)

/-- `accept` returns a descriptor that nothing else uses, when it returns one. -/
def acceptsUnused : Turn → SelectLoop → Bool
  | .network answer, loop =>
      match loop.stage with
      | .tryAccept =>
          !loop.readyIn loop.handler.acceptingSocket || answer.socket = -1 ||
            (0 ≤ answer.socket && !loop.handler.inUse answer.socket)
      | _ => true
  | _, _ => true

theorem acceptsUnused_accepted (stage : loop.stage = .tryAccept)
    (pending : loop.readyIn loop.handler.acceptingSocket = true)
    (returned : ¬ answer.socket = -1)
    (unused : acceptsUnused (.network answer) loop = true) :
    0 ≤ answer.socket ∧ loop.handler.inUse answer.socket = false := by
  simpa [acceptsUnused, stage, pending, returned] using unused

theorem Prepared.vacant_accepted (prepared : loop.Prepared) (stage : loop.stage = .tryAccept)
    (pending : loop.readyIn loop.handler.acceptingSocket = true) :
    loop.handler.inRange loop.handler.freeHandler = true ∧
      loop.handler.sockets loop.handler.freeHandler = -1 :=
  prepared.vacant (by simp [stage]) (prepared.pending (by simp [stage]) pending)

theorem NetworkTurn.lifecycle (turned : NetworkTurn listener loop answer after)
    (lifecycle : loop.Lifecycle) (prepared : loop.Prepared)
    (unused : acceptsUnused (.network answer) loop = true) : after.Lifecycle := by
  cases turned with
  | getFreeHandler | setReadyHandlers | selectFailed | selected | notAccepting | acceptFailed =>
      exact lifecycle.congr rfl rfl
  | accepted stage pending returned =>
      obtain ⟨range, free⟩ := prepared.vacant_accepted stage pending
      obtain ⟨opened, fresh⟩ := acceptsUnused_accepted stage pending returned unused
      exact Lifecycle.congr (lifecycle.accepted range free opened fresh) rfl rfl
  | recvFailed stage handled | tryRecv stage handled =>
      exact (handled.lifecycle lifecycle).congr rfl rfl
  | @trySend slot stage => exact (lifecycle.trySent slot answer.sent).congr rfl rfl

/-- Every turn of every thread keeps the life of the slots in order. -/
theorem Turns.lifecycle {label : Turn} (turns : Turns listener loop label after)
    (unused : acceptsUnused label loop = true) (holds : loop.Lifecycle ∧ loop.Prepared) :
    after.Lifecycle ∧ after.Prepared := by
  obtain ⟨lifecycle, prepared⟩ := holds
  cases label with
  | network answer =>
      have turned := turns.network
      exact ⟨turned.lifecycle lifecycle prepared unused, turned.prepared lifecycle prepared⟩
  | send clientId msg sent =>
      refine ⟨?_, prepared.aside (turns.aside (by simp))⟩
      cases turns.acts
      exact lifecycle.send clientId msg sent
  | disconnectClient clientId =>
      refine ⟨?_, prepared.aside (turns.aside (by simp))⟩
      cases turns.acts
      exact lifecycle.disconnectClient clientId
  | unlockSend clientId =>
      refine ⟨?_, prepared.aside (turns.aside (by simp))⟩
      cases turns.acts
      exact lifecycle.unlockRecv clientId
  | unlockRecv clientId =>
      refine ⟨?_, prepared.aside (turns.aside (by simp))⟩
      cases turns.acts
      exact lifecycle.unlockRecv clientId
  | blockSendOnInit | blockRecvOnInit | killHandler =>
      refine ⟨?_, prepared.aside (turns.aside (by simp))⟩
      cases turns.acts
      exact lifecycle.congr rfl rfl

/-- A slot gets a socket in `tryAccept` alone, and only when it has none. -/
structure BindsFree (transition : Transition SelectLoop Turn) : Prop where
  accepts : ∀ answer, transition.label = .network answer →
    transition.before.stage = .tryAccept →
    transition.before.readyIn transition.before.handler.acceptingSocket = true →
    ¬ answer.socket = -1 →
    let slot := transition.before.handler.freeHandler
    transition.before.handler.inRange slot = true ∧
      transition.before.handler.sockets slot = -1 ∧
      transition.after.handler.sockets slot = answer.socket
  others : ∀ slot, -1 < transition.after.handler.sockets slot →
    transition.after.handler.sockets slot = transition.before.handler.sockets slot ∨
      (transition.before.stage = .tryAccept ∧ transition.before.handler.sockets slot = -1)

theorem sockets_accepted :
    (loop.accepted listener answer).handler.sockets =
      update loop.handler.sockets loop.handler.freeHandler answer.socket := by
  unfold SelectLoop.accepted bindHandler ClientsHandler.bindHandler
  dsimp only
  rw [ClientsHandler.sockets_setClient, Client.connected_socket]
  rfl

theorem BindsFree.of_releases {label : Turn} (releases : Releases loop after)
    (notAccepted : ∀ answer, label = .network answer → loop.stage = .tryAccept →
      loop.readyIn loop.handler.acceptingSocket = true → answer.socket = -1) :
    BindsFree ⟨loop, label, after⟩ := by
  refine ⟨?_, ?_⟩
  · intro answer labelled stage pending returned
    exact absurd (notAccepted answer labelled stage pending) returned
  · intro slot bound
    rcases releases slot with same | closed
    · exact .inl same
    · dsimp only at bound
      omega

/-- `tryAccept` binds the free slot that was found. -/
theorem Prepared.bindsFree (prepared : loop.Prepared) (stage : loop.stage = .tryAccept)
    (pending : loop.readyIn loop.handler.acceptingSocket = true)
    (sockets : after.handler.sockets =
      update loop.handler.sockets loop.handler.freeHandler answer.socket) :
    BindsFree ⟨loop, .network answer, after⟩ := by
  obtain ⟨range, free⟩ := prepared.vacant_accepted stage pending
  constructor
  · rintro other ⟨⟩ - - -
    refine ⟨range, free, ?_⟩
    dsimp only
    rw [sockets, update_self]
  · intro slot bound
    dsimp only
    rw [sockets]
    by_cases same : slot = loop.handler.freeHandler
    · rw [same]
      exact .inr ⟨stage, free⟩
    · rw [update_of_ne same]
      exact .inl rfl

theorem Turns.bindsFree {label : Turn} (turns : Turns listener loop label after)
    (prepared : loop.Prepared) : BindsFree ⟨loop, label, after⟩ := by
  by_cases network : ∃ answer, label = .network answer
  · obtain ⟨answer, rfl⟩ := network
    have elsewhere : loop.stage ≠ .tryAccept → ∀ other : Answer,
        Turn.network answer = .network other → loop.stage = .tryAccept →
        loop.readyIn loop.handler.acceptingSocket = true → other.socket = -1 :=
      fun stage _ _ here => absurd here stage
    cases turns.network with
    | getFreeHandler stage => exact .of_releases (.refl loop) (elsewhere (by simp [stage]))
    | setReadyHandlers stage => exact .of_releases (.refl loop) (elsewhere (by simp [stage]))
    | selectFailed stage failed => exact .of_releases (.refl loop) (elsewhere (by simp [stage]))
    | selected stage returned => exact .of_releases (.refl loop) (elsewhere (by simp [stage]))
    | notAccepting stage idle =>
        exact .of_releases (.refl loop) fun _ _ _ pending => absurd pending idle
    | acceptFailed stage pending failed =>
        refine .of_releases (.refl loop) ?_
        rintro other ⟨⟩ - -
        exact failed
    | accepted stage pending returned =>
        exact prepared.bindsFree stage pending sockets_accepted
    | recvFailed stage handled =>
        exact .of_releases handled.releases (elsewhere (by simp [stage]))
    | tryRecv stage handled =>
        exact .of_releases handled.releases (elsewhere (by simp [stage]))
    | @trySend slot stage =>
        exact .of_releases (releases_trySent slot answer.sent) (elsewhere (by simp [stage]))
  · have other : ∀ answer, label ≠ .network answer := fun answer same =>
      network ⟨answer, same⟩
    exact .of_releases (turns.aside other).releases fun answer same =>
      absurd same (other answer)

theorem lifecycle_start (acceptingSocket maxClients : Int) :
    (start acceptingSocket maxClients).Lifecycle ∧
      (start acceptingSocket maxClients).Prepared := by
  have unbound : ∀ slot, (start acceptingSocket maxClients).handler.sockets slot = -1 :=
    fun _ => rfl
  have none : ∀ slot, slot ∉ (start acceptingSocket maxClients).handler.live := by
    intro slot member
    rw [ClientsHandler.mem_live, unbound] at member
    omega
  refine ⟨⟨serves_start acceptingSocket maxClients, ?_, ?_, ?_⟩, ?_⟩
  · exact ⟨fun slot => .inl (unbound slot), fun slot live => absurd live (none slot),
      fun slot live => absurd live (none slot), fun slot live => absurd live (none slot),
      fun slot live => absurd live (none slot)⟩
  · exact fun slot => Client.settled_disconnected _
  · exact fun slot => .none slot
  · constructor <;> simp [start]

/-- The life of the slots, in every run of the loop with other threads sending
and disconnecting at any point. -/
theorem slots_live {acceptingSocket maxClients : Int}
    {taken : List (Transition SelectLoop Turn)}
    (trace : Trace (Turns listener) (start acceptingSocket maxClients) taken after)
    (unused : ∀ transition ∈ taken,
      acceptsUnused transition.label transition.before = true) :
    (∀ transition ∈ taken, BindsFree transition) ∧ after.Lifecycle := by
  obtain ⟨now, before⟩ := trace.keeps_of_meets
    (fun transition => acceptsUnused transition.label transition.before = true)
    (lifecycle_start acceptingSocket maxClients) unused
    (fun _ _ _ turns unused holds => turns.lifecycle unused holds)
  refine ⟨?_, now.1⟩
  intro transition member
  exact (trace.stepped member).bindsFree (before transition member).2

/-- A client connects, sends a message and leaves. -/
theorem slots_live_session :
    ∃ taken after, Trace (Turns quiet) (start 3) taken after ∧
      after.calls = [.onClientConnected 0 SockAddr.zero.ip 0, .onGotRequest 0 [105],
        .onClientDisconnected 0] ∧
      (∀ transition ∈ taken, BindsFree transition) ∧ after.Lifecycle := by
  have played : (playMoves (turn quiet) acceptsUnused
      (connecting ++ [.network { received := .bytes [1, 0, 0, 0] }] ++
        List.replicate 199 (.network {}) ++ selecting 4 ++
        [.network { received := .bytes [105] }, .disconnectClient 0]) (start 3)).map
          (·.calls) =
      some [.onClientConnected 0 SockAddr.zero.ip 0, .onGotRequest 0 [105],
        .onClientDisconnected 0] := by
    decide +kernel
  obtain ⟨after, reached, calls⟩ := Option.map_eq_some_iff.mp played
  obtain ⟨taken, trace, checked⟩ := Trace.of_playMoves .start reached
  exact ⟨taken, after, trace, calls, slots_live trace checked⟩

end SensorManager.SelectLoop
