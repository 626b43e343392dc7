import SensorManager.Common.ClientsHandler
import Mathlib.Data.Set.Function

/-!
# The sockets of the slots

The sockets of different connections are different, and `select` is told of
all of them.  The rules say what binding a slot and giving it up do to that.
-/

namespace SensorManager

open Function

namespace Client

/-- A slot without a socket holds nothing of an earlier connection. -/
def Settled (client : Client) : Prop :=
  client.socket = -1 → client.inBuffer = [] ∧ client.outBuffer = [] ∧
    client.remainingIn = 0 ∧ client.remainingInLen = 0

theorem isConnected_iff {client : Client} : client.isConnected = true ↔ -1 < client.socket := by
  simp [isConnected]

theorem settled_of_isConnected {client : Client} (connected : client.isConnected = true) :
    client.Settled := by
  intro unbound
  rw [isConnected_iff] at connected
  omega

/-- A call of the listener needs received bytes. -/
theorem recvData_completes_pos {client after : Client} {received : Received}
    {beyond : BytesParser.Memory} {count : Int} {msg : List UInt8}
    (called : client.recvData received beyond = (.ok (count, some msg), after)) : 0 < count := by
  unfold recvData at called
  dsimp only at called
  split at called
  · simp at called
  · next some =>
      have counted : count = received.count := by
        split at called
        · unfold recvLength at called
          dsimp only at called
          split at called
          · split at called
            · cases called
            · split at called <;> simp at called
          · simp at called
        · unfold recvBody at called
          dsimp only at called
          split at called
          · simp only [Prod.mk.injEq, Except.ok.injEq] at called
            exact called.1.1.symm
          · simp at called
      omega

theorem settled_disconnected (client : Client) : client.disconnected.Settled := by
  simp [Settled, disconnected, reset]

@[simp] theorem disconnected_isConnected (client : Client) :
    client.disconnected.isConnected = false := rfl

end Client

namespace ClientsHandler

/-- The socket of every slot. -/
def sockets (handler : ClientsHandler) (slot : Int) : Int :=
  (handler.clientHandlers slot).socket

/-- The slots with a connection. -/
def live (handler : ClientsHandler) : Set Int :=
  { slot | (handler.clientHandlers slot).isConnected = true }

/-- The sockets of the slots: those of different connections are different,
and `select` is told of all of them. -/
structure Descriptors (handler : ClientsHandler) : Prop where
  valid : ∀ slot, handler.sockets slot = -1 ∨ 0 ≤ handler.sockets slot
  inside : ∀ slot ∈ handler.live, handler.inRange slot = true
  distinct : Set.InjOn handler.sockets handler.live
  listening : ∀ slot ∈ handler.live, handler.sockets slot ≠ handler.acceptingSocket
  below : ∀ slot ∈ handler.live, handler.sockets slot < handler.nfds

variable {handler : ClientsHandler} {slot : Int}

theorem mem_live : slot ∈ handler.live ↔ -1 < handler.sockets slot :=
  Client.isConnected_iff

@[simp] theorem setClient_same (client : Client) :
    (handler.setClient slot client).clientHandlers slot = client :=
  update_self ..

@[simp] theorem setClient_other {other : Int} (different : other ≠ slot) (client : Client) :
    (handler.setClient slot client).clientHandlers other = handler.clientHandlers other :=
  update_of_ne different ..

theorem sockets_setClient (client : Client) :
    (handler.setClient slot client).sockets = update handler.sockets slot client.socket := by
  funext other
  by_cases same : other = slot
  · subst same
    simp [sockets]
  · simp [sockets, same]

theorem sockets_setClient_same {client : Client}
    (socket : client.socket = (handler.clientHandlers slot).socket) :
    (handler.setClient slot client).sockets = handler.sockets := by
  rw [sockets_setClient, socket]
  exact update_eq_self slot handler.sockets

theorem live_eq {other : ClientsHandler} (sockets : other.sockets = handler.sockets) :
    other.live = handler.live := by
  ext slot
  rw [mem_live, mem_live, sockets]

theorem Descriptors.setClient (descriptors : handler.Descriptors) {client : Client}
    (socket : client.socket = (handler.clientHandlers slot).socket) :
    (handler.setClient slot client).Descriptors := by
  have sockets := sockets_setClient_same socket
  have live := live_eq sockets
  constructor
  · rw [sockets]
    exact descriptors.valid
  · rw [live]
    exact descriptors.inside
  · rw [live, sockets]
    exact descriptors.distinct
  · rw [live, sockets]
    exact descriptors.listening
  · rw [live, sockets]
    exact descriptors.below

/-- A slot gives its socket up. -/
theorem Descriptors.close (descriptors : handler.Descriptors) {client : Client}
    (closed : client.socket = -1) : (handler.setClient slot client).Descriptors := by
  have sockets := @sockets_setClient handler slot client
  have fewer : ∀ other ∈ (handler.setClient slot client).live, other ∈ handler.live ∧
      (handler.setClient slot client).sockets other = handler.sockets other := by
    intro other member
    rw [mem_live, sockets] at member
    by_cases same : other = slot
    · subst same
      rw [update_self, closed] at member
      omega
    · rw [update_of_ne same] at member
      exact ⟨mem_live.mpr member, by rw [sockets, update_of_ne same]⟩
  constructor
  · intro other
    rw [sockets]
    by_cases same : other = slot
    · subst same
      exact .inl (by rw [update_self, closed])
    · rw [update_of_ne same]
      exact descriptors.valid other
  · intro other member
    exact descriptors.inside other (fewer other member).1
  · intro left leftLive right rightLive equal
    obtain ⟨leftLive, leftSame⟩ := fewer left leftLive
    obtain ⟨rightLive, rightSame⟩ := fewer right rightLive
    apply descriptors.distinct leftLive rightLive
    rw [← leftSame, ← rightSame, equal]
  · intro other member
    rw [(fewer other member).2]
    exact descriptors.listening other (fewer other member).1
  · intro other member
    rw [(fewer other member).2]
    exact descriptors.below other (fewer other member).1

/-- The descriptor belongs to the accepting socket or to a client. -/
def inUse (handler : ClientsHandler) (socket : Int) : Bool :=
  socket = handler.acceptingSocket ||
    (List.range handler.maxClients.toNat).any fun index : Nat => handler.sockets index = socket

theorem Descriptors.unused (descriptors : handler.Descriptors) {socket : Int}
    (unused : handler.inUse socket = false) :
    socket ≠ handler.acceptingSocket ∧ ∀ slot ∈ handler.live, handler.sockets slot ≠ socket := by
  simp only [inUse, Bool.or_eq_false_iff, decide_eq_false_iff_not, List.any_eq_false,
    List.mem_range, decide_eq_true_eq] at unused
  refine ⟨unused.1, ?_⟩
  intro slot member
  have inside := descriptors.inside slot member
  simp only [inRange, Bool.not_eq_true', Bool.or_eq_false_iff, decide_eq_false_iff_not] at inside
  have := unused.2 slot.toNat (by omega)
  rwa [Int.toNat_of_nonneg (by omega)] at this

/-- A free slot gets a socket that nothing else uses. -/
theorem Descriptors.bind (descriptors : handler.Descriptors) {client : Client}
    (range : handler.inRange slot = true) (bound : 0 ≤ client.socket)
    (unused : handler.inUse client.socket = false) :
    ({ handler with nfds := max (client.socket + 1) handler.nfds }.setClient slot
      client).Descriptors := by
  obtain ⟨listening, others⟩ := descriptors.unused unused
  have sockets := @sockets_setClient
    { handler with nfds := max (client.socket + 1) handler.nfds } slot client
  have more : ∀ other ∈ ({ handler with nfds := max (client.socket + 1) handler.nfds }.setClient
      slot client).live, other ≠ slot → other ∈ handler.live := by
    intro other member different
    rw [mem_live, sockets, update_of_ne different] at member
    exact mem_live.mpr member
  constructor
  · intro other
    rw [sockets]
    by_cases same : other = slot
    · subst same
      rw [update_self]
      exact .inr bound
    · rw [update_of_ne same]
      exact descriptors.valid other
  · intro other member
    by_cases same : other = slot
    · subst same
      exact range
    · exact descriptors.inside other (more other member same)
  · intro left leftLive right rightLive equal
    rw [sockets] at equal
    by_cases leftSame : left = slot
    · by_cases rightSame : right = slot
      · rw [leftSame, rightSame]
      · rw [leftSame, update_self, update_of_ne rightSame] at equal
        exact absurd equal.symm (others right (more right rightLive rightSame))
    · by_cases rightSame : right = slot
      · rw [rightSame, update_self, update_of_ne leftSame] at equal
        exact absurd equal (others left (more left leftLive leftSame))
      · rw [update_of_ne leftSame, update_of_ne rightSame] at equal
        exact descriptors.distinct (more left leftLive leftSame)
          (more right rightLive rightSame) equal
  · intro other member
    rw [sockets]
    by_cases same : other = slot
    · subst same
      rw [update_self]
      exact listening
    · rw [update_of_ne same]
      exact descriptors.listening other (more other member same)
  · intro other member
    rw [sockets]
    by_cases same : other = slot
    · subst same
      rw [update_self]
      exact lt_of_lt_of_le (by omega) (le_max_left _ _)
    · rw [update_of_ne same]
      exact lt_of_lt_of_le (descriptors.below other (more other member same)) (le_max_right _ _)

end ClientsHandler

end SensorManager
