import SensorManager.Server.Sessions

/-!
# Whose sensor a slot is mapped to

`Orderly` says that the requests of each slot stand in the queue connection by
connection, and that a mapped slot is mapped to the sensor that the next of
these connections was last accepted as.
-/

namespace SensorManager

open SlotQueue

namespace Sessions

structure Orderly (sessions : Sessions) : Prop where
  ordered : ∀ slot, InOrder requestView slot sessions.queue (sessions.holder slot)
  homed : ∃ home : Nat → Int,
    (∀ item ∈ sessions.queue, home item.conn = item.request.clientId) ∧
      ∀ slot conn, sessions.holder slot = some conn → home conn = slot
  queued_lt : ∀ item ∈ sessions.queue, item.conn < sessions.connections
  holder_lt : ∀ slot conn, sessions.holder slot = some conn → conn < sessions.connections
  accepted_lt : ∀ conn sensorId cause, .accepted conn sensorId cause ∈ sessions.log →
    conn < sessions.connections
  owned : ∀ slot sensorId, sessions.clientToSensorId slot = some sensorId →
    ∃ conn cause, sessions.next slot = some conn ∧
      lastAccepted sessions.log conn = some (sensorId, cause)
  live : ∀ slot conn accepted, sessions.holder slot = some conn →
    lastAccepted sessions.log conn = some accepted →
    sessions.clientToSensorId slot = some accepted.1 ∧ sessions.next slot = some conn

variable {sessions : Sessions}

theorem Orderly.next_home (orderly : sessions.Orderly) :
    ∃ home : Nat → Int, (∀ item ∈ sessions.queue, home item.conn = item.request.clientId) ∧
      (∀ slot conn, sessions.holder slot = some conn → home conn = slot) ∧
      ∀ slot conn, sessions.next slot = some conn → home conn = slot := by
  obtain ⟨home, queued, held⟩ := orderly.homed
  refine ⟨home, queued, held, ?_⟩
  intro slot conn next
  rcases queued_or_holder_of_front next with ⟨item, member, same, isConn⟩ | holds
  · rw [← isConn, ← same]
    exact queued item member
  · exact held slot conn holds

/-- One connection is next for one slot alone. -/
theorem Orderly.slot_eq_of_next (orderly : sessions.Orderly) {slot other : Int}
    {conn : Nat} (next : sessions.next slot = some conn)
    (otherNext : sessions.next other = some conn) : slot = other := by
  obtain ⟨home, -, -, homes⟩ := orderly.next_home
  rw [← homes slot conn next, homes other conn otherNext]

theorem Orderly.next_lt (orderly : sessions.Orderly) {slot : Int} {conn : Nat}
    (next : sessions.next slot = some conn) : conn < sessions.connections := by
  rcases queued_or_holder_of_front next with ⟨item, member, -, isConn⟩ | holds
  · exact isConn ▸ orderly.queued_lt item member
  · exact orderly.holder_lt slot conn holds

theorem Orderly.accepted_fresh (orderly : sessions.Orderly) :
    lastAccepted sessions.log sessions.connections = none := by
  cases accepted : lastAccepted sessions.log sessions.connections with
  | none => rfl
  | some value =>
      have below := orderly.accepted_lt _ _ _ (mem_of_lastAccepted accepted)
      omega

/-- The map to slots plays no part. -/
theorem Orderly.of_sensorToClientId (orderly : sessions.Orderly) (map : IntMap) :
    ({ sessions with sensorToClientId := map } : Sessions).Orderly :=
  ⟨orderly.ordered, orderly.homed, orderly.queued_lt, orderly.holder_lt,
    orderly.accepted_lt, orderly.owned, orderly.live⟩

/-- Log entries that are no acceptances play no part. -/
theorem Orderly.append_log (orderly : sessions.Orderly) {effects : List Effect}
    (same : ∀ conn, lastAccepted (sessions.log ++ effects) conn =
      lastAccepted sessions.log conn)
    (none : ∀ conn sensorId cause, Effect.accepted conn sensorId cause ∉ effects) :
    ({ sessions with log := sessions.log ++ effects } : Sessions).Orderly := by
  refine ⟨orderly.ordered, orderly.homed, orderly.queued_lt, orderly.holder_lt, ?_, ?_, ?_⟩
  · intro conn sensorId cause member
    rcases List.mem_append.mp member with old | new
    · exact orderly.accepted_lt conn sensorId cause old
    · exact absurd new (none conn sensorId cause)
  · intro slot sensorId mapped
    obtain ⟨conn, cause, next, accepted⟩ := orderly.owned slot sensorId mapped
    exact ⟨conn, cause, next, (same conn).trans accepted⟩
  · intro slot conn accepted held found
    exact orderly.live slot conn accepted held ((same conn).symm.trans found)

theorem Orderly.append_plains (orderly : sessions.Orderly) {effects : List Effect}
    (plain : ∀ effect ∈ effects, effect.plain = true) :
    ({ sessions with log := sessions.log ++ effects } : Sessions).Orderly := by
  refine orderly.append_log (fun conn => lastAccepted_plains plain) ?_
  intro conn sensorId cause member
  simpa [Effect.plain] using plain _ member

/-- More connections may have been counted. -/
theorem Orderly.connect (orderly : sessions.Orderly) :
    ({ sessions with connections := sessions.connections + 1 } : Sessions).Orderly := by
  refine ⟨orderly.ordered, orderly.homed, ?_, ?_, ?_, orderly.owned, orderly.live⟩
  · exact fun item member => Nat.lt_succ_of_lt (orderly.queued_lt item member)
  · exact fun slot conn held => Nat.lt_succ_of_lt (orderly.holder_lt slot conn held)
  · exact fun conn sensorId cause member =>
      Nat.lt_succ_of_lt (orderly.accepted_lt conn sensorId cause member)

/-- A new connection is no part of what stands in the queue. -/
theorem Orderly.bind (orderly : sessions.Orderly) {slot : Int}
    (free : sessions.holder slot = none) : (sessions.act (.bind slot)).Orderly := by
  obtain ⟨home, queued, held⟩ := orderly.homed
  refine ⟨?_, ⟨Function.update home sessions.connections slot, ?_, ?_⟩, ?_, ?_, ?_, ?_, ?_⟩
  · intro other
    by_cases same : other = slot
    · subst same
      have ordered := orderly.ordered other
      rw [free] at ordered
      simp only [act, Function.update_self]
      refine ordered.hold ?_
      intro item member _
      exact Nat.ne_of_lt (orderly.queued_lt item member)
    · simpa [act, same] using orderly.ordered other
  · intro item member
    rw [Function.update_of_ne (Nat.ne_of_lt (orderly.queued_lt item member))]
    exact queued item member
  · intro other conn holds
    by_cases same : other = slot
    · subst same
      obtain rfl : sessions.connections = conn := by simpa [act] using holds
      simp
    · have before : sessions.holder other = some conn := by simpa [act, same] using holds
      rw [Function.update_of_ne (Nat.ne_of_lt (orderly.holder_lt other conn before))]
      exact held other conn before
  · exact orderly.connect.queued_lt
  · intro other conn holds
    by_cases same : other = slot
    · subst same
      obtain rfl : sessions.connections = conn := by simpa [act] using holds
      simp [act]
    · exact orderly.connect.holder_lt other conn (by simpa [act, same] using holds)
  · exact orderly.connect.accepted_lt
  · intro other sensorId mapped
    obtain ⟨conn, cause, next, accepted⟩ := orderly.owned other sensorId mapped
    refine ⟨conn, cause, ?_, accepted⟩
    by_cases same : other = slot
    · subst same
      simp only [Sessions.next, free] at next
      exact front_of_none next _
    · simpa [Sessions.next, act, same] using next
  · intro other conn accepted holds found
    by_cases same : other = slot
    · subst same
      obtain rfl : sessions.connections = conn := by simpa [act] using holds
      have fresh := orderly.accepted_fresh
      simp only [act] at found
      rw [fresh] at found
      simp at found
    · have before : sessions.holder other = some conn := by simpa [act, same] using holds
      simpa [Sessions.next, act, same] using orderly.live other conn accepted before found

/-- A request of the holder of a slot changes nobody's turn. -/
theorem next_push {item : Stamped SensorRequest}
    (held : sessions.holder item.request.clientId = some item.conn) (slot : Int) :
    ({ sessions with queue := sessions.queue ++ [item] } : Sessions).next slot =
      sessions.next slot := by
  by_cases same : item.request.clientId = slot
  · subst same
    simp only [Sessions.next, held]
    exact front_concat_same rfl sessions.queue _
  · exact front_concat_other same sessions.queue _

/-- The holder of a slot sends a request. -/
theorem Orderly.push (orderly : sessions.Orderly) {item : Stamped SensorRequest}
    (held : sessions.holder item.request.clientId = some item.conn)
    (opens : item.request.isOnDisconnected = false) :
    ({ sessions with queue := sessions.queue ++ [item] } : Sessions).Orderly := by
  obtain ⟨home, queued, holds⟩ := orderly.homed
  refine ⟨?_, ⟨home, ?_, holds⟩, ?_, orderly.holder_lt, orderly.accepted_lt, ?_, ?_⟩
  · intro slot
    by_cases same : item.request.clientId = slot
    · subst same
      have ordered := orderly.ordered item.request.clientId
      rw [held] at ordered ⊢
      exact ordered.concat_open rfl opens
    · exact (orderly.ordered slot).concat_other same
  · intro other member
    rcases List.mem_append.mp member with old | new
    · exact queued other old
    · obtain rfl := List.mem_singleton.mp new
      exact holds _ _ held
  · intro other member
    rcases List.mem_append.mp member with old | new
    · exact orderly.queued_lt other old
    · obtain rfl := List.mem_singleton.mp new
      exact orderly.holder_lt _ _ held
  · intro slot sensorId mapped
    rw [next_push held]
    exact orderly.owned slot sensorId mapped
  · intro slot conn accepted holder found
    rw [next_push held]
    exact orderly.live slot conn accepted holder found

theorem Orderly.receive (orderly : sessions.Orderly) {conn : Nat} {msg : ByteString}
    {request : SensorRequest} {answers : List Effect}
    (permitted : sessions.Permits (.receive conn msg request answers)) :
    (sessions.act (.receive conn msg request answers)).Orderly := by
  obtain ⟨held, carries, plain⟩ := permitted
  have opens : request.isOnDisconnected = false := by
    cases request with
    | onDisconnected => exact carries.elim
    | _ => rfl
  have pushed := @Orderly.push sessions orderly
    { request := request, conn := conn, cause := sessions.log.length } held opens
  have allPlain : ∀ effect ∈ Effect.received conn msg :: answers, effect.plain = true := by
    intro effect member
    rcases List.mem_cons.mp member with rfl | member
    · rfl
    · exact plain effect member
  exact pushed.append_plains allPlain

/-- The turn stays with a connection whose end is queued. -/
theorem next_release {slot : Int} {conn : Nat} (held : sessions.holder slot = some conn)
    (other : Int) :
    (sessions.act (.release slot conn)).next other = sessions.next other := by
  by_cases same : other = slot
  · subst same
    simp only [Sessions.next, act, held, Function.update_self]
    exact front_concat_same (closing_slot other conn sessions.log.length) sessions.queue none
  · simp only [Sessions.next, act, Function.update_of_ne same]
    exact front_concat_other (Ne.symm same) sessions.queue _

theorem Orderly.release (orderly : sessions.Orderly) {slot : Int} {conn : Nat}
    (held : sessions.holder slot = some conn) :
    (sessions.act (.release slot conn)).Orderly := by
  obtain ⟨home, queued, holds⟩ := orderly.homed
  have earlier : ∀ other connection,
      (sessions.act (.release slot conn)).holder other = some connection →
      other ≠ slot ∧ sessions.holder other = some connection := by
    intro other connection holder
    by_cases same : other = slot
    · simp [act, same] at holder
    · exact ⟨same, by simpa [act, same] using holder⟩
  refine ⟨?_, ⟨home, ?_, ?_⟩, ?_, ?_, ?_, ?_, ?_⟩
  · intro other
    by_cases same : other = slot
    · subst same
      have ordered := orderly.ordered other
      rw [held] at ordered
      simp only [act, Function.update_self]
      exact ordered.concat_close (closing_slot other conn sessions.log.length) rfl
    · simp only [act, Function.update_of_ne same]
      exact (orderly.ordered other).concat_other (Ne.symm same)
  · intro item member
    rcases List.mem_append.mp member with old | new
    · exact queued item old
    · obtain rfl := List.mem_singleton.mp new
      exact holds slot conn held
  · exact fun other connection holder =>
      holds other connection (earlier other connection holder).2
  · intro item member
    rcases List.mem_append.mp member with old | new
    · exact orderly.queued_lt item old
    · obtain rfl := List.mem_singleton.mp new
      exact orderly.holder_lt slot conn held
  · exact fun other connection holder =>
      orderly.holder_lt other connection (earlier other connection holder).2
  · intro connection sensorId cause member
    exact orderly.accepted_lt connection sensorId cause (by simpa [act] using member)
  · intro other sensorId mapped
    rw [next_release held]
    obtain ⟨connection, cause, next, accepted⟩ := orderly.owned other sensorId mapped
    exact ⟨connection, cause, next, (lastAccepted_plain rfl).trans accepted⟩
  · intro other connection accepted holder found
    rw [next_release held]
    have before : lastAccepted sessions.log connection = some accepted :=
      (lastAccepted_plain rfl).symm.trans found
    exact orderly.live other connection accepted (earlier other connection holder).2 before

section Pop

variable {head : Stamped SensorRequest} {queue : List (Stamped SensorRequest)}

theorem Orderly.ordered_tail (orderly : sessions.Orderly)
    (queued : sessions.queue = head :: queue) (slot : Int) :
    InOrder requestView slot queue (sessions.holder slot) := by
  have ordered := orderly.ordered slot
  rw [queued] at ordered
  exact ordered.tail

theorem mem_queue_of_tail (queued : sessions.queue = head :: queue) {item : Stamped SensorRequest}
    (member : item ∈ queue) : item ∈ sessions.queue := by
  rw [queued]
  exact List.mem_cons_of_mem _ member

/-- A request that is no disconnect request is taken. -/
theorem Orderly.next_pop (orderly : sessions.Orderly) (queued : sessions.queue = head :: queue)
    (opens : head.request.isOnDisconnected = false) (slot : Int) :
    ({ sessions with queue := queue } : Sessions).next slot = sessions.next slot := by
  have ordered := orderly.ordered slot
  rw [queued] at ordered
  simp only [Sessions.next, queued]
  exact ordered.front_pop opens

theorem next_head (queued : sessions.queue = head :: queue) :
    sessions.next head.request.clientId = some head.conn := by
  rw [Sessions.next, queued]
  exact front_cons_same rfl queue _

theorem Orderly.pop (orderly : sessions.Orderly) (queued : sessions.queue = head :: queue)
    (opens : head.request.isOnDisconnected = false) :
    ({ sessions with queue := queue } : Sessions).Orderly := by
  obtain ⟨home, homes, holds⟩ := orderly.homed
  refine ⟨orderly.ordered_tail queued, ⟨home, ?_, holds⟩, ?_, orderly.holder_lt,
    orderly.accepted_lt, ?_, ?_⟩
  · exact fun item member => homes item (mem_queue_of_tail queued member)
  · exact fun item member => orderly.queued_lt item (mem_queue_of_tail queued member)
  · intro slot sensorId mapped
    rw [orderly.next_pop queued opens]
    exact orderly.owned slot sensorId mapped
  · intro slot conn accepted holder found
    rw [orderly.next_pop queued opens]
    exact orderly.live slot conn accepted holder found

/-- While a disconnect request is next, no accepted connection holds the
slot. -/
theorem Orderly.not_live_of_closing (orderly : sessions.Orderly)
    (queued : sessions.queue = head :: queue)
    (closes : head.request.isOnDisconnected = true) {conn : Nat}
    (held : sessions.holder head.request.clientId = some conn) :
    lastAccepted sessions.log conn = none := by
  cases found : lastAccepted sessions.log conn with
  | none => rfl
  | some accepted =>
      have next := (orderly.live _ conn accepted held found).2
      rw [next_head queued] at next
      have ordered := orderly.ordered head.request.clientId
      rw [queued, held] at ordered
      exact absurd (Option.some.inj next)
        (ordered.holder_not_closing (by simp) rfl closes)

/-- A disconnect request is taken, and the entry of its slot erased. -/
theorem Orderly.popClosing (orderly : sessions.Orderly)
    (queued : sessions.queue = head :: queue)
    (closes : head.request.isOnDisconnected = true) :
    ({ sessions with
        queue := queue
        clientToSensorId := sessions.clientToSensorId.erase head.request.clientId } :
      Sessions).Orderly := by
  obtain ⟨home, homes, holds⟩ := orderly.homed
  have next_other : ∀ slot, slot ≠ head.request.clientId →
      front requestView slot queue (sessions.holder slot) = sessions.next slot := by
    intro slot other
    rw [Sessions.next, queued]
    exact (front_cons_other (Ne.symm other) queue _).symm
  refine ⟨orderly.ordered_tail queued, ⟨home, ?_, holds⟩, ?_, orderly.holder_lt,
    orderly.accepted_lt, ?_, ?_⟩
  · exact fun item member => homes item (mem_queue_of_tail queued member)
  · exact fun item member => orderly.queued_lt item (mem_queue_of_tail queued member)
  · intro slot sensorId mapped
    by_cases same : slot = head.request.clientId
    · simp [IntMap.erase, same] at mapped
    · have before : sessions.clientToSensorId slot = some sensorId := by
        simpa [IntMap.erase, same] using mapped
      obtain ⟨conn, cause, next, accepted⟩ := orderly.owned slot sensorId before
      exact ⟨conn, cause, (next_other slot same).trans next, accepted⟩
  · intro slot conn accepted holder found
    by_cases same : slot = head.request.clientId
    · subst same
      have absent := orderly.not_live_of_closing queued closes holder
      simp [absent] at found
    · obtain ⟨mapped, next⟩ := orderly.live slot conn accepted holder found
      refine ⟨?_, (next_other slot same).trans next⟩
      simpa [IntMap.erase, same] using mapped

end Pop

/-- The next connection of a slot is accepted. -/
theorem Orderly.accept (orderly : sessions.Orderly) {slot : Int} {conn : Nat}
    (next : sessions.next slot = some conn) (sensorId : Int) (cause : Nat) :
    ({ sessions with
        clientToSensorId := sessions.clientToSensorId.insert slot sensorId
        log := sessions.log ++ [.accepted conn sensorId cause] } : Sessions).Orderly := by
  refine ⟨orderly.ordered, orderly.homed, orderly.queued_lt, orderly.holder_lt, ?_, ?_, ?_⟩
  · intro other otherSensor otherCause member
    rcases List.mem_append.mp member with old | new
    · exact orderly.accepted_lt other otherSensor otherCause old
    · cases List.mem_singleton.mp new
      exact orderly.next_lt next
  · intro other otherSensor mapped
    by_cases same : other = slot
    · subst same
      obtain rfl : sensorId = otherSensor := by simpa [IntMap.insert] using mapped
      exact ⟨conn, cause, next, lastAccepted_same sensorId cause⟩
    · have before : sessions.clientToSensorId other = some otherSensor := by
        simpa [IntMap.insert, same] using mapped
      obtain ⟨connection, otherCause, otherNext, accepted⟩ :=
        orderly.owned other otherSensor before
      have different : conn ≠ connection := by
        rintro rfl
        exact same (orderly.slot_eq_of_next otherNext next)
      exact ⟨connection, otherCause, otherNext,
        (lastAccepted_other different sensorId cause).trans accepted⟩
  · intro other connection accepted holder found
    by_cases isConn : conn = connection
    · subst isConn
      have sameSlot : other = slot := by
        obtain ⟨home, -, holds, homes⟩ := orderly.next_home
        rw [← holds other conn holder, homes slot conn next]
      subst sameSlot
      simp only [lastAccepted_same, Option.some.injEq] at found
      subst found
      exact ⟨by simp [IntMap.insert], next⟩
    · simp only [lastAccepted_other isConn] at found
      obtain ⟨mapped, otherNext⟩ := orderly.live other connection accepted holder found
      refine ⟨?_, otherNext⟩
      have different : other ≠ slot := by
        rintro rfl
        rw [next] at otherNext
        exact isConn (Option.some.inj otherNext)
      simpa [IntMap.insert, different] using mapped

/-- The exception of a disconnect handler aside, every action keeps the
sessions orderly. -/
theorem Orderly.act (orderly : sessions.Orderly) {action : Action}
    (permitted : sessions.Permits action) (kept : action ≠ .abandon) :
    (sessions.act action).Orderly := by
  cases action with
  | note effect => exact orderly.append_plains (by simpa [Permits] using permitted)
  | connect => exact orderly.connect
  | bind slot => exact orderly.bind permitted
  | release slot conn => exact orderly.release permitted
  | receive conn msg request answers => exact orderly.receive permitted
  | discard =>
      obtain ⟨head, queue, queued, unmapped⟩ := permitted
      simp only [Sessions.act, queued, List.tail_cons]
      cases closes : head.request.isOnDisconnected with
      | false => exact orderly.pop queued closes
      | true =>
          have popped := orderly.popClosing queued closes
          rwa [IntMap.erase, ← unmapped closes, Function.update_eq_self] at popped
  | measure sensorId value timestamp cause =>
      obtain ⟨slot, time, conn, queue, queued, -, -⟩ := permitted
      simp only [Sessions.act, queued, List.tail_cons]
      exact (orderly.pop queued rfl).append_log
        (fun conn => lastAccepted_addMeasurement sensorId value timestamp cause) (by simp)
  | accept slot sensorId conn cause =>
      obtain ⟨ip, port, token, queue, queued⟩ := permitted
      have popped := orderly.pop queued rfl
      have next := next_head queued
      rw [← orderly.next_pop queued rfl] at next
      simp only [Sessions.act, queued, List.tail_cons]
      exact (popped.accept next sensorId cause).of_sensorToClientId _
  | unmap slot sensorId =>
      obtain ⟨conn, cause, queue, queued, -⟩ := permitted
      simp only [Sessions.act, queued, List.tail_cons]
      exact (orderly.popClosing queued rfl).of_sensorToClientId _
  | abandon => exact absurd rfl kept
  | eraseSensor sensorId => exact orderly.of_sensorToClientId _

end Sessions

end SensorManager
