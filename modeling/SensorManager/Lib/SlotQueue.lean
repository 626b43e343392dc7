import Mathlib.Data.List.Basic

/-!
# Queues over reusable slots

Connections take turns in holding a slot, and what they send is queued under
the number of the slot, not of the connection.  When a connection gives the
slot up, a closing item is queued for it.  `InOrder` says that the items of one
slot then stand in the queue connection by connection, each finished
connection ending with its closing item, and `front` is the connection whose
turn it is at the head of the queue.
-/

namespace SensorManager.SlotQueue

/-- How a queued item names its slot, the connection that held the slot when
the item was queued, and whether the item closes that connection. -/
structure View (α κ ι : Type) where
  slot : α → κ
  conn : α → ι
  closes : α → Bool

/-- The connection of `head` has nothing more behind the queue than in it. -/
theorem fresh_concat {α κ ι : Type} {view : View α κ ι} {key : κ} {head item : α}
    {queue : List α}
    (fresh : ∀ later ∈ queue, view.slot later = key → view.conn later ≠ view.conn head)
    (different : view.slot item = key → view.conn item ≠ view.conn head) :
    ∀ later ∈ queue ++ [item], view.slot later = key → view.conn later ≠ view.conn head := by
  intro later member sameSlot
  rcases List.mem_append.mp member with early | last
  · exact fresh later early sameSlot
  · obtain rfl := List.mem_singleton.mp last
    exact different sameSlot

variable {α κ ι : Type} [DecidableEq κ] (view : View α κ ι) (key : κ)

/-- The connection whose items come next for a slot: that of the first queued
item, or the slot's holder when nothing is queued. -/
def front : List α → Option ι → Option ι
  | [], holder => holder
  | item :: queue, holder =>
      if view.slot item = key then some (view.conn item)
      else front queue holder

/-- The queue of one slot holds whole connections: after a closing item
nothing of that connection follows, and after any other item the same
connection goes on. -/
def InOrder : List α → Option ι → Prop
  | [], _ => True
  | item :: queue, holder =>
      (view.slot item = key →
        (view.closes item = true →
          (∀ later ∈ queue, view.slot later = key →
            view.conn later ≠ view.conn item) ∧
          holder ≠ some (view.conn item)) ∧
        (view.closes item = false →
          front view key queue holder = some (view.conn item))) ∧
      InOrder queue holder

variable {view key}

@[simp] theorem front_nil (holder : Option ι) :
    front view key [] holder = holder := rfl

theorem front_cons_same {item : α} (same : view.slot item = key)
    (queue : List α) (holder : Option ι) :
    front view key (item :: queue) holder = some (view.conn item) := by
  simp [front, same]

theorem front_cons_other {item : α} (other : view.slot item ≠ key)
    (queue : List α) (holder : Option ι) :
    front view key (item :: queue) holder = front view key queue holder := by
  simp [front, other]

theorem front_concat_other {item : α} (other : view.slot item ≠ key)
    (queue : List α) (holder : Option ι) :
    front view key (queue ++ [item]) holder = front view key queue holder := by
  induction queue with
  | nil => simp [front, other]
  | cons head queue ih => simp [front, ih]

/-- Behind the queue, an item of the slot stands for its connection just as a
holder does. -/
theorem front_concat_same {item : α} (same : view.slot item = key)
    (queue : List α) (holder : Option ι) :
    front view key (queue ++ [item]) holder =
      front view key queue (some (view.conn item)) := by
  induction queue with
  | nil => simp [front, same]
  | cons head queue ih => simp [front, ih]

/-- A slot with something queued does not notice a change of its holder. -/
theorem front_of_none {queue : List α} {connection : ι}
    (queued : front view key queue none = some connection)
    (holder : Option ι) :
    front view key queue holder = some connection := by
  induction queue with
  | nil => simp at queued
  | cons head queue ih =>
      by_cases same : view.slot head = key
      · simpa [front, same] using queued
      · simp only [front, same, if_false] at queued ⊢
        exact ih queued

theorem InOrder.tail {item : α} {queue : List α} {holder : Option ι}
    (ordered : InOrder view key (item :: queue) holder) :
    InOrder view key queue holder :=
  ordered.2

/-- The connection that is next has something queued, or holds the slot. -/
theorem queued_or_holder_of_front {queue : List α} {holder : Option ι} {connection : ι}
    (next : front view key queue holder = some connection) :
    (∃ item ∈ queue, view.slot item = key ∧ view.conn item = connection) ∨
      holder = some connection := by
  induction queue with
  | nil => exact .inr next
  | cons head queue ih =>
      by_cases same : view.slot head = key
      · have isConn : view.conn head = connection := by
          simpa [front, same] using next
        exact .inl ⟨head, by simp, same, isConn⟩
      · rw [front_cons_other same] at next
        rcases ih next with ⟨item, member, facts⟩ | held
        · exact .inl ⟨item, by simp [member], facts⟩
        · exact .inr held

/-- After an item that does not close, the same connection is next. -/
theorem InOrder.front_tail {item : α} {queue : List α} {holder : Option ι}
    (ordered : InOrder view key (item :: queue) holder)
    (same : view.slot item = key) (opens : view.closes item = false) :
    front view key queue holder = some (view.conn item) :=
  (ordered.1 same).2 opens

/-- Taking an item that does not close changes nobody's turn. -/
theorem InOrder.front_pop {item : α} {queue : List α} {holder : Option ι}
    (ordered : InOrder view key (item :: queue) holder)
    (opens : view.closes item = false) :
    front view key queue holder = front view key (item :: queue) holder := by
  by_cases same : view.slot item = key
  · rw [front_cons_same same, ordered.front_tail same opens]
  · rw [front_cons_other same]

theorem InOrder.concat_other {item : α} {queue : List α} {holder : Option ι}
    (ordered : InOrder view key queue holder)
    (other : view.slot item ≠ key) :
    InOrder view key (queue ++ [item]) holder := by
  induction queue with
  | nil => exact ⟨fun same => absurd same other, trivial⟩
  | cons head queue ih =>
      rw [List.cons_append]
      refine ⟨fun same => ⟨fun closing => ?_, fun opens => ?_⟩, ih ordered.2⟩
      · obtain ⟨fresh, notHolder⟩ := (ordered.1 same).1 closing
        exact ⟨fresh_concat fresh fun sameSlot => absurd sameSlot other, notHolder⟩
      · rw [front_concat_other other]
        exact (ordered.1 same).2 opens

/-- The holder of the slot queues an item that does not close. -/
theorem InOrder.concat_open {item : α} {queue : List α}
    (ordered : InOrder view key queue (some (view.conn item)))
    (same : view.slot item = key) (opens : view.closes item = false) :
    InOrder view key (queue ++ [item]) (some (view.conn item)) := by
  induction queue with
  | nil =>
      refine ⟨fun _ => ⟨fun closing => ?_, fun _ => rfl⟩, trivial⟩
      simp [opens] at closing
  | cons head queue ih =>
      rw [List.cons_append]
      refine ⟨fun sameHead => ⟨fun closing => ?_, fun headOpens => ?_⟩,
        ih ordered.2⟩
      · obtain ⟨fresh, notHolder⟩ := (ordered.1 sameHead).1 closing
        exact ⟨fresh_concat fresh fun _ equality => notHolder (congrArg some equality), notHolder⟩
      · rw [front_concat_same same]
        exact (ordered.1 sameHead).2 headOpens

/-- The holder gives the slot up and its closing item is queued. -/
theorem InOrder.concat_close {item : α} {queue : List α}
    (ordered : InOrder view key queue (some (view.conn item)))
    (same : view.slot item = key) (closing : view.closes item = true) :
    InOrder view key (queue ++ [item]) none := by
  induction queue with
  | nil =>
      refine ⟨fun _ => ⟨fun _ => ?_, fun opens => ?_⟩, trivial⟩
      · simp
      · simp [closing] at opens
  | cons head queue ih =>
      rw [List.cons_append]
      refine ⟨fun sameHead => ⟨fun headCloses => ?_, fun headOpens => ?_⟩,
        ih ordered.2⟩
      · obtain ⟨fresh, notHolder⟩ := (ordered.1 sameHead).1 headCloses
        exact ⟨fresh_concat fresh fun _ equality => notHolder (congrArg some equality), by simp⟩
      · rw [front_concat_same same]
        exact (ordered.1 sameHead).2 headOpens

/-- A connection that nothing queued belongs to takes a free slot. -/
theorem InOrder.hold {queue : List α} {connection : ι}
    (ordered : InOrder view key queue none)
    (fresh : ∀ item ∈ queue, view.slot item = key →
      view.conn item ≠ connection) :
    InOrder view key queue (some connection) := by
  induction queue with
  | nil => trivial
  | cons head queue ih =>
      have tailFresh : ∀ item ∈ queue, view.slot item = key →
          view.conn item ≠ connection :=
        fun item member => fresh item (by simp [member])
      refine ⟨fun same => ⟨fun closing => ?_, fun opens => ?_⟩,
        ih ordered.2 tailFresh⟩
      · refine ⟨((ordered.1 same).1 closing).1, ?_⟩
        intro equality
        exact fresh head (by simp) same (Option.some.inj equality).symm
      · exact front_of_none ((ordered.1 same).2 opens) _

/-- The connection that is next still holds the slot, or its closing item is
queued. -/
theorem InOrder.holder_or_closing {queue : List α} {holder : Option ι}
    {connection : ι} (ordered : InOrder view key queue holder)
    (next : front view key queue holder = some connection) :
    holder = some connection ∨
      ∃ item ∈ queue, view.slot item = key ∧ view.conn item = connection ∧
        view.closes item = true := by
  induction queue with
  | nil => exact .inl next
  | cons head queue ih =>
      by_cases same : view.slot head = key
      · have isConn : view.conn head = connection := by
          simpa [front, same] using next
        cases closing : view.closes head with
        | true => exact .inr ⟨head, by simp, same, isConn, closing⟩
        | false =>
            have later := ordered.front_tail same closing
            rw [isConn] at later
            rcases ih ordered.2 later with held | ⟨item, member, facts⟩
            · exact .inl held
            · exact .inr ⟨item, by simp [member], facts⟩
      · rw [front_cons_other same] at next
        rcases ih ordered.2 next with held | ⟨item, member, facts⟩
        · exact .inl held
        · exact .inr ⟨item, by simp [member], facts⟩

/-- No closing item of the present holder is queued. -/
theorem InOrder.holder_not_closing {queue : List α} {connection : ι}
    (ordered : InOrder view key queue (some connection)) {item : α}
    (member : item ∈ queue) (same : view.slot item = key)
    (closing : view.closes item = true) : view.conn item ≠ connection := by
  induction queue with
  | nil => simp at member
  | cons head queue ih =>
      rcases List.mem_cons.mp member with rfl | later
      · intro equality
        exact ((ordered.1 same).1 closing).2 (congrArg some equality.symm)
      · exact ih ordered.2 later

end SensorManager.SlotQueue
