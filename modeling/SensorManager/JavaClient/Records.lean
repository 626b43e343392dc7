import SensorManager.JavaClient.ConnectionUtil
import SensorManager.Server.Serializers

/-!
# Reading records in the Java clients

Fields and records stand behind their sizes, and are read with sub-lists from a
position that moves forward.  A position stands at the bytes that follow it, and
what the server writes for a record is read back from there.
-/

namespace SensorManager.JavaClient

open SerializerMessage

/-- A field or record: its size, then what `construct` makes of its bytes, and
the position after it. -/
def readSized {α : Type} (construct : List UInt8 → Except JavaException α)
    (message : List UInt8) (readingBegin : Int32) : Except JavaException (α × Int32) := do
  let size ← byteListToInt (← subList message readingBegin.toInt (readingBegin + 4).toInt)
  let readingBegin := readingBegin + 4
  let value ← construct (← subList message readingBegin.toInt (readingBegin + size).toInt)
  return (value, readingBegin + size)

/-- The loop over the records of a list. -/
def readItems {α : Type} (construct : List UInt8 → Except JavaException α)
    (message : List UInt8) : Nat → Int32 → Except JavaException (List α)
  | 0, _ => return []
  | count + 1, readingBegin => do
      let (item, readingBegin) ← readSized construct message readingBegin
      let items ← readItems construct message count readingBegin
      return item :: items

/-- A list: the number of its records, then the records. -/
def readList {α : Type} (construct : List UInt8 → Except JavaException α)
    (message : List UInt8) (readingBegin : Int32) : Except JavaException (List α) := do
  let quantity ←
    byteListToInt (← subList message readingBegin.toInt (readingBegin + 4).toInt)
  readItems construct message quantity.toInt.toNat (readingBegin + 4)

/-- An integer field, with the value of the `int`. -/
def constructInt (bytes : List UInt8) : Except JavaException Int := do
  return (← byteListToInt bytes).toInt

def constructString (bytes : List UInt8) : Except JavaException JavaString :=
  return byteListToString bytes

/-- The bytes of a field or record behind its size. -/
def sized (field : List UInt8) : List UInt8 :=
  intToByte field.length ++ field

/-- The range of an `int`. -/
def IsInt (value : Int) : Prop :=
  -2 ^ 31 ≤ value ∧ value < 2 ^ 31

instance (value : Int) : Decidable (IsInt value) :=
  inferInstanceAs (Decidable (_ ∧ _))

/-- A position in a message that Java can hold, and the bytes from there on. -/
structure At (message : List UInt8) (readingBegin : Int32) (rest : List UInt8) : Prop where
  holds : message.length < 2 ^ 31
  split : ∃ before, message = before ++ rest ∧ readingBegin = Int32.ofNat before.length

section Positions

theorem at_start {message : List UInt8} (holds : message.length < 2 ^ 31) :
    At message 0 (message ++ []) :=
  ⟨holds, [], by simp, rfl⟩

/-- The bytes at a position are taken as a sub-list. -/
theorem At.cut {message part later : List UInt8} {readingBegin : Int32}
    (position : At message readingBegin (part ++ later)) :
    subList message readingBegin.toInt (readingBegin + Int32.ofNat part.length).toInt =
        .ok part ∧
      At message (readingBegin + Int32.ofNat part.length) later := by
  obtain ⟨holds, before, rfl, rfl⟩ := position
  simp only [List.length_append] at holds
  have moved : Int32.ofNat before.length + Int32.ofNat part.length =
      Int32.ofNat (before.length + part.length) := (Int32.ofNat_add _ _).symm
  refine ⟨?_, by simpa using holds, before ++ part, by simp, ?_⟩
  · rw [moved, Int32.toInt_ofNat_of_lt (by omega), Int32.toInt_ofNat_of_lt (by omega),
      subList_of_le (by omega) (by simp)]
    congr 1
    simp
  · rw [moved, List.length_append]

end Positions

theorem byteListToInt_intToByte {value : Int} (int : IsInt value) :
    byteListToInt (intToByte value) = .ok (Int32.ofInt value) := by
  obtain ⟨read, returned, reading⟩ := byteListToInt_of_length (length_intToByte value)
  obtain ⟨lower, upper⟩ := int
  have same : read.toInt = value := by
    rw [reading, intToByte, List.reverse_reverse]
    exact Bytes.toInt_ofInt (by norm_num; omega) (by norm_num; omega)
  rw [returned, ← same, Int32.ofInt_toInt]

theorem isInt_length {bytes : List UInt8} (holds : bytes.length < 2 ^ 31) :
    IsInt bytes.length := by
  unfold IsInt
  omega

theorem constructInt_intToByte {value : Int} (int : IsInt value) :
    constructInt (intToByte value) = .ok value := by
  refine except_bind_eq_ok.mpr ⟨_, byteListToInt_intToByte int, ?_⟩
  rw [Int32.toInt_ofInt_of_le int.1 int.2]
  rfl

/-- A number at a position. -/
theorem At.readInt {message later : List UInt8} {readingBegin : Int32} {value : Int}
    (position : At message readingBegin (intToByte value ++ later)) (int : IsInt value) :
    (do byteListToInt (← subList message readingBegin.toInt (readingBegin + 4).toInt)) =
        .ok (Int32.ofInt value) ∧
      At message (readingBegin + 4) later := by
  obtain ⟨taken, after⟩ := position.cut
  rw [length_intToByte] at taken after
  refine ⟨?_, after⟩
  exact except_bind_eq_ok.mpr ⟨_, taken, byteListToInt_intToByte int⟩

/-- A field at a position is read, and the position moves behind it. -/
theorem At.readSized {α : Type} {construct : List UInt8 → Except JavaException α}
    {message field later : List UInt8} {readingBegin : Int32} {value : α}
    (position : At message readingBegin (sized field ++ later))
    (constructed : construct field = .ok value) :
    ∃ next, readSized construct message readingBegin = .ok (value, next) ∧
      At message next later := by
  have holds : field.length < 2 ^ 31 := by
    obtain ⟨holds, before, rfl, -⟩ := position
    simp only [sized, List.length_append] at holds
    omega
  rw [sized, List.append_assoc] at position
  obtain ⟨size, body⟩ := position.readInt (isInt_length holds)
  obtain ⟨taken, after⟩ := body.cut
  refine ⟨_, ?_, after⟩
  obtain ⟨part, cut, read⟩ := except_bind_eq_ok.mp size
  refine except_bind_eq_ok.mpr ⟨part, cut, ?_⟩
  refine except_bind_eq_ok.mpr ⟨_, read, ?_⟩
  refine except_bind_eq_ok.mpr ⟨field, taken, ?_⟩
  exact except_bind_eq_ok.mpr ⟨value, constructed, rfl⟩

/-- The records at a position are read, one after the other. -/
theorem At.readItems {α β : Type} {construct : List UInt8 → Except JavaException α}
    {write : β → List UInt8} {made : β → α} {items : List β} {message later : List UInt8}
    {readingBegin : Int32}
    (position : At message readingBegin
      ((items.flatMap fun item => sized (write item)) ++ later))
    (constructed : ∀ item ∈ items, construct (write item) = .ok (made item)) :
    readItems construct message items.length readingBegin = .ok (items.map made) := by
  induction items generalizing readingBegin with
  | nil => rfl
  | cons item items ih =>
      rw [List.flatMap_cons, List.append_assoc] at position
      obtain ⟨next, read, after⟩ := position.readSized (constructed item (by simp))
      have others := ih after fun other member => constructed other (by simp [member])
      refine except_bind_eq_ok.mpr ⟨_, read, ?_⟩
      exact except_bind_eq_ok.mpr ⟨_, others, rfl⟩

theorem length_le_constructListMessage {α : Type} (write : α → List UInt8) (items : List α) :
    items.length ≤ (constructListMessage write items).length := by
  induction items with
  | nil => exact Nat.zero_le _
  | cons item items ih =>
      simp only [constructListMessage, List.length_append, length_intToByte, List.length_cons,
        List.flatMap_cons] at ih ⊢
      omega

theorem length_le_of_mem_constructListMessage {α : Type} {write : α → List UInt8}
    {items : List α} {item : α} (member : item ∈ items) :
    (write item).length ≤ (constructListMessage write items).length := by
  induction items with
  | nil => cases member
  | cons other items ih =>
      simp only [constructListMessage, List.length_append, length_intToByte,
        List.flatMap_cons] at ih ⊢
      rcases List.mem_cons.mp member with rfl | later
      · omega
      · have := ih later
        omega

/-- A list is read back that the server writes at a position. -/
theorem At.readList {α β : Type} {construct : List UInt8 → Except JavaException α}
    {write : β → List UInt8} {made : β → α} {items : List β} {message later : List UInt8}
    {readingBegin : Int32}
    (position : At message readingBegin (constructListMessage write items ++ later))
    (constructed : ∀ item ∈ items, (write item).length < 2 ^ 31 →
      construct (write item) = .ok (made item)) :
    readList construct message readingBegin = .ok (items.map made) := by
  have holds : (constructListMessage write items).length < 2 ^ 31 := by
    obtain ⟨holds, before, rfl, -⟩ := position
    simp only [List.length_append] at holds
    omega
  have int : IsInt items.length := by
    have := length_le_constructListMessage write items
    unfold IsInt
    omega
  rw [constructListMessage, List.append_assoc] at position
  obtain ⟨quantity, records⟩ := position.readInt int
  have read := records.readItems fun item member =>
    constructed item member (lt_of_le_of_lt (length_le_of_mem_constructListMessage member) holds)
  obtain ⟨part, cut, number⟩ := except_bind_eq_ok.mp quantity
  refine except_bind_eq_ok.mpr ⟨part, cut, ?_⟩
  refine except_bind_eq_ok.mpr ⟨_, number, ?_⟩
  rw [Int32.toInt_ofInt_of_le int.1 int.2, Int.toNat_natCast]
  exact read

/-- A string of 7-bit characters. -/
def IsAscii (text : ByteString) : Prop :=
  ∀ byte ∈ text, byte < 128

instance (text : ByteString) : Decidable (IsAscii text) :=
  List.decidableBAll (fun byte => byte < 128) text

/-- The same characters as a Java string. -/
def ascii (text : ByteString) : JavaString :=
  text.map UInt8.toUInt16

/-- The sign of a byte fills the upper half of the `char`. -/
theorem toNat_widened (byte : UInt8) :
    byte.toInt8.toInt16.toUInt16.toNat =
      if byte.toNat < 128 then byte.toNat else 65280 + byte.toNat := by
  have each : ∀ bits : BitVec 8, (bits.signExtend 16).toNat =
      if bits.toNat < 128 then bits.toNat else 65280 + bits.toNat := by
    decide +kernel
  exact each byte.toBitVec

theorem byteListToString_ascii {text : ByteString} (isAscii : IsAscii text) :
    byteListToString text = ascii text := by
  apply List.map_congr_left
  intro byte member
  have small : byte.toNat < 128 := isAscii byte member
  apply UInt16.toNat_inj.mp
  rw [toNat_widened, if_pos small, UInt8.toNat_toUInt16]

theorem constructString_ascii {text : ByteString} (isAscii : IsAscii text) :
    constructString text = .ok (ascii text) := by
  rw [constructString, byteListToString_ascii isAscii]
  rfl

theorem constructIntMessageWithSize_eq (value : Int) :
    constructIntMessageWithSize value = sized (intToByte value) := by
  rw [constructIntMessageWithSize, sized, length_intToByte]
  rfl

theorem constructStringMessageWithSize_eq (value : ByteString) :
    constructStringMessageWithSize value = sized value := rfl

theorem constructBoolMessageWithSize_eq (value : Bool) :
    constructBoolMessageWithSize value = sized (boolToByte value) := rfl

theorem byteListToBoolean_boolToByte (value : Bool) :
    byteListToBoolean (boolToByte value) = .ok value := by
  cases value <;> rfl

/-- What follows the command type of a message. -/
theorem subList_afterInt (value : Int) (rest : List UInt8) :
    subList (intToByte value ++ rest) 4 (intToByte value ++ rest).length = .ok rest := by
  have taken := @subList_of_le (intToByte value ++ rest) 4 (intToByte value ++ rest).length
    (by simp) le_rfl
  simpa using taken

/-- What a branch of `analyzeResponse` makes of the bytes behind the command type. -/
theorem called_afterInt {α ρ : Type} {value : Int} {rest : List UInt8}
    {construct : List UInt8 → Except JavaException α} {call : α → ρ} {made : ρ}
    (called : (do return call (← construct rest)) = Except.ok made) :
    (do
      let constructed ← construct
        (← subList (intToByte value ++ rest) 4 (intToByte value ++ rest).length)
      return some (call constructed)) = Except.ok (some made) := by
  obtain ⟨constructed, read, returned⟩ := except_bind_eq_ok.mp called
  obtain rfl := Except.ok.inj returned
  refine except_bind_eq_ok.mpr ⟨_, subList_afterInt value rest, ?_⟩
  exact except_bind_eq_ok.mpr ⟨_, read, rfl⟩

/-- The number at the front of a message. -/
theorem subList_front (value : Int) (rest : List UInt8) :
    subList (intToByte value ++ rest) 0 4 = .ok (intToByte value) := by
  have taken := @subList_of_le (intToByte value ++ rest) 0 4 (by omega) (by simp)
  simpa using taken

end SensorManager.JavaClient
