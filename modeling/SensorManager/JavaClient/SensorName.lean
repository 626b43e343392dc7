import SensorManager.JavaClient.Administrator
import SensorManager.JavaClient.Commands
import Mathlib.Data.List.TakeWhile

/-!
# The trip of a sensor name

A name is sent by the administrator's client, stored by the server and shown by
the client again.  The client announces its units but sends its bytes, and the
decoder makes one unit of every byte; so a name survives only when each of its
units is the widened byte that stands at the same place.
-/

namespace SensorManager.JavaClient

open SerializerMessage

/-- The record of a sensor after the request has been executed. -/
def renamed (sensor : SensorManager.Sensor) (request : AdministratorRequest) :
    SensorManager.Sensor :=
  { sensor with id := request.sensorId, name := request.sensorName }

/-- The sensor that the client shows after `sendCommandUpdateSensorName`; none
when the server makes no request of the command. -/
def shown (clientId : Int) (id : Int32) (name : JavaString) (sensor : SensorManager.Sensor) :
    Option (Except JavaException Administrator.Sensor) := do
  let analyzed ← SerializerAdministratorMessage.analyzeMessage clientId
    (Administrator.prepareMessageUpdateSensorName id name)
  let request ← analyzed
  return Administrator.constructSensorFromByteMessage
    (SerializerAdministratorMessage.constructSensorMessage (renamed sensor request))

/-- The text that comes back for a name. -/
def returned (name : JavaString) : JavaString :=
  byteListToString ((stringToByteList name).take name.length)

/-- The sequence of units that is its own decoded encoding: the byte at each
index, widened, is the unit there. -/
def echo (index : Nat) : UInt16 :=
  if index % 3 = 0 then 0xffef
  else if index % 3 = 1 then if echo (index / 3) = 0xffef then 0xffbf else 0xffbe
  else if echo (index / 3) = 0xffef then 0xffaf else echo (index / 3)
termination_by index
decreasing_by all_goals omega

/-- A text of 7-bit characters, followed by a beginning of the sequence. -/
def Echoing (name : JavaString) : Prop :=
  ∃ plain count, SevenBit plain ∧ name = plain ++ (List.range count).map echo

section Units

/-- A unit that a byte is widened to. -/
def Widened (unit : UInt16) : Prop :=
  unit.toNat < 128 ∨ 0xff80 ≤ unit.toNat

theorem widened_toUInt16 (byte : UInt8) : Widened byte.toInt8.toInt16.toUInt16 := by
  unfold Widened
  rw [toNat_widened]
  split <;> omega

/-- Units from U+FF80 on have three bytes. -/
theorem encodeUnit_of_large {unit : UInt16} (large : 0xff80 ≤ unit.toNat) :
    encodeUnit unit =
      [239, .ofNat (unit.toNat / 64 % 64 + 128), .ofNat (unit.toNat % 64 + 128)] := by
  have below := unit.toNat_lt
  obtain ⟨encoded, codePoint⟩ := encodeUnit_of_outside (.inr (by omega : 0xdfff < unit.toNat))
  have first : unit.toNat / 4096 % 16 + 224 = 239 := by omega
  rw [encoded]
  simp only [String.utf8EncodeChar, codePoint]
  rw [if_neg (by omega), if_neg (by omega), if_pos (by omega), first]
  rfl

theorem stringToByteList_sevenBit_append {plain : JavaString} (sevenBit : SevenBit plain)
    (text : JavaString) :
    stringToByteList (plain ++ text) = chars plain ++ stringToByteList text := by
  induction plain with
  | nil => rfl
  | cons unit plain ih =>
      have small : unit < 128 := sevenBit unit (by simp)
      have value : unit.toNat < 128 := small
      have notHigh := (isSurrogate_of_outside (.inl (by omega : unit.toNat < 0xd800))).1
      rw [List.cons_append, stringToByteList_cons notHigh, encodeUnit_of_lt small,
        ih fun other member => sevenBit other (by simp [member])]
      rfl

/-- Without surrogates every unit is encoded on its own. -/
theorem stringToByteList_widened {text : JavaString} (widened : ∀ unit ∈ text, Widened unit) :
    stringToByteList text = text.flatMap encodeUnit := by
  induction text with
  | nil => rfl
  | cons unit text ih =>
      have outside : unit.toNat < 0xd800 ∨ 0xdfff < unit.toNat := by
        have := widened unit (by simp)
        unfold Widened at this
        omega
      rw [stringToByteList_cons (isSurrogate_of_outside outside).1,
        ih fun other member => widened other (by simp [member]), List.flatMap_cons]

theorem byteListToString_chars {plain : JavaString} (sevenBit : SevenBit plain) :
    byteListToString (chars plain) = plain := by
  have isAscii : IsAscii (chars plain) := by
    intro byte member
    obtain ⟨unit, inside, rfl⟩ := List.mem_map.mp member
    have value : unit.toNat < 128 := sevenBit unit inside
    change unit.toUInt8.toNat < 128
    rw [UInt16.toNat_toUInt8]
    omega
  rw [byteListToString_ascii isAscii, ascii, chars, List.map_map]
  refine (List.map_congr_left ?_).trans (List.map_id _)
  intro unit inside
  have value : unit.toNat < 128 := sevenBit unit inside
  apply UInt16.toNat_inj.mp
  simp only [Function.comp_apply, UInt8.toNat_toUInt16, UInt16.toNat_toUInt8, id]
  omega

/-- A 7-bit beginning comes back as it is, and what follows it comes back as
it would alone. -/
theorem returned_append {plain : JavaString} (sevenBit : SevenBit plain) (text : JavaString) :
    returned (plain ++ text) = plain ++ returned text := by
  have lengths : (plain ++ text).length = (chars plain).length + text.length := by
    rw [List.length_append, chars, List.length_map]
  rw [returned, stringToByteList_sevenBit_append sevenBit, lengths, List.take_length_add_append,
    byteListToString, List.map_append]
  congr 1
  exact byteListToString_chars sevenBit

theorem widened_of_returned {name : JavaString} (same : returned name = name) :
    ∀ unit ∈ name, Widened unit := by
  intro unit member
  rw [← same, returned, byteListToString] at member
  obtain ⟨byte, -, rfl⟩ := List.mem_map.mp member
  exact widened_toUInt16 byte

end Units

section Echo

/-- An item of pieces of one width stands in the piece that its index lies in. -/
theorem getElem?_flatMap {α β : Type} {f : α → List β} {width inner : Nat}
    (inside : inner < width) {list : List α} {index : Nat} {item : α}
    (found : list[index]? = some item)
    (uniform : ∀ other ∈ list.take (index + 1), (f other).length = width) :
    (list.flatMap f)[width * index + inner]? = (f item)[inner]? := by
  induction list generalizing index with
  | nil => cases found
  | cons first list ih =>
      have firstLength : (f first).length = width := uniform first (by simp)
      rw [List.flatMap_cons]
      cases index with
      | zero =>
          obtain rfl := Option.some.inj found
          rw [Nat.mul_zero, Nat.zero_add, List.getElem?_append_left (by omega)]
      | succ index =>
          have foundLater : list[index]? = some item := found
          have later := ih foundLater fun other member => uniform other (by simp [member])
          have beyond : width * (index + 1) + inner = width + (width * index + inner) := by ring
          rw [List.getElem?_append_right (by rw [beyond]; omega), firstLength, beyond,
            Nat.add_sub_cancel_left]
          exact later

/-- The sequence has four units. -/
theorem echo_cases (index : Nat) :
    echo index = 0xffef ∨ echo index = 0xffbf ∨ echo index = 0xffaf ∨ echo index = 0xffbe := by
  induction index using Nat.strong_induction_on with
  | h index ih =>
      rw [echo]
      split_ifs with first second left right
      · exact .inl rfl
      · exact .inr (.inl rfl)
      · exact .inr (.inr (.inr rfl))
      · exact .inr (.inr (.inl rfl))
      · exact ih (index / 3) (by omega)

theorem echo_large (index : Nat) : 0xff80 ≤ (echo index).toNat := by
  rcases echo_cases index with unit | unit | unit | unit <;> rw [unit] <;> decide

theorem length_encodeUnit_echo (index : Nat) : (encodeUnit (echo index)).length = 3 := by
  rw [encodeUnit_of_large (echo_large index)]
  rfl

/-- Each byte of a unit of the sequence is the unit at the byte's own place. -/
theorem encodeUnit_echo (index : Nat) :
    (encodeUnit (echo (index / 3)))[index % 3]?.map (fun byte => byte.toInt8.toInt16.toUInt16) =
      some (echo index) := by
  have place : index % 3 = 0 ∨ index % 3 = 1 ∨ index % 3 = 2 := by omega
  rw [echo.eq_def index]
  rcases place with place | place | place <;>
    rcases echo_cases (index / 3) with unit | unit | unit | unit <;>
    rw [place, unit] <;> decide

/-- What stands at an index of a decoded encoding is fixed by the units up to a
third of the index. -/
theorem decoded_at {text : JavaString} {index : Nat}
    (known : ∀ earlier ≤ index / 3, text[earlier]? = some (echo earlier)) :
    (text.flatMap encodeUnit)[index]?.map (fun byte => byte.toInt8.toInt16.toUInt16) =
      some (echo index) := by
  have uniform : ∀ unit ∈ text.take (index / 3 + 1), (encodeUnit unit).length = 3 := by
    intro unit member
    obtain ⟨earlier, found⟩ := List.mem_iff_getElem?.mp member
    have bound : earlier < index / 3 + 1 := by
      have := (List.getElem?_eq_some_iff.mp found).1
      rw [List.length_take] at this
      omega
    rw [List.getElem?_take_of_lt bound, known earlier (by omega)] at found
    obtain rfl := Option.some.inj found
    exact length_encodeUnit_echo earlier
  have stands := getElem?_flatMap (by omega : index % 3 < 3) (known (index / 3) le_rfl) uniform
  rw [Nat.div_add_mod] at stands
  rw [stands]
  exact encodeUnit_echo index

theorem returned_at {name : JavaString} (widened : ∀ unit ∈ name, Widened unit) {index : Nat}
    (inside : index < name.length) :
    (returned name)[index]? =
      (name.flatMap encodeUnit)[index]?.map fun byte => byte.toInt8.toInt16.toUInt16 := by
  rw [returned, stringToByteList_widened widened, byteListToString, List.getElem?_map,
    List.getElem?_take_of_lt inside]

/-- A beginning of the sequence comes back as it is. -/
theorem returned_echo (count : Nat) :
    returned ((List.range count).map echo) = (List.range count).map echo := by
  have widened : ∀ unit ∈ (List.range count).map echo, Widened unit := by
    intro unit member
    obtain ⟨index, -, rfl⟩ := List.mem_map.mp member
    exact .inr (echo_large index)
  have stands : ∀ index < count, ((List.range count).map echo)[index]? = some (echo index) := by
    intro index below
    simp [below]
  have long := length_le_stringToByteList ((List.range count).map echo)
  apply List.ext_getElem?
  intro index
  by_cases below : index < count
  · rw [returned_at widened (by simpa using below), stands index below]
    exact decoded_at fun earlier bound => stands earlier (by omega)
  · rw [List.getElem?_eq_none, List.getElem?_eq_none]
    · simpa using Nat.le_of_not_lt below
    · rw [returned, byteListToString, List.length_map, List.length_take]
      simp only [List.length_map, List.length_range] at long ⊢
      omega

/-- A text that does not begin with a 7-bit character and comes back as it is
is a beginning of the sequence: each unit follows from those before it. -/
theorem echo_of_returned {text : JavaString} (same : returned text = text)
    (upper : ∀ unit, text[0]? = some unit → ¬ unit < 128) :
    ∀ index < text.length, text[index]? = some (echo index) := by
  have widened := widened_of_returned same
  have decoded : ∀ index < text.length, text[index]? =
      (text.flatMap encodeUnit)[index]?.map fun byte => byte.toInt8.toInt16.toUInt16 := by
    intro index inside
    rw [← returned_at widened inside, same]
  intro index
  induction index using Nat.strong_induction_on with
  | h index ih =>
      intro inside
      rw [decoded index inside]
      rcases Nat.eq_zero_or_pos index with rfl | positive
      · cases text with
        | nil => cases inside
        | cons unit text =>
            have notSmall : ¬ unit.toNat < 128 := upper unit rfl
            have large : 0xff80 ≤ unit.toNat :=
              (widened unit (by simp)).resolve_left notSmall
            rw [List.flatMap_cons, encodeUnit_of_large large, echo]
            rfl
      · exact decoded_at fun earlier bound => ih earlier (by omega) (by omega)

/-- A text is split where its first other character stands. -/
theorem exists_sevenBit_front (name : JavaString) :
    ∃ plain text, SevenBit plain ∧ name = plain ++ text ∧
      ∀ unit, text[0]? = some unit → ¬ unit < 128 := by
  induction name with
  | nil => exact ⟨[], [], by simp [SevenBit], rfl, by simp⟩
  | cons first name ih =>
      by_cases small : first < 128
      · obtain ⟨plain, text, sevenBit, rfl, upper⟩ := ih
        refine ⟨first :: plain, text, ?_, rfl, upper⟩
        intro unit member
        rcases List.mem_cons.mp member with rfl | later
        · exact small
        · exact sevenBit unit later
      · refine ⟨[], first :: name, by simp [SevenBit], rfl, ?_⟩
        intro unit found
        obtain rfl := Option.some.inj found
        exact small

theorem returned_eq_iff (name : JavaString) : returned name = name ↔ Echoing name := by
  constructor
  · intro same
    obtain ⟨plain, text, sevenBit, rfl, upper⟩ := exists_sevenBit_front name
    rw [returned_append sevenBit] at same
    have stands := echo_of_returned (List.append_cancel_left same) upper
    refine ⟨plain, text.length, sevenBit, ?_⟩
    congr 1
    apply List.ext_getElem?
    intro index
    by_cases inside : index < text.length
    · rw [stands index inside]
      simp [inside]
    · rw [List.getElem?_eq_none (by omega), List.getElem?_eq_none (by simpa using inside)]
  · rintro ⟨plain, count, sevenBit, rfl⟩
    rw [returned_append sevenBit, returned_echo]

end Echo

section Trip

variable {clientId : Int} {id : Int32} {name : JavaString} {sensor : SensorManager.Sensor}

theorem length_renamed (request : AdministratorRequest) :
    (SerializerAdministratorMessage.constructSensorMessage (renamed sensor request)).length =
      request.sensorName.length + sensor.ip.length + 29 := by
  simp only [SerializerAdministratorMessage.constructSensorMessage, constructIntMessageWithSize,
    constructStringMessageWithSize, constructBoolMessageWithSize, stringToByte, boolToByte,
    List.length_append, length_intToByte, List.length_singleton, renamed]
  omega

/-- The client shows the sensor with the text that comes back for the name. -/
theorem shown_eq (port : IsInt sensor.port) (address : sensor.ip.length < 2 ^ 30)
    (short : (Administrator.prepareMessageUpdateSensorName id name).length ≤ 512) :
    shown clientId id name sensor =
      some (.ok
        { id := id.toInt
          name := returned name
          ip := byteListToString sensor.ip
          port := sensor.port
          connected := sensor.connected }) := by
  have bounded : name.length ≤ 512 := by
    have := length_le_prepareStringMessageWithSize name
    simp only [Administrator.prepareMessageUpdateSensorName, List.length_append] at short
    omega
  have analyzed := analyzeUpdateSensorName_prepared clientId id (by omega : name.length < 2 ^ 31)
  refine Option.bind_eq_some_iff.mpr ⟨_, analyzed, ?_⟩
  refine Option.bind_eq_some_iff.mpr ⟨_, rfl, ?_⟩
  apply congrArg some
  apply Administrator.constructSensorFromByteMessage_serialized
  · exact ⟨id.le_toInt, id.toInt_lt⟩
  · exact port
  · rw [length_renamed, List.length_take]
    omega

/-- The name that the client shows is the one that was sent exactly when it is
a text of 7-bit characters, followed by a beginning of the sequence that is its
own decoded encoding. -/
theorem sensorName_survives_iff (port : IsInt sensor.port)
    (address : sensor.ip.length < 2 ^ 30)
    (short : (Administrator.prepareMessageUpdateSensorName id name).length ≤ 512) :
    (∃ sensorShown, shown clientId id name sensor = some (.ok sensorShown) ∧
      sensorShown.name = name) ↔ Echoing name := by
  rw [← returned_eq_iff, shown_eq port address short]
  constructor
  · rintro ⟨sensorShown, same, survives⟩
    obtain rfl := Except.ok.inj (Option.some.inj same)
    exact survives
  · intro survives
    exact ⟨_, rfl, survives⟩

/-- An a, followed by the first two units of the sequence. -/
theorem sensorName_survives_iff_threeUnits :
    ∃ sensorShown,
      shown 0 7 [97, 0xffef, 0xffbf] { id := 7, name := [], ip := [49], port := 80 } =
        some (.ok sensorShown) ∧ sensorShown.name = [97, 0xffef, 0xffbf] := by
  apply (sensorName_survives_iff (by decide) (by decide) (by decide)).mpr
  refine ⟨[97], 2, by decide, ?_⟩
  simp [List.range_succ, echo]

/-- Of the two bytes of U+0105 the server keeps the first, and the client shows
it as U+FFC4. -/
theorem not_sensorName_survives_twoBytes :
    ¬ ∃ sensorShown,
      shown 0 7 [0x105] { id := 7, name := [], ip := [49], port := 80 } =
        some (.ok sensorShown) ∧ sensorShown.name = [0x105] := by
  rw [shown_eq (by decide) (by decide) (by decide)]
  rintro ⟨sensorShown, same, survives⟩
  obtain rfl := Except.ok.inj (Option.some.inj same)
  have other : returned [0x105] = [0xffc4] := by decide
  rw [other] at survives
  exact absurd survives (by decide)

end Trip

end SensorManager.JavaClient
