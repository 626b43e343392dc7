import SensorManager.Lib.Exec
import SensorManager.Lib.Framing

/-!
# Lists of bytes in the Java clients

The two clients have the same `ConnectionUtil`.  A Java `byte` is signed, and
is widened to an `int` before it is shifted and masked.
-/

namespace SensorManager.JavaClient

/-- The exceptions of the list operations. -/
inductive JavaException where
  | indexOutOfBounds
  | illegalArgument
  deriving DecidableEq, Repr

/-- `List.subList`, which checks the end of the range before its order. -/
def subList (list : List UInt8) (fromIndex toIndex : Int) :
    Except JavaException (List UInt8) :=
  if fromIndex < 0 then .error .indexOutOfBounds
  else if toIndex > list.length then .error .indexOutOfBounds
  else if fromIndex > toIndex then .error .illegalArgument
  else .ok ((list.drop fromIndex.toNat).take (toIndex - fromIndex).toNat)

/-- `List.get`, widened to an `int`. -/
def getInt (list : List UInt8) (index : Nat) : Except JavaException Int32 :=
  match list[index]? with
  | some byte => .ok byte.toInt8.toInt32
  | none => .error .indexOutOfBounds

def byteListToIntLittleEndian (byteList : List UInt8) : Except JavaException Int32 := do
  let first : Int32 := (← getInt byteList 0) &&& 0x000000ff
  let second : Int32 := (← getInt byteList 1) <<< 8 &&& 0x0000ff00
  let third : Int32 := (← getInt byteList 2) <<< 16 &&& 0x00ff0000
  let fourth : Int32 := (← getInt byteList 3) <<< 24 &&& 0xff000000
  return first ||| second ||| third ||| fourth

def byteListToInt (byteList : List UInt8) : Except JavaException Int32 := do
  let first : Int32 := (← getInt byteList 0) <<< 24 &&& 0xff000000
  let second : Int32 := (← getInt byteList 1) <<< 16 &&& 0x00ff0000
  let third : Int32 := (← getInt byteList 2) <<< 8 &&& 0x0000ff00
  let fourth : Int32 := (← getInt byteList 3) &&& 0x000000ff
  return first ||| second ||| third ||| fourth

/-- A `String` is the list of its UTF-16 code units. -/
abbrev JavaString := List UInt16

/-- A byte is widened with its sign before it is cut to a `char`. -/
def byteListToString (byteList : List UInt8) : JavaString :=
  byteList.map fun sign => sign.toInt8.toInt16.toUInt16

def byteListToBoolean (byteList : List UInt8) : Except JavaException Bool := do
  return (← getInt byteList 0) ≠ 0

/-- `(byte) (number >> shift)`. -/
def byteOfInt (number shift : Int32) : UInt8 :=
  (number >>> shift).toInt8.toUInt8

def intToByteList (number : Int32) : List UInt8 :=
  [byteOfInt number 24, byteOfInt number 16, byteOfInt number 8, byteOfInt number 0]

def intToByteListLittleEndian (number : Int32) : List UInt8 :=
  [byteOfInt number 0, byteOfInt number 8, byteOfInt number 16, byteOfInt number 24]

def isHighSurrogate (unit : UInt16) : Bool :=
  0xd800 ≤ unit && unit ≤ 0xdbff

def isLowSurrogate (unit : UInt16) : Bool :=
  0xdc00 ≤ unit && unit ≤ 0xdfff

def toCodePoint (high low : UInt16) : Nat :=
  0x10000 + (high.toNat - 0xd800) * 0x400 + (low.toNat - 0xdc00)

/-- The bytes of a unit that is not half of a pair.  A surrogate on its own is
replaced by a question mark. -/
def encodeUnit (unit : UInt16) : List UInt8 :=
  if isHighSurrogate unit || isLowSurrogate unit then [63]
  else String.utf8EncodeChar (Char.ofNat unit.toNat)

/-- `String.getBytes`, with UTF-8 as the charset. -/
def stringToByteList : JavaString → List UInt8
  | [] => []
  | [unit] => encodeUnit unit
  | high :: low :: rest =>
      if isHighSurrogate high && isLowSurrogate low then
        String.utf8EncodeChar (Char.ofNat (toCodePoint high low)) ++ stringToByteList rest
      else encodeUnit high ++ stringToByteList (low :: rest)

def prepareIntegerMessageWithSize (number : Int32) : List UInt8 :=
  intToByteList 4 ++ intToByteList number

/-- The size is the number of characters, not of bytes. -/
def prepareStringMessageWithSize (text : JavaString) : List UInt8 :=
  intToByteList (.ofNat text.length) ++ stringToByteList text

def addPrefixMessageSize (message : List UInt8) : List UInt8 :=
  intToByteListLittleEndian (.ofNat message.length) ++ message

/-- The masked bytes make up the number they are the digits of. -/
theorem byteListToIntLittleEndian_four (first second third fourth : UInt8) :
    ∃ value, byteListToIntLittleEndian [first, second, third, fourth] = .ok value ∧
      value.toInt = Bytes.toInt [first, second, third, fourth] := by
  refine ⟨_, rfl, ?_⟩
  have firstLt := first.toNat_lt
  have secondLt := second.toNat_lt
  have thirdLt := third.toNat_lt
  have low : (first.toInt8.toInt32 &&& 0x000000ff).toBitVec.toNat = first.toNat := by
    simpa using Bytes.toNat_masked 0 first.toBitVec
  have lower : (second.toInt8.toInt32 <<< 8 &&& 0x0000ff00).toBitVec.toNat =
      second.toNat * 2 ^ 8 :=
    Bytes.toNat_masked 1 second.toBitVec
  have higher : (third.toInt8.toInt32 <<< 16 &&& 0x00ff0000).toBitVec.toNat =
      third.toNat * 2 ^ 16 :=
    Bytes.toNat_masked 2 third.toBitVec
  have high : (fourth.toInt8.toInt32 <<< 24 &&& 0xff000000).toBitVec.toNat =
      fourth.toNat * 2 ^ 24 :=
    Bytes.toNat_masked 3 fourth.toBitVec
  have digits : first.toNat ||| second.toNat * 2 ^ 8 ||| third.toNat * 2 ^ 16 |||
      fourth.toNat * 2 ^ 24 = Bytes.littleEndian [first, second, third, fourth] := by
    have two : first.toNat + second.toNat * 2 ^ 8 < 2 ^ 16 := by omega
    have three : first.toNat + second.toNat * 2 ^ 8 + third.toNat * 2 ^ 16 < 2 ^ 24 := by omega
    rw [Bytes.or_shifted firstLt, Bytes.or_shifted two, Bytes.or_shifted three]
    simp only [Bytes.littleEndian_cons]
    simp only [Bytes.littleEndian, List.map_nil, Nat.ofDigits_nil]
    omega
  rw [Int32.toInt, BitVec.toInt_eq_toNat_bmod]
  simp only [Int32.toBitVec_or, BitVec.toNat_or, low, lower, higher, high, digits,
    Bytes.toInt, Bytes.signed, List.length_cons, List.length_nil]
  norm_num

theorem byteListToIntLittleEndian_of_length {bytes : List UInt8} (four : bytes.length = 4) :
    ∃ value, byteListToIntLittleEndian bytes = .ok value ∧ value.toInt = Bytes.toInt bytes := by
  match bytes, four with
  | [first, second, third, fourth], _ =>
      exact byteListToIntLittleEndian_four first second third fourth

/-- The order of the bytes is the only difference between the two readings. -/
theorem byteListToInt_reverse (first second third fourth : UInt8) :
    byteListToInt [first, second, third, fourth] =
      byteListToIntLittleEndian [fourth, third, second, first] := by
  have flipped : ∀ a b c d : Int32, a ||| b ||| c ||| d = d ||| c ||| b ||| a := by
    intro a b c d
    rw [Int32.or_comm (a ||| b ||| c) d, Int32.or_comm (a ||| b) c, Int32.or_comm a b,
      ← Int32.or_assoc, ← Int32.or_assoc]
  exact congrArg Except.ok (flipped _ _ _ _)

theorem byteListToInt_of_length {bytes : List UInt8} (four : bytes.length = 4) :
    ∃ value, byteListToInt bytes = .ok value ∧ value.toInt = Bytes.toInt bytes.reverse := by
  match bytes, four with
  | [first, second, third, fourth], _ =>
      rw [byteListToInt_reverse]
      exact byteListToIntLittleEndian_four fourth third second first

theorem subList_of_le {list : List UInt8} {fromIndex toIndex : Nat}
    (ordered : fromIndex ≤ toIndex) (long : toIndex ≤ list.length) :
    subList list fromIndex toIndex =
      .ok ((list.drop fromIndex).take (toIndex - fromIndex)) := by
  unfold subList
  rw [if_neg (by omega), if_neg (by omega), if_neg (by omega)]
  congr 2
  omega

/-- The range of a sub-list lies in the list. -/
theorem subList_eq_ok {list part : List UInt8} {fromIndex toIndex : Int}
    (taken : subList list fromIndex toIndex = .ok part) :
    0 ≤ fromIndex ∧ fromIndex ≤ toIndex ∧ toIndex ≤ list.length ∧
      part = (list.drop fromIndex.toNat).take (toIndex - fromIndex).toNat := by
  unfold subList at taken
  split at taken
  · cases taken
  · split at taken
    · cases taken
    · split at taken
      · cases taken
      · cases taken
        exact ⟨by omega, by omega, by omega, rfl⟩

/-- The number that the bits of an `int` make up. -/
theorem toInt_emod (number : Int32) :
    (number.toInt % (256 ^ 4 : Nat)).toNat = number.toBitVec.toNat := by
  have range : (256 ^ 4 : Nat) = 2 ^ 32 := by norm_num
  rw [Int32.toInt, BitVec.toInt_eq_toNat_bmod, range, Int.bmod_emod, ← Int.natCast_mod,
    Int.toNat_natCast, Nat.mod_eq_of_lt number.toBitVec.isLt]

/-- The bytes are the digits of the number. -/
theorem intToByteListLittleEndian_eq (number : Int32) :
    intToByteListLittleEndian number = Bytes.ofInt 4 number.toInt := by
  have digit : ∀ place < 4,
      UInt8.ofBitVec ((number.toBitVec.sshiftRight (8 * place)).signExtend 8) =
        UInt8.ofNat (number.toBitVec.toNat / 256 ^ place) :=
    fun place inside => Bytes.lastByte_shifted inside number.toBitVec
  have first : byteOfInt number 0 = _ := digit 0 (by omega)
  have second : byteOfInt number 8 = _ := digit 1 (by omega)
  have third : byteOfInt number 16 = _ := digit 2 (by omega)
  have fourth : byteOfInt number 24 = _ := digit 3 (by omega)
  rw [intToByteListLittleEndian, Bytes.ofInt, toInt_emod, first, second, third, fourth]
  simp [Bytes.toLittleEndian, Nat.div_div_eq_div_mul]

theorem intToByteList_eq (number : Int32) :
    intToByteList number = (Bytes.ofInt 4 number.toInt).reverse := by
  rw [← intToByteListLittleEndian_eq]
  rfl

@[simp] theorem length_intToByteList (number : Int32) : (intToByteList number).length = 4 := rfl

end SensorManager.JavaClient
