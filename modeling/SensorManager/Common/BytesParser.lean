import SensorManager.Lib.Bytes

/-!
# Reading and writing fields of byte vectors

`parse` copies `sizeof(T)` bytes with `memcpy` and checks no bound, so a field
that reaches past the vector takes in what memory holds there.
-/

namespace SensorManager.BytesParser

/-- The bytes in memory behind the last byte of a vector. -/
abbrev Memory := Nat → UInt8

/-- `bytes[index]` without a bound check. -/
def byteAt (bytes : List UInt8) (beyond : Memory) (index : Nat) : UInt8 :=
  bytes[index]?.getD (beyond (index - bytes.length))

/-- `parse<T>` for a signed `T` of `size` bytes. -/
def parse (size : Nat) (bytes : List UInt8) (offset : Nat) (beyond : Memory) : Int :=
  Bytes.toInt ((List.range size).map fun index => byteAt bytes beyond (offset + index))

def toBytes (size : Nat) (value : Int) : List UInt8 :=
  Bytes.ofInt size value

def appendBytes (size : Nat) (bytes : List UInt8) (value : Int) : List UInt8 :=
  bytes ++ toBytes size value

def appendFrontBytes (size : Nat) (bytes : List UInt8) (value : Int) : List UInt8 :=
  toBytes size value ++ bytes

/-- A field that lies inside the vector is read from it alone. -/
theorem parse_of_inside {size offset : Nat} {bytes : List UInt8}
    (inside : offset + size ≤ bytes.length) (beyond : Memory) :
    parse size bytes offset beyond =
      Bytes.toInt ((bytes.drop offset).take size) := by
  have field :
      (List.range size).map (fun index => byteAt bytes beyond (offset + index)) =
        (bytes.drop offset).take size := by
    apply List.ext_getElem
    · simp
      omega
    · intro index below _
      have inBounds : offset + index < bytes.length := by
        simp at below
        omega
      simp [byteAt, inBounds]
  rw [parse, field]

/-- The first byte of a vector as a signed character. -/
theorem parse_first {byte : UInt8} {bytes : List UInt8} {value : Nat}
    (small : value < 128) (beyond : Memory) :
    parse 1 (byte :: bytes) 0 beyond = value ↔ byte = UInt8.ofNat value := by
  rw [parse_of_inside (by simp)]
  exact Bytes.toInt_singleton small

end SensorManager.BytesParser
