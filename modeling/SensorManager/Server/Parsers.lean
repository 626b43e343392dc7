import SensorManager.Lib.Bytes
import SensorManager.Server.Serializers

/-!
# Parsing the requests

`analyzeMessage` of the administrator and the monitoring serializer.  No index
is checked against the message, and so a read outside of it has no result.  What
is returned is none again for the null pointer.
-/

namespace SensorManager

namespace SerializerMessage

/-- `message[index]`, a signed character that is widened to an `int`. -/
def charAt (message : List UInt8) (index : Nat) : Option Int32 :=
  message[index]?.map fun byte => byte.toInt8.toInt32

def byteToInt (message : List UInt8) (begin : Nat) : Option Int32 := do
  let first : Int32 := (← charAt message begin) <<< 24
  let second : Int32 := (← charAt message (begin + 1)) <<< 16 &&& 0x00ff0000
  let third : Int32 := (← charAt message (begin + 2)) <<< 8 &&& 0x0000ff00
  let fourth : Int32 := (← charAt message (begin + 3)) &&& 0x000000ff
  return first + second + third + fourth

/-- The loop that appends the characters of a name. -/
def readName (message : List UInt8) (readingBegin : Nat) : Nat → Option ByteString
  | 0 => return []
  | count + 1 => do
      let name ← readName message readingBegin count
      let sign ← message[readingBegin + count]?
      return name ++ [sign]

end SerializerMessage

open SerializerMessage

namespace SerializerAdministratorMessage

def analyzeGetAllSensors (clientId : Int) : AdministratorRequest :=
  { clientId := clientId, commandType := .getAllSensors }

def analyzeUpdateSensorName (clientId : Int) (message : List UInt8) :
    Option AdministratorRequest := do
  let _sizeOfId ← byteToInt message 0
  let id ← byteToInt message 4
  let sizeOfName ← byteToInt message 8
  let name ← readName message 12 sizeOfName.toInt.toNat
  let request : AdministratorRequest :=
    { clientId := clientId, commandType := .updateSensorName }
  return { request with sensorId := id.toInt, sensorName := name }

/-- A request that carries the id of a sensor. -/
def analyzeSensorId (commandType : AdministratorCommandTypes) (clientId : Int)
    (message : List UInt8) : Option AdministratorRequest := do
  let _sizeOfId ← byteToInt message 0
  let id ← byteToInt message 4
  let request : AdministratorRequest := { clientId := clientId, commandType := commandType }
  return { request with sensorId := id.toInt }

def analyzeRevokeSensor : Int → List UInt8 → Option AdministratorRequest :=
  analyzeSensorId .revokeSensor

def analyzeDisconnectSensor : Int → List UInt8 → Option AdministratorRequest :=
  analyzeSensorId .disconnectSensor

def analyzeGenerateToken (clientId : Int) (message : List UInt8) :
    Option AdministratorRequest := do
  let sizeOfName ← byteToInt message 0
  let name ← readName message 4 sizeOfName.toInt.toNat
  let request : AdministratorRequest :=
    { clientId := clientId, commandType := .generateToken }
  return { request with tokenName := name }

/-- The branches of `analyzeMessage`; `parameters` are the bytes behind the
command type. -/
def analyzeCommand (clientId : Int) (commandType : Int32) (parameters : List UInt8) :
    Option (Option AdministratorRequest) :=
  if commandType = 0 then return some (analyzeGetAllSensors clientId)
  else if commandType = 1 then return some (← analyzeUpdateSensorName clientId parameters)
  else if commandType = 2 then return some (← analyzeRevokeSensor clientId parameters)
  else if commandType = 3 then return some (← analyzeDisconnectSensor clientId parameters)
  else if commandType = 4 then return some (← analyzeGenerateToken clientId parameters)
  else return none

def analyzeMessage (clientId : Int) (message : List UInt8) :
    Option (Option AdministratorRequest) :=
  if message.isEmpty then return none
  else do
    let _sizeOfCommandType ← byteToInt message 0
    let commandType ← byteToInt message 4
    analyzeCommand clientId commandType (message.drop 8)

end SerializerAdministratorMessage

namespace SerializerMonitoringMessage

def analyzeMessage (clientId : Int) (message : List UInt8) :
    Option (Option MonitoringRequest) :=
  if message.isEmpty then return none
  else do
    let _sizeOfMessage ← byteToInt message 0
    let _sizeOfCommandType ← byteToInt message 4
    let commandType ← byteToInt message 8
    if commandType = 0 then
      return some { clientId := clientId, commandType := .getAllSensorsMonitoring }
    else if commandType = 1 then do
      let _sizeOfId ← byteToInt message 12
      let id ← byteToInt message 16
      let _sizeOfType ← byteToInt message 20
      let type ← byteToInt message 24
      let request : MonitoringRequest :=
        { clientId := clientId, commandType := .getSetOfMeasurements }
      return some { request with sensorId := id.toInt, type := type.toInt }
    else return none

end SerializerMonitoringMessage

namespace SerializerMessage

/-- The number that stands at a position of a message. -/
def intAt (message : List UInt8) (begin : Nat) : Int :=
  Bytes.toInt ((message.drop begin).take 4).reverse

/-- The first byte needs no mask. -/
theorem toNat_shifted : ∀ byte : BitVec 8,
    (byte.signExtend 32 <<< 24).toNat = byte.toNat * 2 ^ 24 := by
  decide +kernel

/-- The masked bytes are the digits of the number they make up. -/
theorem byteToInt_front (first second third fourth : UInt8) (later : List UInt8) :
    ∃ value, byteToInt (first :: second :: third :: fourth :: later) 0 = some value ∧
      value.toInt = Bytes.toInt [fourth, third, second, first] := by
  refine ⟨_, rfl, ?_⟩
  have firstLt := first.toNat_lt
  have secondLt := second.toNat_lt
  have thirdLt := third.toNat_lt
  have fourthLt := fourth.toNat_lt
  have high : (first.toInt8.toInt32 <<< 24).toBitVec.toNat = first.toNat * 2 ^ 24 :=
    toNat_shifted first.toBitVec
  have higher : (second.toInt8.toInt32 <<< 16 &&& 0x00ff0000).toBitVec.toNat =
      second.toNat * 2 ^ 16 :=
    Bytes.toNat_masked 2 second.toBitVec
  have lower : (third.toInt8.toInt32 <<< 8 &&& 0x0000ff00).toBitVec.toNat =
      third.toNat * 2 ^ 8 :=
    Bytes.toNat_masked 1 third.toBitVec
  have low : (fourth.toInt8.toInt32 &&& 0x000000ff).toBitVec.toNat = fourth.toNat := by
    simpa using Bytes.toNat_masked 0 fourth.toBitVec
  have digits : Bytes.littleEndian [fourth, third, second, first] =
      first.toNat * 2 ^ 24 + second.toNat * 2 ^ 16 + third.toNat * 2 ^ 8 + fourth.toNat := by
    simp only [Bytes.littleEndian_cons]
    simp only [Bytes.littleEndian, List.map_nil, Nat.ofDigits_nil]
    omega
  have sum : (((first.toNat * 2 ^ 24 + second.toNat * 2 ^ 16) % 2 ^ 32 + third.toNat * 2 ^ 8) %
      2 ^ 32 + fourth.toNat) % 2 ^ 32 =
        first.toNat * 2 ^ 24 + second.toNat * 2 ^ 16 + third.toNat * 2 ^ 8 + fourth.toNat := by
    omega
  rw [Int32.toInt, BitVec.toInt_eq_toNat_bmod]
  simp only [Int32.toBitVec_add, BitVec.toNat_add, low, lower, higher, high, digits,
    Bytes.toInt, Bytes.signed, List.length_cons, List.length_nil]
  rw [sum]
  norm_num

theorem byteToInt_drop (message : List UInt8) (begin : Nat) :
    byteToInt message begin = byteToInt (message.drop begin) 0 := by
  simp only [byteToInt, charAt, List.getElem?_drop, Nat.add_zero, Nat.zero_add]

/-- Whichever byte is missing, nothing is read. -/
theorem byteToInt_short {message : List UInt8} (short : message.length < 4) :
    byteToInt message 0 = none := by
  match message, short with
  | [], _ => rfl
  | [_], _ => rfl
  | [_, _], _ => rfl
  | [_, _, _], _ => rfl

/-- A number that lies inside the message is read. -/
theorem byteToInt_inside {message : List UInt8} {begin : Nat}
    (inside : begin + 4 ≤ message.length) :
    byteToInt message begin = some (Int32.ofInt (intAt message begin)) := by
  have lengths : (message.drop begin).length = message.length - begin := List.length_drop
  rw [byteToInt_drop, intAt]
  match message.drop begin, lengths with
  | first :: second :: third :: fourth :: later, _ =>
      obtain ⟨value, read, reading⟩ := byteToInt_front first second third fourth later
      rw [read, ← Int32.ofInt_toInt value, reading]
      rfl
  | [], short | [_], short | [_, _], short | [_, _, _], short =>
      simp only [List.length_cons, List.length_nil] at short
      omega

theorem byteToInt_outside {message : List UInt8} {begin : Nat}
    (outside : ¬ begin + 4 ≤ message.length) : byteToInt message begin = none := by
  have lengths : (message.drop begin).length = message.length - begin := List.length_drop
  rw [byteToInt_drop]
  exact byteToInt_short (by omega)

/-- An `int` holds the number that it is read as. -/
theorem toInt_intAt {message : List UInt8} {begin : Nat}
    (inside : begin + 4 ≤ message.length) :
    (Int32.ofInt (intAt message begin)).toInt = intAt message begin := by
  have four : ((message.drop begin).take 4).reverse.length = 4 := by
    simp only [List.length_reverse, List.length_take, List.length_drop]
    omega
  have bounds := Bytes.toInt_bounds ((message.drop begin).take 4).reverse
  rw [four] at bounds
  norm_num at bounds
  exact Int32.toInt_ofInt_of_le (by rw [intAt]; omega) (by rw [intAt]; omega)

theorem ofInt_intAt_eq_iff {message : List UInt8} {begin : Nat}
    (inside : begin + 4 ≤ message.length) (number : Int32) :
    Int32.ofInt (intAt message begin) = number ↔ intAt message begin = number.toInt := by
  rw [← Int32.toInt_inj, toInt_intAt inside]

/-- The characters of a name are read when they lie inside the message. -/
theorem readName_eq {message : List UInt8} {readingBegin : Nat}
    (inside : readingBegin ≤ message.length) (count : Nat) :
    readName message readingBegin count =
      if readingBegin + count ≤ message.length then
        some ((message.drop readingBegin).take count)
      else none := by
  induction count with
  | zero =>
      rw [if_pos (by omega)]
      rfl
  | succ count ih =>
      rw [readName, ih]
      by_cases long : readingBegin + (count + 1) ≤ message.length
      · have sign : message[readingBegin + count]? = some message[readingBegin + count] :=
          List.getElem?_eq_getElem (by omega)
        rw [if_pos (by omega), if_pos long, sign, List.take_add_one, List.getElem?_drop, sign]
        rfl
      · rw [if_neg long]
        by_cases before : readingBegin + count ≤ message.length
        · rw [if_pos before, List.getElem?_eq_none (by omega)]
          rfl
        · rw [if_neg before]
          rfl

end SerializerMessage

namespace SerializerAdministratorMessage

/-- The name has to end inside the message, whatever its size says. -/
theorem analyzeUpdateSensorName_eq (clientId : Int) (message : List UInt8) :
    analyzeUpdateSensorName clientId message =
      if 12 ≤ message.length ∧ 12 + (intAt message 8).toNat ≤ message.length then
        some
          { clientId := clientId
            commandType := .updateSensorName
            sensorId := intAt message 4
            sensorName := (message.drop 12).take (intAt message 8).toNat }
      else none := by
  by_cases long : 12 ≤ message.length
  · rw [analyzeUpdateSensorName, byteToInt_inside (by omega), byteToInt_inside (by omega),
      byteToInt_inside (by omega)]
    simp only [Option.bind_eq_bind, Option.bind_some, toInt_intAt (by omega : 8 + 4 ≤ message.length),
      toInt_intAt (by omega : 4 + 4 ≤ message.length), readName_eq long, long, true_and]
    split <;> rfl
  · rw [analyzeUpdateSensorName, @byteToInt_outside message 8 (by omega), if_neg (by omega)]
    simp only [Option.bind_eq_bind, Option.bind_none, Option.bind_fun_none]

theorem analyzeSensorId_eq (commandType : AdministratorCommandTypes) (clientId : Int)
    (message : List UInt8) :
    analyzeSensorId commandType clientId message =
      if 8 ≤ message.length then
        some { clientId := clientId, commandType := commandType, sensorId := intAt message 4 }
      else none := by
  by_cases long : 8 ≤ message.length
  · rw [analyzeSensorId, byteToInt_inside (by omega), byteToInt_inside (by omega), if_pos long]
    simp only [Option.bind_eq_bind, Option.bind_some,
      toInt_intAt (by omega : 4 + 4 ≤ message.length)]
    rfl
  · rw [analyzeSensorId, @byteToInt_outside message 4 (by omega), if_neg long]
    simp only [Option.bind_eq_bind, Option.bind_none, Option.bind_fun_none]

theorem analyzeGenerateToken_eq (clientId : Int) (message : List UInt8) :
    analyzeGenerateToken clientId message =
      if 4 ≤ message.length ∧ 4 + (intAt message 0).toNat ≤ message.length then
        some
          { clientId := clientId
            commandType := .generateToken
            tokenName := (message.drop 4).take (intAt message 0).toNat }
      else none := by
  by_cases long : 4 ≤ message.length
  · rw [analyzeGenerateToken, byteToInt_inside (by omega)]
    simp only [Option.bind_eq_bind, Option.bind_some,
      toInt_intAt (by omega : 0 + 4 ≤ message.length), readName_eq long, long, true_and]
    split <;> rfl
  · rw [analyzeGenerateToken, byteToInt_outside (by omega), if_neg (by omega)]
    rfl

theorem analyzeMessage_eq (clientId : Int) {message : List UInt8} (nonempty : message ≠ []) :
    analyzeMessage clientId message =
      if 8 ≤ message.length then
        analyzeCommand clientId (Int32.ofInt (intAt message 4)) (message.drop 8)
      else none := by
  have notEmpty : message.isEmpty = false := by simpa using nonempty
  by_cases long : 8 ≤ message.length
  · rw [analyzeMessage, notEmpty, byteToInt_inside (by omega), byteToInt_inside (by omega),
      if_pos long]
    rfl
  · rw [analyzeMessage, notEmpty, @byteToInt_outside message 4 (by omega), if_neg long]
    simp only [Bool.false_eq_true, if_false, Option.bind_eq_bind, Option.bind_none,
      Option.bind_fun_none]

end SerializerAdministratorMessage

namespace SerializerMonitoringMessage

theorem analyzeMessage_eq (clientId : Int) {message : List UInt8} (nonempty : message ≠ []) :
    analyzeMessage clientId message =
      if 12 ≤ message.length then
        if intAt message 8 = 0 then
          some (some { clientId := clientId, commandType := .getAllSensorsMonitoring })
        else if intAt message 8 = 1 then
          if 28 ≤ message.length then
            some (some
              { clientId := clientId
                commandType := .getSetOfMeasurements
                sensorId := intAt message 16
                type := intAt message 24 })
          else none
        else some none
      else none := by
  have notEmpty : message.isEmpty = false := by simpa using nonempty
  by_cases short : 12 ≤ message.length
  · rw [analyzeMessage, notEmpty, byteToInt_inside (by omega), byteToInt_inside (by omega),
      byteToInt_inside (by omega : 8 + 4 ≤ message.length), if_pos short]
    simp only [Bool.false_eq_true, if_false, Option.bind_eq_bind, Option.bind_some,
      ofInt_intAt_eq_iff (by omega : 8 + 4 ≤ message.length)]
    by_cases long : 28 ≤ message.length
    · rw [byteToInt_inside (by omega), byteToInt_inside (by omega),
        byteToInt_inside (by omega), byteToInt_inside (by omega), if_pos long]
      simp only [Option.bind_some, toInt_intAt (by omega : 16 + 4 ≤ message.length),
        toInt_intAt (by omega : 24 + 4 ≤ message.length)]
      rfl
    · rw [@byteToInt_outside message 24 (by omega), if_neg long]
      simp only [Option.bind_none, Option.bind_fun_none]
      rfl
  · rw [analyzeMessage, notEmpty, @byteToInt_outside message 8 (by omega), if_neg short]
    simp only [Bool.false_eq_true, if_false, Option.bind_eq_bind, Option.bind_none,
      Option.bind_fun_none]

end SerializerMonitoringMessage

end SensorManager
