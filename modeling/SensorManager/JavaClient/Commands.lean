import SensorManager.Common.RecvFraming
import SensorManager.JavaClient.Records
import SensorManager.Server.Parsers

/-!
# Commands of the Java clients

What the two clients send for a command, and the request that the server takes
it for.  The clients write the fields of a command behind their sizes; the
server reads them at fixed positions and uses the size of a name only.
-/

namespace SensorManager.JavaClient

open SerializerMessage

namespace Administrator

def prepareMessageGetAllSensors : List UInt8 :=
  prepareIntegerMessageWithSize 0

def prepareMessageUpdateSensorName (id : Int32) (name : JavaString) : List UInt8 :=
  prepareIntegerMessageWithSize 1 ++
    (prepareIntegerMessageWithSize id ++ prepareStringMessageWithSize name)

def prepareMessageRevokeSensor (id : Int32) : List UInt8 :=
  prepareIntegerMessageWithSize 2 ++ prepareIntegerMessageWithSize id

def prepareMessageDisconnectSensor (id : Int32) : List UInt8 :=
  prepareIntegerMessageWithSize 3 ++ prepareIntegerMessageWithSize id

def prepareMessageGenerateToken (tokenName : JavaString) : List UInt8 :=
  prepareIntegerMessageWithSize 4 ++ prepareStringMessageWithSize tokenName

/-- A call of one of the `sendCommand` methods. -/
inductive Command where
  | getAllSensors
  | updateSensorName (id : Int32) (name : JavaString)
  | revokeSensor (id : Int32)
  | disconnectSensor (id : Int32)
  | generateToken (tokenName : JavaString)
  deriving DecidableEq, Repr

/-- What the call hands to `ClientHandler.sendMessage`. -/
def Command.message : Command → List UInt8
  | .getAllSensors => prepareMessageGetAllSensors
  | .updateSensorName id name => prepareMessageUpdateSensorName id name
  | .revokeSensor id => prepareMessageRevokeSensor id
  | .disconnectSensor id => prepareMessageDisconnectSensor id
  | .generateToken tokenName => prepareMessageGenerateToken tokenName

end Administrator

namespace Monitoring

def prefixMessageSize : List UInt8 → List UInt8 :=
  addPrefixMessageSize

def prepareMessageGetAllSensors : List UInt8 :=
  prepareIntegerMessageWithSize 0

def prepareMessageGetSetOfMeasurements (sensorId type : Int32) : List UInt8 :=
  prepareIntegerMessageWithSize 1 ++
    (prepareIntegerMessageWithSize sensorId ++ prepareIntegerMessageWithSize type)

/-- A call of one of the `sendCommand` methods. -/
inductive Command where
  | getAllSensors
  | getSetOfMeasurements (sensorId type : Int32)
  deriving DecidableEq, Repr

/-- What the call hands to `ClientHandler.sendMessage`. -/
def Command.message : Command → List UInt8
  | .getAllSensors => prefixMessageSize prepareMessageGetAllSensors
  | .getSetOfMeasurements sensorId type =>
      prefixMessageSize (prepareMessageGetSetOfMeasurements sensorId type)

end Monitoring

/-- What `ClientHandler.sendMessage` writes to the channel. -/
def sendMessage (message : List UInt8) : List UInt8 :=
  addPrefixMessageSize message

/-- A text of 7-bit characters. -/
def SevenBit (text : JavaString) : Prop :=
  ∀ unit ∈ text, unit < 128

instance (text : JavaString) : Decidable (SevenBit text) :=
  List.decidableBAll (fun unit => unit < 128) text

/-- The same characters as a string of the server. -/
def chars (text : JavaString) : ByteString :=
  text.map UInt16.toUInt8

/-- The texts of a command have 7-bit characters. -/
def Administrator.Command.Plain : Command → Prop
  | .updateSensorName _ name => SevenBit name
  | .generateToken tokenName => SevenBit tokenName
  | _ => True

/-- The request that stands for a command. -/
def Administrator.Command.request (clientId : Int) : Command → AdministratorRequest
  | .getAllSensors => { clientId := clientId, commandType := .getAllSensors }
  | .updateSensorName id name =>
      { clientId := clientId
        commandType := .updateSensorName
        sensorId := id.toInt
        sensorName := chars name }
  | .revokeSensor id =>
      { clientId := clientId, commandType := .revokeSensor, sensorId := id.toInt }
  | .disconnectSensor id =>
      { clientId := clientId, commandType := .disconnectSensor, sensorId := id.toInt }
  | .generateToken tokenName =>
      { clientId := clientId, commandType := .generateToken, tokenName := chars tokenName }

def Monitoring.Command.request (clientId : Int) : Command → MonitoringRequest
  | .getAllSensors => { clientId := clientId, commandType := .getAllSensorsMonitoring }
  | .getSetOfMeasurements sensorId type =>
      { clientId := clientId
        commandType := .getSetOfMeasurements
        sensorId := sensorId.toInt
        type := type.toInt }

section Encoding

theorem isSurrogate_of_outside {unit : UInt16}
    (outside : unit.toNat < 0xd800 ∨ 0xdfff < unit.toNat) :
    isHighSurrogate unit = false ∧ isLowSurrogate unit = false := by
  have high : isHighSurrogate unit = true ↔ 0xd800 ≤ unit.toNat ∧ unit.toNat ≤ 0xdbff := by
    simp [isHighSurrogate, UInt16.le_iff_toNat_le]
  have low : isLowSurrogate unit = true ↔ 0xdc00 ≤ unit.toNat ∧ unit.toNat ≤ 0xdfff := by
    simp [isLowSurrogate, UInt16.le_iff_toNat_le]
  rw [← Bool.not_eq_true, ← Bool.not_eq_true, high, low]
  omega

/-- A unit that is not a surrogate is encoded as the code point it is. -/
theorem encodeUnit_of_outside {unit : UInt16}
    (outside : unit.toNat < 0xd800 ∨ 0xdfff < unit.toNat) :
    encodeUnit unit = String.utf8EncodeChar (Char.ofNat unit.toNat) ∧
      (Char.ofNat unit.toNat).val.toNat = unit.toNat := by
  obtain ⟨high, low⟩ := isSurrogate_of_outside outside
  have below := unit.toNat_lt
  have valid : unit.toNat.isValidChar := by omega
  refine ⟨?_, ?_⟩
  · rw [encodeUnit, high, low, Bool.or_self, if_neg Bool.false_ne_true]
  · rw [Char.ofNat, dif_pos valid]
    rfl

theorem encodeUnit_of_lt {unit : UInt16} (small : unit < 128) :
    encodeUnit unit = [unit.toUInt8] := by
  have value : unit.toNat < 128 := small
  obtain ⟨encoded, codePoint⟩ := encodeUnit_of_outside (.inl (by omega : unit.toNat < 0xd800))
  rw [encoded]
  simp only [String.utf8EncodeChar, codePoint]
  rw [if_pos (by omega)]
  congr 1

/-- A unit that is not a surrogate is encoded on its own. -/
theorem stringToByteList_cons {unit : UInt16} (notHigh : isHighSurrogate unit = false)
    (text : JavaString) :
    stringToByteList (unit :: text) = encodeUnit unit ++ stringToByteList text := by
  cases text with
  | nil => exact (List.append_nil _).symm
  | cons low rest =>
      rw [stringToByteList, notHigh, Bool.false_and, if_neg Bool.false_ne_true]

theorem stringToByteList_sevenBit {text : JavaString} (plain : SevenBit text) :
    stringToByteList text = chars text := by
  induction text with
  | nil => rfl
  | cons unit text ih =>
      have small : unit < 128 := plain unit (by simp)
      have value : unit.toNat < 128 := small
      have notHigh := (isSurrogate_of_outside (.inl (by omega : unit.toNat < 0xd800))).1
      rw [stringToByteList_cons notHigh, encodeUnit_of_lt small,
        ih fun other member => plain other (by simp [member])]
      rfl

theorem length_utf8EncodeChar_pos (char : Char) : 1 ≤ (String.utf8EncodeChar char).length := by
  simp only [String.utf8EncodeChar]
  split_ifs <;> simp

theorem length_encodeUnit_pos (unit : UInt16) : 1 ≤ (encodeUnit unit).length := by
  unfold encodeUnit
  split
  · exact le_rfl
  · exact length_utf8EncodeChar_pos _

/-- The two surrogates of a pair make up a code point of four bytes. -/
theorem length_encodePair {high low : UInt16}
    (pair : (isHighSurrogate high && isLowSurrogate low) = true) :
    (String.utf8EncodeChar (Char.ofNat (toCodePoint high low))).length = 4 := by
  have ranges : (0xd800 ≤ high.toNat ∧ high.toNat ≤ 0xdbff) ∧
      0xdc00 ≤ low.toNat ∧ low.toNat ≤ 0xdfff := by
    simpa [isHighSurrogate, isLowSurrogate, UInt16.le_iff_toNat_le] using pair
  have lower : 0x10000 ≤ toCodePoint high low := by
    unfold toCodePoint
    omega
  have upper : toCodePoint high low < 0x110000 := by
    unfold toCodePoint
    omega
  have codePoint : (Char.ofNat (toCodePoint high low)).val.toNat = toCodePoint high low := by
    rw [Char.ofNat, dif_pos (by omega)]
    rfl
  simp only [String.utf8EncodeChar, codePoint]
  rw [if_neg (by omega), if_neg (by omega), if_neg (by omega)]
  rfl

/-- A text has at least as many bytes as units. -/
theorem length_le_stringToByteList (text : JavaString) :
    text.length ≤ (stringToByteList text).length := by
  induction text using stringToByteList.induct with
  | case1 => exact le_rfl
  | case2 unit => exact length_encodeUnit_pos unit
  | case3 high low rest pair ih =>
      rw [stringToByteList, if_pos pair, List.length_append, length_encodePair pair]
      simp only [List.length_cons]
      omega
  | case4 high low rest alone ih =>
      have := length_encodeUnit_pos high
      rw [stringToByteList, if_neg alone, List.length_append]
      simp only [List.length_cons] at ih ⊢
      omega

end Encoding

section Parsing

/-- A number that a client has written stands where it was put. -/
theorem intAt_of_drop {message later : List UInt8} {begin : Nat} {number : Int32}
    (stands : message.drop begin = intToByteList number ++ later) :
    intAt message begin = number.toInt := by
  have lower := number.le_toInt
  have upper := number.toInt_lt
  rw [intAt, stands, List.take_left' (length_intToByteList number), intToByteList_eq,
    List.reverse_reverse]
  exact Bytes.toInt_ofInt (by norm_num; omega) (by norm_num; omega)

theorem byteToInt_of_drop {message later : List UInt8} {begin : Nat} {number : Int32}
    (stands : message.drop begin = intToByteList number ++ later) :
    byteToInt message begin = some number := by
  have lengths := congrArg List.length stands
  simp only [List.length_drop, List.length_append, length_intToByteList] at lengths
  rw [byteToInt_inside (by omega), intAt_of_drop stands, Int32.ofInt_toInt]

/-- The server reads as many bytes of a text as the text has units. -/
theorem intAt_length {message later : List UInt8} {begin : Nat} {text : JavaString}
    (short : text.length < 2 ^ 31)
    (stands : message.drop begin = intToByteList (.ofNat text.length) ++ later) :
    (intAt message begin).toNat = text.length := by
  rw [intAt_of_drop stands, Int32.toInt_ofNat_of_lt short, Int.toNat_natCast]

section Administrator

open SerializerAdministratorMessage Administrator

theorem analyzeMessage_prepared (clientId : Int) (number : Int32) (parameters : List UInt8) :
    analyzeMessage clientId (prepareIntegerMessageWithSize number ++ parameters) =
      analyzeCommand clientId number parameters := by
  have sizeOfCommandType :
      byteToInt (prepareIntegerMessageWithSize number ++ parameters) 0 = some 4 :=
    byteToInt_of_drop rfl
  have commandType :
      byteToInt (prepareIntegerMessageWithSize number ++ parameters) 4 = some number :=
    byteToInt_of_drop rfl
  rw [analyzeMessage, sizeOfCommandType, commandType]
  rfl

theorem analyzeSensorId_prepared (commandType : AdministratorCommandTypes) (clientId : Int)
    (id : Int32) :
    analyzeSensorId commandType clientId (prepareIntegerMessageWithSize id) =
      some { clientId := clientId, commandType := commandType, sensorId := id.toInt } := by
  have readId : intAt (prepareIntegerMessageWithSize id) 4 = id.toInt :=
    intAt_of_drop (List.append_nil _).symm
  rw [analyzeSensorId_eq, if_pos (by rfl), readId]

theorem analyzeUpdateSensorName_prepared (clientId : Int) (id : Int32) {name : JavaString}
    (short : name.length < 2 ^ 31) :
    analyzeMessage clientId (prepareMessageUpdateSensorName id name) =
      some (some
        { clientId := clientId
          commandType := .updateSensorName
          sensorId := id.toInt
          sensorName := (stringToByteList name).take name.length }) := by
  have readId : intAt (prepareIntegerMessageWithSize id ++ prepareStringMessageWithSize name) 4 =
      id.toInt :=
    intAt_of_drop rfl
  have sizeOfName :
      (intAt (prepareIntegerMessageWithSize id ++ prepareStringMessageWithSize name) 8).toNat =
        name.length :=
    intAt_length short rfl
  have long := length_le_stringToByteList name
  have parsed : analyzeUpdateSensorName clientId
      (prepareIntegerMessageWithSize id ++ prepareStringMessageWithSize name) =
        some
          { clientId := clientId
            commandType := .updateSensorName
            sensorId := id.toInt
            sensorName := (stringToByteList name).take name.length } := by
    rw [analyzeUpdateSensorName_eq, if_pos, readId, sizeOfName]
    · rfl
    · rw [sizeOfName]
      simp only [prepareIntegerMessageWithSize, prepareStringMessageWithSize,
        List.length_append, length_intToByteList]
      omega
  rw [prepareMessageUpdateSensorName, analyzeMessage_prepared, analyzeCommand,
    if_neg (by decide), if_pos rfl, parsed]
  rfl

theorem analyzeGenerateToken_prepared (clientId : Int) {tokenName : JavaString}
    (short : tokenName.length < 2 ^ 31) :
    analyzeMessage clientId (prepareMessageGenerateToken tokenName) =
      some (some
        { clientId := clientId
          commandType := .generateToken
          tokenName := (stringToByteList tokenName).take tokenName.length }) := by
  have sizeOfName : (intAt (prepareStringMessageWithSize tokenName) 0).toNat = tokenName.length :=
    intAt_length short rfl
  have long := length_le_stringToByteList tokenName
  have parsed : analyzeGenerateToken clientId (prepareStringMessageWithSize tokenName) =
      some
        { clientId := clientId
          commandType := .generateToken
          tokenName := (stringToByteList tokenName).take tokenName.length } := by
    rw [analyzeGenerateToken_eq, if_pos, sizeOfName]
    · rfl
    · rw [sizeOfName]
      simp only [prepareStringMessageWithSize, List.length_append, length_intToByteList]
      omega
  rw [prepareMessageGenerateToken, analyzeMessage_prepared, analyzeCommand,
    if_neg (by decide), if_neg (by decide), if_neg (by decide), if_neg (by decide), if_pos rfl,
    parsed]
  rfl

theorem take_stringToByteList {text : JavaString} (plain : SevenBit text) :
    (stringToByteList text).take text.length = chars text := by
  rw [stringToByteList_sevenBit plain]
  exact List.take_of_length_le (by simp [chars])

/-- A text is not longer than a message that it is sent in. -/
theorem length_le_prepareStringMessageWithSize (text : JavaString) :
    text.length ≤ (prepareStringMessageWithSize text).length := by
  have := length_le_stringToByteList text
  rw [prepareStringMessageWithSize, List.length_append]
  omega

/-- A command is taken for the request that it stands for. -/
theorem Administrator.analyzeMessage_message {command : Administrator.Command}
    (plain : command.Plain) (short : command.message.length ≤ 512) (clientId : Int) :
    analyzeMessage clientId command.message = some (some (command.request clientId)) := by
  cases command with
  | getAllSensors => exact analyzeMessage_prepared clientId 0 []
  | updateSensorName id name =>
      have := length_le_prepareStringMessageWithSize name
      simp only [Command.message, prepareMessageUpdateSensorName, List.length_append] at short
      rw [Command.message, analyzeUpdateSensorName_prepared clientId id (by omega),
        take_stringToByteList plain]
      rfl
  | revokeSensor id =>
      rw [Command.message, prepareMessageRevokeSensor, analyzeMessage_prepared, analyzeCommand,
        if_neg (by decide), if_neg (by decide), if_pos rfl, analyzeRevokeSensor,
        analyzeSensorId_prepared]
      rfl
  | disconnectSensor id =>
      rw [Command.message, prepareMessageDisconnectSensor, analyzeMessage_prepared,
        analyzeCommand, if_neg (by decide), if_neg (by decide), if_neg (by decide), if_pos rfl,
        analyzeDisconnectSensor, analyzeSensorId_prepared]
      rfl
  | generateToken tokenName =>
      have := length_le_prepareStringMessageWithSize tokenName
      simp only [Command.message, prepareMessageGenerateToken, List.length_append] at short
      rw [Command.message, analyzeGenerateToken_prepared clientId (by omega),
        take_stringToByteList plain]
      rfl

end Administrator

/-- The size in front of the command is skipped. -/
theorem Monitoring.analyzeMessage_message (command : Monitoring.Command) (clientId : Int) :
    SerializerMonitoringMessage.analyzeMessage clientId command.message =
      some (some (command.request clientId)) := by
  have nonempty : command.message ≠ [] := by
    cases command <;> exact List.cons_ne_nil _ _
  rw [SerializerMonitoringMessage.analyzeMessage_eq clientId nonempty]
  cases command with
  | getAllSensors =>
      have commandType : intAt (Command.message .getAllSensors) 8 = Int32.toInt 0 :=
        intAt_of_drop rfl
      rw [if_pos (by decide), commandType, if_pos (by decide)]
      rfl
  | getSetOfMeasurements sensorId type =>
      have commandType : intAt (Command.message (.getSetOfMeasurements sensorId type)) 8 =
          Int32.toInt 1 :=
        intAt_of_drop rfl
      have readId : intAt (Command.message (.getSetOfMeasurements sensorId type)) 16 =
          sensorId.toInt :=
        intAt_of_drop rfl
      have readType : intAt (Command.message (.getSetOfMeasurements sensorId type)) 24 =
          type.toInt :=
        intAt_of_drop rfl
      have length : (Command.message (.getSetOfMeasurements sensorId type)).length = 28 := rfl
      rw [if_pos (by omega), commandType, if_neg (by decide), if_pos (by decide), if_pos (by omega),
        readId, readType]
      rfl

end Parsing

section Framing

/-- A message that is sent is a frame. -/
theorem sendMessage_eq {message : List UInt8} (short : message.length ≤ 512) :
    sendMessage message = wire.frame message := by
  rw [sendMessage, addPrefixMessageSize, intToByteListLittleEndian_eq,
    Int32.toInt_ofNat_of_lt (by omega), Bytes.ofInt_natCast]
  rfl

/-- The messages that are sent, one after the other, are delivered as they are
and taken for what they are. -/
theorem delivered {α ρ : Type} {client : Client} (reading : client.Reading [])
    {calls : List Client.RecvCall} (hands : client.HandsOut calls) {commands : List α}
    {message : α → List UInt8} {analyzed : List UInt8 → ρ} {request : α → ρ}
    (short : ∀ command ∈ commands, message command ≠ [] ∧ (message command).length ≤ 512)
    (received : Client.receivedBytes calls =
      commands.flatMap fun command => sendMessage (message command))
    (understood : ∀ command ∈ commands, analyzed (message command) = request command) :
    (client.recvAll calls).1.map analyzed = commands.map request := by
  have frames : Client.receivedBytes calls = wire.encode (commands.map message) := by
    rw [received, Framing.Format.encode, List.flatMap_map]
    exact List.flatMap_congr fun command member => sendMessage_eq (short command member).2
  have allowed : ∀ body ∈ commands.map message, wire.Allowed body := by
    intro body member
    obtain ⟨command, inside, rfl⟩ := List.mem_map.mp member
    exact short command inside
  rw [reading.recvAll_encode hands allowed frames, List.map_map]
  exact List.map_congr_left understood

/-- Commands whose messages have at most 512 bytes and whose texts have 7-bit
characters arrive as the requests that stand for them, in the order in which
they were sent and in whatever pieces the server receives them. -/
theorem commands_understood {client start : Client} {blockSend blockRecv : Bool}
    {socket slot : Int} {service : SockAddr} {initMsg : List UInt8} {conn : Nat}
    (bound : start = client.reset.connected blockSend blockRecv socket slot service initMsg conn)
    {calls : List Client.RecvCall} (hands : start.HandsOut calls) (clientId : Int) :
    (∀ commands : List Administrator.Command,
      (∀ command ∈ commands, command.Plain ∧ command.message.length ≤ 512) →
        Client.receivedBytes calls =
          commands.flatMap (fun command => sendMessage command.message) →
        (start.recvAll calls).1.map (SerializerAdministratorMessage.analyzeMessage clientId) =
          commands.map fun command => some (some (command.request clientId))) ∧
      ∀ commands : List Monitoring.Command,
        (∀ command ∈ commands, command.message.length ≤ 512) →
        Client.receivedBytes calls =
          commands.flatMap (fun command => sendMessage command.message) →
        (start.recvAll calls).1.map (SerializerMonitoringMessage.analyzeMessage clientId) =
          commands.map fun command => some (some (command.request clientId)) := by
  have reading : start.Reading [] := by
    rw [bound]
    exact Client.reading_connected ..
  constructor
  · intro commands plain received
    apply delivered reading hands _ received
    · intro command member
      exact Administrator.analyzeMessage_message (plain command member).1
        (plain command member).2 clientId
    · intro command member
      refine ⟨?_, (plain command member).2⟩
      cases command <;> exact List.cons_ne_nil _ _
  · intro commands short received
    apply delivered reading hands _ received
    · exact fun command _ => Monitoring.analyzeMessage_message command clientId
    · intro command member
      refine ⟨?_, short command member⟩
      cases command <;> exact List.cons_ne_nil _ _

/-- Two commands of the administrator, the second with a negative id, and one
of the monitoring client. -/
theorem commands_understood_threeCommands :
    ((((Client.unbound true false false).reset.connected false false 5 0 .zero [] 0).recvAll
      [⟨[21, 0], fun _ => 9⟩, ⟨[0, 0], fun _ => 9⟩,
        ⟨[0, 0, 0, 4, 0, 0, 0, 1, 0, 0, 0, 4, 0, 0, 0, 1, 0, 0, 0, 1, 97], fun _ => 9⟩,
        ⟨[16, 0, 0, 0], fun _ => 9⟩,
        ⟨[0, 0, 0, 4, 0, 0, 0, 2, 0, 0, 0, 4, 255, 255, 255, 251], fun _ => 9⟩]).1.map
      (SerializerAdministratorMessage.analyzeMessage 0) =
        [some (some
          { clientId := 0, commandType := .updateSensorName, sensorId := 1, sensorName := [97] }),
          some (some { clientId := 0, commandType := .revokeSensor, sensorId := -5 })]) ∧
      (((Client.unbound true false false).reset.connected false false 5 3 .zero [] 0).recvAll
        [⟨[28, 0, 0, 0], fun _ => 9⟩, ⟨[24, 0, 0, 0, 0, 0, 0, 4, 0, 0, 0, 1], fun _ => 9⟩,
          ⟨[0, 0, 0, 4, 0, 0, 0, 7, 0, 0, 0, 4, 0, 0, 0, 2], fun _ => 9⟩]).1.map
        (SerializerMonitoringMessage.analyzeMessage 3) =
          [some (some
            { clientId := 3, commandType := .getSetOfMeasurements, sensorId := 7, type := 2 })] := by
  constructor
  · apply (commands_understood rfl (by decide) 0).1
      [.updateSensorName 1 [97], .revokeSensor (-5)]
    · intro command member
      rcases List.mem_cons.mp member with rfl | later
      · exact ⟨by change SevenBit [97]; decide, by decide⟩
      · obtain rfl := List.mem_singleton.mp later
        exact ⟨trivial, by decide⟩
    · decide
  · apply (commands_understood rfl (by decide) 3).2 [.getSetOfMeasurements 7 2]
    · decide
    · decide

end Framing

end SensorManager.JavaClient
