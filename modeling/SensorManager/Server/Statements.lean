import SensorManager.Lib.Decimal
import SensorManager.Lib.SqlLiteral
import SensorManager.Server.InitDecided
import SensorManager.Server.Registry

/-!
# The texts of the statements

`DatabaseConnection` puts tokens and names between quotes as they are.  The
statement that comes about means what it is meant to exactly when the text that
went into it has no quote.
-/

namespace SensorManager

open SqlPart

/-- The bytes of a text of the program. -/
def literally (text : String) : ByteString :=
  text.toList.map fun letter => UInt8.ofNat letter.toNat

theorem quote_notMem_decimal (value : Int) : 39 ∉ Decimal.print value :=
  Decimal.notMem_print (by decide) (by decide) value

namespace DatabaseConnection

/-- The first statement of `addSensor`. -/
def addSensorUpdate (ip : ByteString) (port : Int) (token : ByteString) : ByteString :=
  literally "UPDATE SENSORS \nSET ip='" ++ ip ++ literally "', port=" ++ Decimal.print port ++
    literally ", status='ACTIVE' \nWHERE token='" ++ token ++ literally "'" ++
    literally " AND status NOT LIKE 'REVOKED'"

/-- The second statement of `addSensor`. -/
def addSensorQuery (ip : ByteString) (port : Int) (token : ByteString) : ByteString :=
  literally "SELECT id, name, ip, port \nFROM SENSORS\nWHERE ip = '" ++ ip ++
    literally "' AND port = " ++ Decimal.print port ++ literally "AND token='" ++ token ++ literally "'"

def checkIfTokenIsWhitelistedQuery (token : ByteString) : ByteString :=
  literally "SELECT status \nFROM SENSORS \nWHERE token='" ++ token ++ literally "'"

def getSensorIdQuery (token : ByteString) : ByteString :=
  literally "SELECT id \nFROM sensors \nWHERE token='" ++ token ++ literally "'"

def editSensorUpdate (id : Int) (name : ByteString) : ByteString :=
  literally "UPDATE SENSORS\nSET name = '" ++ name ++ literally "' WHERE id = " ++ Decimal.print id

end DatabaseConnection

/-- What the statements are meant to be. -/
inductive Statement where
  | activate (ip : ByteString) (port : Int) (token : ByteString)
  | selectActivated (ip : ByteString) (port : Int) (token : ByteString)
  | selectStatus (token : ByteString)
  | selectId (token : ByteString)
  | rename (id : Int) (name : ByteString)

namespace Statement

/-- The program's text and the values of a statement. -/
def parts : Statement → List (SqlPart UInt8)
  | .activate ip port token =>
      [.words (literally "UPDATE SENSORS \nSET ip="), .quoted ip,
        .words (literally ", port=" ++ Decimal.print port ++ literally ", status="), .quoted (literally "ACTIVE"),
        .words (literally " \nWHERE token="), .quoted token,
        .words (literally " AND status NOT LIKE "), .quoted (literally "REVOKED")]
  | .selectActivated ip port token =>
      [.words (literally "SELECT id, name, ip, port \nFROM SENSORS\nWHERE ip = "), .quoted ip,
        .words (literally " AND port = " ++ Decimal.print port ++ literally "AND token="), .quoted token]
  | .selectStatus token =>
      [.words (literally "SELECT status \nFROM SENSORS \nWHERE token="), .quoted token]
  | .selectId token => [.words (literally "SELECT id \nFROM sensors \nWHERE token="), .quoted token]
  | .rename id name =>
      [.words (literally "UPDATE SENSORS\nSET name = "), .quoted name,
        .words (literally " WHERE id = " ++ Decimal.print id)]

/-- The `WHERE` clause. -/
def selects : Statement → SensorRow → Bool
  | .activate _ _ token, row => row.hasToken token && row.notRevoked
  | .selectActivated ip port token, row =>
      ip ≠ [] && row.columns.ip = ip && row.columns.port = port && row.hasToken token
  | .selectStatus token, row => row.hasToken token
  | .selectId token, row => row.hasToken token
  | .rename id _, row => row.hasId id

/-- The `SET` clause, if there is one. -/
def sets : Statement → SensorColumns → SensorColumns
  | .activate ip port _, columns => { columns with ip := ip, port := port, status := .active }
  | .rename _ name, columns => { columns with name := name }
  | _, columns => columns

/-- What the statement makes of the tables. -/
def run (statement : Statement) : Registry → Registry :=
  Registry.update statement.selects statement.sets

/-- The text has the tokens of the statement. -/
def Means (text : ByteString) (statement : Statement) : Prop :=
  SqlToken.tokenise 39 .code text = some (statement.parts.flatMap tokens)

theorem wellFormed_parts (statement : Statement) : WellFormed 39 statement.parts := by
  have number := quote_notMem_decimal
  cases statement with
  | activate ip port token =>
      have before : 39 ∉ literally ", port=" ++ Decimal.print port ++ literally ", status=" := by
        have first : 39 ∉ literally ", port=" := by decide
        have last : 39 ∉ literally ", status=" := by decide
        simp [first, number, last]
      refine .words (by decide) (.quoted ip (by simp [literally]) (.words before ?_))
      refine .quoted _ (by decide) (.words (by decide) (.quoted token (by decide) ?_))
      exact .words (by decide) (.last _)
  | selectActivated ip port token =>
      have before : 39 ∉ literally " AND port = " ++ Decimal.print port ++ literally "AND token=" := by
        have first : 39 ∉ literally " AND port = " := by decide
        have last : 39 ∉ literally "AND token=" := by decide
        simp [first, number, last]
      exact .words (by decide) (.quoted ip (by simp [literally]) (.words before (.last token)))
  | selectStatus token => exact .words (by decide) (.last token)
  | selectId token => exact .words (by decide) (.last token)
  | rename id name =>
      have after : 39 ∉ literally " WHERE id = " ++ Decimal.print id := by
        have first : 39 ∉ literally " WHERE id = " := by decide
        simp [first, number]
      exact .words (by decide) (.quoted name (by simp [literally]) (.words after .nil))

/-- A statement is meant exactly when its values have no quotes. -/
theorem means_iff {text : ByteString} {statement : Statement}
    (isText : text = statement.parts.flatMap (SqlPart.text 39)) :
    Means text statement ↔ ∀ value, .quoted value ∈ statement.parts → 39 ∉ value := by
  rw [Means, isText]
  exact tokenise_text_iff statement.wellFormed_parts

theorem addSensorUpdate_eq (ip : ByteString) (port : Int) (token : ByteString) :
    DatabaseConnection.addSensorUpdate ip port token =
      (activate ip port token).parts.flatMap (SqlPart.text 39) := by
  simp [DatabaseConnection.addSensorUpdate, parts, SqlPart.text, literally]

theorem addSensorQuery_eq (ip : ByteString) (port : Int) (token : ByteString) :
    DatabaseConnection.addSensorQuery ip port token =
      (selectActivated ip port token).parts.flatMap (SqlPart.text 39) := by
  simp [DatabaseConnection.addSensorQuery, parts, SqlPart.text, literally]

theorem checkIfTokenIsWhitelistedQuery_eq (token : ByteString) :
    DatabaseConnection.checkIfTokenIsWhitelistedQuery token =
      (selectStatus token).parts.flatMap (SqlPart.text 39) := by
  simp [DatabaseConnection.checkIfTokenIsWhitelistedQuery, parts, SqlPart.text, literally]

theorem getSensorIdQuery_eq (token : ByteString) :
    DatabaseConnection.getSensorIdQuery token =
      (selectId token).parts.flatMap (SqlPart.text 39) := by
  simp [DatabaseConnection.getSensorIdQuery, parts, SqlPart.text, literally]

theorem editSensorUpdate_eq (id : Int) (name : ByteString) :
    DatabaseConnection.editSensorUpdate id name =
      (rename id name).parts.flatMap (SqlPart.text 39) := by
  simp [DatabaseConnection.editSensorUpdate, parts, SqlPart.text, literally]

end Statement

section Calls

open Statement

/-- The calls of the registry send these statements. -/
theorem Registry.addSensor_eq (ip : ByteString) (port : Int) (token : ByteString) :
    Registry.addSensor ip port token = (do
      executeUpdate (activate ip port token).run
      let row ← firstRow (selectActivated ip port token).selects
      return row.toSensor) := rfl

theorem Registry.checkIfTokenIsWhitelisted_eq (token : ByteString) :
    Registry.checkIfTokenIsWhitelisted token = (do
      let row ← firstRow (selectStatus token).selects
      return row.notRevoked) := rfl

theorem Registry.getSensorId_eq (token : ByteString) :
    Registry.getSensorId token = (do
      let row ← firstRow (selectId token).selects
      return row.id) := rfl

theorem Registry.editSensor_eq (id : Int) (name : ByteString) :
    Registry.editSensor id name = (do
      executeUpdate (rename id name).run
      getSensor id) := rfl

end Calls

namespace DatabaseConnection

open Statement

/-- The text means some statement that finds no row without the token. -/
def TestsToken (text token : ByteString) : Prop :=
  ∃ statement, Means text statement ∧ ∀ row, statement.selects row = true → row.token = token

/-- The text means some statement that writes nothing but the name of the row
with the id. -/
def Renames (text : ByteString) (id : Int) (name : ByteString) : Prop :=
  ∃ statement, Means text statement ∧ ∀ registry,
    statement.run registry = { registry with
      rows := registry.rows.map fun row =>
        if row.id = id then { row with columns := { row.columns with name := name } } else row }

/-- Every statement that a text goes into means what it is meant to. -/
structure KeepsMeaning (input : ByteString) : Prop where
  addSensor : ∀ ip port, Dotted ip →
    Means (addSensorUpdate ip port input) (.activate ip port input) ∧
      Means (addSensorQuery ip port input) (.selectActivated ip port input)
  checkIfTokenIsWhitelisted : Means (checkIfTokenIsWhitelistedQuery input) (.selectStatus input)
  getSensorId : Means (getSensorIdQuery input) (.selectId input)
  editSensor : ∀ id, Means (editSensorUpdate id input) (.rename id input)
  addSensor_tests : ∀ ip port, Dotted ip →
    TestsToken (addSensorUpdate ip port input) input ∧
      TestsToken (addSensorQuery ip port input) input
  checkIfTokenIsWhitelisted_tests : TestsToken (checkIfTokenIsWhitelistedQuery input) input
  getSensorId_tests : TestsToken (getSensorIdQuery input) input
  editSensor_renames : ∀ id, Renames (editSensorUpdate id input) id input

theorem quoted_eq_false_iff {text : ByteString} : quoted text = false ↔ 39 ∉ text := by
  rw [quoted, List.contains_eq_mem, decide_eq_false_iff_not]

theorem testsToken_of_means {text token : ByteString} {statement : Statement}
    (means : Means text statement)
    (tests : ∀ row, statement.selects row = true → row.hasToken token = true) :
    TestsToken text token :=
  ⟨statement, means, fun row selected => (SensorRow.hasToken_iff.mp (tests row selected)).2⟩

theorem run_rename (id : Int) (name : ByteString) (registry : Registry) :
    (rename id name).run registry = { registry with
      rows := registry.rows.map fun row =>
        if row.id = id then { row with columns := { row.columns with name := name } } else row } := by
  unfold Statement.run Registry.update
  congr 2
  funext row
  by_cases same : row.id = id
  · simp [selects, sets, SensorRow.hasId, same]
  · simp [selects, SensorRow.hasId, same]

/-- A text keeps the meaning of all statements if and only if it has no
quote. -/
theorem keepsMeaning_iff (input : ByteString) : KeepsMeaning input ↔ quoted input = false := by
  rw [quoted_eq_false_iff]
  constructor
  · intro keeps
    have means := (means_iff (checkIfTokenIsWhitelistedQuery_eq input)).mp
      keeps.checkIfTokenIsWhitelisted
    exact means input (by simp [parts])
  · intro unquoted
    have active : 39 ∉ literally "ACTIVE" := by decide
    have revoked : 39 ∉ literally "REVOKED" := by decide
    have activates : ∀ ip port, Dotted ip →
        Means (addSensorUpdate ip port input) (.activate ip port input) := by
      intro ip port dotted
      have plain := quoted_eq_false_iff.mp dotted.unquoted
      rw [means_iff (addSensorUpdate_eq ip port input)]
      simp [parts, unquoted, active, revoked, plain]
    have finds : ∀ ip port, Dotted ip →
        Means (addSensorQuery ip port input) (.selectActivated ip port input) := by
      intro ip port dotted
      have plain := quoted_eq_false_iff.mp dotted.unquoted
      rw [means_iff (addSensorQuery_eq ip port input)]
      simp [parts, unquoted, plain]
    have lists : Means (checkIfTokenIsWhitelistedQuery input) (.selectStatus input) := by
      rw [means_iff (checkIfTokenIsWhitelistedQuery_eq input)]
      simp [parts, unquoted]
    have identifies : Means (getSensorIdQuery input) (.selectId input) := by
      rw [means_iff (getSensorIdQuery_eq input)]
      simp [parts, unquoted]
    have renames : ∀ id, Means (editSensorUpdate id input) (.rename id input) := by
      intro id
      rw [means_iff (editSensorUpdate_eq id input)]
      simp [parts, unquoted]
    refine ⟨fun ip port dotted => ⟨activates ip port dotted, finds ip port dotted⟩, lists,
      identifies, renames, fun ip port dotted => ⟨?_, ?_⟩, ?_, ?_, ?_⟩
    · refine testsToken_of_means (activates ip port dotted) fun row selected => ?_
      exact (Bool.and_eq_true .. ▸ selected).1
    · refine testsToken_of_means (finds ip port dotted) fun row selected => ?_
      exact (Bool.and_eq_true .. ▸ selected).2
    · exact testsToken_of_means lists fun _ selected => selected
    · exact testsToken_of_means identifies fun _ selected => selected
    · exact fun id => ⟨_, renames id, run_rename id input⟩

/-- A token that makes the test of the status hold of every row. -/
theorem keepsMeaning_fails :
    SqlToken.tokenise 39 .code (checkIfTokenIsWhitelistedQuery (literally "' OR '1'='1")) =
      some ((literally "SELECT status \nFROM SENSORS \nWHERE token=").map .symbol ++
        [.literal []] ++ (literally " OR ").map .symbol ++ [.literal (literally "1")] ++
        (literally "=").map .symbol ++ [.literal (literally "1")]) ∧
      ¬ KeepsMeaning (literally "' OR '1'='1") := by
  refine ⟨by decide +kernel, ?_⟩
  intro keeps
  have means := keeps.checkIfTokenIsWhitelisted
  revert means
  unfold Means
  decide +kernel

end DatabaseConnection

end SensorManager
