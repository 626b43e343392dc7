import SensorManager.Lib.Decimal
import SensorManager.Lib.Lines

/-!
# Preferences

The preferences of a program are a map of strings, saved in a file with a line
for each entry: the key, a colon and the value.  Nothing is escaped; what the
setters are given is not checked, and `load` leaves out the entries that do not
pass `checkKey` and `checkString`.
-/

namespace SensorManager

/-- `values` of the one instance, a `std::map` in the order of the keys' bytes. -/
structure UserPrefs where
  values : Std.ExtTreeMap (List UInt8) (List UInt8)

namespace UserPrefs

/-- `isalpha` in the C locale; no byte above 127 is a letter there. -/
def isalpha (c : UInt8) : Bool :=
  65 ≤ c.toNat && c.toNat ≤ 90 || 97 ≤ c.toNat && c.toNat ≤ 122

def isdigit (c : UInt8) : Bool :=
  Decimal.isDigit c

/-- No character is a newline. -/
def checkString (str : List UInt8) : Bool :=
  str.all fun c => c ≠ 10

/-- Letters, digits, '_' and '-' only. -/
def checkKey (key : List UInt8) : Bool :=
  checkString key && key.all fun c => isalpha c || isdigit c || c = 95 || c = 45

/-- What is written for an entry before `endl`. -/
def entryLine (value : List UInt8 × List UInt8) : List UInt8 :=
  value.1 ++ 58 :: value.2

/-- The contents of the file after `save`; `good` says that it could be opened for
writing, and `none` is a file that does not exist. -/
def save (prefs : UserPrefs) (good : Bool) (file : Option (List UInt8)) :
    Option (List UInt8) :=
  if good then some (prefs.values.toList.flatMap fun value => entryLine value ++ [10])
  else file

/-- `str.substr(pos, len)` with `pos` inside the string. -/
def substr (str : List UInt8) (pos len : Nat) : List UInt8 :=
  (str.drop pos).take len

/-- The body of the loop in `load`. -/
def loadLine (values : Std.ExtTreeMap (List UInt8) (List UInt8)) (line : List UInt8) :
    Std.ExtTreeMap (List UInt8) (List UInt8) :=
  match line.idxOf? 58 with
  | none => values
  | some found =>
      let key := substr line 0 found
      let val := substr line (found + 1) line.length
      if !checkKey key || !checkString val then values
      else values.insert key val

/-- The map is cleared also if the file cannot be opened. -/
def load (prefs : UserPrefs) (file : Option (List UInt8)) : UserPrefs :=
  let cleared := { prefs with values := ∅ }
  match file with
  | none => cleared
  | some text => { cleared with values := Lines.foldLines 10 loadLine cleared.values text }

/-- The instance, when a program asks for it first. -/
def construct (file : Option (List UInt8)) : UserPrefs :=
  load ⟨∅⟩ file

/-- `stringstream` writes an `int` in decimal. -/
def intToStr (x : Int32) : List UInt8 :=
  Decimal.print x.toInt

def setString (prefs : UserPrefs) (key value : List UInt8) : UserPrefs :=
  { prefs with values := prefs.values.insert key value }

def setInt (prefs : UserPrefs) (key : List UInt8) (value : Int32) : UserPrefs :=
  { prefs with values := prefs.values.insert key (intToStr value) }

/-- `values[key]`, which inserts an empty string for a key that is missing. -/
def subscript (prefs : UserPrefs) (key : List UInt8) : List UInt8 × UserPrefs :=
  match prefs.values[key]? with
  | some value => (value, prefs)
  | none => ([], { prefs with values := prefs.values.insert key [] })

inductive StoiError where
  | invalidArgument
  | outOfRange
deriving DecidableEq

/-- `std::stoi`. -/
def stoi (str : List UInt8) : Except StoiError Int32 :=
  match Decimal.read str with
  | none => .error .invalidArgument
  | some number =>
      if Int32.minValue.toInt ≤ number ∧ number ≤ Int32.maxValue.toInt then
        .ok (Int32.ofInt number)
      else .error .outOfRange

/-- What `getInt` returns or throws, and the preferences after it. -/
def getInt (prefs : UserPrefs) (key : List UInt8) : Except StoiError Int32 × UserPrefs :=
  let found := prefs.subscript key
  (stoi found.1, found.2)

def getString (prefs : UserPrefs) (key : List UInt8) : List UInt8 × UserPrefs :=
  prefs.subscript key

/-- Every entry passes the checks. -/
def Checked (prefs : UserPrefs) : Prop :=
  ∀ key value, prefs.values[key]? = some value →
    checkKey key = true ∧ checkString value = true

variable {prefs : UserPrefs} {key value : List UInt8}

theorem checkString_iff : checkString value = true ↔ 10 ∉ value := by
  simp [checkString, List.forall_mem_ne']

theorem newline_notMem_key (checked : checkKey key = true) : 10 ∉ key :=
  checkString_iff.mp (Bool.and_eq_true_iff.mp checked).1

theorem colon_notMem_key (checked : checkKey key = true) : 58 ∉ key := by
  intro member
  have colon := List.all_eq_true.mp (Bool.and_eq_true_iff.mp checked).2 58 member
  exact absurd colon (by decide)

theorem checked_empty : Checked ⟨∅⟩ := by
  intro key value found
  simp at found

theorem checked_setString (checked : prefs.Checked) (keyChecked : checkKey key = true)
    (valueChecked : checkString value = true) : (prefs.setString key value).Checked := by
  intro other stored found
  rw [setString, Std.ExtTreeMap.getElem?_insert] at found
  split at found
  · next same =>
      obtain rfl := Std.LawfulEqCmp.eq_of_compare same
      obtain rfl := Option.some.inj found
      exact ⟨keyChecked, valueChecked⟩
  · exact checked other stored found

section Lines

theorem newline_notMem_entryLine (keyChecked : checkKey key = true)
    (valueChecked : checkString value = true) : 10 ∉ entryLine (key, value) := by
  rw [entryLine, List.mem_append, List.mem_cons, not_or, not_or]
  exact ⟨newline_notMem_key keyChecked, by decide, checkString_iff.mp valueChecked⟩

/-- The line is taken apart at the first colon, which is not in the key. -/
theorem loadLine_entryLine (keyChecked : checkKey key = true)
    (valueChecked : checkString value = true)
    (values : Std.ExtTreeMap (List UInt8) (List UInt8)) :
    loadLine values (entryLine (key, value)) = values.insert key value := by
  have found : (entryLine (key, value)).idxOf? 58 = some key.length :=
    Lines.idxOf?_separator (colon_notMem_key keyChecked) value
  have front : substr (entryLine (key, value)) 0 key.length = key := by
    simp [substr, entryLine]
  have back : substr (entryLine (key, value)) (key.length + 1) (entryLine (key, value)).length =
      value := by
    have tail : (entryLine (key, value)).drop (key.length + 1) = value := by
      simp [entryLine]
    rw [substr, tail]
    exact List.take_of_length_le (by simp [entryLine]; omega)
  simp only [loadLine, found, front, back, keyChecked, valueChecked]
  rfl

/-- What a line adds has passed the checks. -/
theorem checked_loadLine {values : Std.ExtTreeMap (List UInt8) (List UInt8)}
    (checked : Checked ⟨values⟩) (line : List UInt8) : Checked ⟨loadLine values line⟩ := by
  unfold loadLine
  split
  · exact checked
  · dsimp only
    split
    · exact checked
    · next passed =>
        simp only [Bool.or_eq_true, Bool.not_eq_true', not_or, Bool.not_eq_false] at passed
        exact checked_setString checked passed.1 passed.2

end Lines

section SaveLoad

variable {file : Option (List UInt8)} (previous : UserPrefs)

theorem checked_load : (previous.load file).Checked := by
  cases file with
  | none => exact checked_empty
  | some text =>
      have keeps : ∀ values line, 10 ∉ line → Checked ⟨values⟩ → Checked ⟨loadLine values line⟩ :=
        fun values line _ now => checked_loadLine now line
      exact Lines.foldLines_keeps keeps checked_empty text

theorem load_save (checked : prefs.Checked) : previous.load (prefs.save true file) = prefs := by
  have each : ∀ entry ∈ prefs.values.toList,
      checkKey entry.1 = true ∧ checkString entry.2 = true :=
    fun entry member => checked _ _ (Std.ExtTreeMap.mem_toList_iff_getElem?_eq_some.mp member)
  have ended : ∀ entry ∈ prefs.values.toList, 10 ∉ entryLine entry :=
    fun entry member => newline_notMem_entryLine (each entry member).1 (each entry member).2
  have inserts : ∀ sofar, ∀ entry ∈ prefs.values.toList,
      loadLine sofar (entryLine entry) = sofar.insert entry.1 entry.2 :=
    fun sofar entry member => loadLine_entryLine (each entry member).1 (each entry member).2 sofar
  exact congrArg UserPrefs.mk (Lines.foldLines_entries ended inserts)

/-- Saved preferences come back exactly when they pass the checks. -/
theorem load_save_iff : previous.load (prefs.save true file) = prefs ↔ prefs.Checked := by
  constructor
  · intro same
    rw [← same]
    exact checked_load previous
  · exact load_save previous

end SaveLoad

section Integers

variable {x : Int32}

theorem checkString_intToStr : checkString (intToStr x) = true :=
  checkString_iff.mpr (Decimal.notMem_print (by decide) (by decide) _)

theorem stoi_intToStr : stoi (intToStr x) = .ok x := by
  have inRange : Int32.minValue.toInt ≤ x.toInt ∧ x.toInt ≤ Int32.maxValue.toInt :=
    ⟨x.minValue_le_toInt, x.toInt_le⟩
  rw [stoi, intToStr, Decimal.read_print]
  dsimp only
  rw [if_pos inRange, Int32.ofInt_toInt]

theorem subscript_of_found (found : prefs.values[key]? = some value) :
    prefs.subscript key = (value, prefs) := by
  rw [subscript, found]

theorem getInt_of_found (found : prefs.values[key]? = some (intToStr x)) :
    prefs.getInt key = (.ok x, prefs) := by
  rw [getInt, subscript_of_found found, stoi_intToStr]

theorem getInt_setInt : (prefs.setInt key x).getInt key = (.ok x, prefs.setInt key x) :=
  getInt_of_found Std.ExtTreeMap.getElem?_insert_self

theorem checked_setInt (checked : prefs.Checked) (keyChecked : checkKey key = true) :
    (prefs.setInt key x).Checked :=
  checked_setString checked keyChecked checkString_intToStr

end Integers

/-- Checked preferences survive save and load, and so do the integers in them. -/
theorem survives (checked : prefs.Checked) (previous : UserPrefs) (file : Option (List UInt8)) :
    previous.load (prefs.save true file) = prefs ∧
      ∀ (key : List UInt8) (x : Int32), checkKey key = true →
        (previous.load ((prefs.setInt key x).save true file)).getInt key =
          (.ok x, prefs.setInt key x) := by
  refine ⟨load_save previous checked, ?_⟩
  intro key x keyChecked
  rw [load_save previous (checked_setInt checked keyChecked)]
  exact getInt_setInt

/-- An empty key with a value of colons, and an empty value. -/
theorem survives_colons :
    load (setInt ⟨∅⟩ [98] 3) (save ((setString ⟨∅⟩ [] [58, 58]).setString [97] []) true none) =
        (setString ⟨∅⟩ [] [58, 58]).setString [97] [] ∧
      (load (setInt ⟨∅⟩ [98] 3)
          (save (((setString ⟨∅⟩ [] [58, 58]).setString [97] []).setInt [45] (-2 ^ 31)) true
            none)).getInt [45] =
        (.ok (-2 ^ 31), ((setString ⟨∅⟩ [] [58, 58]).setString [97] []).setInt [45] (-2 ^ 31)) := by
  have first : (setString ⟨∅⟩ [] [58, 58]).Checked :=
    checked_setString checked_empty (by decide) (by decide)
  have both : ((setString ⟨∅⟩ [] [58, 58]).setString [97] []).Checked :=
    checked_setString first (by decide) (by decide)
  have saved := survives both (setInt ⟨∅⟩ [98] 3) none
  exact ⟨saved.1, saved.2 [45] (-2 ^ 31) (by decide)⟩

end UserPrefs

end SensorManager
