import SensorManager.Common.UserPrefs
import SensorManager.Lib.SavedMap

/-!
# Programs that keep their preferences

A program sets, reads and saves its preferences in any order, and is started
again with the file it left.  With keys and values that pass the checks this is
a map with a saved copy.
-/

namespace SensorManager.UserPrefs

/-- The preferences of a program, and their file. -/
structure Program where
  prefs : UserPrefs
  file : Option (List UInt8)

inductive Call where
  | setInt (key : List UInt8) (value : Int32)
  | setString (key value : List UInt8)
  | getInt (key : List UInt8)
  | getString (key : List UInt8)
  | save (good : Bool)
  /-- The program ends and is started again. -/
  | restart

/-- Keys and values pass the checks. -/
def Call.Fits : Call → Prop
  | .setInt key _ | .getInt key | .getString key => checkKey key = true
  | .setString key value => checkKey key = true ∧ checkString value = true
  | _ => True

/-- What a call does to the map and its saved copy. -/
def Call.operation : Call → SavedMap.Operation (List UInt8) (List UInt8)
  | .setInt key value => .put key (intToStr value)
  | .setString key value => .put key value
  | .getInt key | .getString key => .fetch key []
  | .save good => if good then .save else .idle
  | .restart => .restore

namespace Program

def call (program : Program) : Call → Program
  | .setInt key value => { program with prefs := program.prefs.setInt key value }
  | .setString key value => { program with prefs := program.prefs.setString key value }
  | .getInt key => { program with prefs := (program.prefs.getInt key).2 }
  | .getString key => { program with prefs := (program.prefs.getString key).2 }
  | .save good => { program with file := program.prefs.save good program.file }
  | .restart => { program with prefs := construct program.file }

def run (program : Program) (calls : List Call) : Program :=
  calls.foldl call program

/-- The preferences are the map, and the file is its saved copy. -/
structure Simulates (program : Program) (store : SavedMap (List UInt8) (List UInt8)) :
    Prop where
  current : ∀ key, program.prefs.values[key]? = store.current key
  saved : ∀ key, (construct program.file).values[key]? = store.saved key
  checked : program.prefs.Checked

variable {program : Program} {store : SavedMap (List UInt8) (List UInt8)}
  {key value : List UInt8}

theorem getElem?_insert_eq_update {values : Std.ExtTreeMap (List UInt8) (List UInt8)}
    {current : List UInt8 → Option (List UInt8)} (same : ∀ key, values[key]? = current key)
    (key value other : List UInt8) :
    (values.insert key value)[other]? = Function.update current key (some value) other := by
  have turned : compare key other = .eq ↔ other = key :=
    Std.LawfulEqCmp.compare_eq_iff_eq.trans eq_comm
  simp only [Std.ExtTreeMap.getElem?_insert, Function.update_apply, same, turned]

theorem simulates_put (related : Simulates program store) (keyChecked : checkKey key = true)
    (valueChecked : checkString value = true) :
    Simulates { program with prefs := program.prefs.setString key value }
      (store.apply (.put key value)) where
  current := getElem?_insert_eq_update related.current key value
  saved := related.saved
  checked := checked_setString related.checked keyChecked valueChecked

theorem simulates_fetch (related : Simulates program store) (keyChecked : checkKey key = true) :
    Simulates { program with prefs := (program.prefs.subscript key).2 }
      (store.apply (.fetch key [])) := by
  have stored := related.current key
  cases found : program.prefs.values[key]? with
  | some value =>
      rw [found] at stored
      have same : Function.update store.current key (some value) = store.current :=
        Function.update_eq_self_iff.mpr stored
      have unchanged : store.apply (.fetch key []) = store := by
        simp [SavedMap.apply, ← stored, same]
      rw [subscript_of_found found, unchanged]
      exact related
  | none =>
      rw [found] at stored
      have inserted : store.apply (.fetch key []) = store.apply (.put key []) := by
        simp [SavedMap.apply, ← stored]
      have absent : program.prefs.subscript key = ([], program.prefs.setString key []) := by
        rw [subscript, found]
        rfl
      rw [absent, inserted]
      exact simulates_put related keyChecked rfl

theorem simulates_call {call : Call} (related : Simulates program store) (fits : call.Fits) :
    Simulates (program.call call) (store.apply call.operation) := by
  cases call with
  | setInt key value => exact simulates_put related fits checkString_intToStr
  | setString key value => exact simulates_put related fits.1 fits.2
  | getInt key => exact simulates_fetch related fits
  | getString key => exact simulates_fetch related fits
  | save good =>
      cases good with
      | false => exact related
      | true =>
          refine ⟨related.current, ?_, related.checked⟩
          intro key
          have loaded : construct (program.prefs.save true program.file) = program.prefs :=
            load_save ⟨∅⟩ related.checked
          exact (congrArg (fun prefs => prefs.values[key]?) loaded).trans (related.current key)
  | restart => exact ⟨related.saved, related.saved, checked_load ⟨∅⟩⟩

theorem simulates_run {calls : List Call} (related : Simulates program store)
    (fits : ∀ call ∈ calls, call.Fits) :
    Simulates (program.run calls) (store.run (calls.map Call.operation)) := by
  induction calls generalizing program store with
  | nil => exact related
  | cons call calls ih =>
      obtain ⟨first, rest⟩ := List.forall_mem_cons.mp fits
      exact ih (simulates_call related first) rest

/-- The map that a program starts with. -/
def startStore (program : Program) : SavedMap (List UInt8) (List UInt8) where
  current key := program.prefs.values[key]?
  saved key := (construct program.file).values[key]?

theorem operation_ne_restore {call : Call} (goesOn : call ≠ .restart) :
    call.operation ≠ .restore := by
  cases call with
  | save good => cases good <;> simp [Call.operation]
  | restart => exact absurd rfl goesOn
  | _ => simp [Call.operation]

/-- An integer that was set and saved is what `getInt` returns from then on,
whatever else is set and saved, and however often the program is started again. -/
theorem getInt_of_saved {before between later : List Call} {x : Int32}
    (checked : program.prefs.Checked) (keyChecked : checkKey key = true)
    (fits : ∀ call ∈ before ++ between ++ later, call.Fits)
    (unsaved : ∀ call ∈ between, ¬ call.operation.Puts key ∧ call ≠ .restart)
    (kept : ∀ call ∈ later, ¬ call.operation.Puts key) :
    ((program.run (before ++ .setInt key x :: (between ++ .save true :: later))).prefs.getInt
      key).1 = .ok x := by
  have started : Simulates program program.startStore := ⟨fun _ => rfl, fun _ => rfl, checked⟩
  have allFit : ∀ call ∈ before ++ .setInt key x :: (between ++ .save true :: later),
      call.Fits := by
    intro call member
    simp only [List.mem_append, List.mem_cons] at member fits
    rcases member with early | rfl | middle | rfl | late
    · exact fits call (.inl (.inl early))
    · exact keyChecked
    · exact fits call (.inl (.inr middle))
    · exact trivial
    · exact fits call (.inr late)
  have notPut : ∀ operation ∈ between.map Call.operation,
      ¬ operation.Puts key ∧ operation ≠ .restore :=
    List.forall_mem_map.mpr fun call member =>
      ⟨(unsaved call member).1, operation_ne_restore (unsaved call member).2⟩
  have notPutLater : ∀ operation ∈ later.map Call.operation, ¬ operation.Puts key :=
    List.forall_mem_map.mpr kept
  have held := (@SavedMap.holds_put_save _ _ _ (program.startStore.run (before.map Call.operation)) key
    (intToStr x) _ _ notPut notPutLater).1
  have found := (simulates_run started allFit).current key
  rw [List.map_append, SavedMap.run, List.foldl_append, List.map_cons, List.map_append,
    List.map_cons] at found
  rw [getInt_of_found (found.trans held)]

end Program

end SensorManager.UserPrefs
