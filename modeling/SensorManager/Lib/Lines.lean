import Mathlib.Data.List.Sort

/-!
# Texts made of lines

A text is read one line after the other; a line is ended by a separator, or by
the end of the text.  What was written line by line is read line by line if no
line has the separator in it, and a map that was written entry by entry is
rebuilt by inserting what the lines say.
-/

namespace SensorManager.Lines

variable {α σ ι : Type} [DecidableEq α] {eol : α}

/-- The next line and what follows it; none at the end of the text. -/
def getline (eol : α) : List α → Option (List α × List α)
  | [] => none
  | first :: text =>
      if first = eol then some ([], text)
      else
        match getline eol text with
        | none => some ([first], [])
        | some (line, rest) => some (first :: line, rest)

theorem getline_eol (text : List α) : getline eol (eol :: text) = some ([], text) := by
  rw [getline, if_pos rfl]

theorem getline_cons {first : α} (inside : first ≠ eol) {text line rest : List α}
    (read : getline eol text = some (line, rest)) :
    getline eol (first :: text) = some (first :: line, rest) := by
  rw [getline, if_neg inside, read]

/-- What a line consists of. -/
theorem getline_cases {first : α} {text line rest : List α}
    (read : getline eol (first :: text) = some (line, rest)) :
    (line = [] ∧ rest = text) ∨
      (first ≠ eol ∧ line = [first] ∧ rest = []) ∨
      ∃ later, first ≠ eol ∧ line = first :: later ∧ getline eol text = some (later, rest) := by
  rw [getline] at read
  split at read
  · cases read
    exact .inl ⟨rfl, rfl⟩
  · next inside =>
      split at read
      · cases read
        exact .inr (.inl ⟨inside, rfl, rfl⟩)
      · next later _ found =>
          cases read
          exact .inr (.inr ⟨later, inside, rfl, found⟩)

theorem getline_shorter {text line rest : List α} (read : getline eol text = some (line, rest)) :
    rest.length < text.length := by
  induction text generalizing line rest with
  | nil => cases read
  | cons first text ih =>
      rcases getline_cases read with ⟨-, rfl⟩ | ⟨-, -, rfl⟩ | ⟨later, -, -, found⟩
      · exact Nat.lt_succ_self _
      · exact Nat.succ_pos _
      · exact Nat.lt_succ_of_lt (ih found)

theorem getline_notMem {text line rest : List α} (read : getline eol text = some (line, rest)) :
    eol ∉ line := by
  induction text generalizing line rest with
  | nil => cases read
  | cons first text ih =>
      rcases getline_cases read with ⟨rfl, -⟩ | ⟨inside, rfl, -⟩ | ⟨later, inside, rfl, found⟩
      · exact List.not_mem_nil
      · simpa using Ne.symm inside
      · simpa using ⟨Ne.symm inside, ih found⟩

/-- A line that was ended is read back, whatever follows it. -/
theorem getline_append {line : List α} (ended : eol ∉ line) (rest : List α) :
    getline eol (line ++ eol :: rest) = some (line, rest) := by
  induction line with
  | nil => exact getline_eol rest
  | cons first line ih =>
      obtain ⟨inside, later⟩ := List.ne_and_not_mem_of_not_mem_cons ended
      exact getline_cons (Ne.symm inside) (ih later)

/-- The lines of the text, one after the other. -/
def foldLines (eol : α) (body : σ → List α → σ) (state : σ) (text : List α) : σ :=
  match _read : getline eol text with
  | none => state
  | some (line, rest) => foldLines eol body (body state line) rest
termination_by text.length
decreasing_by exact getline_shorter _read

section FoldLines

variable {body : σ → List α → σ} {state : σ}

@[simp] theorem foldLines_nil : foldLines eol body state [] = state := by
  rw [foldLines]
  rfl

theorem foldLines_of_getline {text line rest : List α} (read : getline eol text = some (line, rest)) :
    foldLines eol body state text = foldLines eol body (body state line) rest := by
  rw [foldLines]
  split
  · next none => cases read.symm.trans none
  · next found =>
      cases read.symm.trans found
      rfl

/-- The rule for what was written line by line. -/
theorem foldLines_written {items : List ι} {write : ι → List α}
    (ended : ∀ item ∈ items, eol ∉ write item) :
    foldLines eol body state (items.flatMap fun item => write item ++ [eol]) =
      items.foldl (fun state item => body state (write item)) state := by
  induction items generalizing state with
  | nil => exact foldLines_nil
  | cons item items ih =>
      rw [List.flatMap_cons, List.append_assoc, List.singleton_append,
        foldLines_of_getline (getline_append (ended item List.mem_cons_self) _), List.foldl_cons]
      exact ih fun later member => ended later (List.mem_cons_of_mem _ member)

/-- The rule for any text. -/
theorem foldLines_keeps {inv : σ → Prop}
    (keeps : ∀ state line, eol ∉ line → inv state → inv (body state line))
    (now : inv state) (text : List α) : inv (foldLines eol body state text) := by
  induction state, text using foldLines.induct eol body with
  | case1 state text ended =>
      rw [foldLines]
      split
      · exact now
      · next found => cases ended.symm.trans found
  | case2 state text line rest read ih =>
      rw [foldLines_of_getline read]
      exact ih (keeps state line (getline_notMem read) now)

end FoldLines

/-- The first separator on a line stands behind the key. -/
theorem idxOf?_separator {separator : α} {key : List α} (outside : separator ∉ key)
    (value : List α) : (key ++ separator :: value).idxOf? separator = some key.length := by
  induction key with
  | nil => simp [List.idxOf?_cons]
  | cons first key ih =>
      obtain ⟨inside, later⟩ := List.ne_and_not_mem_of_not_mem_cons outside
      have notFirst : ¬(first == separator) = true := by simpa using Ne.symm inside
      rw [List.cons_append, List.idxOf?_cons, if_neg notFirst, ih later]
      rfl

section Maps

variable {κ ν : Type} [Ord κ] [Std.TransOrd κ] [Std.LawfulEqOrd κ]

theorem foldl_insert_toList (entries : Std.ExtTreeMap κ ν) :
    entries.toList.foldl (fun sofar entry => sofar.insert entry.1 entry.2) ∅ = entries := by
  rw [← Std.ExtTreeMap.ofList_eq_foldl]
  refine Std.ExtTreeMap.ext_getElem? fun key => ?_
  cases found : entries[key]? with
  | some value =>
      exact Std.ExtTreeMap.getElem?_ofList_of_mem Std.ReflCmp.compare_self
        entries.distinct_keys_toList (Std.ExtTreeMap.mem_toList_iff_getElem?_eq_some.mpr found)
  | none =>
      classical
      have absent : key ∉ entries := by
        simp [Std.ExtTreeMap.mem_iff_isSome_getElem?, found]
      refine Std.ExtTreeMap.getElem?_ofList_of_contains_eq_false ?_
      simpa [Std.ExtTreeMap.map_fst_toList_eq_keys] using absent

/-- The rule for a map that was written entry by entry. -/
theorem foldLines_entries {entries : Std.ExtTreeMap κ ν} {write : κ × ν → List α}
    {body : Std.ExtTreeMap κ ν → List α → Std.ExtTreeMap κ ν}
    (ended : ∀ entry ∈ entries.toList, eol ∉ write entry)
    (inserts : ∀ sofar, ∀ entry ∈ entries.toList,
      body sofar (write entry) = sofar.insert entry.1 entry.2) :
    foldLines eol body ∅ (entries.toList.flatMap fun entry => write entry ++ [eol]) =
      entries := by
  rw [foldLines_written ended, List.foldl_ext _ _ ∅ inserts]
  exact foldl_insert_toList entries

end Maps

end SensorManager.Lines
