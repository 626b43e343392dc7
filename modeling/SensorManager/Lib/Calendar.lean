import Mathlib.Data.Int.Order.Basic
import Mathlib.Tactic.NormNum

/-!
# Dates written down

The days of the Gregorian calendar are counted from the first of January 1970.
A moment is written with fields of fixed width, from the year down to the unit
of a resolution, and then texts come in the order of the moments they stand for.
-/

namespace SensorManager

namespace Text

variable {α : Type} [LT α]

/-- Of two texts with fronts of one length, the fronts decide. -/
theorem append_lt_of_front {front other : List α} (length : front.length = other.length)
    (less : front < other) (rest more : List α) : front ++ rest < other ++ more := by
  induction front generalizing other with
  | nil =>
      cases other with
      | nil => cases less
      | cons byte other => cases length
  | cons first front ih =>
      cases other with
      | nil => cases length
      | cons byte other =>
          rw [List.cons_append, List.cons_append, List.cons_lt_cons_iff]
          rcases List.cons_lt_cons_iff.mp less with smaller | ⟨same, later⟩
          · exact .inl smaller
          · exact .inr ⟨same, ih (Nat.succ.inj length) later⟩

end Text

/-- A number with as many decimal digits as its field is wide. -/
def padded : Nat → Nat → List UInt8
  | 0, _ => []
  | width + 1, number => padded width (number / 10) ++ [UInt8.ofNat (48 + number % 10)]

@[simp] theorem length_padded (width number : Nat) : (padded width number).length = width := by
  induction width generalizing number with
  | zero => rfl
  | succ width ih => simp [padded, ih]

theorem digit_lt {first second : Nat} (less : first % 10 < second % 10) :
    UInt8.ofNat (48 + first % 10) < UInt8.ofNat (48 + second % 10) := by
  rw [UInt8.lt_iff_toNat_lt, UInt8.toNat_ofNat', UInt8.toNat_ofNat']
  omega

theorem padded_lt {width first second : Nat} (less : first < second)
    (fits : second < 10 ^ width) : padded width first < padded width second := by
  induction width generalizing first second with
  | zero => omega
  | succ width ih =>
      have fewer : second / 10 < 10 ^ width := by
        rw [Nat.pow_succ] at fits
        omega
      by_cases front : first / 10 < second / 10
      · exact Text.append_lt_of_front (by simp) (ih front fewer) _ _
      · have same : first / 10 = second / 10 := by omega
        rw [padded, padded, same]
        apply List.append_left_lt
        exact List.cons_lt_cons_iff.mpr (.inl (digit_lt (by omega)))

def isLeapYear (year : Int) : Bool :=
  year % 4 = 0 && (year % 100 ≠ 0 || year % 400 = 0)

def daysInMonth (year : Int) (month : Nat) : Nat :=
  match month with
  | 2 => if isLeapYear year then 29 else 28
  | 4 | 6 | 9 | 11 => 30
  | _ => 31

theorem daysInMonth_range (year : Int) (month : Nat) :
    28 ≤ daysInMonth year month ∧ daysInMonth year month ≤ 31 := by
  unfold daysInMonth
  split
  · split <;> omega
  all_goals omega

structure Date where
  year : Int
  month : Nat
  day : Nat
  isMonth : 1 ≤ month ∧ month ≤ 12
  isDay : 1 ≤ day ∧ day ≤ daysInMonth year month

namespace Date

/-- The day after. -/
def next (date : Date) : Date :=
  if more : date.day < daysInMonth date.year date.month then
    { date with day := date.day + 1, isDay := ⟨Nat.succ_pos _, more⟩ }
  else if more : date.month < 12 then
    { year := date.year
      month := date.month + 1
      day := 1
      isMonth := ⟨Nat.succ_pos _, more⟩
      isDay := ⟨le_rfl, by have := daysInMonth_range date.year (date.month + 1); omega⟩ }
  else
    { year := date.year + 1
      month := 1
      day := 1
      isMonth := by decide
      isDay := ⟨le_rfl, by have := daysInMonth_range (date.year + 1) 1; omega⟩ }

/-- The day before. -/
def previous (date : Date) : Date :=
  if more : 1 < date.day then
    { date with day := date.day - 1, isDay := by have := date.isDay; omega }
  else if more : 1 < date.month then
    { year := date.year
      month := date.month - 1
      day := daysInMonth date.year (date.month - 1)
      isMonth := by have := date.isMonth; omega
      isDay := ⟨by have := daysInMonth_range date.year (date.month - 1); omega, le_rfl⟩ }
  else
    { year := date.year - 1
      month := 12
      day := 31
      isMonth := by decide
      isDay := by simp [daysInMonth] }

def epoch : Date :=
  { year := 1970, month := 1, day := 1, isMonth := by decide, isDay := by decide }

def after : Nat → Date
  | 0 => epoch
  | days + 1 => (after days).next

def before : Nat → Date
  | 0 => epoch
  | days + 1 => (before days).previous

/-- The date of a day, counted from the epoch. -/
def ofDay : Int → Date
  | .ofNat days => after days
  | .negSucc days => before (days + 1)

/-- The date with its fields from the year to the day. -/
def text (date : Date) : List UInt8 :=
  padded 4 date.year.toNat ++ 47 :: (padded 2 date.month ++ 47 :: padded 2 date.day)

/-- The years that four digits hold. -/
def Short (date : Date) : Prop :=
  0 ≤ date.year ∧ date.year < 10000

theorem length_text (date : Date) : date.text.length = 10 := by
  simp [text]

/-- The fields decide from the left. -/
theorem text_lt {date other : Date} (short : date.Short) (otherShort : other.Short)
    (earlier : date.year < other.year ∨ date.year = other.year ∧
      (date.month < other.month ∨ date.month = other.month ∧ date.day < other.day)) :
    date.text < other.text := by
  have month := other.isMonth
  have day := other.isDay
  have days := daysInMonth_range other.year other.month
  have lower := short.1
  have upper := otherShort.2
  unfold text
  rcases earlier with year | ⟨year, later⟩
  · have less : date.year.toNat < other.year.toNat := by omega
    have fits : other.year.toNat < 10 ^ 4 := by omega
    exact Text.append_lt_of_front (by simp) (padded_lt less fits) _ _
  · rw [year]
    apply List.append_left_lt
    refine List.cons_lt_cons_iff.mpr (.inr ⟨rfl, ?_⟩)
    rcases later with less | ⟨same, less⟩
    · exact Text.append_lt_of_front (by simp) (padded_lt less (by omega)) _ _
    · rw [same]
      apply List.append_left_lt
      exact List.cons_lt_cons_iff.mpr (.inr ⟨rfl, padded_lt less (by omega)⟩)

theorem earlier_next (date : Date) :
    date.year < date.next.year ∨ date.year = date.next.year ∧
      (date.month < date.next.month ∨
        date.month = date.next.month ∧ date.day < date.next.day) := by
  unfold next
  split
  · exact .inr ⟨rfl, .inr ⟨rfl, Nat.lt_succ_self _⟩⟩
  · split
    · exact .inr ⟨rfl, .inl (Nat.lt_succ_self _)⟩
    · exact .inl (Int.lt_succ _)

theorem earlier_previous (date : Date) :
    date.previous.year < date.year ∨ date.previous.year = date.year ∧
      (date.previous.month < date.month ∨
        date.previous.month = date.month ∧ date.previous.day < date.day) := by
  unfold previous
  split
  · refine .inr ⟨rfl, .inr ⟨rfl, ?_⟩⟩
    dsimp only
    omega
  · split
    · refine .inr ⟨rfl, .inl ?_⟩
      dsimp only
      omega
    · exact .inl (Int.sub_one_lt_iff.mpr le_rfl)

/-- A count of days that takes every month for the shortest. -/
def least (date : Date) : Int :=
  336 * date.year + 28 * date.month + min date.day 28

theorem least_next (date : Date) : date.next.least ≤ date.least + 1 := by
  have month := date.isMonth
  have days := daysInMonth_range date.year date.month
  have day := date.isDay
  unfold next least
  split
  · dsimp only
    omega
  · split
    · dsimp only
      omega
    · dsimp only
      omega

theorem least_previous (date : Date) : date.least - 1 ≤ date.previous.least := by
  have month := date.isMonth
  have day := date.isDay
  unfold previous least
  split
  · dsimp only
    omega
  · split
    · have days := daysInMonth_range date.year (date.month - 1)
      dsimp only
      omega
    · dsimp only
      omega

theorem least_after (days : Nat) : (after days).least ≤ epoch.least + days := by
  induction days with
  | zero => simp [after]
  | succ days ih =>
      have step := (after days).least_next
      rw [after]
      omega

theorem least_before (days : Nat) : epoch.least - days ≤ (before days).least := by
  induction days with
  | zero => simp [before]
  | succ days ih =>
      have step := (before days).least_previous
      rw [before]
      omega

/-- The days whose years are known to have four digits. -/
def Near (day : Int) : Prop :=
  -600000 ≤ day ∧ day ≤ 600000

theorem year_after (days : Nat) : 1970 ≤ (after days).year := by
  induction days with
  | zero => simp [after, epoch]
  | succ days ih =>
      have step := (after days).earlier_next
      rw [after]
      omega

theorem year_before (days : Nat) : (before days).year ≤ 1970 := by
  induction days with
  | zero => simp [before, epoch]
  | succ days ih =>
      have step := (before days).earlier_previous
      rw [before]
      omega

theorem short_ofDay {day : Int} (near : Near day) : (ofDay day).Short := by
  obtain ⟨low, high⟩ := near
  have first : epoch.least = 336 * 1970 + 29 := by decide
  cases day with
  | ofNat days =>
      have sum := least_after days
      have month := (after days).isMonth
      have isDay := (after days).isDay
      have year := year_after days
      rw [first] at sum
      unfold least at sum
      simp only [Int.ofNat_eq_natCast] at high
      change 0 ≤ (after days).year ∧ (after days).year < 10000
      omega
  | negSucc days =>
      have sum := least_before (days + 1)
      have month := (before (days + 1)).isMonth
      have isDay := (before (days + 1)).isDay
      have year := year_before (days + 1)
      rw [first] at sum
      unfold least at sum
      rw [Int.negSucc_eq] at low
      change 0 ≤ (before (days + 1)).year ∧ (before (days + 1)).year < 10000
      omega

/-- The text of a day comes before that of the next. -/
theorem text_lt_succ {day : Int} (near : Near day) (nextNear : Near (day + 1)) :
    (ofDay day).text < (ofDay (day + 1)).text := by
  have short := short_ofDay near
  have nextShort := short_ofDay nextNear
  cases day with
  | ofNat days => exact text_lt short nextShort (after days).earlier_next
  | negSucc days =>
      cases days with
      | zero => exact text_lt short nextShort epoch.earlier_previous
      | succ days => exact text_lt short nextShort (before (days + 1)).earlier_previous

/-- The texts of days come in the order of the days. -/
theorem text_lt_of_lt {day later : Int} (near : Near day) (laterNear : Near later)
    (less : day < later) : (ofDay day).text < (ofDay later).text := by
  obtain ⟨more, rfl⟩ := Int.le.dest (Int.add_one_le_of_lt less)
  clear less
  induction more with
  | zero =>
      rw [Int.natCast_zero, add_zero] at laterNear ⊢
      exact text_lt_succ near laterNear
  | succ more ih =>
      have sum : day + 1 + ((more + 1 : Nat) : Int) = day + 1 + more + 1 := by
        push_cast
        omega
      rw [sum] at laterNear ⊢
      have middle : Near (day + 1 + more) := by
        unfold Near at near laterNear ⊢
        omega
      exact List.lt_trans (ih middle) (text_lt_succ middle laterNear)

end Date

/-- What a moment is rounded down to: `MI`, `HH24` or `DD`. -/
inductive Resolution where
  | minute
  | hour
  | day
  deriving DecidableEq, Repr

namespace Resolution

def seconds : Resolution → Int
  | .minute => 60
  | .hour => 3600
  | .day => 86400

theorem seconds_pos (resolution : Resolution) : 0 < resolution.seconds := by
  cases resolution <;> decide

/-- The number of a moment's minute, hour or day. -/
def period (resolution : Resolution) (moment : Int) : Int :=
  moment / resolution.seconds

/-- `to_char`, of a moment in seconds. -/
def toChar (resolution : Resolution) (moment : Int) : List UInt8 :=
  let date := (Date.ofDay (moment / 86400)).text
  let rest := (moment % 86400).toNat
  match resolution with
  | .day => date
  | .hour => date ++ 32 :: padded 2 (rest / 3600)
  | .minute => date ++ (32 :: padded 2 (rest / 3600) ++ 58 :: padded 2 (rest % 3600 / 60))

/-- The moments whose dates have four digits for the year. -/
def Near (moment : Int) : Prop :=
  Date.Near (moment / 86400)

theorem toChar_eq {resolution : Resolution} {moment other : Int}
    (same : resolution.period moment = resolution.period other) :
    resolution.toChar moment = resolution.toChar other := by
  cases resolution with
  | day =>
      simp only [period, seconds] at same
      simp only [toChar, same]
  | hour =>
      simp only [period, seconds] at same
      have day : moment / 86400 = other / 86400 := by omega
      have hour : (moment % 86400).toNat / 3600 = (other % 86400).toNat / 3600 := by omega
      simp only [toChar, day, hour]
  | minute =>
      simp only [period, seconds] at same
      have day : moment / 86400 = other / 86400 := by omega
      have hour : (moment % 86400).toNat / 3600 = (other % 86400).toNat / 3600 := by omega
      have minute : (moment % 86400).toNat % 3600 / 60 =
          (other % 86400).toNat % 3600 / 60 := by omega
      simp only [toChar, day, hour, minute]

/-- A text of an earlier period comes first. -/
theorem toChar_lt {resolution : Resolution} {moment other : Int} (near : Near moment)
    (otherNear : Near other) (less : resolution.period moment < resolution.period other) :
    resolution.toChar moment < resolution.toChar other := by
  have length : (Date.ofDay (moment / 86400)).text.length =
      (Date.ofDay (other / 86400)).text.length := by
    rw [Date.length_text, Date.length_text]
  have byDay : moment / 86400 < other / 86400 →
      ∀ rest more, (Date.ofDay (moment / 86400)).text ++ rest <
        (Date.ofDay (other / 86400)).text ++ more :=
    fun earlier rest more =>
      Text.append_lt_of_front length (Date.text_lt_of_lt near otherNear earlier) rest more
  cases resolution with
  | day =>
      simp only [period, seconds] at less
      exact Date.text_lt_of_lt near otherNear less
  | hour =>
      simp only [period, seconds] at less
      by_cases earlier : moment / 86400 < other / 86400
      · exact byDay earlier _ _
      · have day : moment / 86400 = other / 86400 := by omega
        simp only [toChar, day]
        apply List.append_left_lt
        refine List.cons_lt_cons_iff.mpr (.inr ⟨rfl, ?_⟩)
        exact padded_lt (by omega) (by omega)
  | minute =>
      simp only [period, seconds] at less
      by_cases earlier : moment / 86400 < other / 86400
      · exact byDay earlier _ _
      · have day : moment / 86400 = other / 86400 := by omega
        simp only [toChar, day]
        apply List.append_left_lt
        by_cases hour : (moment % 86400).toNat / 3600 = (other % 86400).toNat / 3600
        · rw [hour]
          apply List.append_left_lt
          refine List.cons_lt_cons_iff.mpr (.inr ⟨rfl, ?_⟩)
          exact padded_lt (by omega) (by omega)
        · apply Text.append_lt_of_front (by simp)
          refine List.cons_lt_cons_iff.mpr (.inr ⟨rfl, ?_⟩)
          exact padded_lt (by omega) (by omega)

/-- Texts are the same for the moments of one period, and in the order of the
periods. -/
theorem toChar_lt_iff {resolution : Resolution} {moment other : Int} (near : Near moment)
    (otherNear : Near other) :
    resolution.toChar moment < resolution.toChar other ↔
      resolution.period moment < resolution.period other := by
  constructor
  · intro less
    by_contra notLess
    rcases (not_lt.mp notLess).lt_or_eq with greater | same
    · exact List.lt_irrefl _ (List.lt_trans less (toChar_lt otherNear near greater))
    · rw [toChar_eq same.symm] at less
      exact List.lt_irrefl _ less
  · exact toChar_lt near otherNear

end Resolution

/-- The end of a leap day. -/
example : Resolution.minute.toChar 68255940 =
    [49, 57, 55, 50, 47, 48, 50, 47, 50, 57, 32, 50, 51, 58, 53, 57] := by
  decide +kernel

end SensorManager
