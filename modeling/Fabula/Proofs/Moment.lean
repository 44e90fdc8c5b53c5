import Mathlib.Data.List.Basic
import Mathlib.Data.List.TakeWhile
import Fabula.Moment
/-!
# Reading back moments

A number is written with as many digits as its field has, so it is read back from them whatever
follows. `ofText_text` puts the fields together: what a clock without an offset shows is read back
from its text.
-/

namespace Fabula.Moment

theorem number?_digits {digits : List Char} (given : ∀ c ∈ digits, isDigit c = true)
    (rest : List Char) :
    number? digits.length (digits ++ rest) = some (Nat.ofDigitChars 10 digits 0, rest) := by
  induction digits with
  | nil => rfl
  | cons c digits ih =>
    rw [List.forall_mem_cons] at given
    have shifted := @Nat.ofDigitChars_eq_ofDigitChars_zero digits (c.toNat - 48)
    rw [List.length_cons, List.cons_append, number?, if_pos given.1, ih given.2]
    simp [Nat.ofDigitChars_cons, shifted, Nat.mul_comm]

theorem isDigit_of_mem_toDigits {c : Char} {n : Nat} (written : c ∈ Nat.toDigits 10 n) :
    isDigit c = true := by
  have digit := Nat.isDigit_of_mem_toDigits (by omega) (by omega) written
  simp only [Char.isDigit, Bool.and_eq_true, decide_eq_true_eq] at digit
  simp only [isDigit, Bool.and_eq_true, decide_eq_true_eq]
  exact digit

theorem padded_toList (width n : Nat) :
    (padded width n).toList =
      List.replicate (width - (Nat.toDigits 10 n).length) '0' ++ Nat.toDigits 10 n := by
  simp only [padded, Nat.toString_eq_ofList_toDigits, String.toList_append, String.toList_ofList,
    String.length_ofList]

theorem padded_isDigit (width n : Nat) : ∀ c ∈ (padded width n).toList, isDigit c = true := by
  intro c written
  rw [padded_toList, List.mem_append, List.mem_replicate] at written
  rcases written with ⟨_, rfl⟩ | written
  · rfl
  · exact isDigit_of_mem_toDigits written

theorem padded_length (width : Nat) {n : Nat} (positive : 0 < width) (fits : n < Nat.pow 10 width) :
    (padded width n).toList.length = width := by
  have bound : (Nat.toDigits 10 n).length ≤ width :=
    (Nat.length_toDigits_le_iff (by omega) positive).mpr fits
  rw [padded_toList, List.length_append, List.length_replicate]
  omega

theorem number?_padded (width : Nat) {n : Nat} (positive : 0 < width)
    (fits : n < Nat.pow 10 width) (rest : List Char) :
    number? width ((padded width n).toList ++ rest) = some (n, rest) := by
  have read := number?_digits (padded_isDigit width n) rest
  rw [padded_length width positive fits] at read
  rw [read, padded_toList, Nat.ofDigitChars_append, Nat.ofDigitChars_replicate_zero, Nat.mul_zero,
    Nat.ofDigitChars_ten_toDigits]

theorem padded_two {n : Nat} (fits : n < 100) :
    ∃ a b, (padded 2 n).toList = [a, b] ∧ isDigit a = true ∧ isDigit b = true ∧
      ∀ rest, number? 2 (a :: b :: rest) = some (n, rest) := by
  obtain ⟨a, b, digits⟩ := List.length_eq_two.mp (padded_length 2 (by omega) fits)
  have given := padded_isDigit 2 n
  have read := number?_padded 2 (by omega) fits
  simp only [digits, List.forall_mem_cons, List.cons_append, List.nil_append] at given read
  exact ⟨a, b, digits, given.1, given.2.1, read⟩

theorem ne_of_isDigit {c d : Char} (digit : isDigit c = true) (other : isDigit d = false) :
    c ≠ d := by
  rintro rfl
  cases digit.symm.trans other

theorem date?_padded {year month day : Nat} (year_lt : year < 10000) (month_lt : month < 100)
    (day_lt : day < 100) (rest : List Char) :
    let date := (padded 4 year).toList ++
      '-' :: ((padded 2 month).toList ++ '-' :: (padded 2 day).toList)
    date.length = 10 ∧ dateLength (date ++ rest) = 10 ∧ date? date = some (year, month, day) := by
  obtain ⟨a, b, months, digit, _, readMonth⟩ := padded_two month_lt
  obtain ⟨c, d, days, _, _, readDay⟩ := padded_two day_lt
  have readYear := number?_padded 4 (by omega) year_lt
  have four := padded_length 4 (by omega) year_lt
  generalize (padded 4 year).toList = years at readYear four
  rw [months, days]
  have notWeek : a ≠ 'W' := ne_of_isDigit digit rfl
  intro date
  have long : date.length = 10 := by simp [date, four]
  have behind : (date ++ rest).drop 4 = '-' :: a :: b :: '-' :: c :: d :: rest := by
    simp [date, four]
  refine ⟨long, ?_, ?_⟩
  · simp [dateLength, behind, long, notWeek]
    omega
  · simp [date, date?, readYear, notWeek, readMonth, skip?, readDay]

theorem fraction?_padded {microseconds : Nat} (small : microseconds < 1000000) :
    fraction? (padded 6 microseconds).toList = some (microseconds, true) := by
  have length := padded_length 6 (by omega) small
  have read := number?_padded 6 (by omega) small []
  rw [List.append_nil] at read
  simp [fraction?, length, read, isEnd]

def isUnmarked (c : Char) : Bool :=
  !(c == '+' || c == '-' || c == 'Z')

theorem isUnmarked_of_isDigit {c : Char} (digit : isDigit c = true) : isUnmarked c = true := by
  simp [isUnmarked, ne_of_isDigit (d := '+') digit rfl, ne_of_isDigit (d := '-') digit rfl,
    ne_of_isDigit (d := 'Z') digit rfl]

theorem fractionText_unmarked (microseconds : Nat) :
    ∀ c ∈ (fractionText microseconds).toList, isUnmarked c = true := by
  intro c written
  unfold fractionText at written
  split at written
  · cases written
  · simp only [String.toList_append, List.mem_append] at written
    rcases written with point | written
    · simp at point
      subst point
      rfl
    · exact isUnmarked_of_isDigit (padded_isDigit 6 _ c written)

theorem time?_unmarked {text : List Char} {time : TimeOfDay}
    (unmarked : ∀ c ∈ text, isUnmarked c = true) (read : timeOfDay? text = some (time, true)) :
    time? text = some (time, none) := by
  have front : text.takeWhile (fun c => !(c == '+' || c == '-' || c == 'Z')) = text :=
    List.takeWhile_eq_self_iff.mpr unmarked
  have back : text.dropWhile (fun c => !(c == '+' || c == '-' || c == 'Z')) = [] :=
    List.dropWhile_eq_nil_iff.mpr unmarked
  simp only [time?]
  rw [front, back, read]
  rfl

theorem time?_padded {hour minute second microsecond : Nat} (hour_lt : hour < 100)
    (minute_lt : minute < 100) (second_lt : second < 100) (small : microsecond < 1000000) :
    time? ((padded 2 hour).toList ++ ':' :: ((padded 2 minute).toList ++
      ':' :: ((padded 2 second).toList ++ (fractionText microsecond).toList))) =
        some (⟨hour, minute, second, microsecond⟩, none) := by
  apply time?_unmarked
  · have colon : isUnmarked ':' = true := rfl
    have digits : ∀ n, ∀ c ∈ (padded 2 n).toList, isUnmarked c = true :=
      fun n c written => isUnmarked_of_isDigit (padded_isDigit 2 n c written)
    simp only [List.forall_mem_append, List.forall_mem_cons]
    exact ⟨digits _, colon, digits _, colon, digits _, fractionText_unmarked _⟩
  obtain ⟨a, b, hours, _, _, readHour⟩ := padded_two hour_lt
  obtain ⟨c, d, minutes, _, _, readMinute⟩ := padded_two minute_lt
  obtain ⟨e, f, seconds, _, _, readSecond⟩ := padded_two second_lt
  rw [hours, minutes, seconds]
  by_cases whole : microsecond = 0
  · simp [timeOfDay?, readHour, continuation?, readMinute, readSecond, fractionText, whole]
  · have long := padded_length 6 (by omega) small
    obtain ⟨g, rest, digits⟩ := List.exists_cons_of_length_eq_add_one long
    have read := fraction?_padded small
    rw [digits] at read
    simp [timeOfDay?, readHour, continuation?, readMinute, readSecond, fractionText, whole, digits,
      read]

/-- What a clock that knows of no offset can show. -/
structure IsLocal (moment : Moment) : Prop where
  year : 1 ≤ moment.year ∧ moment.year ≤ 9999
  month : 1 ≤ moment.month ∧ moment.month ≤ 12
  day : 1 ≤ moment.day ∧ moment.day ≤ daysInMonth moment.year moment.month
  hour : moment.hour ≤ 23
  minute : moment.minute ≤ 59
  second : moment.second ≤ 59
  microsecond : moment.microsecond < 1000000
  offset : moment.offset = none

theorem daysInMonth_le (year month : Nat) : daysInMonth year month ≤ 31 := by
  have lengths : ∀ length ∈ monthLengths year, length ≤ 31 := by
    cases leap : isLeap year <;> simp [monthLengths, leap]
  rw [daysInMonth, List.getD_eq_getElem?_getD]
  cases found : (monthLengths year)[month - 1]? with
  | none => exact Nat.zero_le _
  | some length => exact lengths length (List.mem_of_getElem? found)

namespace IsLocal
variable {moment : Moment}

theorem check_eq (shown : moment.IsLocal) : check moment = .ok moment := by
  obtain ⟨⟨_, _⟩, ⟨_, _⟩, ⟨_, _⟩, _, _, _, _, unknown⟩ := shown
  have year : ¬ (moment.year = 0 ∨ 9999 < moment.year) := by omega
  have month : ¬ (moment.month = 0 ∨ 12 < moment.month) := by omega
  have day : ¬ (moment.day = 0 ∨ daysInMonth moment.year moment.month < moment.day) := by omega
  have hour : ¬ 23 < moment.hour := by omega
  have minute : ¬ 59 < moment.minute := by omega
  have second : ¬ 59 < moment.second := by omega
  simp [check, unknown, year, month, day, hour, minute, second, pure, Except.pure]

theorem ofText_text (shown : moment.IsLocal) : ofText moment.text = .ok moment := by
  have checked := shown.check_eq
  have lastDay := daysInMonth_le moment.year moment.month
  obtain ⟨⟨_, _⟩, ⟨_, _⟩, ⟨_, _⟩, _, _, _, small, unknown⟩ := shown
  have year_lt : moment.year < 10000 := by omega
  have month_lt : moment.month < 100 := by omega
  have day_lt : moment.day < 100 := by omega
  let time := (padded 2 moment.hour).toList ++ ':' :: ((padded 2 moment.minute).toList ++
    ':' :: ((padded 2 moment.second).toList ++ (fractionText moment.microsecond).toList))
  obtain ⟨ten, length, readDate⟩ := date?_padded year_lt month_lt day_lt ('T' :: time)
  have readTime : time? time = _ := time?_padded (by omega) (by omega) (by omega) small
  have written : moment.text.toList = (padded 4 moment.year).toList ++
      '-' :: ((padded 2 moment.month).toList ++ '-' :: (padded 2 moment.day).toList) ++
        'T' :: time := by
    simp [text, unknown, time]
  -- Only the length of the date and how it is read matter from here on.
  generalize (padded 4 moment.year).toList ++
    '-' :: ((padded 2 moment.month).toList ++ '-' :: (padded 2 moment.day).toList) = date at *
  have front : (date ++ 'T' :: time).take 10 = date := List.take_left' ten
  have back : (date ++ 'T' :: time).drop 11 = time := by simp [List.drop_append, ten]
  have long : ¬ (date ++ 'T' :: time).length ≤ 10 := by simp [ten]
  simp only [ofText, written, length, front, readDate, if_neg long, back, readTime]
  rw [← unknown]
  exact checked

end IsLocal

end Fabula.Moment
