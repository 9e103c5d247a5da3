import Mathlib.Data.Nat.Log
import Mathlib.Data.String.Basic

/-!
# Times in UTC as ISO 8601 texts

A time is a number of microseconds since the beginning of 1970; its text is
`2026-01-31T12:00:00.250000Z`, without the fraction when that is zero. A year that does not have
four digits gets a sign, so that every integer has a text, and `parse_format` says that the text
gives the time back.

* `digits` and `number`: decimal numbers of a fixed width, written and read;
* `Date`: the day in the Gregorian calendar, whose years begin in March so that the leap day comes
  last;
* `format` and `parse`.
-/

namespace IsoTime

/-! ## Numbers -/

/-- The last decimal digit. -/
def digit (n : ℕ) : Char := Char.ofNat (48 + n % 10)

/-- The value of a decimal digit. -/
def digitValue (c : Char) : ℕ := c.toNat - 48

/-- The last `width` decimal digits, with leading zeros. -/
def digits : ℕ → ℕ → List Char
  | 0, _ => []
  | width + 1, n => digits width (n / 10) ++ [digit n]

/-- The number that these digits show. -/
def value (cs : List Char) : ℕ := cs.foldl (fun v c => 10 * v + digitValue c) 0

theorem digit_spec (n : ℕ) : (digit n).isDigit = true ∧ digitValue (digit n) = n % 10 := by
  unfold digit
  have h : n % 10 < 10 := Nat.mod_lt n (by decide)
  generalize n % 10 = d at h
  revert h
  revert d
  decide

@[simp] theorem length_digits (width n : ℕ) : (digits width n).length = width := by
  induction width generalizing n with
  | zero => rfl
  | succ width ih => rw [digits, List.length_append, ih, List.length_singleton]

theorem isDigit_of_mem_digits {width n : ℕ} {c : Char} (h : c ∈ digits width n) :
    c.isDigit = true := by
  induction width generalizing n with
  | zero => cases h
  | succ width ih =>
    rcases List.mem_append.mp h with h | h
    · exact ih h
    · exact List.mem_singleton.mp h ▸ (digit_spec n).1

theorem value_digits {width n : ℕ} (h : n < 10 ^ width) : value (digits width n) = n := by
  induction width generalizing n with
  | zero => exact (Nat.lt_one_iff.mp h).symm
  | succ width ih =>
    have hdiv : n / 10 < 10 ^ width := by
      rw [Nat.pow_succ] at h
      omega
    have hvalue := ih hdiv
    unfold value at hvalue ⊢
    rw [digits, List.foldl_append, hvalue, List.foldl_cons, List.foldl_nil, (digit_spec n).2]
    omega

/-- Read a number of `width` digits. -/
def number (width : ℕ) (cs : List Char) : Option (ℕ × List Char) :=
  if width ≤ cs.length ∧ (cs.take width).all Char.isDigit then
    some (value (cs.take width), cs.drop width)
  else none

theorem number_digits {width n : ℕ} (h : n < 10 ^ width) (rest : List Char) :
    number width (digits width n ++ rest) = some (n, rest) := by
  have htake : (digits width n ++ rest).take width = digits width n :=
    List.take_left' (length_digits width n)
  have hdrop : (digits width n ++ rest).drop width = rest :=
    List.drop_left' (length_digits width n)
  have hall : (digits width n).all Char.isDigit = true :=
    List.all_eq_true.mpr fun c hc => isDigit_of_mem_digits hc
  have hlength : width ≤ (digits width n ++ rest).length := by
    rw [List.length_append, length_digits]
    exact Nat.le_add_right _ _
  unfold number
  rw [htake, hdrop, if_pos ⟨hlength, hall⟩, value_digits h]

/-- Read this character. -/
def expect (c : Char) : List Char → Option (List Char)
  | [] => none
  | c' :: cs => if c' = c then some cs else none

theorem expect_cons (c : Char) (cs : List Char) : expect c (c :: cs) = some cs := if_pos rfl

/-! ## Days -/

/-- A day of the calendar. The first month is March, and January and February are counted to the
year before. -/
structure Date where
  year : ℤ
  /-- Counted from March, from zero. -/
  month : ℕ
  /-- Counted from zero. -/
  day : ℕ

namespace Date

/-- The date with this number of days since the first of March of the year zero. Four hundred
years have 146097 days, a century has 36524 and four years have 1461; only the last of them is a
day longer. -/
def ofDays (days : ℤ) : Date :=
  let dayOfEra := (days % 146097).toNat
  let century := min (dayOfEra / 36524) 3
  let dayOfCentury := dayOfEra - 36524 * century
  let dayOfCycle := dayOfCentury % 1461
  let yearOfCycle := min (dayOfCycle / 365) 3
  let dayOfYear := dayOfCycle - 365 * yearOfCycle
  let month := (5 * dayOfYear + 2) / 153
  { year := 400 * (days / 146097) + (100 * century + 4 * (dayOfCentury / 1461) + yearOfCycle : ℕ)
    month
    day := dayOfYear - (153 * month + 2) / 5 }

/-- The number of days since the first of March of the year zero. -/
def toDays (d : Date) : ℤ :=
  let yearOfEra := (d.year % 400).toNat
  146097 * (d.year / 400) +
    (36524 * (yearOfEra / 100) + 1461 * (yearOfEra % 100 / 4) + 365 * (yearOfEra % 4) +
      (153 * d.month + 2) / 5 + d.day : ℕ)

theorem ofDays_bounds (days : ℤ) : (ofDays days).month ≤ 11 ∧ (ofDays days).day ≤ 30 := by
  simp only [ofDays]
  omega

theorem toDays_ofDays (days : ℤ) : (ofDays days).toDays = days := by
  simp only [ofDays, toDays]
  generalize hera : days / 146097 = era
  generalize hday : (days % 146097).toNat = dayOfEra
  have hdays : days = 146097 * era + dayOfEra := by omega
  have hbound : dayOfEra < 146097 := by omega
  clear hera hday
  generalize hcentury : min (dayOfEra / 36524) 3 = century
  generalize hcycle : (dayOfEra - 36524 * century) / 1461 = cycle
  generalize hrest : (dayOfEra - 36524 * century) % 1461 = dayOfCycle
  generalize hyear : min (dayOfCycle / 365) 3 = yearOfCycle
  have hcenturies : century ≤ 3 := by omega
  have hcycles : cycle ≤ 24 := by omega
  have hyears : yearOfCycle ≤ 3 := by omega
  -- the year of the era is put together from its parts, and taken apart again
  generalize hyearOfEra : 100 * century + 4 * cycle + yearOfCycle = yearOfEra
  have hmod : ((400 * era + (yearOfEra : ℕ)) % 400).toNat = yearOfEra := by omega
  have hdiv : (400 * era + (yearOfEra : ℕ)) / 400 = era := by omega
  rw [hmod, hdiv, show yearOfEra / 100 = century by omega,
    show yearOfEra % 100 / 4 = cycle by omega, show yearOfEra % 4 = yearOfCycle by omega]
  omega

/-- The year and the month as they are written: January and February belong to the next year. -/
def written (d : Date) : ℤ × ℕ × ℕ :=
  if d.month < 10 then (d.year, d.month + 3, d.day + 1) else (d.year + 1, d.month - 9, d.day + 1)

/-- The date that is written like this. -/
def ofWritten (year : ℤ) (month day : ℕ) : Date :=
  if 3 ≤ month then { year, month := month - 3, day := day - 1 }
  else { year := year - 1, month := month + 9, day := day - 1 }

theorem ofWritten_written (d : Date) (h : d.month ≤ 11) :
    ofWritten d.written.1 d.written.2.1 d.written.2.2 = d := by
  unfold written ofWritten
  by_cases hmonth : d.month < 10
  · rw [if_pos hmonth]
    dsimp only
    rw [if_pos (by omega)]
    simp
  · rw [if_neg hmonth]
    dsimp only
    rw [if_neg (by omega)]
    obtain ⟨year, month, day⟩ := d
    dsimp only at h hmonth ⊢
    congr 1 <;> omega

end Date

/-! ## The year -/

/-- Four digits, or a sign and as many digits as there are. -/
def formatYear (year : ℤ) : List Char :=
  if 0 ≤ year ∧ year < 10000 then digits 4 year.toNat
  else (if year < 0 then '-' else '+') :: digits (Nat.log 10 year.natAbs + 1) year.natAbs

/-- Read the digits up to the first other character. -/
def leadingNumber (cs : List Char) : ℕ × List Char :=
  (value (cs.takeWhile Char.isDigit), cs.dropWhile Char.isDigit)

def parseYear : List Char → Option (ℤ × List Char)
  | '-' :: cs => some (-(leadingNumber cs).1, (leadingNumber cs).2)
  | '+' :: cs => some ((leadingNumber cs).1, (leadingNumber cs).2)
  | cs => (number 4 cs).map fun r => (r.1, r.2)

theorem leadingNumber_digits (n : ℕ) (rest : List Char) :
    leadingNumber (digits (Nat.log 10 n + 1) n ++ '-' :: rest) = (n, '-' :: rest) := by
  have hall : ∀ c ∈ digits (Nat.log 10 n + 1) n, c.isDigit = true :=
    fun c hc => isDigit_of_mem_digits hc
  have hn : n < 10 ^ (Nat.log 10 n + 1) := Nat.lt_pow_succ_log_self (by decide) n
  unfold leadingNumber
  rw [List.takeWhile_append_of_pos hall, List.dropWhile_append_of_pos hall,
    List.takeWhile_cons_of_neg (by decide), List.dropWhile_cons_of_neg (by decide),
    List.append_nil, value_digits hn]

theorem parseYear_formatYear (year : ℤ) (rest : List Char) :
    parseYear (formatYear year ++ '-' :: rest) = some (year, '-' :: rest) := by
  unfold formatYear
  by_cases hfour : 0 ≤ year ∧ year < 10000
  · rw [if_pos hfour]
    have hn : year.toNat < 10 ^ 4 := by omega
    have hnumber := number_digits hn ('-' :: rest)
    -- a digit is no sign
    obtain ⟨c, cs, hcs⟩ := List.exists_cons_of_length_eq_add_one (length_digits 4 year.toNat)
    have hdigit : c.isDigit = true :=
      isDigit_of_mem_digits (hcs ▸ List.mem_cons_self : c ∈ digits 4 year.toNat)
    rw [hcs] at hnumber ⊢
    rw [List.cons_append] at hnumber ⊢
    unfold parseYear
    split
    · rename_i heq
      obtain ⟨rfl, -⟩ := List.cons.inj heq
      exact absurd hdigit (by decide)
    · rename_i heq
      obtain ⟨rfl, -⟩ := List.cons.inj heq
      exact absurd hdigit (by decide)
    · rw [hnumber, Option.map_some, Int.toNat_of_nonneg hfour.1]
  · rw [if_neg hfour, List.cons_append]
    by_cases hneg : year < 0
    · rw [if_pos hneg]
      simp only [parseYear, leadingNumber_digits]
      rw [show -((year.natAbs : ℕ) : ℤ) = year by omega]
    · rw [if_neg hneg]
      simp only [parseYear, leadingNumber_digits]
      rw [show ((year.natAbs : ℕ) : ℤ) = year by omega]

/-! ## The whole text -/

/-- The days from the first of March of the year zero to the beginning of 1970. -/
def epoch : ℤ := 719468

/-- The microseconds of a day. -/
def dayLength : ℤ := 86400000000

/-- The time of the day: hour, minute, second and microsecond. -/
structure Clock where
  hour : ℕ
  minute : ℕ
  second : ℕ
  micro : ℕ

namespace Clock

def ofMicros (n : ℕ) : Clock where
  hour := n / 3600000000
  minute := n / 60000000 % 60
  second := n / 1000000 % 60
  micro := n % 1000000

def toMicros (c : Clock) : ℕ :=
  3600000000 * c.hour + 60000000 * c.minute + 1000000 * c.second + c.micro

theorem toMicros_ofMicros (n : ℕ) : (ofMicros n).toMicros = n := by
  simp only [ofMicros, toMicros]
  omega

end Clock

/-- The fraction of a second is left out when it is zero. -/
def formatMicro (micro : ℕ) : List Char := if micro = 0 then [] else '.' :: digits 6 micro

def parseMicro : List Char → Option (ℕ × List Char)
  | '.' :: cs => number 6 cs
  | cs => some (0, cs)

theorem parseMicro_formatMicro {micro : ℕ} (h : micro < 10 ^ 6) :
    parseMicro (formatMicro micro ++ ['Z']) = some (micro, ['Z']) := by
  unfold formatMicro
  by_cases hzero : micro = 0
  · rw [if_pos hzero, hzero]
    rfl
  · rw [if_neg hzero]
    exact number_digits h ['Z']

/-- The parts of a time. -/
def chars (year : ℤ) (month day : ℕ) (clock : Clock) : List Char :=
  formatYear year ++ '-' :: (digits 2 month ++ '-' :: (digits 2 day ++ 'T' ::
    (digits 2 clock.hour ++ ':' :: (digits 2 clock.minute ++ ':' ::
      (digits 2 clock.second ++ (formatMicro clock.micro ++ ['Z']))))))

/-- Read the parts of a time. -/
def readChars (cs : List Char) : Option (ℤ × ℕ × ℕ × Clock) := do
  let (year, cs) ← parseYear cs
  let (month, cs) ← number 2 (← expect '-' cs)
  let (day, cs) ← number 2 (← expect '-' cs)
  let (hour, cs) ← number 2 (← expect 'T' cs)
  let (minute, cs) ← number 2 (← expect ':' cs)
  let (second, cs) ← number 2 (← expect ':' cs)
  let (micro, cs) ← parseMicro cs
  let _ ← expect 'Z' cs
  some (year, month, day, { hour, minute, second, micro })

theorem readChars_chars {year : ℤ} {month day : ℕ} {clock : Clock} (hmonth : month < 100)
    (hday : day < 100) (hhour : clock.hour < 100) (hminute : clock.minute < 100)
    (hsecond : clock.second < 100) (hmicro : clock.micro < 10 ^ 6) :
    readChars (chars year month day clock) = some (year, month, day, clock) := by
  have hnumber {n : ℕ} (h : n < 100) (rest : List Char) :
      number 2 (digits 2 n ++ rest) = some (n, rest) := number_digits h rest
  unfold readChars chars
  simp only [parseYear_formatYear, expect_cons, hnumber hmonth, hnumber hday, hnumber hhour,
    hnumber hminute, hnumber hsecond, parseMicro_formatMicro hmicro, Option.bind_eq_bind,
    Option.bind_some]

/-- The text of a time. -/
def format (t : ℤ) : String :=
  let (year, month, day) := (Date.ofDays (t / dayLength + epoch)).written
  String.ofList (chars year month day (.ofMicros (t % dayLength).toNat))

/-- The time of a text. Only the texts that `format` gives are read. -/
def parse (text : String) : Option ℤ := do
  let (year, month, day, clock) ← readChars text.toList
  let t := ((Date.ofWritten year month day).toDays - epoch) * dayLength + clock.toMicros
  if format t = text then some t else none

/-- **A text gives its time back.** -/
theorem parse_format (t : ℤ) : parse (format t) = some t := by
  obtain ⟨hmonth, hday⟩ := Date.ofDays_bounds (t / dayLength + epoch)
  have hdate := Date.toDays_ofDays (t / dayLength + epoch)
  have hclock := Clock.toMicros_ofMicros (t % dayLength).toNat
  have hwritten := Date.ofWritten_written _ hmonth
  have hmicros : (t % dayLength).toNat < 86400000000 := by
    unfold dayLength
    omega
  have hread : readChars (format t).toList =
      some ((Date.ofDays (t / dayLength + epoch)).written.1,
        (Date.ofDays (t / dayLength + epoch)).written.2.1,
        (Date.ofDays (t / dayLength + epoch)).written.2.2,
        .ofMicros (t % dayLength).toNat) := by
    unfold format
    rw [String.toList_ofList]
    refine readChars_chars ?_ ?_ ?_ ?_ ?_ ?_
    · unfold Date.written
      split <;> (dsimp only; omega)
    · unfold Date.written
      split <;> (dsimp only; omega)
    all_goals
      simp only [Clock.ofMicros]
      omega
  have htime : ((Date.ofDays (t / dayLength + epoch)).toDays - epoch) * dayLength +
      (Clock.ofMicros (t % dayLength).toNat).toMicros = t := by
    rw [hdate, hclock]
    unfold dayLength
    omega
  unfold parse
  rw [hread]
  simp only [Option.bind_eq_bind, Option.bind_some, hwritten, htime, if_true]

example : format 0 = "1970-01-01T00:00:00Z" := by decide

example : format 1709208123250000 = "2024-02-29T12:02:03.250000Z" := by decide

end IsoTime
