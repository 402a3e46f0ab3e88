import Mathlib.Algebra.Ring.Nat
import Mathlib.Order.Basic
import Mathlib.Data.List.Basic

/-! # Timezone-aware datetimes, normalized to UTC -/

namespace AgenticLab

def isLeapYear (year : ℕ) : Bool := year % 4 == 0 && (year % 100 != 0 || year % 400 == 0)

def daysInMonth (year month : ℕ) : ℕ :=
  if month = 2 then if isLeapYear year then 29 else 28
  else if month = 4 ∨ month = 6 ∨ month = 9 ∨ month = 11 then 30
  else 31

def isCalendarTime (year month day hour minute second microsecond : ℕ) : Bool :=
  decide (1 ≤ year ∧ year ≤ 9999 ∧ 1 ≤ month ∧ month ≤ 12 ∧ 1 ≤ day ∧
    day ≤ daysInMonth year month ∧ hour < 24 ∧ minute < 60 ∧ second < 60 ∧
    microsecond < 1000000)

/-- A `datetime` with `tzinfo=UTC`. -/
structure UtcDatetime where
  year : ℕ
  month : ℕ
  day : ℕ
  hour : ℕ
  minute : ℕ
  second : ℕ
  microsecond : ℕ
  valid : isCalendarTime year month day hour minute second microsecond = true
  deriving DecidableEq

/-- `date.toordinal` of the last day of the previous month. -/
def daysBefore (year month : ℕ) : ℕ :=
  (year - 1) * 365 + (year - 1) / 4 - (year - 1) / 100 + (year - 1) / 400 +
    ((List.range (month - 1)).map fun index => daysInMonth year (index + 1)).sum

/-- Microseconds on the time line that comparisons and `timedelta` arithmetic use. -/
def UtcDatetime.ticks (t : UtcDatetime) : ℕ :=
  ((((daysBefore t.year t.month + t.day) * 24 + t.hour) * 60 + t.minute) * 60 + t.second) * 1000000 +
    t.microsecond

instance : LE UtcDatetime := ⟨fun a b => a.ticks ≤ b.ticks⟩
instance : LT UtcDatetime := ⟨fun a b => a.ticks < b.ticks⟩
instance (a b : UtcDatetime) : Decidable (a ≤ b) := inferInstanceAs (Decidable (a.ticks ≤ b.ticks))
instance (a b : UtcDatetime) : Decidable (a < b) := inferInstanceAs (Decidable (a.ticks < b.ticks))

/-- How pydantic writes a UTC datetime to JSON and what it reads back: `parse` yields the
instant of a text with a timezone and nothing for any other text. -/
structure DatetimeCodec where
  format : UtcDatetime → String
  parse : String → Option UtcDatetime
  parse_format : ∀ t, parse (format t) = some t
  format_length : ∀ t, (format t).length ≤ 27

/-! ## The written form -/

def digitAt (value place : ℕ) : Char := Nat.digitChar (value / place % 10)

def twoDigits (value : ℕ) : List Char := [digitAt value 10, digitAt value 1]

def fourDigits (value : ℕ) : List Char :=
  [digitAt value 1000, digitAt value 100, digitAt value 10, digitAt value 1]

def sixDigits (value : ℕ) : List Char :=
  [digitAt value 100000, digitAt value 10000, digitAt value 1000, digitAt value 100,
    digitAt value 10, digitAt value 1]

/-- `2026-07-10T00:00:00Z`, with six fraction digits when there are microseconds. -/
def formatUtc (t : UtcDatetime) : List Char :=
  fourDigits t.year ++ '-' :: (twoDigits t.month ++ '-' :: (twoDigits t.day ++ 'T' ::
    (twoDigits t.hour ++ ':' :: (twoDigits t.minute ++ ':' :: (twoDigits t.second ++
      if t.microsecond = 0 then ['Z'] else '.' :: (sixDigits t.microsecond ++ ['Z']))))))

def digitValue (character : Char) : ℕ := character.toNat - '0'.toNat

def parseFraction : List Char → Option ℕ
  | ['Z'] => some 0
  | ['.', a, b, c, d, e, f, 'Z'] =>
    some (digitValue a * 100000 + digitValue b * 10000 + digitValue c * 1000 +
      digitValue d * 100 + digitValue e * 10 + digitValue f)
  | _ => none

def parseUtc : List Char → Option UtcDatetime
  | a :: b :: c :: d :: '-' :: e :: f :: '-' :: g :: h :: 'T' :: i :: j :: ':' :: k :: l :: ':' ::
      m :: n :: rest => do
      let year := digitValue a * 1000 + digitValue b * 100 + digitValue c * 10 + digitValue d
      let month := digitValue e * 10 + digitValue f
      let day := digitValue g * 10 + digitValue h
      let hour := digitValue i * 10 + digitValue j
      let minute := digitValue k * 10 + digitValue l
      let second := digitValue m * 10 + digitValue n
      let microsecond ← parseFraction rest
      if valid : isCalendarTime year month day hour minute second microsecond = true then
        some ⟨year, month, day, hour, minute, second, microsecond, valid⟩
      else none
  | _ => none

theorem digitValue_digitAt (value place : ℕ) :
    digitValue (digitAt value place) = value / place % 10 :=
  Nat.toNat_digitChar_sub_48_of_lt_ten (Nat.mod_lt _ (by omega))

theorem parseFraction_sixDigits {value : ℕ} (h : value < 1000000) :
    parseFraction ('.' :: (sixDigits value ++ ['Z'])) = some value := by
  have hvalue : value / 100000 % 10 * 100000 + value / 10000 % 10 * 10000 +
      value / 1000 % 10 * 1000 + value / 100 % 10 * 100 + value / 10 % 10 * 10 +
      value / 1 % 10 = value := by omega
  simp only [sixDigits, List.cons_append, List.nil_append, parseFraction, digitValue_digitAt]
  rw [hvalue]

theorem parseUtc_formatUtc (t : UtcDatetime) : parseUtc (formatUtc t) = some t := by
  obtain ⟨year, month, day, hour, minute, second, microsecond, valid⟩ := t
  have h := of_decide_eq_true valid
  have hday : day ≤ 31 := by
    have hlast := h.2.2.2.2.2.1
    unfold daysInMonth at hlast
    split_ifs at hlast <;> omega
  have hyear : year / 1000 % 10 * 1000 + year / 100 % 10 * 100 + year / 10 % 10 * 10 +
      year / 1 % 10 = year := by omega
  have htwo : ∀ value < 100, value / 10 % 10 * 10 + value / 1 % 10 = value := by omega
  have hfraction : parseFraction (if microsecond = 0 then ['Z'] else
      '.' :: (sixDigits microsecond ++ ['Z'])) = some microsecond := by
    by_cases hzero : microsecond = 0
    · rw [if_pos hzero, hzero]
      rfl
    · rw [if_neg hzero, parseFraction_sixDigits (by omega)]
  simp only [formatUtc, fourDigits, twoDigits, List.cons_append, List.nil_append, parseUtc,
    hfraction, digitValue_digitAt, hyear, htwo month (by omega), htwo day (by omega),
    htwo hour (by omega), htwo minute (by omega), htwo second (by omega), Option.bind_eq_bind,
    Option.bind_some, dif_pos valid]

theorem formatUtc_length (t : UtcDatetime) : (formatUtc t).length ≤ 27 := by
  unfold formatUtc
  split_ifs <;> simp [fourDigits, twoDigits, sixDigits]

def utcDatetimes : DatetimeCodec where
  format t := String.ofList (formatUtc t)
  parse text := parseUtc text.toList
  parse_format t := by rw [String.toList_ofList, parseUtc_formatUtc]
  format_length t := by simpa using formatUtc_length t

end AgenticLab
