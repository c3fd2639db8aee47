import Mathlib.Data.List.DropRight
import Mathlib.Order.Basic
import Mathlib.Tactic.IntervalCases
import Mathlib.Tactic.NormNum

/-!
# Points in time and their texts

A point in time is a count of nanoseconds and the time zone it is shown in. Its text is that of
RFC 3339 with as many digits of the second as are needed, the form in which a Go program writes
a time into a JSON document.

* `Civil.ofDays`, `Civil.toDays`: days since 1970-01-01 and proleptic Gregorian dates;
* `Timestamp.write`, `Timestamp.read`: the texts.

The main result, `Timestamp.read_write`, is that every text that is written is read back as the
point in time it came from.
-/

namespace Foundations

/-! ## Dates -/

/-- A date of the proleptic Gregorian calendar. -/
structure Civil where
  year : ℤ
  month : ℤ
  day : ℤ

namespace Civil

/-- Whether the year has a 29th of February. -/
def IsLeap (year : ℤ) : Prop := year % 4 = 0 ∧ (year % 100 ≠ 0 ∨ year % 400 = 0)

instance (year : ℤ) : Decidable (IsLeap year) := inferInstanceAs (Decidable (_ ∧ _))

/-- The number of days of a month. -/
def daysIn (month year : ℤ) : ℤ :=
  if month = 2 then if IsLeap year then 29 else 28 else 30 + (month + month / 8) % 2

/-- The year of a 400-year cycle and the day of that year, for a day of the cycle. Years start
in March, so that a leap day is the last of its year; the last century of the cycle, and the
last year of four, have one day more than the others, which the subtracted quarters account
for. -/
def yearDay (doe : ℤ) : ℤ × ℤ :=
  let century := doe / 36524 - doe / 36524 / 4
  let doc := doe - 36524 * century
  let four := doc / 1461
  let dof := doc - 1461 * four
  let one := dof / 365 - dof / 365 / 4
  (100 * century + 4 * four + one, dof - 365 * one)

/-- The date of a day, counted from 1970-01-01. -/
def ofDays (z : ℤ) : Civil :=
  let era := (z + 719468) / 146097
  let (yoe, doy) := yearDay ((z + 719468) % 146097)
  let mp := (5 * doy + 2) / 153
  { year := yoe + era * 400 + if mp < 10 then 0 else 1
    month := if mp < 10 then mp + 3 else mp - 9
    day := doy - (153 * mp + 2) / 5 + 1 }

/-- The day of a date, counted from 1970-01-01. -/
def toDays (c : Civil) : ℤ :=
  let y := if c.month ≤ 2 then c.year - 1 else c.year
  let mp := if c.month ≤ 2 then c.month + 9 else c.month - 3
  let yoe := y % 400
  y / 400 * 146097 + (yoe * 365 + yoe / 4 - yoe / 100) + ((153 * mp + 2) / 5 + c.day - 1) - 719468

/-- The year and the day of the year determine the day of the cycle, and a year has a 366th day
only where the calendar year it ends in is a leap year. -/
theorem yearDay_spec {doe : ℤ} (h₀ : 0 ≤ doe) (h₁ : doe < 146097) :
    ∃ yoe doy, yearDay doe = (yoe, doy) ∧ 0 ≤ yoe ∧ yoe < 400 ∧ 0 ≤ doy ∧ doy ≤ 365 ∧
      doe = yoe * 365 + yoe / 4 - yoe / 100 + doy ∧ (doy = 365 → IsLeap (yoe + 1)) := by
  obtain ⟨c, hc⟩ : ∃ c, c = doe / 36524 - doe / 36524 / 4 := ⟨_, rfl⟩
  obtain ⟨r, hr⟩ : ∃ r, r = doe - 36524 * c := ⟨_, rfl⟩
  obtain ⟨q, hq⟩ : ∃ q, q = r / 1461 := ⟨_, rfl⟩
  obtain ⟨s, hs⟩ : ∃ s, s = r - 1461 * q := ⟨_, rfl⟩
  obtain ⟨y, hy⟩ : ∃ y, y = s / 365 - s / 365 / 4 := ⟨_, rfl⟩
  have hc' : 0 ≤ c ∧ c ≤ 3 ∧ 0 ≤ r ∧ (r < 36524 ∨ (r = 36524 ∧ c = 3)) := by omega
  have hq' : 0 ≤ q ∧ q ≤ 24 := by omega
  have hs' : 0 ≤ s ∧ s ≤ 1460 := by omega
  have hy' : 0 ≤ y ∧ y ≤ 3 ∧ 0 ≤ s - 365 * y ∧ s - 365 * y ≤ 365 ∧
      (s - 365 * y = 365 → y = 3 ∧ s = 1460) := by omega
  have h4 : (100 * c + 4 * q + y) / 4 = 25 * c + q := by omega
  have h100 : (100 * c + 4 * q + y) / 100 = c := by omega
  refine ⟨100 * c + 4 * q + y, s - 365 * y, ?_, by omega, by omega, by omega, by omega, ?_, ?_⟩
  · simp only [yearDay, hy, hs, hq, hr, hc]
  · rw [h4, h100]
    omega
  · intro h
    unfold IsLeap
    omega

/-- **The day of the date of a day is that day**, and the date is one of the calendar. -/
theorem ofDays_spec (z : ℤ) :
    toDays (ofDays z) = z ∧ 1 ≤ (ofDays z).month ∧ (ofDays z).month ≤ 12 ∧ 1 ≤ (ofDays z).day ∧
      (ofDays z).day ≤ daysIn (ofDays z).month (ofDays z).year := by
  obtain ⟨yoe, doy, hyd, hy₀, hy₁, hd₀, hd₁, hdoe, hleap⟩ :=
    yearDay_spec (show 0 ≤ (z + 719468) % 146097 by omega) (by omega)
  obtain ⟨era, hera⟩ : ∃ era, era = (z + 719468) / 146097 := ⟨_, rfl⟩
  have hz : z = era * 146097 + (yoe * 365 + yoe / 4 - yoe / 100 + doy) - 719468 := by omega
  have hleap' : doy = 365 → IsLeap (yoe + era * 400 + 1) := by
    intro h
    have := hleap h
    unfold IsLeap at this ⊢
    omega
  obtain ⟨mp, hmp⟩ : ∃ mp, mp = (5 * doy + 2) / 153 := ⟨_, rfl⟩
  have hmp₀ : 0 ≤ mp ∧ mp ≤ 11 := by omega
  simp only [ofDays, hyd, ← hera, ← hmp]
  clear hyd hera hdoe hleap
  by_cases h : mp < 10
  · have hmod : (yoe + era * 400) % 400 = yoe ∧ (yoe + era * 400) / 400 = era := by omega
    have hm : ¬ (mp + 3 ≤ 2) := by omega
    have hm₂ : ¬ (mp + 3 = 2) := by omega
    simp only [h, if_true, toDays, hm, if_false, add_zero, hmod.1, hmod.2, daysIn, hm₂]
    refine ⟨by omega, by omega, by omega, by omega, ?_⟩
    obtain ⟨hlo, -⟩ := hmp₀
    interval_cases mp <;> omega
  · have hmod : (yoe + era * 400 + 1 - 1) % 400 = yoe ∧ (yoe + era * 400 + 1 - 1) / 400 = era := by
      omega
    have hm : mp - 9 ≤ 2 := by omega
    simp only [h, if_true, toDays, hm, if_false, hmod.1, hmod.2, daysIn]
    refine ⟨by omega, by omega, by omega, by omega, ?_⟩
    by_cases h10 : mp = 10
    · subst h10
      norm_num
      omega
    · obtain rfl : mp = 11 := by omega
      by_cases hl : IsLeap (yoe + era * 400 + 1)
      · simp only [hl, if_true]
        norm_num
        omega
      · have : doy ≠ 365 := fun h => hl (hleap' h)
        simp only [hl, if_false]
        norm_num
        omega

end Civil

/-! ## Numbers of a fixed width -/

/-- The last `k` decimal digits of a number. -/
def pad : ℕ → ℕ → List Char
  | 0, _ => []
  | k + 1, n => pad k (n / 10) ++ [Nat.digitChar (n % 10)]

/-- A number of exactly `k` decimal digits. -/
def readFixed (k : ℕ) (cs : List Char) : Option (ℕ × List Char) :=
  if (cs.take k).length = k ∧ (cs.take k).all Char.isDigit then
    some (Nat.ofDigitChars 10 (cs.take k) 0, cs.drop k)
  else none

@[simp] theorem length_pad (k n : ℕ) : (pad k n).length = k := by
  induction k generalizing n with
  | zero => rfl
  | succ k ih => simp [pad, ih]

theorem isDigit_of_mem_pad {k n : ℕ} {c : Char} (h : c ∈ pad k n) : c.isDigit := by
  induction k generalizing n with
  | zero => simp [pad] at h
  | succ k ih =>
    rcases List.mem_append.1 h with h | h
    · exact ih h
    · obtain rfl := List.mem_singleton.1 h
      exact Nat.isDigit_of_mem_toDigits (b := 10) (n := n % 10) (by decide) (by decide)
        (by simp [Nat.toDigits_of_lt_base (Nat.mod_lt n (by decide : 0 < 10))])

theorem ofDigitChars_pad {k n : ℕ} (h : n < 10 ^ k) : Nat.ofDigitChars 10 (pad k n) 0 = n := by
  induction k generalizing n with
  | zero =>
    obtain rfl : n = 0 := by simpa using h
    simp [pad]
  | succ k ih =>
    have hdiv : n / 10 < 10 ^ k := by
      rw [Nat.div_lt_iff_lt_mul (by decide)]
      simpa [pow_succ] using h
    rw [pad, Nat.ofDigitChars_append, ih hdiv,
      Nat.ofDigitChars_cons_digitChar_of_lt_ten (Nat.mod_lt n (by decide)), Nat.ofDigitChars_nil]
    omega

theorem readFixed_pad {k n : ℕ} (h : n < 10 ^ k) (rest : List Char) :
    readFixed k (pad k n ++ rest) = some (n, rest) := by
  have htake : (pad k n ++ rest).take k = pad k n := by
    simp
  have hall : (pad k n).all Char.isDigit = true := by
    simpa using fun c hc => isDigit_of_mem_pad hc
  simp [readFixed, htake, hall, ofDigitChars_pad h]

/-! ## Points in time -/

/-- Nanoseconds since 1970-01-01T00:00:00Z, and the minutes by which the clocks of the time zone
are ahead of it. -/
@[ext]
structure Timestamp where
  nanos : ℤ
  zone : ℤ
  zone_lt : zone.natAbs < 1440
deriving DecidableEq

namespace Timestamp

/-- The zone of the times in UTC. -/
theorem utc_lt : (0 : ℤ).natAbs < 1440 := by decide

/-- The digits of the fraction of a second, without trailing zeros. -/
def writeFrac (n : ℕ) : List Char :=
  let ds := (pad 9 n).rdropWhile (· = '0')
  if ds = [] then [] else '.' :: ds

/-- The time zone: `Z`, or a sign with hours and minutes. -/
def writeZone (z : ℤ) : List Char :=
  if z = 0 then ['Z']
  else (if z < 0 then '-' else '+') ::
    (pad 2 (z.natAbs / 60) ++ ':' :: pad 2 (z.natAbs % 60))

/-- A date with four digits for the year. -/
def writeDate (c : Civil) : List Char :=
  pad 4 c.year.toNat ++ '-' :: (pad 2 c.month.toNat ++ '-' :: pad 2 c.day.toNat)

/-- Hours, minutes and seconds of a second of the day. -/
def writeClock (sod : ℕ) : List Char :=
  pad 2 (sod / 3600) ++ ':' :: (pad 2 (sod / 60 % 60) ++ ':' :: pad 2 (sod % 60))

/-- The text of a point in time, if its year has four digits. -/
def write (t : Timestamp) : Option (List Char) :=
  let secs := t.nanos / 1000000000 + t.zone * 60
  let date := Civil.ofDays (secs / 86400)
  if 0 ≤ date.year ∧ date.year ≤ 9999 then
    some (writeDate date ++ 'T' :: (writeClock (secs % 86400).toNat ++
      (writeFrac (t.nanos % 1000000000).toNat ++ writeZone t.zone)))
  else none

/-- The text after an expected character. -/
def expect (c : Char) (cs : List Char) : Option (List Char) :=
  if cs.head? = some c then some cs.tail else none

/-- The fraction of a second in nanoseconds; digits after the ninth are ignored. -/
def readFrac (cs : List Char) : Option (ℕ × List Char) :=
  if cs.head? = some '.' then
    let ds := cs.tail.takeWhile Char.isDigit
    if ds = [] then none
    else some (Nat.ofDigitChars 10 (ds.take 9) 0 * 10 ^ (9 - (ds.take 9).length),
      cs.tail.dropWhile Char.isDigit)
  else some (0, cs)

/-- The time zone at the end of a text. -/
def readZone (cs : List Char) : Option ℤ :=
  if cs = ['Z'] then some 0
  else do
    let (h, rest) ← readFixed 2 cs.tail
    let rest ← expect ':' rest
    let (m, rest) ← readFixed 2 rest
    if rest = [] ∧ h < 24 ∧ m < 60 then
      if cs.head? = some '+' then some (h * 60 + m)
      else if cs.head? = some '-' then some (-(h * 60 + m))
      else none
    else none

/-- A date; one the calendar does not have is an error. -/
def readDate (cs : List Char) : Option (Civil × List Char) := do
  let (year, cs) ← readFixed 4 cs
  let cs ← expect '-' cs
  let (month, cs) ← readFixed 2 cs
  let cs ← expect '-' cs
  let (day, cs) ← readFixed 2 cs
  if 1 ≤ month ∧ month ≤ 12 ∧ 1 ≤ day ∧ (day : ℤ) ≤ Civil.daysIn month year then
    return (⟨year, month, day⟩, cs)
  else none

/-- Hours, minutes and seconds, as the second of the day. -/
def readClock (cs : List Char) : Option (ℕ × List Char) := do
  let (hour, cs) ← readFixed 2 cs
  let cs ← expect ':' cs
  let (min, cs) ← readFixed 2 cs
  let cs ← expect ':' cs
  let (sec, cs) ← readFixed 2 cs
  if hour < 24 ∧ min < 60 ∧ sec < 60 then return (hour * 3600 + min * 60 + sec, cs) else none

/-- The point in time a text denotes. -/
def read (cs : List Char) : Option Timestamp := do
  let (date, cs) ← readDate cs
  let cs ← expect 'T' cs
  let (sod, cs) ← readClock cs
  let (nsec, cs) ← readFrac cs
  let zone ← readZone cs
  if h : zone.natAbs < 1440 then
    return ⟨(date.toDays * 86400 + sod - zone * 60) * 1000000000 + nsec, zone, h⟩
  else none

@[simp] theorem expect_cons (c : Char) (cs : List Char) : expect c (c :: cs) = some cs := by
  simp [expect]

/-- A zone is read back, and its text does not continue a fraction. -/
theorem readZone_write {z : ℤ} (h : z.natAbs < 1440) : readZone (writeZone z) = some z := by
  unfold writeZone
  split_ifs with h₀ h₁
  · simp [readZone, h₀]
  all_goals
    have hne : ∀ l : List Char, (pad 2 (z.natAbs / 60) ++ ':' :: l) ≠ [] := by simp
    have hh := readFixed_pad (k := 2) (n := z.natAbs / 60) (by omega)
      (':' :: pad 2 (z.natAbs % 60))
    have hm := readFixed_pad (k := 2) (n := z.natAbs % 60) (by omega) []
    rw [List.append_nil] at hm
    have hlt : z.natAbs / 60 < 24 ∧ z.natAbs % 60 < 60 := by omega
    simp only [readZone, List.cons.injEq, List.tail_cons, hh, expect_cons, hm, hlt, hne,
      Option.bind_eq_bind, Option.bind_some, List.head?_cons, if_false, and_self, if_true,
      Option.some.injEq, Char.reduceEq]
    omega

theorem head?_writeZone (z : ℤ) : ∀ c ∈ (writeZone z).head?, c.isDigit = false ∧ c ≠ '.' := by
  unfold writeZone
  split_ifs <;> simp

/-- A fraction is read back with the zeros that were left out. -/
theorem readFrac_write {n : ℕ} (hn : n < 1000000000) {rest : List Char}
    (hrest : ∀ c ∈ rest.head?, c.isDigit = false ∧ c ≠ '.') :
    readFrac (writeFrac n ++ rest) = some (n, rest) := by
  obtain ⟨ds, hds⟩ : ∃ ds, ds = (pad 9 n).rdropWhile (· = '0') := ⟨_, rfl⟩
  have hzeros : ∃ k, pad 9 n = ds ++ List.replicate k '0' := by
    refine ⟨((pad 9 n).rtakeWhile (· = '0')).length, ?_⟩
    have hall : ∀ c ∈ (pad 9 n).rtakeWhile (· = '0'), c = '0' := fun c hc => by
      simpa using List.mem_rtakeWhile_imp hc
    rw [← List.eq_replicate_of_mem hall, hds]
    exact List.rdropWhile_append_rtakeWhile.symm
  obtain ⟨k, hk⟩ := hzeros
  have hlen : ds.length + k = 9 := by
    have := congrArg List.length hk
    simpa using this.symm
  have hval : Nat.ofDigitChars 10 ds 0 * 10 ^ k = n := by
    have := ofDigitChars_pad (k := 9) hn
    rw [hk, Nat.ofDigitChars_append, Nat.ofDigitChars_replicate_zero] at this
    rw [← this, Nat.mul_comm]
  have hdigit : ∀ c ∈ ds, c.isDigit := fun c hc =>
    isDigit_of_mem_pad (hk ▸ List.mem_append_left _ hc)
  have hstop : rest.takeWhile Char.isDigit = [] ∧ rest.dropWhile Char.isDigit = rest := by
    cases rest with
    | nil => simp
    | cons c cs => simp [(hrest c (by simp)).1]
  have hwrite : writeFrac n = if ds = [] then [] else '.' :: ds := by
    simp only [writeFrac, ← hds]
  by_cases hnil : ds = []
  · have hdot : rest.head? ≠ some '.' := fun h => (hrest _ h).2 rfl
    have hn0 : n = 0 := by simpa [hnil] using hval.symm
    rw [hwrite, if_pos hnil, List.nil_append]
    simp [readFrac, hdot, hn0]
  · have htake : ds.take 9 = ds := List.take_of_length_le (by omega)
    have h9 : 9 - ds.length = k := by omega
    simp [hwrite, hnil, readFrac, List.takeWhile_append_of_pos hdigit,
      List.dropWhile_append_of_pos hdigit, hstop.1, hstop.2, htake, h9, hval]

/-- A date of the calendar with a year of four digits is read back. -/
theorem readDate_write {c : Civil} (hy : 0 ≤ c.year ∧ c.year ≤ 9999)
    (hm : 1 ≤ c.month ∧ c.month ≤ 12) (hd₁ : 1 ≤ c.day)
    (hd₂ : c.day ≤ Civil.daysIn c.month c.year) (rest : List Char) :
    readDate (writeDate c ++ rest) = some (c, rest) := by
  have hd31 : c.day ≤ 31 := hd₂.trans (by
    unfold Civil.daysIn
    split_ifs <;> omega)
  have hyear : (c.year.toNat : ℤ) = c.year := by omega
  have hmonth : (c.month.toNat : ℤ) = c.month := by omega
  have hday : (c.day.toNat : ℤ) = c.day := by omega
  have hvalid : 1 ≤ c.month.toNat ∧ c.month.toNat ≤ 12 ∧ 1 ≤ c.day.toNat := by omega
  simp only [writeDate, List.append_assoc, List.cons_append, readDate,
    readFixed_pad (show c.year.toNat < 10 ^ 4 by omega),
    readFixed_pad (show c.month.toNat < 10 ^ 2 by omega),
    readFixed_pad (show c.day.toNat < 10 ^ 2 by omega), expect_cons, Option.bind_eq_bind,
    Option.bind_some, hyear, hmonth, hday, hvalid, hd₂, and_self, if_true, Option.pure_def]

theorem readClock_write {sod : ℕ} (h : sod < 86400) (rest : List Char) :
    readClock (writeClock sod ++ rest) = some (sod, rest) := by
  have hlt : sod / 3600 < 24 ∧ sod / 60 % 60 < 60 ∧ sod % 60 < 60 := by omega
  have hsum : sod / 3600 * 3600 + sod / 60 % 60 * 60 + sod % 60 = sod := by omega
  simp only [writeClock, List.append_assoc, List.cons_append, readClock,
    readFixed_pad (show sod / 3600 < 10 ^ 2 by omega),
    readFixed_pad (show sod / 60 % 60 < 10 ^ 2 by omega),
    readFixed_pad (show sod % 60 < 10 ^ 2 by omega), expect_cons, Option.bind_eq_bind,
    Option.bind_some, hlt, and_self, if_true, hsum, Option.pure_def]

/-- **Every text that is written is read back** as the point in time it came from. -/
theorem read_write {t : Timestamp} {cs : List Char} (h : t.write = some cs) :
    read cs = some t := by
  obtain ⟨secs, hsecs⟩ : ∃ s, s = t.nanos / 1000000000 + t.zone * 60 := ⟨_, rfl⟩
  obtain ⟨hdays, hm₁, hm₂, hd₁, hd₂⟩ := Civil.ofDays_spec (secs / 86400)
  simp only [write, ← hsecs] at h
  split_ifs at h with hy
  obtain rfl := Option.some.inj h
  have hfrac := readFrac_write (n := (t.nanos % 1000000000).toNat) (by omega)
    (head?_writeZone t.zone)
  have hnanos : (secs / 86400 * 86400 + (secs % 86400).toNat - t.zone * 60) * 1000000000 +
      (t.nanos % 1000000000).toNat = t.nanos := by omega
  simp only [read, readDate_write hy ⟨hm₁, hm₂⟩ hd₁ hd₂, expect_cons,
    readClock_write (show (secs % 86400).toNat < 86400 by omega), hfrac,
    readZone_write t.zone_lt, Option.bind_eq_bind, Option.bind_some, t.zone_lt, dif_pos, hdays,
    hnanos, Option.pure_def]

end Timestamp

end Foundations
