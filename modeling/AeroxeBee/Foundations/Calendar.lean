import AeroxeBee.Foundations.Timestamp
import Mathlib.Data.Int.ConditionallyCompleteOrder
import Mathlib.Order.Monotone.Basic
import Mathlib.Tactic.Ring

/-!
# Months of the calendar, and dates as texts

The months are counted through from the year 0, so that a month and the one after it need no case for
December. A date whose month or day is out of range is the day that one arrives at by counting on, as
the constructors of dates of most libraries have it; day zero is the last day of the month before.

* `Civil.firstDay_succ`: a month is as long as it has days;
* `Civil.ofDays_toDays`: every date of the calendar is the date of its day;
* `Civil.ofDays_dayZero`: day zero of the next month is the last day of a month;
* `writeDate_lt_iff`: the texts of dates are ordered as the dates are;
* `Timestamp.readDate_eq_some`: every text that is read as a date is the text of the date.
-/

namespace Foundations

namespace Civil

/-! ## Months -/

/-- A date that the calendar has. -/
structure Valid (c : Civil) : Prop where
  month_pos : 1 ≤ c.month
  month_le : c.month ≤ 12
  day_pos : 1 ≤ c.day
  day_le : c.day ≤ daysIn c.month c.year

/-- The number of a month, counted from January of the year 0. -/
def monthIndex (year month : ℤ) : ℤ := 12 * year + (month - 1)

theorem monthIndex_div {year month : ℤ} (h₁ : 1 ≤ month) (h₁₂ : month ≤ 12) :
    monthIndex year month / 12 = year := by
  unfold monthIndex
  omega

theorem monthIndex_mod {year month : ℤ} (h₁ : 1 ≤ month) (h₁₂ : month ≤ 12) :
    monthIndex year month % 12 + 1 = month := by
  unfold monthIndex
  omega

/-- The first day of a month. -/
def firstDay (n : ℤ) : ℤ := toDays ⟨n / 12, n % 12 + 1, 1⟩

/-- The day of a date, in a month of the year, whose day may be out of range. -/
theorem toDays_eq_firstDay {c : Civil} (h₁ : 1 ≤ c.month) (h₁₂ : c.month ≤ 12) :
    c.toDays = firstDay (monthIndex c.year c.month) + (c.day - 1) := by
  rw [firstDay, monthIndex_div h₁ h₁₂, monthIndex_mod h₁ h₁₂]
  simp only [toDays]
  ring

theorem daysIn_bounds (month year : ℤ) : 28 ≤ daysIn month year ∧ daysIn month year ≤ 31 := by
  unfold daysIn
  split_ifs <;> omega

/-- **A month is as long as it has days.** -/
theorem firstDay_succ (n : ℤ) :
    firstDay (n + 1) = firstDay n + daysIn (n % 12 + 1) (n / 12) := by
  obtain ⟨y, hy⟩ : ∃ y, y = n / 12 := ⟨_, rfl⟩
  obtain ⟨r, hr⟩ : ∃ r, r = n % 12 := ⟨_, rfl⟩
  have hnext : (n + 1) / 12 = (if r = 11 then y + 1 else y) ∧
      (n + 1) % 12 = if r = 11 then 0 else r + 1 := by
    split_ifs <;> omega
  have hr₀ : 0 ≤ r := by omega
  have hr₁₁ : r ≤ 11 := by omega
  rw [firstDay, firstDay, hnext.1, hnext.2, ← hy, ← hr]
  clear hnext hy hr
  unfold toDays daysIn
  by_cases hfeb : r = 1
  · -- the year of 365 or 366 days ends with February
    subst hfeb
    unfold IsLeap
    norm_num
    split_ifs <;> omega
  · interval_cases r
    case «1» => exact absurd rfl hfeb
    all_goals
      norm_num
      omega

/-- Later months begin later. -/
theorem firstDay_strictMono : StrictMono firstDay := by
  refine strictMono_int_of_lt_succ fun n => ?_
  have hdays := (daysIn_bounds (n % 12 + 1) (n / 12)).1
  rw [firstDay_succ]
  omega

/-- A day belongs to the month between whose first day and the next one's it lies. -/
theorem index_unique {n n' k : ℤ} (h : firstDay n ≤ k ∧ k < firstDay (n + 1))
    (h' : firstDay n' ≤ k ∧ k < firstDay (n' + 1)) : n = n' := by
  have hle : n ≤ n' := by
    by_contra hlt
    have hmono := firstDay_strictMono.monotone (show n' + 1 ≤ n by omega)
    omega
  have hge : n' ≤ n := by
    by_contra hlt
    have hmono := firstDay_strictMono.monotone (show n + 1 ≤ n' by omega)
    omega
  exact le_antisymm hle hge

/-- The day of a date lies in its month. -/
theorem Valid.toDays_bounds {c : Civil} (h : c.Valid) :
    firstDay (monthIndex c.year c.month) ≤ c.toDays ∧
      c.toDays < firstDay (monthIndex c.year c.month + 1) := by
  have hpos := h.day_pos
  have hle := h.day_le
  rw [toDays_eq_firstDay h.month_pos h.month_le, firstDay_succ,
    monthIndex_div h.month_pos h.month_le, monthIndex_mod h.month_pos h.month_le]
  omega

/-- Different dates have different days. -/
theorem Valid.toDays_inj {c c' : Civil} (h : c.Valid) (h' : c'.Valid)
    (hdays : c.toDays = c'.toDays) : c = c' := by
  have hindex : monthIndex c.year c.month = monthIndex c'.year c'.month :=
    index_unique h.toDays_bounds (hdays ▸ h'.toDays_bounds)
  rw [toDays_eq_firstDay h.month_pos h.month_le, toDays_eq_firstDay h'.month_pos h'.month_le,
    hindex] at hdays
  obtain ⟨year, month, day⟩ := c
  obtain ⟨year', month', day'⟩ := c'
  obtain ⟨h₁, h₁₂, -, -⟩ := h
  obtain ⟨h₁', h₁₂', -, -⟩ := h'
  simp only [monthIndex, mk.injEq] at *
  omega

theorem valid_ofDays (z : ℤ) : (ofDays z).Valid := by
  obtain ⟨-, h₁, h₁₂, hpos, hle⟩ := ofDays_spec z
  exact ⟨h₁, h₁₂, hpos, hle⟩

/-- **Every date of the calendar is the date of its day.** -/
theorem Valid.ofDays_toDays {c : Civil} (h : c.Valid) : ofDays c.toDays = c :=
  (valid_ofDays _).toDays_inj h (ofDays_spec _).1

/-! ## Dates out of range -/

/-- The day of a date whose month and day may be out of range. -/
def normalize (year month day : ℤ) : ℤ := firstDay (monthIndex year month) + (day - 1)

/-- Normalizing leaves a date of the calendar alone. -/
theorem Valid.normalize {c : Civil} (h : c.Valid) : normalize c.year c.month c.day = c.toDays :=
  (toDays_eq_firstDay h.month_pos h.month_le).symm

/-- The last day of a month is a date. -/
theorem valid_lastDay (year : ℤ) {month : ℤ} (h₁ : 1 ≤ month) (h₁₂ : month ≤ 12) :
    Valid ⟨year, month, daysIn month year⟩ where
  month_pos := h₁
  month_le := h₁₂
  day_pos := le_trans (by norm_num) (daysIn_bounds month year).1
  day_le := le_refl _

/-- **Day zero of the next month is the last day of a month**, in December too. -/
theorem ofDays_dayZero {year month : ℤ} (h₁ : 1 ≤ month) (h₁₂ : month ≤ 12) :
    ofDays (Civil.normalize year (month + 1) 0) = ⟨year, month, daysIn month year⟩ := by
  have hnext : monthIndex year (month + 1) = monthIndex year month + 1 := by
    unfold monthIndex
    ring
  have hlast := valid_lastDay year h₁ h₁₂
  rw [← hlast.ofDays_toDays, toDays_eq_firstDay h₁ h₁₂, Civil.normalize, hnext, firstDay_succ,
    monthIndex_div h₁ h₁₂, monthIndex_mod h₁ h₁₂]
  congr 1
  ring

end Civil

/-! ## Texts of a fixed width -/

/-- Texts are compared part by part if their first parts have the same length. -/
theorem append_lt_append_iff {α : Type*} [LT α] {a a' b b' : List α}
    (hlength : a.length = a'.length) : a ++ b < a' ++ b' ↔ a < a' ∨ a = a' ∧ b < b' := by
  induction a generalizing a' with
  | nil =>
    obtain rfl := List.length_eq_zero_iff.1 hlength.symm
    simp
  | cons x a ih =>
    cases a' with
    | nil => cases hlength
    | cons x' a' =>
      rw [List.cons_append, List.cons_append, List.cons_lt_cons_iff, List.cons_lt_cons_iff,
        ih (Nat.succ.inj hlength), List.cons.injEq]
      tauto

theorem digitChar_lt_iff {n m : ℕ} (hn : n < 10) (hm : m < 10) :
    n.digitChar < m.digitChar ↔ n < m := by
  have hdigits : ∀ n < 10, ∀ m < 10, Nat.digitChar n < Nat.digitChar m ↔ n < m := by decide
  exact hdigits n hn m hm

theorem pad_inj {k n m : ℕ} (hn : n < 10 ^ k) (hm : m < 10 ^ k) : pad k n = pad k m ↔ n = m := by
  refine ⟨fun h => ?_, fun h => h ▸ rfl⟩
  rw [← ofDigitChars_pad hn, h, ofDigitChars_pad hm]

/-- Numbers of a fixed width are ordered as their texts are. -/
theorem pad_lt_iff {k n m : ℕ} (hn : n < 10 ^ k) (hm : m < 10 ^ k) :
    pad k n < pad k m ↔ n < m := by
  induction k generalizing n m with
  | zero =>
    obtain rfl : n = 0 := by simpa using hn
    obtain rfl : m = 0 := by simpa using hm
    simp
  | succ k ih =>
    have hn' : n / 10 < 10 ^ k := by
      rw [Nat.div_lt_iff_lt_mul (by decide)]
      simpa [pow_succ] using hn
    have hm' : m / 10 < 10 ^ k := by
      rw [Nat.div_lt_iff_lt_mul (by decide)]
      simpa [pow_succ] using hm
    rw [pad, pad, append_lt_append_iff (by simp), ih hn' hm', pad_inj hn' hm',
      List.cons_lt_cons_iff,
      digitChar_lt_iff (Nat.mod_lt n (by decide)) (Nat.mod_lt m (by decide))]
    simp only [List.lt_irrefl, and_false, or_false]
    omega

/-- A digit is the text of its value. -/
theorem digitChar_toNat {c : Char} (hc : c.isDigit = true) :
    Nat.digitChar (c.toNat - '0'.toNat) = c ∧ c.toNat - '0'.toNat < 10 := by
  obtain ⟨hge, hle⟩ := Char.isDigit_iff_toNat.1 hc
  have hten : c.toNat - '0'.toNat < 10 := Nat.lt_succ_of_le (Nat.sub_le_sub_right hle _)
  have hvalues : ∀ d < 10, (Nat.digitChar d).toNat = d + '0'.toNat := by decide
  refine ⟨Char.toNat_inj.1 ?_, hten⟩
  rw [hvalues _ hten, Nat.sub_add_cancel hge]

/-- Digits are the text of the number they are read as. -/
theorem pad_ofDigitChars {ds : List Char} (hdigits : ∀ c ∈ ds, c.isDigit = true) :
    pad ds.length (Nat.ofDigitChars 10 ds 0) = ds ∧ Nat.ofDigitChars 10 ds 0 < 10 ^ ds.length := by
  induction ds using List.reverseRecOn with
  | nil => simp [pad]
  | append_singleton ds c ih =>
    obtain ⟨htext, hlt⟩ := ih fun c hc => hdigits c (List.mem_append_left _ hc)
    obtain ⟨hchar, hten⟩ := digitChar_toNat (hdigits c (by simp))
    rw [Nat.ofDigitChars_append, Nat.ofDigitChars_cons, Nat.ofDigitChars_nil, List.length_append,
      List.length_singleton]
    generalize c.toNat - '0'.toNat = d at hchar hten ⊢
    have hdiv : (10 * Nat.ofDigitChars 10 ds 0 + d) / 10 = Nat.ofDigitChars 10 ds 0 := by omega
    have hmod : (10 * Nat.ofDigitChars 10 ds 0 + d) % 10 = d := by omega
    refine ⟨?_, ?_⟩
    · rw [pad, hdiv, hmod, htext, hchar]
    · rw [pow_succ]
      omega

/-- What is read as a number of a fixed width begins with the text of the number. -/
theorem readFixed_eq_some {k n : ℕ} {cs rest : List Char} (h : readFixed k cs = some (n, rest)) :
    cs = pad k n ++ rest ∧ n < 10 ^ k := by
  unfold readFixed at h
  split_ifs at h with hdigits
  obtain ⟨hlength, hall⟩ := hdigits
  rw [List.all_eq_true] at hall
  obtain ⟨htext, hlt⟩ := pad_ofDigitChars hall
  rw [hlength] at htext hlt
  simp only [Option.some.injEq, Prod.mk.injEq] at h
  obtain ⟨rfl, rfl⟩ := h
  exact ⟨by rw [htext, List.take_append_drop], hlt⟩

/-- A number of at least so many decimal digits. -/
def padTo (k n : ℕ) : List Char :=
  List.replicate (k - (Nat.toDigits 10 n).length) '0' ++ Nat.toDigits 10 n

theorem pad_zero (k : ℕ) : pad k 0 = List.replicate k '0' := by
  induction k with
  | zero => rfl
  | succ k ih =>
    rw [pad, Nat.zero_div, ih, List.replicate_succ']
    rfl

/-- A number that does not need more digits has exactly so many. -/
theorem padTo_eq_pad {k n : ℕ} (hn : n < 10 ^ (k + 1)) : padTo (k + 1) n = pad (k + 1) n := by
  induction k generalizing n with
  | zero =>
    have hten : n < 10 := by simpa using hn
    simp [padTo, pad, Nat.toDigits_of_lt_base hten, Nat.mod_eq_of_lt hten]
  | succ k ih =>
    rcases Nat.lt_or_ge n 10 with hten | hten
    · rw [padTo, pad, Nat.toDigits_of_lt_base hten, Nat.div_eq_of_lt hten, Nat.mod_eq_of_lt hten,
        pad_zero]
      rfl
    · have hdiv : n / 10 < 10 ^ (k + 1) := by
        rw [Nat.div_lt_iff_lt_mul (by decide)]
        simpa [pow_succ] using hn
      rw [pad, ← ih hdiv, padTo, padTo, Nat.toDigits_of_base_le (by decide) hten,
        List.length_append, List.length_singleton, Nat.add_sub_add_right, List.append_assoc]

/-- A number with leading zeros, of at least so many characters with the sign. -/
def zeroPadded (k : ℕ) (n : ℤ) : List Char :=
  if n < 0 then '-' :: padTo (k - 1) n.natAbs else padTo k n.natAbs

theorem zeroPadded_eq_pad {k : ℕ} {n : ℤ} (hpos : 0 ≤ n) (hn : n.toNat < 10 ^ (k + 1)) :
    zeroPadded (k + 1) n = pad (k + 1) n.toNat := by
  have hnat : n.natAbs = n.toNat := by omega
  rw [zeroPadded, if_neg (by omega), hnat, padTo_eq_pad hn]

/-! ## Dates as texts -/

namespace Timestamp

open Civil

/-- The year of the date has four digits. -/
def FourDigits (c : Civil) : Prop := 0 ≤ c.year ∧ c.year ≤ 9999

/-- A date with at least four digits for the year. -/
def formatDate (c : Civil) : List Char :=
  (if c.year < 0 then ['-'] else []) ++ padTo 4 c.year.natAbs ++
    '-' :: (padTo 2 c.month.toNat ++ '-' :: padTo 2 c.day.toNat)

theorem formatDate_eq_writeDate {c : Civil} (hy : FourDigits c) (h : c.Valid) :
    formatDate c = writeDate c := by
  obtain ⟨hy₀, hy₁⟩ := hy
  obtain ⟨-, h₁₂, -, hle⟩ := h
  have hday := hle.trans (daysIn_bounds _ _).2
  have hyear : c.year.natAbs = c.year.toNat := by omega
  have hdigits : c.year.toNat < 10 ^ 4 ∧ c.month.toNat < 10 ^ 2 ∧ c.day.toNat < 10 ^ 2 := by omega
  rw [formatDate, writeDate, if_neg (by omega), hyear, padTo_eq_pad hdigits.1,
    padTo_eq_pad hdigits.2.1, padTo_eq_pad hdigits.2.2]
  rfl

/-- **The texts of dates are ordered as the dates are.** -/
theorem writeDate_lt_iff {c c' : Civil} (hy : FourDigits c) (hy' : FourDigits c') (h : c.Valid)
    (h' : c'.Valid) : writeDate c < writeDate c' ↔ c.year < c'.year ∨ c.year = c'.year ∧
      (c.month < c'.month ∨ c.month = c'.month ∧ c.day < c'.day) := by
  obtain ⟨h₁, h₁₂, hpos, hle⟩ := h
  obtain ⟨h₁', h₁₂', hpos', hle'⟩ := h'
  have hday := hle.trans (daysIn_bounds _ _).2
  have hday' := hle'.trans (daysIn_bounds _ _).2
  obtain ⟨hy₀, hy₁⟩ := hy
  obtain ⟨hy₀', hy₁'⟩ := hy'
  have hyears : c.year.toNat < 10 ^ 4 ∧ c'.year.toNat < 10 ^ 4 := by omega
  have hmonths : c.month.toNat < 10 ^ 2 ∧ c'.month.toNat < 10 ^ 2 := by omega
  have hdays : c.day.toNat < 10 ^ 2 ∧ c'.day.toNat < 10 ^ 2 := by omega
  unfold writeDate
  rw [append_lt_append_iff (by simp), List.cons_lt_cons_iff, append_lt_append_iff (by simp),
    List.cons_lt_cons_iff]
  simp only [Char.lt_irrefl, false_or, true_and, pad_lt_iff hyears.1 hyears.2, pad_inj hyears.1 hyears.2,
    pad_lt_iff hmonths.1 hmonths.2, pad_inj hmonths.1 hmonths.2, pad_lt_iff hdays.1 hdays.2]
  omega

/-- The text after an expected character follows it. -/
theorem expect_eq_some {x : Char} {cs rest : List Char} :
    expect x cs = some rest ↔ cs = x :: rest := by
  unfold expect
  cases cs <;> simp

/-- **Every text that is read as a date is the text of the date**, which the calendar has. -/
theorem readDate_eq_some {cs rest : List Char} {c : Civil} (h : readDate cs = some (c, rest)) :
    cs = writeDate c ++ rest ∧ FourDigits c ∧ c.Valid := by
  simp only [readDate, Option.bind_eq_bind, Option.bind_eq_some_iff, Prod.exists,
    expect_eq_some] at h
  obtain ⟨year, _, hyear, _, rfl, month, _, hmonth, _, rfl, day, _, hday, h⟩ := h
  obtain ⟨rfl, hy⟩ := readFixed_eq_some hyear
  obtain ⟨rfl, -⟩ := readFixed_eq_some hmonth
  obtain ⟨rfl, -⟩ := readFixed_eq_some hday
  split_ifs at h with hvalid
  obtain ⟨h₁, h₁₂, hpos, hle⟩ := hvalid
  simp only [Option.pure_def, Option.some.injEq, Prod.mk.injEq] at h
  obtain ⟨rfl, rfl⟩ := h
  refine ⟨by simp [writeDate], ⟨Int.natCast_nonneg year, ?_⟩, ?_⟩
  · change (year : ℤ) ≤ 9999
    omega
  · exact ⟨by simpa using h₁, by simpa using h₁₂, by simpa using hpos, hle⟩

end Timestamp

end Foundations
