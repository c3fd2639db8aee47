import AeroxeBee.Api.Usage
import AeroxeBee.Foundations.Calendar
import Mathlib.Data.Int.ConditionallyCompleteOrder
import Mathlib.Data.Int.Interval

/-!
# Usage by months

The table of usage counters has the day of a row as a text, and the usage of a month is the sum over
the rows whose text lies between those of two days. The first of them is written out, the last one is
day zero of the month after.

* `UsageRow.counted_iff`: which rows are counted for a month;
* `months_partition`: every row is counted in the month of its date and in no other;
* `usage_rows`, `countUsage_rows`: the counters of the database, whose days are numbers, are the rows
  of the table.
-/

namespace AeroxeBee.Api

open Foundations Finset

/-! ## The table -/

/-- A row of the table of usage counters. -/
structure UsageRow where
  accountID : String
  date : String
  count : ℤ
deriving DecidableEq

/-- The date that a text denotes, if it denotes one. -/
def dateOf (date : String) : Option Civil :=
  match Timestamp.readDate date.toList with
  | some (c, []) => some c
  | _ => none

/-- The text of a date. -/
def dateText (c : Civil) : String := String.ofList (Timestamp.formatDate c)

/-- The text of the first day of a month. -/
def startDate (year month : ℤ) : String :=
  String.ofList (zeroPadded 4 year ++ '-' :: (zeroPadded 2 month ++ ['-', '0', '1']))

/-- The text of the last day of a month. -/
def endDate (year month : ℤ) : String :=
  dateText (Civil.ofDays (Civil.normalize year (month + 1) 0))

/-- The row is counted for an account and a month. -/
def UsageRow.counted (accountID : String) (year month : ℤ) (u : UsageRow) : Bool :=
  u.accountID = accountID && startDate year month ≤ u.date && u.date ≤ endDate year month

namespace UsageTable

/-- How many messages of an account were counted in a month. -/
def getMonthlyUsage (rows : List UsageRow) (accountID : String) (year month : ℤ) : ℤ :=
  ((rows.filter (·.counted accountID year month)).map UsageRow.count).sum

/-- How many messages of an account were counted in a year. -/
def yearlyUsage (rows : List UsageRow) (accountID : String) (year : ℤ) : ℤ :=
  ((rows.filter fun u => u.accountID = accountID && (dateOf u.date).any (·.year = year)).map
    UsageRow.count).sum

/-- Count a message of an account on a day. -/
def incrementUsage (rows : List UsageRow) (accountID today : String) : List UsageRow :=
  if rows.any fun u => u.accountID = accountID && u.date = today then
    rows.map fun u =>
      if u.accountID = accountID ∧ u.date = today then { u with count := u.count + 1 } else u
  else rows ++ [⟨accountID, today, 1⟩]

end UsageTable

/-! ## Dates and months -/

section Dates

variable {date : String} {c : Civil} {year month : ℤ}

theorem dateOf_eq_some (h : dateOf date = some c) :
    date.toList = Timestamp.writeDate c ∧ Timestamp.FourDigits c ∧ c.Valid := by
  unfold dateOf at h
  split at h
  · next c' hread =>
    obtain rfl := Option.some.inj h
    obtain ⟨htext, hy, hvalid⟩ := Timestamp.readDate_eq_some hread
    exact ⟨by rw [htext, List.append_nil], hy, hvalid⟩
  · cases h

/-- The text of a date denotes it. -/
theorem dateOf_dateText (hy : Timestamp.FourDigits c) (h : c.Valid) :
    dateOf (dateText c) = some c := by
  have hread := Timestamp.readDate_write hy ⟨h.month_pos, h.month_le⟩ h.day_pos h.day_le []
  rw [List.append_nil] at hread
  rw [dateOf, dateText, String.toList_ofList, Timestamp.formatDate_eq_writeDate hy h, hread]

theorem toList_startDate (hy₀ : 0 ≤ year) (hy₁ : year ≤ 9999) (h₁ : 1 ≤ month)
    (h₁₂ : month ≤ 12) : (startDate year month).toList = Timestamp.writeDate ⟨year, month, 1⟩ := by
  have hday : pad 2 (1 : ℤ).toNat = ['0', '1'] := by decide
  rw [startDate, String.toList_ofList, zeroPadded_eq_pad hy₀ (by omega),
    zeroPadded_eq_pad (by omega) (by omega), Timestamp.writeDate, hday]

theorem toList_endDate (hy₀ : 0 ≤ year) (hy₁ : year ≤ 9999) (h₁ : 1 ≤ month)
    (h₁₂ : month ≤ 12) : (endDate year month).toList =
      Timestamp.writeDate ⟨year, month, Civil.daysIn month year⟩ := by
  rw [endDate, dateText, String.toList_ofList, Civil.ofDays_dayZero h₁ h₁₂,
    Timestamp.formatDate_eq_writeDate ⟨hy₀, hy₁⟩ (Civil.valid_lastDay year h₁ h₁₂)]

/-- The texts between those of the first and the last day of a month are the dates of the month. -/
theorem between_iff (hdate : dateOf date = some c) (hy₀ : 0 ≤ year) (hy₁ : year ≤ 9999)
    (h₁ : 1 ≤ month) (h₁₂ : month ≤ 12) :
    startDate year month ≤ date ∧ date ≤ endDate year month ↔ c.year = year ∧ c.month = month := by
  obtain ⟨htext, hy, hvalid⟩ := dateOf_eq_some hdate
  have hlast := Civil.valid_lastDay year h₁ h₁₂
  have hfirst : Civil.Valid ⟨year, month, 1⟩ := ⟨h₁, h₁₂, le_refl _, hlast.day_pos⟩
  rw [← String.not_lt, ← String.not_lt, String.lt_iff, String.lt_iff, htext,
    toList_startDate hy₀ hy₁ h₁ h₁₂, toList_endDate hy₀ hy₁ h₁ h₁₂,
    Timestamp.writeDate_lt_iff hy ⟨hy₀, hy₁⟩ hvalid hfirst,
    Timestamp.writeDate_lt_iff ⟨hy₀, hy₁⟩ hy hlast hvalid]
  obtain ⟨-, -, hpos, hle⟩ := hvalid
  dsimp only
  constructor
  · omega
  · rintro ⟨rfl, rfl⟩
    omega

/-- **Which rows are counted for a month.** -/
theorem UsageRow.counted_iff {u : UsageRow} {accountID : String} (hdate : dateOf u.date = some c)
    (hy₀ : 0 ≤ year) (hy₁ : year ≤ 9999) (h₁ : 1 ≤ month) (h₁₂ : month ≤ 12) :
    u.counted accountID year month = true ↔
      u.accountID = accountID ∧ c.year = year ∧ c.month = month := by
  unfold UsageRow.counted
  rw [Bool.and_eq_true, Bool.and_eq_true, decide_eq_true_eq, decide_eq_true_eq, decide_eq_true_eq,
    and_assoc, between_iff hdate hy₀ hy₁ h₁ h₁₂]

end Dates

/-! ## The months of a year -/

/-- A sum over the rows of each class is the sum over the rows that have a class. -/
theorem sum_classes {ι α : Type} [DecidableEq ι] (s : Finset ι) {rows : List α}
    {counts : ι → α → Bool} {within : α → Bool} (classOf : α → ι) (amount : α → ℤ)
    (hcounts : ∀ a ∈ rows, ∀ i ∈ s, counts i a = true ↔ within a = true ∧ classOf a = i)
    (hclass : ∀ a ∈ rows, within a = true → classOf a ∈ s) :
    ∑ i ∈ s, ((rows.filter (counts i)).map amount).sum =
      ((rows.filter within).map amount).sum := by
  induction rows with
  | nil => simp
  | cons a rows ih =>
    have ha := hcounts a List.mem_cons_self
    have hrest := ih (fun b hb => hcounts b (List.mem_cons_of_mem a hb)) fun b hb =>
      hclass b (List.mem_cons_of_mem a hb)
    have hcons (p : α → Bool) : (((a :: rows).filter p).map amount).sum =
        (if p a = true then amount a else 0) + ((rows.filter p).map amount).sum := by
      rw [List.filter_cons]
      split_ifs <;> simp
    simp only [hcons, sum_add_distrib, hrest, add_left_inj]
    by_cases hwithin : within a = true
    · have hone : ∀ i ∈ s, (if counts i a = true then amount a else 0) =
          if classOf a = i then amount a else 0 := by
        intro i hi
        simp only [ha i hi, hwithin, true_and]
      rw [sum_congr rfl hone, sum_ite_eq, if_pos (hclass a List.mem_cons_self hwithin),
        if_pos hwithin]
    · have hnone : ∀ i ∈ s, (if counts i a = true then amount a else 0) = 0 := by
        intro i hi
        rw [if_neg]
        exact fun hi' => hwithin ((ha i hi).1 hi').1
      rw [sum_congr rfl hnone, sum_const_zero, if_neg hwithin]

/-- **The months partition the usage of a year**: every row of the account is counted in the month of
its date and in no other, so the months together have what the rows of the year have. -/
theorem months_partition (accountID : String) (rows : List UsageRow)
    (hdates : ∀ u ∈ rows, (dateOf u.date).isSome = true) (year : ℤ) (hy₁ : 1 ≤ year)
    (hy₂ : year ≤ 9999) :
    (∀ u ∈ rows, ∀ c, dateOf u.date = some c → ∀ month, 1 ≤ month → month ≤ 12 →
      (u.counted accountID year month = true ↔
        u.accountID = accountID ∧ c.year = year ∧ c.month = month)) ∧
    ∑ month ∈ Icc 1 12, UsageTable.getMonthlyUsage rows accountID year month =
      UsageTable.yearlyUsage rows accountID year := by
  have hcounted : ∀ u ∈ rows, ∀ c, dateOf u.date = some c → ∀ month, 1 ≤ month → month ≤ 12 →
      (u.counted accountID year month = true ↔
        u.accountID = accountID ∧ c.year = year ∧ c.month = month) := fun u _ c hc month h₁ h₁₂ =>
    UsageRow.counted_iff hc (by omega) hy₂ h₁ h₁₂
  refine ⟨hcounted, ?_⟩
  refine sum_classes _ (fun u => ((dateOf u.date).map Civil.month).getD 0) _
    (fun u hu month hmonth => ?_) fun u hu hwithin => ?_
  · obtain ⟨c, hc⟩ := Option.isSome_iff_exists.1 (hdates u hu)
    rw [mem_Icc] at hmonth
    rw [hcounted u hu c hc month hmonth.1 hmonth.2]
    simp [hc, and_assoc]
  · obtain ⟨c, hc⟩ := Option.isSome_iff_exists.1 (hdates u hu)
    obtain ⟨-, -, hvalid⟩ := dateOf_eq_some hc
    simp [hc, hvalid.month_pos, hvalid.month_le]

/-- Rows around the ends of months, in leap years and others. -/
def edgeRows : List UsageRow :=
  [⟨"account-1", "2023-12-31", 5⟩, ⟨"account-1", "2024-01-01", 7⟩, ⟨"account-1", "2024-02-29", 11⟩,
    ⟨"account-2", "2024-02-29", 13⟩, ⟨"account-1", "2024-03-01", 17⟩,
    ⟨"account-1", "2024-12-31", 19⟩, ⟨"account-1", "2100-02-28", 23⟩]

theorem edgeRows_partition : (∀ u ∈ edgeRows, (dateOf u.date).isSome = true) ∧
    ∑ month ∈ Icc 1 12, UsageTable.getMonthlyUsage edgeRows "account-1" 2024 month = 54 := by
  have hdates : ∀ u ∈ edgeRows, (dateOf u.date).isSome = true := by decide
  have hyear : UsageTable.yearlyUsage edgeRows "account-1" 2024 = 54 := by decide
  refine ⟨hdates, ?_⟩
  rw [(months_partition "account-1" edgeRows hdates 2024 (by decide) (by decide)).2, hyear]

/-! ## Counters and rows -/

/-- A counter as a row of the table. -/
def tableRow (u : UsageCounter) : UsageRow :=
  ⟨u.accountID, dateText (Civil.ofDays u.date), u.count⟩

/-- The usage counters of the database as a table. -/
def usageTable (db : Database) : List UsageRow := db.usageCounters.map tableRow

/-- The days of the counters have a year of four digits. -/
def DaysFit (db : Database) : Prop :=
  ∀ u ∈ db.usageCounters, Timestamp.FourDigits (Civil.ofDays u.date)

section Rows

variable {db : Database} {accountID : String} {day day' year month : ℤ}

/-- Different days have different texts. -/
theorem dateText_inj (h : Timestamp.FourDigits (Civil.ofDays day))
    (h' : Timestamp.FourDigits (Civil.ofDays day')) :
    dateText (Civil.ofDays day) = dateText (Civil.ofDays day') ↔ day = day' := by
  refine ⟨fun htext => ?_, fun hsame => hsame ▸ rfl⟩
  have hdate := dateOf_dateText h (Civil.valid_ofDays day)
  rw [htext, dateOf_dateText h' (Civil.valid_ofDays day')] at hdate
  rw [← (Civil.ofDays_spec day).1, ← (Civil.ofDays_spec day').1, Option.some.inj hdate]

/-- The days of a month are those whose dates are in the month. -/
theorem inMonth_iff (h₁ : 1 ≤ month) (h₁₂ : month ≤ 12) : inMonth year month day = true ↔
    (Civil.ofDays day).year = year ∧ (Civil.ofDays day).month = month := by
  have hvalid := Civil.valid_ofDays day
  have hbounds := hvalid.toDays_bounds
  rw [(Civil.ofDays_spec day).1] at hbounds
  have hends : inMonth year month day = true ↔ Civil.firstDay (Civil.monthIndex year month) ≤ day ∧
      day < Civil.firstDay (Civil.monthIndex year month + 1) := by
    unfold inMonth
    rw [Civil.toDays_eq_firstDay h₁ h₁₂, Civil.toDays_eq_firstDay h₁ h₁₂, Civil.firstDay_succ,
      Civil.monthIndex_div h₁ h₁₂, Civil.monthIndex_mod h₁ h₁₂, Bool.and_eq_true, decide_eq_true_eq,
      decide_eq_true_eq]
    dsimp only
    omega
  rw [hends]
  constructor
  · intro h
    have hindex := Civil.index_unique hbounds h
    have hyear : Civil.monthIndex (Civil.ofDays day).year (Civil.ofDays day).month / 12 =
        (Civil.ofDays day).year := Civil.monthIndex_div hvalid.month_pos hvalid.month_le
    have hmonth : Civil.monthIndex (Civil.ofDays day).year (Civil.ofDays day).month % 12 + 1 =
        (Civil.ofDays day).month := Civil.monthIndex_mod hvalid.month_pos hvalid.month_le
    rw [hindex, Civil.monthIndex_div h₁ h₁₂] at hyear
    rw [hindex, Civil.monthIndex_mod h₁ h₁₂] at hmonth
    exact ⟨hyear.symm, hmonth.symm⟩
  · rintro ⟨hyear, hmonth⟩
    rwa [hyear, hmonth] at hbounds

/-- **The usage of a month by days is the usage of the month by texts.** -/
theorem usage_rows (hfit : DaysFit db) (hy₀ : 0 ≤ year) (hy₁ : year ≤ 9999) (h₁ : 1 ≤ month)
    (h₁₂ : month ≤ 12) : db.usage accountID (inMonth year month) =
      UsageTable.getMonthlyUsage (usageTable db) accountID year month := by
  have hrows : ∀ u ∈ db.usageCounters, (decide (u.accountID = accountID) &&
      inMonth year month u.date) = (tableRow u).counted accountID year month := by
    intro u hu
    have hdate : dateOf (tableRow u).date = some (Civil.ofDays u.date) :=
      dateOf_dateText (hfit u hu) (Civil.valid_ofDays u.date)
    rw [Bool.eq_iff_iff, UsageRow.counted_iff hdate hy₀ hy₁ h₁ h₁₂, Bool.and_eq_true,
      decide_eq_true_eq, inMonth_iff h₁ h₁₂]
    rfl
  unfold Database.usage UsageTable.getMonthlyUsage usageTable
  rw [List.filter_congr hrows, List.filter_map, List.map_map]
  rfl

/-- **Counting a message on a day is counting it on the text of the day.** -/
theorem countUsage_rows (hfit : DaysFit db) (hday : Timestamp.FourDigits (Civil.ofDays day)) :
    usageTable (db.countUsage accountID day) =
      UsageTable.incrementUsage (usageTable db) accountID (dateText (Civil.ofDays day)) := by
  have hsame : ∀ u ∈ db.usageCounters, (u.accountID = accountID ∧ u.date = day ↔
      (tableRow u).accountID = accountID ∧ (tableRow u).date = dateText (Civil.ofDays day)) :=
    fun u hu => and_congr_right fun _ => (dateText_inj (hfit u hu) hday).symm
  have hany : ((usageTable db).any fun u => decide (u.accountID = accountID) &&
      decide (u.date = dateText (Civil.ofDays day))) =
        db.usageCounters.any fun u => decide (u.accountID = accountID) && decide (u.date = day) := by
    rw [Bool.eq_iff_iff, usageTable, List.any_map]
    simp only [List.any_eq_true, Function.comp_apply, Bool.and_eq_true, decide_eq_true_eq]
    exact exists_congr fun u => and_congr_right fun hu => (hsame u hu).symm
  unfold Database.countUsage UsageTable.incrementUsage
  rw [hany]
  split_ifs
  · simp only [usageTable, List.map_map]
    refine List.map_congr_left fun u hu => ?_
    simp only [Function.comp_apply, ← hsame u hu]
    split_ifs <;> rfl
  · rw [usageTable, List.map_append]
    rfl

/-- What the server reports for a month is what the table has for it. -/
theorem getMonthlyUsage_val {cfg : Config} {w : World} (h : CalmFor 1 w) (hfit : DaysFit w.db)
    (hy₀ : 0 ≤ year) (hy₁ : year ≤ 9999) (h₁ : 1 ≤ month) (h₁₂ : month ≤ 12) :
    ((getMonthlyUsage accountID year month).exec (server cfg) w).val =
      .ok (UsageTable.getMonthlyUsage (usageTable w.db) accountID year month) := by
  rw [← usage_rows hfit hy₀ hy₁ h₁ h₁₂]
  exact (h.step_query cfg _).1

end Rows

end AeroxeBee.Api
