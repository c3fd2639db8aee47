import AeroxeBee.Api.Postings
import AeroxeBee.Status.Reports

/-!
# The totals of each day

Once a minute the server counts the messages of the current day and stores the totals; then it
removes the messages whose time has come. What happens to the messages of a day after the last count
of that day is in no total.

* `counted_run`: the stored totals of a day are those at the last count of the day;
* `settled_of_timely`: the totals of a day stay as they were counted if each change is followed by a
  count on that day;
* `matches_iff`: when the stored totals of past days are those of their messages.
-/

namespace AeroxeBee.Admin

open Foundations

/-! ## Totals -/

/-- A row of the totals. Days are counted from the epoch. -/
structure AnalyticsDaily where
  date : ℤ
  totalSent : ℕ
  totalDelivered : ℕ
  totalFailed : ℕ
  avgConfidence : ℚ
  otpSent : ℕ
  transactionalSent : ℕ
  marketingSent : ℕ
deriving DecidableEq

namespace AnalyticsDaily

/-- The day of a time. -/
def dayOf (t : ℤ) : ℤ := t / 86400000000000

/-- The totals over the messages that were created on a day. -/
def total (messages : List Message) (date : ℤ) : AnalyticsDaily :=
  let rows := messages.filter (dayOf ·.createdAt.nanos = date)
  { date := date
    totalSent := rows.length
    totalDelivered :=
      rows.countP fun m => m.deliveryStatus ∈ [DeliveryStatus.carrierAccepted, .probableDelivered]
    totalFailed := rows.countP (·.deliveryStatus = .failed)
    avgConfidence := if rows = [] then 0 else (rows.map Message.confidenceScore).sum / rows.length
    otpSent := rows.countP (·.messageType = .otp)
    transactionalSent := rows.countP (·.messageType = .transactional)
    marketingSent := rows.countP (·.messageType = .marketing) }

/-- The numbers of messages: all, the delivered and the failed ones, and those of each type. -/
def counts (row : AnalyticsDaily) : List ℕ :=
  [row.totalSent, row.totalDelivered, row.totalFailed, row.otpSent, row.transactionalSent,
    row.marketingSent]

end AnalyticsDaily

open AnalyticsDaily

/-- The rows after the one of a day has been inserted or overwritten. -/
def upsert (row : AnalyticsDaily) (rows : List AnalyticsDaily) : List AnalyticsDaily :=
  if rows.any (·.date = row.date) then updateWhere (·.date = row.date) (fun _ => row) rows
  else rows ++ [row]

/-- The database with the totals. -/
structure Books where
  db : Database
  daily : List AnalyticsDaily

/-- What happens to the messages and their totals. In a tick of the background job either statement
can fail. -/
inductive Happening where
  | create (msg : Message)
  | updateDeliveryStatus (id : String) (status : DeliveryStatus) (confidence : ℚ)
  | markFailed (id reason : String)
  | tick (recording purge : Fault)

namespace Books

/-- Store the totals of the current day. -/
def recordAnalyticsDaily (t : ℤ) (b : Books) : Books :=
  { b with daily := upsert (total b.db.messages (dayOf t)) b.daily }

/-- What happens at a time. -/
def step (b : Books) (t : ℤ) : Happening → Books
  | .create msg => { b with db := ((Query.createMessage msg).run b.db).2 }
  | .updateDeliveryStatus id status confidence =>
    { b with db := ((Query.updateDeliveryStatus id status confidence t).run b.db).2 }
  | .markFailed id reason => { b with db := ((Query.markFailed id reason).run b.db).2 }
  | .tick recording purge =>
    let b := if recording.isRefused then b else b.recordAnalyticsDaily t
    if purge.isRefused then b else { b with db := ((Query.deleteOld t).run b.db).2 }

/-- What happens at given times, one after the other. -/
def run (b : Books) (events : List (ℤ × Happening)) : Books :=
  events.foldl (fun b e => b.step e.1 e.2) b

/-- The numbers that are stored for a day; without a row there are none. -/
def counted (b : Books) (date : ℤ) : List ℕ :=
  ((b.daily.find? (·.date = date)).map counts).getD [0, 0, 0, 0, 0, 0]

/-- The numbers over the messages of a day. -/
def actual (b : Books) (date : ℤ) : List ℕ := (total b.db.messages date).counts

theorem run_concat (b : Books) (events : List (ℤ × Happening)) (e : ℤ × Happening) :
    b.run (events ++ [e]) = (b.run events).step e.1 e.2 := by
  simp [run]

end Books

/-! ## The law -/

/-- A count on a day. -/
def Records (date : ℤ) : ℤ × Happening → Bool
  | (t, .tick recording _) => dayOf t = date && !recording.isRefused
  | _ => false

/-- The second part of a run has no count on a day, and the first one ends in a count, unless it is
empty. -/
structure SinceCount (date : ℤ) (early late : List (ℤ × Happening)) : Prop where
  counted : ∀ e ∈ early.getLast?, Records date e = true
  uncounted : ∀ e ∈ late, Records date e = false

/-- No message of a day has been removed. -/
def Unpurged (b : Books) (date : ℤ) (events : List (ℤ × Happening)) : Prop :=
  ∀ before t recording purge, before ++ [(t, .tick recording purge)] <+: events →
    purge.isRefused = false → ∀ m ∈ (b.run before).db.messages, dayOf m.createdAt.nanos = date →
      t ≤ m.purgeAfter

/-- After each tick the stored totals of every day before it are those of its messages, if none of them
has been removed. -/
def Matches (b : Books) (events : List (ℤ × Happening)) : Prop :=
  ∀ before t recording purge, before ++ [(t, .tick recording purge)] <+: events →
    ∀ date < dayOf t, Unpurged b date (before ++ [(t, .tick recording purge)]) →
      (b.run (before ++ [(t, .tick recording purge)])).counted date =
        (b.run (before ++ [(t, .tick recording purge)])).actual date

/-- At each tick the messages of every day before it have the same totals as at the last count of that
day, or as at the start if they have not been counted. -/
def Settled (b : Books) (events : List (ℤ × Happening)) : Prop :=
  ∀ early late t recording purge, early ++ late ++ [(t, .tick recording purge)] <+: events →
    ∀ date < dayOf t, SinceCount date early late →
      Unpurged b date (early ++ late ++ [(t, .tick recording purge)]) →
        (b.run early).actual date = (b.run (early ++ late)).actual date

/-- Between a change of the totals of a day and the next tick on a later day there is a count on that
day. -/
def Timely (b : Books) (events : List (ℤ × Happening)) : Prop :=
  ∀ before e mid t recording purge,
    before ++ e :: mid ++ [(t, .tick recording purge)] <+: events → ∀ date < dayOf t,
      Unpurged b date (before ++ e :: mid ++ [(t, .tick recording purge)]) →
        (b.run (before ++ [e])).actual date ≠ (b.run before).actual date →
          ∃ e ∈ mid, Records date e = true

theorem Unpurged.mono {b : Books} {date : ℤ} {before events : List (ℤ × Happening)}
    (h : Unpurged b date events) (hp : before <+: events) : Unpurged b date before :=
  fun earlier t recording purge hq => h earlier t recording purge (hq.trans hp)

/-! ## One step -/

/-- Overwriting the rows of a day changes what is found for that day only. -/
theorem find?_overwritten (row : AnalyticsDaily) (date : ℤ) (rows : List AnalyticsDaily) :
    (updateWhere (·.date = row.date) (fun _ => row) rows).find? (·.date = date) =
      if row.date = date then (rows.find? (·.date = date)).map fun _ => row
      else rows.find? (·.date = date) := by
  induction rows with
  | nil => simp [updateWhere]
  | cons other rows ih =>
    simp only [updateWhere, List.map_cons, List.find?_cons] at ih ⊢
    by_cases hd : row.date = date <;> by_cases ho : other.date = row.date
    · simp [hd, ho ▸ hd]
    · have hne : other.date ≠ date := fun h => ho (h.trans hd.symm)
      simpa [hd, hne] using ih
    · have hne : other.date ≠ date := fun h => hd (ho.symm.trans h)
      simpa [hd, ho, hne] using ih
    · rw [if_neg hd] at ih
      simp only [ho, decide_false, Bool.false_eq_true, if_false, ih, if_neg hd]

theorem find?_upsert (row : AnalyticsDaily) (date : ℤ) (rows : List AnalyticsDaily) :
    (upsert row rows).find? (·.date = date) =
      if row.date = date then some row else rows.find? (·.date = date) := by
  unfold upsert
  split
  · rename_i hany
    rw [find?_overwritten]
    split
    · rename_i hd
      obtain ⟨other, hfound⟩ : ∃ other, rows.find? (·.date = date) = some other := by
        obtain ⟨other, hmem, hdate⟩ := List.any_eq_true.1 hany
        exact Option.isSome_iff_exists.1
          (List.find?_isSome.2 ⟨other, hmem, by simpa [hd] using hdate⟩)
      simp [hfound]
    · rfl
  · rename_i hnone
    by_cases hd : row.date = date
    · have hnot : rows.find? (·.date = date) = none := by
        simpa [hd] using hnone
      simp [List.find?_append, hnot, hd]
    · simp [List.find?_append, hd]

namespace Books

theorem counted_recordAnalyticsDaily (b : Books) (t date : ℤ) :
    (b.recordAnalyticsDaily t).counted date =
      if dayOf t = date then b.actual date else b.counted date := by
  have hdate : (total b.db.messages (dayOf t)).date = dayOf t := rfl
  simp only [recordAnalyticsDaily, counted, find?_upsert, hdate]
  split
  · rename_i hd
    rw [hd]
    rfl
  · rfl

/-- Only a count on a day changes its stored totals, and it stores those of its messages. -/
theorem counted_step (b : Books) (date t : ℤ) (h : Happening) :
    (b.step t h).counted date =
      if Records date (t, h) then b.actual date else b.counted date := by
  cases h with
  | create msg => rfl
  | updateDeliveryStatus id status confidence => rfl
  | markFailed id reason => rfl
  | tick recording purge =>
    have hpurge : (b.step t (.tick recording purge)).counted date =
        (if recording.isRefused then b else b.recordAnalyticsDaily t).counted date := by
      simp only [step]
      split <;> rfl
    rw [hpurge]
    cases hr : recording.isRefused <;> simp [Records, hr, counted_recordAnalyticsDaily]

/-- A tick keeps the totals of a day if it removes no message of that day. -/
theorem actual_tick {b : Books} {date t : ℤ} {recording purge : Fault}
    (h : purge.isRefused = false → ∀ m ∈ b.db.messages, dayOf m.createdAt.nanos = date →
      t ≤ m.purgeAfter) :
    (b.step t (.tick recording purge)).actual date = b.actual date := by
  have hdb : (if recording.isRefused then b else b.recordAnalyticsDaily t).db = b.db := by
    split <;> rfl
  simp only [step]
  split
  · simp only [actual, hdb]
  · rename_i hr
    have hkept : (b.db.messages.filter fun m => decide (t ≤ m.purgeAfter)).filter
        (dayOf ·.createdAt.nanos = date) =
        b.db.messages.filter (dayOf ·.createdAt.nanos = date) := by
      rw [List.filter_filter]
      refine List.filter_congr fun m hm => ?_
      have hage := h (by simpa using hr) m hm
      by_cases hd : dayOf m.createdAt.nanos = date
      · simp [hd, hage hd]
      · simp [hd]
    simp only [actual, hdb, total, Query.run, hkept]

end Books

/-! ## Runs -/

/-- A message of another day is in no total of a day. -/
theorem actual_create {b : Books} {date t : ℤ} {msg : Message}
    (h : dayOf msg.createdAt.nanos ≠ date) :
    (b.step t (.create msg)).actual date = b.actual date := by
  have hrows : (b.step t (.create msg)).db.messages.filter (dayOf ·.createdAt.nanos = date) =
      b.db.messages.filter (dayOf ·.createdAt.nanos = date) := by
    simp only [Books.step, Query.run]
    cases hins : b.db.insertMessage msg with
    | error e => rfl
    | ok db => simp [(Api.insertMessage_ok hins).2, List.filter_append, h]
  simp only [Books.actual, total, hrows]

/-- Messages that are kept until a time are still kept until then after one more event. -/
theorem kept_step {b : Books} {t limit : ℤ} {h : Happening}
    (hb : ∀ m ∈ b.db.messages, limit ≤ m.purgeAfter)
    (hnew : ∀ msg, h = .create msg → limit ≤ msg.purgeAfter) :
    ∀ m ∈ (b.step t h).db.messages, limit ≤ m.purgeAfter := by
  -- an update changes no time of removal
  have hupdate : ∀ (id : String) (f : Message → Message), (∀ m, (f m).purgeAfter = m.purgeAfter) →
      ∀ m ∈ (b.db.updateMessage id f).messages, limit ≤ m.purgeAfter := by
    intro id f hf m hm
    obtain ⟨row, hrow, rfl⟩ := List.mem_map.1 hm
    have hage := hb row hrow
    split
    · rwa [hf]
    · exact hage
  cases h with
  | create msg =>
    intro m hm
    simp only [Books.step, Query.run] at hm
    cases hins : b.db.insertMessage msg with
    | error e => exact hb m (by simpa [hins] using hm)
    | ok db =>
      rw [hins, (Api.insertMessage_ok hins).2] at hm
      rcases List.mem_append.1 hm with hm | hm
      · exact hb m hm
      · exact List.mem_singleton.1 hm ▸ hnew msg rfl
  | updateDeliveryStatus id status confidence => exact hupdate id _ fun _ => rfl
  | markFailed id reason => exact hupdate id _ fun _ => rfl
  | tick recording purge =>
    have hdb : (if recording.isRefused then b else b.recordAnalyticsDaily t).db = b.db := by
      split <;> rfl
    intro m hm
    simp only [Books.step] at hm
    split at hm
    · exact hb m (by simpa [hdb] using hm)
    · simp only [Query.run, hdb] at hm
      exact hb m (List.mem_filter.1 hm).1

section Runs

variable {b : Books} {date : ℤ}

/-- Every run splits at the last count of a day. -/
theorem exists_sinceCount (date : ℤ) (events : List (ℤ × Happening)) :
    ∃ early late, events = early ++ late ∧ SinceCount date early late := by
  induction events using List.reverseRecOn with
  | nil => exact ⟨[], [], rfl, by simp, by simp⟩
  | append_singleton events e ih =>
    obtain ⟨early, late, rfl, hcount⟩ := ih
    cases he : Records date e with
    | true => exact ⟨early ++ late ++ [e], [], by simp, by simp [he], by simp⟩
    | false =>
      refine ⟨early, late ++ [e], by simp, hcount.counted, fun x hx => ?_⟩
      rcases List.mem_append.1 hx with hx | hx
      · exact hcount.uncounted x hx
      · exact List.mem_singleton.1 hx ▸ he

/-- Without a count the stored totals of a day stay. -/
theorem counted_append {early late : List (ℤ × Happening)}
    (h : ∀ e ∈ late, Records date e = false) :
    (b.run (early ++ late)).counted date = (b.run early).counted date := by
  induction late using List.reverseRecOn with
  | nil => simp
  | append_singleton late e ih =>
    have he : Records date e = false := h e (by simp)
    rw [← List.append_assoc, Books.run_concat, Books.counted_step, he]
    exact ih fun x hx => h x (by simp [hx])

/-- **The stored totals of a day are those at its last count.** -/
theorem counted_run (hb : b.counted date = b.actual date) {early late : List (ℤ × Happening)}
    (hcount : SinceCount date early late) (hkept : Unpurged b date early) :
    (b.run (early ++ late)).counted date = (b.run early).actual date := by
  rw [counted_append hcount.uncounted]
  rcases List.eq_nil_or_concat early with rfl | ⟨before, ⟨t, h⟩, rfl⟩
  · exact hb
  · have hrec : Records date (t, h) = true := hcount.counted _ (by simp)
    rw [List.concat_eq_append, Books.run_concat, Books.counted_step, if_pos hrec]
    cases h with
    | tick recording purge =>
      have hp := hkept before t recording purge (by simp)
      exact (Books.actual_tick hp).symm
    | create msg => cases hrec
    | updateDeliveryStatus id status confidence => cases hrec
    | markFailed id reason => cases hrec

/-- If the totals of a day differ after some events, one of the events has changed them. -/
theorem exists_change {early late : List (ℤ × Happening)}
    (h : (b.run (early ++ late)).actual date ≠ (b.run early).actual date) :
    ∃ before e mid, late = before ++ e :: mid ∧
      (b.run (early ++ before ++ [e])).actual date ≠ (b.run (early ++ before)).actual date := by
  induction late using List.reverseRecOn with
  | nil => simp at h
  | append_singleton late e ih =>
    by_cases hlast : (b.run (early ++ late)).actual date = (b.run early).actual date
    · exact ⟨late, e, [], rfl, by simpa [hlast] using h⟩
    · obtain ⟨before, e', mid, rfl, hne⟩ := ih hlast
      exact ⟨before, e', mid ++ [e], by simp, hne⟩

/-- **Totals that are counted after each change stay as they were counted.** -/
theorem settled_of_timely {events : List (ℤ × Happening)} (h : Timely b events) :
    Settled b events := by
  intro early late t recording purge hp date hdate hcount hkept
  by_contra hne
  obtain ⟨before, e, mid, rfl, hchange⟩ := exists_change (Ne.symm hne)
  have hassoc : early ++ before ++ e :: mid ++ [(t, .tick recording purge)] =
      early ++ (before ++ e :: mid) ++ [(t, .tick recording purge)] := by simp
  obtain ⟨x, hx, hrec⟩ := h (early ++ before) e mid t recording purge (hassoc ▸ hp) date hdate
    (hassoc ▸ hkept) hchange
  have hnot := hcount.uncounted x (by simp [hx])
  exact absurd hrec (by simp [hnot])

/-- A tick on a later day neither counts a day nor changes its totals. -/
theorem tick_past (hb : b.counted date = b.actual date) {early late : List (ℤ × Happening)} {t : ℤ}
    {recording purge : Fault} (hdate : date < dayOf t) (hcount : SinceCount date early late)
    (hkept : Unpurged b date (early ++ late ++ [(t, .tick recording purge)])) :
    (b.run (early ++ late ++ [(t, .tick recording purge)])).counted date =
        (b.run early).actual date ∧
      (b.run (early ++ late ++ [(t, .tick recording purge)])).actual date =
        (b.run (early ++ late)).actual date := by
  have hnot : Records date (t, .tick recording purge) = false := by
    simp [Records, hdate.ne']
  have hearly : early <+: early ++ late ++ [(t, .tick recording purge)] := by
    rw [List.append_assoc]
    exact List.prefix_append _ _
  rw [Books.run_concat]
  refine ⟨?_, Books.actual_tick (hkept _ t recording purge List.prefix_rfl)⟩
  rw [Books.counted_step, hnot]
  exact counted_run hb hcount (hkept.mono hearly)

/-- No message is removed before its time. -/
theorem unpurged_of_kept {events : List (ℤ × Happening)} (limit : ℤ)
    (hb : ∀ m ∈ b.db.messages, limit ≤ m.purgeAfter)
    (hnew : ∀ e ∈ events, ∀ msg, e.2 = .create msg → limit ≤ msg.purgeAfter)
    (htime : ∀ e ∈ events, e.1 ≤ limit) : Unpurged b date events := by
  have hkept : ∀ before, before <+: events → ∀ m ∈ (b.run before).db.messages,
      limit ≤ m.purgeAfter := by
    intro before
    induction before using List.reverseRecOn with
    | nil => exact fun _ => hb
    | append_singleton before e ih =>
      intro hp
      rw [Books.run_concat]
      exact kept_step (ih ((List.prefix_append _ _).trans hp))
        (hnew e (hp.subset (by simp)))
  intro before t recording purge hp _ m hm _
  have htick : (t, Happening.tick recording purge) ∈ events := hp.subset (by simp)
  exact (htime _ htick).trans (hkept before ((List.prefix_append _ _).trans hp) m hm)

end Runs

/-- **The stored totals of past days are those of their messages exactly if those have not changed since
the last count of the day.** -/
theorem matches_iff (b : Books) (events : List (ℤ × Happening))
    (hb : ∀ date, b.counted date = b.actual date) : Matches b events ↔ Settled b events := by
  constructor
  · intro h early late t recording purge hp date hdate hcount hkept
    obtain ⟨hcounted, hactual⟩ := tick_past (hb date) hdate hcount hkept
    rw [← hcounted, ← hactual]
    exact h (early ++ late) t recording purge hp date hdate hkept
  · intro h before t recording purge hp date hdate hkept
    obtain ⟨early, late, rfl, hcount⟩ := exists_sinceCount date before
    obtain ⟨hcounted, hactual⟩ := tick_past (hb date) hdate hcount hkept
    rw [hcounted, hactual]
    exact h early late t recording purge hp date hdate hcount hkept

/-! ## The last seconds of a day -/

/-- A server with one phone and no message. -/
def noBooks : Books := ⟨(Dispatch.onePhone []).db, []⟩

/-- A message of fifteen seconds before midnight, kept for a month. -/
def lateMessage : Message :=
  { Status.waitingMessage with createdAt := ⟨86385, 0, Timestamp.utc_lt⟩, purgeAfter := 2678385000000000 }

/-- The job runs half a minute before and after midnight, and the message comes in between. -/
def aroundMidnight : List (ℤ × Happening) :=
  [(86370000000000, .tick .none .none), (86385000000000, .create lateMessage),
    (86430000000000, .tick .none .none)]

theorem noBooks_counted (date : ℤ) : noBooks.counted date = noBooks.actual date := by
  simp [noBooks, Books.counted, Books.actual, total, counts, Dispatch.onePhone]

/-- The message of the last seconds is in no total. -/
theorem late_uncounted : ¬ Matches noBooks aroundMidnight := by
  intro h
  have hkept : Unpurged noBooks 0 aroundMidnight := by
    refine unpurged_of_kept 86430000000000 (by simp [noBooks, Dispatch.onePhone]) ?_ ?_
    · simp [aroundMidnight, lateMessage]
    · simp [aroundMidnight]
  have hrow := h (aroundMidnight.take 2) 86430000000000 .none .none (by simp [aroundMidnight]) 0
    (by decide) hkept
  exact absurd hrow (by decide)

/-- The job runs between the message and midnight as well. -/
def countedInTime : List (ℤ × Happening) :=
  [(86385000000000, .create lateMessage), (86390000000000, .tick .none .none),
    (86450000000000, .tick .none .none)]

/-- With one more count before midnight the message is in the totals. -/
theorem counted_matches : Matches noBooks countedInTime := by
  refine (matches_iff noBooks _ noBooks_counted).2 (settled_of_timely ?_)
  intro before e mid t recording purge hp date hdate hkept hchange
  have hlen : before.length + mid.length ≤ 1 := by
    have hle := hp.length_le
    simp [countedInTime] at hle
    omega
  obtain ⟨rest, hr⟩ := hp
  have hlate : dayOf lateMessage.createdAt.nanos = 0 := by decide
  rcases before with _ | ⟨x, before⟩
  · -- the message comes, and there is a count before the next day
    obtain ⟨rfl, hlater⟩ := List.cons.inj hr
    obtain rfl : date = 0 := by
      by_contra hne
      have hother : dayOf lateMessage.createdAt.nanos ≠ date := hlate ▸ Ne.symm hne
      exact hchange (actual_create (t := 86385000000000) hother)
    rcases mid with _ | ⟨e', mid⟩
    · obtain ⟨hnext, -⟩ := List.cons.inj hlater
      obtain ⟨rfl, -⟩ := Prod.mk.inj hnext
      exact absurd hdate (by decide)
    · obtain ⟨rfl, -⟩ := List.cons.inj hlater
      exact ⟨_, List.mem_cons_self .., by decide⟩
  · -- a count changes no message
    obtain ⟨rfl, hlater⟩ := List.cons.inj hr
    obtain ⟨rfl, rfl⟩ : before = [] ∧ mid = [] := by
      constructor <;> refine List.eq_nil_of_length_eq_zero ?_ <;> simp at hlen <;> omega
    obtain ⟨rfl, -⟩ := List.cons.inj hlater
    exact absurd (Books.actual_tick (hkept _ _ _ _ (List.prefix_append _ _))) hchange

end AeroxeBee.Admin
