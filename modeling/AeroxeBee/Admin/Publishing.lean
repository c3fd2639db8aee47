import AeroxeBee.Admin.Releases

/-!
# Publications that fail

`Release` withdraws the release that is out and brings out the one it is called for, in two
statements. The second one names an approved release; the first one is executed whatever comes of
the second.

* `mem_released_again`: what is out after both statements, if no approved release was named;
* `keepsCurrent_iff`: when a publication that brings out nothing leaves the app the release it had.
-/

namespace AeroxeBee.Admin

open Foundations

namespace AppReleaseService

/-- The release that is out; of several the one with the highest version. -/
def getLatestReleased (rows : List AppRelease) : Option AppRelease :=
  ((rows.filter (·.status = .released)).insertionSort fun a b => b.versionCode ≤ a.versionCode).head?

end AppReleaseService

open AppReleaseService

/-- A release, but for the time at which it came out. -/
def undated (a : AppRelease) : AppRelease := { a with releasedAt := none }

/-- A publication can bring out nothing: no approved release has the id, or the statement that would
bring it out is refused. -/
def Futile (id : String) (w : World) : Prop :=
  (¬ ∃ a ∈ table w, a.id = id ∧ a.status = .approved) ∨ (w.later 2).fault.isRefused = true

instance (id : String) (w : World) : Decidable (Futile id w) := by
  unfold Futile
  infer_instance

/-- The app is offered the same release after a publication as before. -/
def KeepsCurrent (cfg : Config) (id : String) (w : World) : Prop :=
  (getLatestReleased (table ((AppReleaseService.release id).exec (server cfg) w).state)).map undated =
    (getLatestReleased (table w)).map undated

/-- What keeps the release that is out: it is not withdrawn, there is none, or it comes out again. -/
def Returns (id : String) (w : World) : Prop :=
  (w.later 0).fault.isRefused = true ∨ getLatestReleased (table w) = none ∨
    (w.later 2).fault.isRefused = false ∧ (getLatestReleased (table w)).map (·.id) = some id

section Latest

variable {rows : List AppRelease} {a b : AppRelease} {id : String} {now : ℤ}

theorem mem_of_latest (h : getLatestReleased rows = some a) : a ∈ rows ∧ a.status = .released := by
  have hmem : a ∈ rows.filter (·.status = .released) :=
    (List.mem_insertionSort _).1 (List.mem_of_head? h)
  simpa using hmem

theorem latest_eq_none_iff : getLatestReleased rows = none ↔ ∀ a ∈ rows, a.status ≠ .released := by
  unfold getLatestReleased
  rw [List.head?_eq_none_iff, ← List.length_eq_zero_iff, List.length_insertionSort,
    List.length_eq_zero_iff, List.filter_eq_nil_iff]
  simp only [decide_eq_true_eq]

/-- The only release that is out is the one that is offered. -/
theorem latest_of_forall (hmem : b ∈ rows) (hout : b.status = .released)
    (hall : ∀ c ∈ rows, c.status = .released → c = b) : getLatestReleased rows = some b := by
  cases hlatest : getLatestReleased rows with
  | none => exact absurd hout (latest_eq_none_iff.1 hlatest b hmem)
  | some c =>
    obtain ⟨hc, hcout⟩ := mem_of_latest hlatest
    rw [hall c hc hcout]

/-- After both statements only releases that were out before are out, if no approved release was
named. -/
theorem mem_released_again (hnone : ¬ ∃ a ∈ rows, a.id = id ∧ a.status = .approved) :
    b ∈ published id now (withdrawn rows) ∧ b.status = .released ↔
      ∃ a ∈ rows, a.id = id ∧ a.status = .released ∧ b = { a with releasedAt := some now } := by
  constructor
  · rintro ⟨hb, hout⟩
    obtain ⟨c, hc, rfl⟩ := List.mem_map.1 hb
    obtain ⟨a, ha, rfl⟩ := List.mem_map.1 hc
    by_cases hreleased : a.status = .released
    · by_cases hid : a.id = id
      · exact ⟨a, ha, hid, hreleased, by simp [hreleased, hid]⟩
      · simp [hreleased, hid] at hout
    · by_cases happroved : a.id = id ∧ a.status = .approved
      · exact absurd ⟨a, ha, happroved⟩ hnone
      · simp [hreleased, happroved] at hout
  · rintro ⟨a, ha, hid, hout, rfl⟩
    refine ⟨List.mem_map.2 ⟨{ a with status := .approved }, ?_, ?_⟩, hout⟩
    · exact List.mem_map.2 ⟨a, ha, if_pos (decide_eq_true hout)⟩
    · simp [hid, hout]

end Latest

/-- **A publication that brings out nothing leaves the release that is out** exactly when the
withdrawal is refused, nothing is out, or the release that is out is the one that is named. -/
theorem keepsCurrent_iff (cfg : Config) (id : String) (w : World) (hspared : SparedReleases w)
    (hkeys : ((table w).map (·.id)).Nodup) (hfutile : Futile id w) :
    KeepsCurrent cfg id w ↔ Returns id w := by
  obtain ⟨now, hnow⟩ := table_release cfg hspared id
  unfold KeepsCurrent Returns
  rw [hnow]
  cases hwithdrawal : (w.later 0).fault.isRefused with
  | true =>
    -- what remains to be published is not approved
    simp only [if_true, true_or, iff_true]
    split_ifs with hrefused
    · rfl
    · rw [published_of_none (hfutile.resolve_right hrefused)]
  | false =>
    simp only [Bool.false_eq_true, if_false, false_or]
    cases hrefused : (w.later 2).fault.isRefused with
    | true =>
      have hnone : getLatestReleased (withdrawn (table w)) = none :=
        latest_eq_none_iff.2 fun a ha => not_released_of_withdrawn ha
      simp only [if_true, hnone, Option.map_none, Bool.true_eq_false, false_and, or_false]
      exact eq_comm.trans Option.map_eq_none_iff
    | false =>
      have hunapproved := hfutile.resolve_right (by simp [hrefused])
      simp only [Bool.false_eq_true, if_false, true_and]
      cases hlatest : getLatestReleased (table w) with
      | none =>
        have hnone : getLatestReleased (published id now (withdrawn (table w))) = none := by
          refine latest_eq_none_iff.2 fun b hb hout => ?_
          obtain ⟨a, ha, -, hreleased, -⟩ := (mem_released_again hunapproved).1 ⟨hb, hout⟩
          exact latest_eq_none_iff.1 hlatest a ha hreleased
        simp [hnone]
      | some a =>
        obtain ⟨ha, hout⟩ := mem_of_latest hlatest
        simp only [Option.map_some, reduceCtorEq, Option.some.injEq, false_or]
        constructor
        · intro hsame
          obtain ⟨b, hb, hba⟩ := Option.map_eq_some_iff.1 hsame
          obtain ⟨c, hc, hid, -, rfl⟩ := (mem_released_again hunapproved).1 (mem_of_latest hb)
          exact (congrArg AppRelease.id hba).symm.trans hid
        · intro hid
          obtain ⟨hmem, hagain⟩ : { a with releasedAt := some now } ∈
              published id now (withdrawn (table w)) ∧ _ :=
            (mem_released_again hunapproved).2 ⟨a, ha, hid, hout, rfl⟩
          rw [latest_of_forall hmem hagain fun c hc hcout => ?_]
          · rfl
          · obtain ⟨d, hd, hdid, -, rfl⟩ := (mem_released_again hunapproved).1 ⟨hc, hcout⟩
            rw [eq_of_id hkeys hd ha (hdid.trans hid.symm)]

/-! ## A release that is out -/

/-- A server on which version 1 is out and version 2 has the given status. -/
def oneOut (status : ReleaseStatus) : World :=
  { onePlan "pending" with
    db := ⟨[], [], [], [], [], [], [], [], [], [],
      { Registry.empty with
        releases := [{ draftRelease 1 "1.0" with id := "release-1", status := .released },
          { draftRelease 2 "2.0" with id := "release-2", status := status }] }⟩ }

/-- The release that is out is published again. -/
theorem oneOut_again : KeepsCurrent .default "release-1" (oneOut .draft) :=
  (keepsCurrent_iff .default "release-1" (oneOut .draft) (by simp [SparedReleases, oneOut, onePlan])
    (by decide) (by decide)).2 (.inr (.inr ⟨rfl, by decide⟩))

/-- A draft is published: it does not come out, and neither is the release before it out any more. -/
theorem draft_withdraws :
    SparedReleases (oneOut .draft) ∧ ((table (oneOut .draft)).map (·.id)).Nodup ∧
      Futile "release-2" (oneOut .draft) ∧
      (getLatestReleased (table (oneOut .draft))).map (·.id) = some "release-1" ∧
      getLatestReleased
        (table ((AppReleaseService.release "release-2").exec (server .default) (oneOut .draft)).state) =
          none ∧
      ¬ KeepsCurrent .default "release-2" (oneOut .draft) := by
  have hnone : getLatestReleased
      (table ((AppReleaseService.release "release-2").exec (server .default) (oneOut .draft)).state) =
        none := by decide
  have hone : (getLatestReleased (table (oneOut .draft))).map (·.id) = some "release-1" := by decide
  refine ⟨by simp [SparedReleases, oneOut, onePlan], by decide, by decide, hone, hnone, fun hkeeps => ?_⟩
  rw [KeepsCurrent, hnone, Option.map_none, eq_comm, Option.map_eq_none_iff] at hkeeps
  rw [hkeeps] at hone
  cases hone

end AeroxeBee.Admin
