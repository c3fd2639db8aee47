import AeroxeBee.Admin.ChangeRequests

/-!
# Releases of the app

A release is a draft, waits for its approval, is approved or rejected, and one of those approved can
be out. The calls of `AppReleaseService` are made one after the other.

* `call_effect`: what a call makes of the table, release by release (`Advance`);
* `lifecycle_iff`: a sequence of calls keeps to the life cycle exactly when no publication lapses:
  `Release` goes on when the statement that withdraws the release before fails.
-/

namespace AeroxeBee.Admin

open Foundations

/-! ## The service -/

namespace AppReleaseService

/-- The row that is inserted for a release; nothing about its review is among the columns. -/
def inserted (id : String) (r : AppRelease) : AppRelease :=
  { r with
    id := id
    approvedBy := none
    approvedByName := ""
    rejectedBy := none
    rejectionReason := ""
    releasedAt := none }

/-- Insert a release; the database draws its id. -/
def create (r : AppRelease) : ServerProg (Except String Unit) := do
  let id ← Prog.call .uuid
  Prog.call (.db (.registry (.createRelease (inserted id.text r))))

/-- A draft is to be approved. -/
def submitForApproval (id : String) : ServerProg (Except String Unit) :=
  Prog.call (.db (.registry (.submitForApproval id)))

/-- Approve a release that waits. -/
def approve (id approvedBy approvedByName : String) : ServerProg (Except String Unit) :=
  Prog.call (.db (.registry (.approveRelease id approvedBy approvedByName)))

/-- Reject a release that waits. -/
def reject (id rejectedBy reason : String) : ServerProg (Except String Unit) :=
  Prog.call (.db (.registry (.rejectRelease id rejectedBy reason)))

/-- Publish a release, and withdraw the one before it. -/
def release (id : String) : ServerProg (Except String Unit) := do
  -- an error of the withdrawal is dropped
  let _ ← Prog.call (.db (.registry .withdrawReleased))
  let now ← Prog.call .now
  Prog.call (.db (.registry (.release id now)))

/-- Remove a draft or a rejected release. -/
def delete (id : String) : ServerProg (Except String Unit) :=
  Prog.call (.db (.registry (.deleteRelease id)))

/-- Attach a file to a draft. -/
def updateAPK (id apkURL filename : String) (sizeBytes : ℤ) : ServerProg (Except String Unit) :=
  Prog.call (.db (.registry (.updateAPK id apkURL filename sizeBytes)))

end AppReleaseService

/-- A call of the service. -/
inductive ReleaseCall where
  | create (r : AppRelease)
  | submitForApproval (id : String)
  | approve (id approvedBy approvedByName : String)
  | reject (id rejectedBy reason : String)
  | release (id : String)
  | updateAPK (id apkURL filename : String) (sizeBytes : ℤ)
  | delete (id : String)

namespace ReleaseCall

/-- The routine of a call. -/
def run : ReleaseCall → ServerProg (Except String Unit)
  | create r => AppReleaseService.create r
  | submitForApproval id => AppReleaseService.submitForApproval id
  | approve id approvedBy approvedByName => AppReleaseService.approve id approvedBy approvedByName
  | reject id rejectedBy reason => AppReleaseService.reject id rejectedBy reason
  | release id => AppReleaseService.release id
  | updateAPK id apkURL filename sizeBytes =>
    AppReleaseService.updateAPK id apkURL filename sizeBytes
  | delete id => AppReleaseService.delete id

/-- Releases are created as drafts. -/
def Drafts : ReleaseCall → Prop
  | create r => r.status = .draft
  | _ => True

end ReleaseCall

/-! ## The life of a release -/

/-- The release was approved. -/
def Accepted (a : AppRelease) : Prop := a.status = .approved ∨ a.status = .released

/-- What a call can make of a release. -/
inductive Advance : ReleaseCall → AppRelease → AppRelease → Prop
  | stay (c : ReleaseCall) (a : AppRelease) : Advance c a a
  | attach {a : AppRelease} (h : a.status = .draft) (apkURL filename : String) (sizeBytes : ℤ) :
      Advance (.updateAPK a.id apkURL filename sizeBytes) a
        { a with apkURL := apkURL, apkFilename := filename, apkSizeBytes := sizeBytes }
  | submit {a : AppRelease} (h : a.status = .draft) :
      Advance (.submitForApproval a.id) a { a with status := .pendingApproval }
  | approve {a : AppRelease} (h : a.status = .pendingApproval) (who name : String) :
      Advance (.approve a.id who name) a
        { a with status := .approved, approvedBy := some who, approvedByName := name }
  | reject {a : AppRelease} (h : a.status = .pendingApproval) (who reason : String) :
      Advance (.reject a.id who reason) a
        { a with status := .rejected, rejectedBy := some who, rejectionReason := reason }
  /-- A release that was approved comes out, or is withdrawn. -/
  | publish {a : AppRelease} (h : Accepted a) (id : String) {status : ReleaseStatus}
      (hstatus : status = .approved ∨ status = .released) (time : Option ℤ) :
      Advance (.release id) a { a with status := status, releasedAt := time }

namespace Advance

variable {c : ReleaseCall} {a b : AppRelease}

theorem id_eq (h : Advance c a b) : b.id = a.id := by
  cases h <;> rfl

/-- What a publication does in two statements it could do in one. -/
theorem trans {id : String} {d : AppRelease} (h : Advance (.release id) a b)
    (h' : Advance (.release id) b d) : Advance (.release id) a d := by
  cases h with
  | stay => exact h'
  | publish ha _ hstatus time =>
    cases h' with
    | stay => exact .publish ha id hstatus time
    | publish _ _ hstatus' time' => exact .publish ha id hstatus' time'

/-- The file of a release that is no draft stays, and it does not become a draft. -/
theorem apk_eq (h : Advance c a b) (ha : a.status ≠ .draft) :
    b.status ≠ .draft ∧ b.apkURL = a.apkURL ∧ b.apkFilename = a.apkFilename ∧
      b.apkSizeBytes = a.apkSizeBytes := by
  cases h with
  | stay => exact ⟨ha, rfl, rfl, rfl⟩
  | attach hd => exact absurd hd ha
  | submit hd => exact absurd hd ha
  | approve => exact ⟨nofun, rfl, rfl, rfl⟩
  | reject => exact ⟨nofun, rfl, rfl, rfl⟩
  | publish _ _ hstatus => rcases hstatus with rfl | rfl <;> exact ⟨nofun, rfl, rfl, rfl⟩

/-- Only a publication makes a release come out. -/
theorem released (h : Advance c a b) (hc : ∀ id, c ≠ .release id) (hb : b.status = .released) :
    a.status = .released := by
  cases h with
  | stay => exact hb
  | attach => exact hb
  | submit | approve | reject => cases hb
  | publish _ id => exact absurd rfl (hc id)

end Advance

/-! ## What a call does to the table -/

/-- The table of the releases. -/
abbrev table (w : World) : List AppRelease := w.db.registry.releases

/-- Nothing else that runs on the server touches the releases. -/
def SparedReleases (w : World) : Prop :=
  ∀ t ∈ w.env, ∀ s : Shared, (t.others s).db.registry.releases = s.db.registry.releases

namespace SparedReleases

variable {w : World} (cfg : Config) {β : Type}

theorem tick (h : SparedReleases w) : table w.tick = table w := by
  unfold table World.tick World.next
  cases henv : w.env with
  | nil => rfl
  | cons t ts => exact h t (henv ▸ List.mem_cons_self) w.toShared

theorem step (h : SparedReleases w) (e : ServerCmd β) :
    SparedReleases ((server cfg).step e w).2 := by
  intro t ht
  rw [step_env] at ht
  exact h t (List.mem_of_mem_tail ht)

theorem exec {α : Type} (h : SparedReleases w) (p : ServerProg α) :
    SparedReleases (p.exec (server cfg) w).state :=
  (Prog.only_of_forall (P := fun _ => True) (fun _ => trivial) p).exec_inv
    (fun e _ _ hw => hw.step cfg e) h

/-- A statement is refused, or it is executed. -/
theorem table_statement (h : SparedReleases w) (q : RegistryQuery β) :
    table ((server cfg).step (.db (.registry q)) w).2 =
      if w.next.fault.isRefused then table w else (q.run (before w)).2.releases := by
  unfold table
  rw [step_statement]
  split_ifs with hrefused
  · exact h.tick
  · rfl

end SparedReleases

/-- What a call can make of the table. -/
structure Effect (c : ReleaseCall) (rows rows' : List AppRelease) : Prop where
  /-- Each release was there before and has advanced, or it is a new draft. -/
  advances : ∀ b ∈ rows', (∃ a ∈ rows, Advance c a b) ∨ (b.status = .draft ∧ ∀ a ∈ rows, a.id ≠ b.id)
  /-- No two releases get the same id. -/
  nodup : (rows.map (·.id)).Nodup → (rows'.map (·.id)).Nodup
  /-- A removal leaves what it must not remove. -/
  kept : ∀ a ∈ rows, a.status = .pendingApproval ∨ Accepted a → (∃ id, c = .delete id) → a ∈ rows'

namespace Effect

variable {c : ReleaseCall} {rows : List AppRelease}

theorem refl (c : ReleaseCall) (rows : List AppRelease) : Effect c rows rows :=
  ⟨fun b hb => .inl ⟨b, hb, .stay c b⟩, fun h => h, fun _ ha _ _ => ha⟩

/-- The effect of a statement that changes some rows. -/
theorem of_updateWhere {p : AppRelease → Bool} {f : AppRelease → AppRelease}
    (hadvance : ∀ a, p a = true → Advance c a (f a)) (hc : ∀ id, c ≠ .delete id) :
    Effect c rows (updateWhere p f rows) := by
  have hrow : ∀ a, Advance c a (if p a then f a else a) := by
    intro a
    by_cases ha : p a
    · rw [if_pos ha]
      exact hadvance a ha
    · rw [if_neg ha]
      exact .stay c a
  refine ⟨fun b hb => ?_, fun h => ?_, fun _ _ _ ⟨id, hid⟩ => absurd hid (hc id)⟩
  · obtain ⟨a, ha, rfl⟩ := List.mem_map.1 hb
    exact .inl ⟨a, ha, hrow a⟩
  · rw [updateWhere, List.map_map]
    have hids : ((·.id) ∘ fun row => if p row then f row else row) = AppRelease.id :=
      funext fun a => (hrow a).id_eq
    rwa [hids]

/-- The two statements of a publication. -/
theorem trans {id : String} {rows' rows'' : List AppRelease} (h : Effect (.release id) rows rows')
    (h' : Effect (.release id) rows' rows'')
    (hids : rows'.map (·.id) = rows.map (·.id)) : Effect (.release id) rows rows'' := by
  refine ⟨fun d hd => ?_, fun hn => h'.nodup (h.nodup hn), fun _ _ _ ⟨_, hid⟩ => (nomatch hid)⟩
  rcases h'.advances d hd with ⟨b, hb, hbd⟩ | ⟨hdraft, hnew⟩
  · rcases h.advances b hb with ⟨a, ha, hab⟩ | ⟨hdraft, hnew⟩
    · exact .inl ⟨a, ha, hab.trans hbd⟩
    · -- no release is added between the two
      have hmem : b.id ∈ rows.map (·.id) := hids ▸ List.mem_map_of_mem hb
      obtain ⟨a, ha, hid⟩ := List.mem_map.1 hmem
      exact absurd hid (hnew a ha)
  · refine .inr ⟨hdraft, fun a ha hid => ?_⟩
    have hmem : a.id ∈ rows'.map (·.id) := hids ▸ List.mem_map_of_mem ha
    obtain ⟨b, hb, hba⟩ := List.mem_map.1 hmem
    exact hnew b hb (hba.trans hid)

end Effect

/-- The effect of an insertion. -/
theorem effect_insert {r : Registry} {row row' : AppRelease} (hrow : row.status = .draft) :
    Effect (.create row') r.releases (replaced r.releases (r.insertRelease row)).2 := by
  unfold Registry.insertRelease
  split_ifs with hused href
  · exact .refl _ _
  · exact .refl _ _
  · have hnew : ∀ a ∈ r.releases, a.id ≠ row.id := by
      intro a ha hid
      exact hused (List.any_eq_true.2 ⟨a, ha, by simp [hid]⟩)
    refine ⟨fun b hb => ?_, fun h => ?_, fun _ _ _ ⟨_, hid⟩ => (nomatch hid)⟩
    · rcases List.mem_append.1 hb with hb | hb
      · exact .inl ⟨b, hb, .stay _ b⟩
      · obtain rfl := List.mem_singleton.1 hb
        exact .inr ⟨hrow, hnew⟩
    · rw [replaced, List.map_append]
      refine List.nodup_append.2 ⟨h, List.nodup_singleton _, fun x hx y hy hxy => ?_⟩
      obtain ⟨a, ha, rfl⟩ := List.mem_map.1 hx
      obtain rfl := List.mem_singleton.1 hy
      exact hnew a ha hxy

/-- The effect of a decision of a reviewer. -/
theorem effect_review {c : ReleaseCall} {r : Registry} {id reviewer : String}
    {f : AppRelease → AppRelease}
    (hadvance : ∀ a, a.id = id → a.status = .pendingApproval → Advance c a (f a))
    (hc : ∀ id, c ≠ .delete id) :
    Effect c r.releases (replaced r.releases (r.reviewRelease id reviewer f)).2 := by
  unfold Registry.reviewRelease
  dsimp only
  split_ifs with hreviewer
  · exact .refl _ _
  · refine .of_updateWhere (fun a ha => ?_) hc
    simp only [Bool.and_eq_true, decide_eq_true_eq] at ha
    exact hadvance a ha.1 ha.2

/-- The effect of a removal. -/
theorem effect_delete (id : String) (rows : List AppRelease) :
    Effect (.delete id) rows
      (rows.filter fun a => !(a.id = id && (a.status = .draft || a.status = .rejected))) := by
  refine ⟨fun b hb => .inl ⟨b, List.mem_of_mem_filter hb, .stay _ b⟩,
    fun h => h.sublist (List.filter_sublist.map _), fun a ha hstatus _ => ?_⟩
  refine List.mem_filter.2 ⟨ha, ?_⟩
  rcases hstatus with h | h | h <;> simp [h]

section Calls

variable (cfg : Config) {w : World}

/-- The releases after the withdrawal. -/
def withdrawn (rows : List AppRelease) : List AppRelease :=
  updateWhere (·.status = .released) (fun a => { a with status := .approved }) rows

/-- The releases after the publication of one. -/
def published (id : String) (now : ℤ) (rows : List AppRelease) : List AppRelease :=
  updateWhere (fun a => a.id = id && a.status = .approved)
    (fun a => { a with status := .released, releasedAt := some now }) rows

/-- The table after the routine that publishes a release. -/
theorem table_release (h : SparedReleases w) (id : String) :
    ∃ now, table ((AppReleaseService.release id).exec (server cfg) w).state =
      (if (w.later 2).fault.isRefused then fun rows => rows else published id now)
        (if (w.later 0).fault.isRefused then table w else withdrawn (table w)) := by
  let w₁ := ((server cfg).step (.db (.registry .withdrawReleased)) w).2
  let w₂ := ((server cfg).step .now w₁).2
  have h₁ : table w₁ = if (w.later 0).fault.isRefused then table w else withdrawn (table w) := by
    rw [← h.tick, h.table_statement cfg, h.tick]
    exact if_congr Iff.rfl rfl (by rw [← h.tick]; rfl)
  have hs₁ : SparedReleases w₁ := h.step cfg _
  have hs₂ : SparedReleases w₂ := hs₁.step cfg _
  have h₂ : table w₂ = table w₁ := hs₁.tick
  have hlater : w₂.next = w.later 2 := by
    rw [next_eq_later, step_later, step_later]
  have hbefore : table w₂.tick = table w₂ := hs₂.tick
  refine ⟨((server cfg).step .now w₁).1, ?_⟩
  have hend := hs₂.table_statement cfg (.release id ((server cfg).step .now w₁).1)
  rw [hlater] at hend
  refine Eq.trans hend ?_
  rw [← h₁, ← h₂]
  split_ifs with hrefused
  · rfl
  · rw [← hbefore]
    rfl

theorem effect_withdrawn (id : String) (rows : List AppRelease) :
    Effect (.release id) rows (withdrawn rows) := by
  refine .of_updateWhere (fun a ha => ?_) nofun
  exact .publish (.inr (of_decide_eq_true ha)) id (.inl rfl) a.releasedAt

theorem effect_published (id : String) (now : ℤ) (rows : List AppRelease) :
    Effect (.release id) rows (published id now rows) := by
  refine .of_updateWhere (fun a ha => ?_) nofun
  simp only [Bool.and_eq_true, decide_eq_true_eq] at ha
  exact .publish (.inl ha.2) id (.inr rfl) (some now)

theorem withdrawn_ids (rows : List AppRelease) :
    (withdrawn rows).map (·.id) = rows.map (·.id) := by
  rw [withdrawn, updateWhere, List.map_map]
  refine List.map_congr_left fun a _ => ?_
  rw [Function.comp_apply]
  split_ifs <;> rfl

/-- **What a call makes of the table.** -/
theorem call_effect (h : SparedReleases w) (c : ReleaseCall) (hc : c.Drafts) :
    Effect c (table w) (table (c.run.exec (server cfg) w).state) := by
  have hbefore : (before w).releases = table w := h.tick
  cases c with
  | create r =>
    have hs := h.step cfg .uuid
    have hstep := hs.table_statement cfg
      (.createRelease (AppReleaseService.inserted w.next.uuid.text r))
    refine Eq.mpr (congrArg _ hstep) ?_
    have hsame : table ((server cfg).step .uuid w).2 = table w := h.tick
    rw [hsame]
    split_ifs with hrefused
    · exact .refl _ _
    · have hrows : (before ((server cfg).step .uuid w).2).releases = table w := hs.tick.trans hsame
      rw [← hrows]
      exact effect_insert hc
  | submitForApproval id =>
    refine Eq.mpr (congrArg _ (h.table_statement cfg (.submitForApproval id))) ?_
    split_ifs with hrefused
    · exact .refl _ _
    · rw [← hbefore]
      refine .of_updateWhere (fun a ha => ?_) nofun
      simp only [Bool.and_eq_true, decide_eq_true_eq] at ha
      obtain ⟨rfl, hstatus⟩ := ha
      exact .submit hstatus
  | approve id approvedBy approvedByName =>
    refine Eq.mpr (congrArg _ (h.table_statement cfg (.approveRelease id approvedBy approvedByName))) ?_
    split_ifs with hrefused
    · exact .refl _ _
    · rw [← hbefore]
      refine effect_review (fun a hid hstatus => ?_) nofun
      subst hid
      exact .approve hstatus approvedBy approvedByName
  | reject id rejectedBy reason =>
    refine Eq.mpr (congrArg _ (h.table_statement cfg (.rejectRelease id rejectedBy reason))) ?_
    split_ifs with hrefused
    · exact .refl _ _
    · rw [← hbefore]
      refine effect_review (fun a hid hstatus => ?_) nofun
      subst hid
      exact .reject hstatus rejectedBy reason
  | release id =>
    obtain ⟨now, hnow⟩ := table_release cfg h id
    refine Eq.mpr (congrArg _ hnow) ?_
    split_ifs with hpublication hwithdrawal hwithdrawal
    · exact .refl _ _
    · exact effect_withdrawn id _
    · exact effect_published id now _
    · exact (effect_withdrawn id _).trans (effect_published id now _) (withdrawn_ids _)
  | updateAPK id apkURL filename sizeBytes =>
    refine Eq.mpr (congrArg _ (h.table_statement cfg (.updateAPK id apkURL filename sizeBytes))) ?_
    split_ifs with hrefused
    · exact .refl _ _
    · rw [← hbefore]
      refine .of_updateWhere (fun a ha => ?_) nofun
      simp only [Bool.and_eq_true, decide_eq_true_eq] at ha
      obtain ⟨rfl, hstatus⟩ := ha
      exact .attach hstatus apkURL filename sizeBytes
  | delete id =>
    refine Eq.mpr (congrArg _ (h.table_statement cfg (.deleteRelease id))) ?_
    split_ifs with hrefused
    · exact .refl _ _
    · rw [← hbefore]
      exact effect_delete id _

end Calls

/-! ## Sequences of calls -/

section History

variable (cfg : Config) (calls : List ReleaseCall) (w : World)

/-- The world after the first `n` calls. -/
def worldAt (n : ℕ) : World :=
  (calls.take n).foldl (fun w c => (c.run.exec (server cfg) w).state) w

/-- The table after the first `n` calls. -/
abbrev tableAt (n : ℕ) : List AppRelease := table (worldAt cfg calls w n)

/-- A release with the id is in the table. -/
def Present (rows : List AppRelease) (id : String) : Prop := ∃ a ∈ rows, a.id = id

/-- A release with the id is in the table and has come as far as the status. -/
def Stands (rows : List AppRelease) (id : String) (status : ReleaseStatus) : Prop :=
  ∃ a ∈ rows, a.id = id ∧ a.status = status

/-- The release that is in the table after `n` calls was a draft after `i` of them, and stayed in the
table. -/
structure Drafted (n : ℕ) (id : String) (i : ℕ) : Prop where
  le : i ≤ n
  draft : Stands (tableAt cfg calls w i) id .draft
  present : ∀ m, i ≤ m → m ≤ n → Present (tableAt cfg calls w m) id

/-- It waited for its approval after it had been a draft. -/
structure Submitted (n : ℕ) (id : String) (i j : ℕ) : Prop extends Drafted cfg calls w n id i where
  lt : i < j
  le_pending : j ≤ n
  pending : Stands (tableAt cfg calls w j) id .pendingApproval

/-- After it had waited, a call of `Approve` approved it. -/
structure Reviewed (n : ℕ) (id : String) (i j k : ℕ) : Prop extends
    Submitted cfg calls w n id i j where
  le_approve : j ≤ k
  approve_lt : k < n
  call : ∃ who name, calls[k]? = some (.approve id who name)
  waiting : Stands (tableAt cfg calls w k) id .pendingApproval
  approved : Stands (tableAt cfg calls w (k + 1)) id .approved

/-- **The life cycle of the releases** over a sequence of calls. -/
structure Lifecycle : Prop where
  /-- At most one release is out. -/
  single : ∀ n ≤ calls.length, (tableAt cfg calls w n).countP (·.status = .released) ≤ 1
  /-- A release that is approved or out was a draft, waited, and was approved by a call. -/
  path : ∀ n ≤ calls.length, ∀ a ∈ tableAt cfg calls w n, Accepted a →
    ∃ i j k, Reviewed cfg calls w n a.id i j k
  /-- The file of a release that is no draft does not change while the release is in the table. -/
  apk : ∀ m n, m ≤ n → n ≤ calls.length → ∀ a ∈ tableAt cfg calls w m,
    ∀ b ∈ tableAt cfg calls w n, a.id = b.id → a.status ≠ .draft →
      (∀ l, m ≤ l → l ≤ n → Present (tableAt cfg calls w l) a.id) →
        b.apkURL = a.apkURL ∧ b.apkFilename = a.apkFilename ∧ b.apkSizeBytes = a.apkSizeBytes
  /-- A removal leaves a release that waits, is approved or is out. -/
  kept : ∀ n id, calls[n]? = some (.delete id) → ∀ a ∈ tableAt cfg calls w n,
    a.status = .pendingApproval ∨ Accepted a → a ∈ tableAt cfg calls w (n + 1)

/-- A publication lapses: the release before it is not withdrawn, and the new one comes out. -/
def Lapses (c : ReleaseCall) (w : World) : Prop :=
  match c with
  | .release id =>
    (w.later 0).fault.isRefused = true ∧ (∃ a ∈ table w, a.status = .released) ∧
      (w.later 2).fault.isRefused = false ∧ ∃ a ∈ table w, a.id = id ∧ a.status = .approved
  | _ => False

instance (c : ReleaseCall) (w : World) : Decidable (Lapses c w) := by
  unfold Lapses
  cases c <;> infer_instance

variable {cfg calls w}

theorem worldAt_succ {n : ℕ} {c : ReleaseCall} (hc : calls[n]? = some c) :
    worldAt cfg calls w (n + 1) = (c.run.exec (server cfg) (worldAt cfg calls w n)).state := by
  rw [worldAt, List.take_add_one, hc, List.foldl_append]
  rfl

theorem spared_worldAt (h : SparedReleases w) (n : ℕ) : SparedReleases (worldAt cfg calls w n) := by
  unfold worldAt
  generalize calls.take n = cs
  induction cs generalizing w with
  | nil => exact h
  | cons c cs ih => exact ih (h.exec cfg c.run)

theorem exists_call {n : ℕ} (hn : n < calls.length) : ∃ c, calls[n]? = some c :=
  ⟨calls[n], List.getElem?_eq_getElem hn⟩

/-- What the next call makes of the table. -/
theorem effect_at (h : SparedReleases w) (hdrafts : ∀ c ∈ calls, c.Drafts) {n : ℕ} {c : ReleaseCall}
    (hc : calls[n]? = some c) :
    Effect c (tableAt cfg calls w n) (tableAt cfg calls w (n + 1)) := by
  have hspared : SparedReleases (worldAt cfg calls w n) := spared_worldAt h n
  have heffect := call_effect cfg hspared c (hdrafts c (List.mem_of_getElem? hc))
  rwa [← worldAt_succ hc] at heffect

/-- No two releases have the same id. -/
theorem nodup_at (h : SparedReleases w) (hempty : table w = []) (hdrafts : ∀ c ∈ calls, c.Drafts)
    {n : ℕ} (hn : n ≤ calls.length) : ((tableAt cfg calls w n).map (·.id)).Nodup := by
  induction n with
  | zero => simp [tableAt, worldAt, hempty]
  | succ n ih =>
    obtain ⟨c, hc⟩ := exists_call (Nat.lt_of_succ_le hn)
    exact (effect_at h hdrafts hc).nodup (ih (Nat.le_of_succ_le hn))

theorem eq_of_id {rows : List AppRelease} (hn : (rows.map (·.id)).Nodup) {a b : AppRelease}
    (ha : a ∈ rows) (hb : b ∈ rows) (hid : a.id = b.id) : a = b :=
  List.inj_on_of_nodup_map hn ha hb hid

/-! ### The path of a release -/

namespace Drafted

variable {n : ℕ} {id : String} {i j k : ℕ}

theorem succ (h : Drafted cfg calls w n id i) (hp : Present (tableAt cfg calls w (n + 1)) id) :
    Drafted cfg calls w (n + 1) id i := by
  refine ⟨by have := h.le; omega, h.draft, fun m hi hm => ?_⟩
  rcases Nat.lt_or_ge n m with hlt | hle
  · obtain rfl : m = n + 1 := by omega
    exact hp
  · exact h.present m hi hle

end Drafted

theorem Submitted.succ {n : ℕ} {id : String} {i j : ℕ} (h : Submitted cfg calls w n id i j)
    (hp : Present (tableAt cfg calls w (n + 1)) id) : Submitted cfg calls w (n + 1) id i j :=
  ⟨h.toDrafted.succ hp, h.lt, by have := h.le_pending; omega, h.pending⟩

theorem Reviewed.succ {n : ℕ} {id : String} {i j k : ℕ} (h : Reviewed cfg calls w n id i j k)
    (hp : Present (tableAt cfg calls w (n + 1)) id) : Reviewed cfg calls w (n + 1) id i j k :=
  ⟨h.toSubmitted.succ hp, h.le_approve, by have := h.approve_lt; omega, h.call, h.waiting, h.approved⟩

/-- How a release has come to its status. -/
structure Past (cfg : Config) (calls : List ReleaseCall) (w : World) (n : ℕ) (a : AppRelease) :
    Prop where
  draft : a.status = .draft → ∃ i, Drafted cfg calls w n a.id i
  pending : a.status = .pendingApproval → ∃ i j, Submitted cfg calls w n a.id i j
  accepted : Accepted a → ∃ i j k, Reviewed cfg calls w n a.id i j k

/-- A call carries the past of a release on. -/
theorem Past.advance {n : ℕ} {a b : AppRelease} {c : ReleaseCall} (hpast : Past cfg calls w n a)
    (hc : calls[n]? = some c) (ha : a ∈ tableAt cfg calls w n)
    (hb : b ∈ tableAt cfg calls w (n + 1)) (hab : Advance c a b) : Past cfg calls w (n + 1) b := by
  have hp : Present (tableAt cfg calls w (n + 1)) a.id := ⟨b, hb, hab.id_eq⟩
  cases hab with
  | stay =>
    refine ⟨fun h => ?_, fun h => ?_, fun h => ?_⟩
    · obtain ⟨i, hi⟩ := hpast.draft h
      exact ⟨i, hi.succ hp⟩
    · obtain ⟨i, j, hij⟩ := hpast.pending h
      exact ⟨i, j, hij.succ hp⟩
    · obtain ⟨i, j, k, hijk⟩ := hpast.accepted h
      exact ⟨i, j, k, hijk.succ hp⟩
  | attach hdraft =>
    obtain ⟨i, hi⟩ := hpast.draft hdraft
    refine ⟨fun _ => ⟨i, hi.succ hp⟩, fun h => ?_, fun h => ?_⟩
    · cases hdraft.symm.trans h
    · rcases h with h | h <;> cases hdraft.symm.trans h
  | submit hdraft =>
    obtain ⟨i, hi⟩ := hpast.draft hdraft
    refine ⟨nofun, fun _ => ⟨i, n + 1, hi.succ hp, by have := hi.le; omega, le_rfl, ?_⟩, fun h => ?_⟩
    · exact ⟨_, hb, rfl, rfl⟩
    · rcases h with h | h <;> cases h
  | approve hpending who name =>
    obtain ⟨i, j, hij⟩ := hpast.pending hpending
    refine ⟨nofun, nofun, fun _ => ⟨i, j, n, hij.succ hp, hij.le_pending, by omega, ⟨who, name, hc⟩,
      ⟨a, ha, rfl, hpending⟩, ⟨_, hb, rfl, rfl⟩⟩⟩
  | reject hpending =>
    refine ⟨nofun, nofun, fun h => ?_⟩
    rcases h with h | h <;> cases h
  | publish haccepted id hstatus =>
    obtain ⟨i, j, k, hijk⟩ := hpast.accepted haccepted
    refine ⟨fun h => ?_, fun h => ?_, fun _ => ⟨i, j, k, hijk.succ hp⟩⟩
    · rcases hstatus with hs | hs <;> cases hs.symm.trans h
    · rcases hstatus with hs | hs <;> cases hs.symm.trans h

/-- **Every release has come the whole way to its status.** -/
theorem past_at (h : SparedReleases w) (hempty : table w = []) (hdrafts : ∀ c ∈ calls, c.Drafts)
    {n : ℕ} (hn : n ≤ calls.length) : ∀ a ∈ tableAt cfg calls w n, Past cfg calls w n a := by
  induction n with
  | zero =>
    intro a ha
    rw [tableAt, worldAt, List.take_zero, List.foldl_nil, hempty] at ha
    cases ha
  | succ n ih =>
    intro b hb
    obtain ⟨c, hc⟩ := exists_call (Nat.lt_of_succ_le hn)
    rcases (effect_at h hdrafts hc).advances b hb with ⟨a, ha, hab⟩ | ⟨hdraft, -⟩
    · exact (ih (Nat.le_of_succ_le hn) a ha).advance hc ha hb hab
    · refine ⟨fun _ => ⟨n + 1, le_rfl, ⟨b, hb, rfl, hdraft⟩, fun m hi hm => ?_⟩, fun h => ?_,
        fun h => ?_⟩
      · obtain rfl : m = n + 1 := by omega
        exact ⟨b, hb, rfl⟩
      · cases hdraft.symm.trans h
      · rcases h with h | h <;> cases hdraft.symm.trans h

/-! ### The file of a release -/

/-- **The file of a release stays** from the time on at which the release is no draft. -/
theorem apk_at (h : SparedReleases w) (hempty : table w = []) (hdrafts : ∀ c ∈ calls, c.Drafts)
    {m n : ℕ} (hmn : m ≤ n) (hn : n ≤ calls.length) {a : AppRelease}
    (ha : a ∈ tableAt cfg calls w m) (hstatus : a.status ≠ .draft)
    (hpresent : ∀ l, m ≤ l → l ≤ n → Present (tableAt cfg calls w l) a.id) :
    ∀ b ∈ tableAt cfg calls w n, a.id = b.id → b.status ≠ .draft ∧ b.apkURL = a.apkURL ∧
      b.apkFilename = a.apkFilename ∧ b.apkSizeBytes = a.apkSizeBytes := by
  induction n, hmn using Nat.le_induction with
  | base =>
    intro b hb hid
    obtain rfl := eq_of_id (nodup_at h hempty hdrafts hn) ha hb hid
    exact ⟨hstatus, rfl, rfl, rfl⟩
  | succ n hmn ih =>
    intro b hb hid
    obtain ⟨c, hc⟩ := exists_call (Nat.lt_of_succ_le hn)
    rcases (effect_at h hdrafts hc).advances b hb with ⟨d, hd, hdb⟩ | ⟨-, hnew⟩
    · obtain ⟨hdstatus, hurl, hname, hsize⟩ := ih (Nat.le_of_succ_le hn)
        (fun l hl hln => hpresent l hl (by omega)) d hd (hid.trans hdb.id_eq)
      obtain ⟨hbstatus, hurl', hname', hsize'⟩ := hdb.apk_eq hdstatus
      exact ⟨hbstatus, hurl'.trans hurl, hname'.trans hname, hsize'.trans hsize⟩
    · obtain ⟨d, hd, hdid⟩ := hpresent n hmn (by omega)
      exact absurd (hdid.trans hid) (hnew d hd)

/-! ### The release that is out -/

/-- Of rows with different ids at most one meets a condition if those that meet it have one id. -/
theorem countP_le_one_iff {p : AppRelease → Bool} {rows : List AppRelease}
    (hn : (rows.map (·.id)).Nodup) :
    rows.countP p ≤ 1 ↔ ∀ a ∈ rows, ∀ b ∈ rows, p a = true → p b = true → a.id = b.id := by
  induction rows with
  | nil => simp
  | cons c rows ih =>
    obtain ⟨hc, hn⟩ := List.nodup_cons.1 hn
    have hne : ∀ b ∈ rows, c.id ≠ b.id := by
      intro b hb hid
      exact hc (List.mem_map.2 ⟨b, hb, hid.symm⟩)
    cases hp : p c with
    | false =>
      rw [List.countP_cons_of_neg (by simp [hp]), ih hn]
      simp [hp]
    | true =>
      rw [List.countP_cons_of_pos hp]
      constructor
      · intro h
        have hnone : ∀ b ∈ rows, ¬ p b = true := List.countP_eq_zero.1 (by omega)
        have hcs : ∀ b ∈ c :: rows, p b = true → b = c := by
          intro b hb hpb
          rcases List.mem_cons.1 hb with hbc | hb
          · exact hbc
          · exact absurd hpb (hnone b hb)
        intro a ha b hb hpa hpb
        rw [hcs a ha hpa, hcs b hb hpb]
      · intro h
        have hnone : rows.countP p = 0 := by
          refine List.countP_eq_zero.2 fun b hb hpb => ?_
          exact hne b hb (h c List.mem_cons_self b (List.mem_cons_of_mem _ hb) hp hpb)
        omega

/-- All releases that are out have one id. -/
def OneOut (rows : List AppRelease) : Prop :=
  ∀ a ∈ rows, ∀ b ∈ rows, a.status = .released → b.status = .released → a.id = b.id

theorem countP_le_one_iff_oneOut {rows : List AppRelease} (hn : (rows.map (·.id)).Nodup) :
    rows.countP (·.status = .released) ≤ 1 ↔ OneOut rows := by
  rw [countP_le_one_iff hn]
  simp only [decide_eq_true_eq, OneOut]

theorem published_oneOut (id : String) (now : ℤ) (rows : List AppRelease)
    (hnone : ∀ a ∈ rows, a.status ≠ .released) : OneOut (published id now rows) := by
  have hid : ∀ a ∈ published id now rows, a.status = .released → a.id = id := by
    intro a ha hout
    obtain ⟨b, hb, rfl⟩ := List.mem_map.1 ha
    split_ifs at hout ⊢ with hsel
    · simp only [Bool.and_eq_true, decide_eq_true_eq] at hsel
      exact hsel.1
    · exact absurd hout (hnone b hb)
  intro a ha b hb hout hout'
  rw [hid a ha hout, hid b hb hout']

theorem not_released_of_withdrawn {rows : List AppRelease} {a : AppRelease} (ha : a ∈ withdrawn rows) :
    a.status ≠ .released := by
  obtain ⟨b, -, rfl⟩ := List.mem_map.1 ha
  split_ifs with hout
  · exact nofun
  · exact fun h => hout (decide_eq_true h)

/-- A publication of a release that is not there to be published changes nothing. -/
theorem published_of_none {id : String} {rows : List AppRelease}
    (hnone : ¬ ∃ a ∈ rows, a.id = id ∧ a.status = .approved) (now : ℤ) :
    published id now rows = rows := by
  refine (List.map_congr_left fun a ha => if_neg fun hsel => hnone ⟨a, ha, ?_⟩).trans (List.map_id' rows)
  simpa only [Bool.and_eq_true, decide_eq_true_eq] using hsel

/-- **A call that does not lapse leaves at most one release out.** -/
theorem oneOut_step (h : SparedReleases w) {c : ReleaseCall} (hc : c.Drafts)
    (hlapse : ¬ Lapses c w) (hone : OneOut (table w)) :
    OneOut (table (c.run.exec (server cfg) w).state) := by
  by_cases hrelease : ∃ id, c = .release id
  · obtain ⟨id, rfl⟩ := hrelease
    obtain ⟨now, hnow⟩ := table_release cfg h id
    rw [ReleaseCall.run, hnow]
    cases hw : (w.later 0).fault.isRefused with
    | false =>
      have hnone : ∀ a ∈ withdrawn (table w), a.status ≠ .released :=
        fun a ha => not_released_of_withdrawn ha
      simp only [Bool.false_eq_true, if_false]
      cases (w.later 2).fault.isRefused with
      | true => exact fun a ha _ _ hout => absurd hout (hnone a ha)
      | false => exact published_oneOut id now _ hnone
    | true =>
      rw [if_pos rfl]
      cases hp : (w.later 2).fault.isRefused with
      | true => exact hone
      | false =>
        rw [if_neg (by simp)]
        by_cases hout : ∃ a ∈ table w, a.status = .released
        · rw [published_of_none (fun hready => hlapse ⟨hw, hout, hp, hready⟩)]
          exact hone
        · push Not at hout
          exact published_oneOut id now _ hout
  · push Not at hrelease
    have hcame : ∀ b ∈ table (c.run.exec (server cfg) w).state, b.status = .released →
        ∃ a ∈ table w, a.id = b.id ∧ a.status = .released := by
      intro b hb hout
      rcases (call_effect cfg h c hc).advances b hb with ⟨a, ha, hab⟩ | ⟨hdraft, -⟩
      · exact ⟨a, ha, hab.id_eq.symm, hab.released hrelease hout⟩
      · cases hdraft.symm.trans hout
    intro b hb b' hb' hout hout'
    obtain ⟨a, ha, hid, hs⟩ := hcame b hb hout
    obtain ⟨a', ha', hid', hs'⟩ := hcame b' hb' hout'
    rw [← hid, ← hid']
    exact hone a ha a' ha' hs hs'

/-- A call that lapses leaves two releases out. -/
theorem not_oneOut_of_lapses (h : SparedReleases w) (hn : ((table w).map (·.id)).Nodup)
    {c : ReleaseCall} (hlapse : Lapses c w) :
    ¬ OneOut (table (c.run.exec (server cfg) w).state) := by
  cases c with
  | release id =>
    obtain ⟨hw, ⟨a, ha, hout⟩, hp, b, hb, hid, happroved⟩ := hlapse
    obtain ⟨now, hnow⟩ := table_release cfg h id
    rw [ReleaseCall.run, hnow, if_pos hw, hp, if_neg (by simp)]
    intro hone
    have hstays : a ∈ published id now (table w) :=
      List.mem_map.2 ⟨a, ha, if_neg (by simp [hout])⟩
    have hcomes : ({ b with status := .released, releasedAt := some now } : AppRelease) ∈
        published id now (table w) :=
      List.mem_map.2 ⟨b, hb, if_pos (by simp [hid, happroved])⟩
    have hsame := hone a hstays _ hcomes hout rfl
    obtain rfl := eq_of_id hn ha hb hsame
    cases hout.symm.trans happroved
  | _ => exact hlapse.elim

theorem oneOut_at (h : SparedReleases w) (hempty : table w = []) (hdrafts : ∀ c ∈ calls, c.Drafts)
    (hlapses : ∀ n < calls.length, ∀ c ∈ calls[n]?, ¬ Lapses c (worldAt cfg calls w n)) {n : ℕ}
    (hn : n ≤ calls.length) : OneOut (tableAt cfg calls w n) := by
  induction n with
  | zero =>
    intro a ha
    rw [tableAt, worldAt, List.take_zero, List.foldl_nil, hempty] at ha
    cases ha
  | succ n ih =>
    obtain ⟨c, hc⟩ := exists_call (Nat.lt_of_succ_le hn)
    rw [tableAt, worldAt_succ hc]
    exact oneOut_step (spared_worldAt h n) (hdrafts c (List.mem_of_getElem? hc))
      (hlapses n (Nat.lt_of_succ_le hn) c hc) (ih (Nat.le_of_succ_le hn))

end History

/-- **A sequence of calls on an empty table keeps to the life cycle exactly when no publication
lapses.** -/
theorem lifecycle_iff (cfg : Config) (calls : List ReleaseCall) (w : World) (h : SparedReleases w)
    (hempty : table w = []) (hdrafts : ∀ c ∈ calls, c.Drafts) :
    Lifecycle cfg calls w ↔
      ∀ n < calls.length, ∀ c ∈ calls[n]?, ¬ Lapses c (worldAt cfg calls w n) := by
  constructor
  · intro hlife n hn c hc hlapse
    have hsucc := hlife.single (n + 1) hn
    have hnodup : ((tableAt cfg calls w (n + 1)).map (·.id)).Nodup := nodup_at h hempty hdrafts hn
    rw [countP_le_one_iff_oneOut hnodup, tableAt, worldAt_succ hc] at hsucc
    exact not_oneOut_of_lapses (spared_worldAt h n)
      (nodup_at h hempty hdrafts (Nat.le_of_lt hn)) hlapse hsucc
  · intro hlapses
    refine ⟨fun n hn => ?_, fun n hn a ha haccepted => ?_, fun m n hmn hn a ha b hb hid hs hp => ?_,
      fun n id hc a ha hstatus => ?_⟩
    · rw [countP_le_one_iff_oneOut (nodup_at h hempty hdrafts hn)]
      exact oneOut_at h hempty hdrafts hlapses hn
    · exact (past_at h hempty hdrafts hn a ha).accepted haccepted
    · exact (apk_at h hempty hdrafts hmn hn ha hs hp b hb hid).2
    · exact (effect_at h hdrafts hc).kept a ha hstatus ⟨id, rfl⟩

/-! ## Two releases -/

/-- A release as it is created. -/
def draftRelease (versionCode : ℤ) (versionName : String) : AppRelease where
  id := ""
  versionCode := versionCode
  versionName := versionName
  releaseType := "normal"
  title := ""
  releaseNotes := ""
  minRequiredVersion := 1
  apkURL := ""
  apkFilename := ""
  apkSizeBytes := 0
  status := .draft
  submittedBy := none
  submittedByName := ""
  approvedBy := none
  approvedByName := ""
  rejectedBy := none
  rejectionReason := ""
  releasedAt := none

/-- Two releases are brought out one after the other. -/
def twoReleases : List ReleaseCall :=
  [.create (draftRelease 1 "1.0"), .create (draftRelease 2 "2.0"),
    .submitForApproval "release-1", .submitForApproval "release-2",
    .approve "release-1" "admin-1" "admin-1", .approve "release-2" "admin-1" "admin-1",
    .release "release-1", .release "release-2"]

/-- A server with an administrator, on which the withdrawal of the first release meets a fault. -/
def releasePanel (fault : Fault) : World :=
  let draws (id : UUID) : Tick := { Tick.quiet with uuid := id }
  { onePlan "pending" with
    db := ⟨[], [], [], [], [], [], [], [], [], [],
      { Registry.empty with
        users := [⟨"admin-1", "Ada", "ada@example.org", "", "admin", "active", ""⟩] }⟩
    env := [draws ⟨"release-1", by decide⟩, .quiet, draws ⟨"release-2", by decide⟩, .quiet, .quiet,
      .quiet, .quiet, .quiet, .quiet, .quiet, .quiet, { Tick.quiet with fault := fault }] }

theorem releasePanel_spared (fault : Fault) : SparedReleases (releasePanel fault) := by
  intro t ht s
  simp only [releasePanel, List.mem_cons, List.not_mem_nil, or_false] at ht
  rcases ht with rfl | rfl | rfl | rfl | rfl | rfl | rfl | rfl | rfl | rfl | rfl | rfl <;> rfl

theorem twoReleases_drafts : ∀ c ∈ twoReleases, c.Drafts := by
  intro c hc
  simp only [twoReleases, List.mem_cons, List.not_mem_nil, or_false] at hc
  rcases hc with rfl | rfl | rfl | rfl | rfl | rfl | rfl | rfl <;> trivial

/-- When nothing fails, the second release takes the place of the first. -/
theorem lifecycle_twoReleases : Lifecycle .default twoReleases (releasePanel .none) :=
  (lifecycle_iff .default twoReleases (releasePanel .none) (releasePanel_spared .none) rfl
    twoReleases_drafts).2 (by decide)

/-- When the first release cannot be withdrawn, the second one comes out beside it. -/
theorem two_released :
    let w := releasePanel (.refused "connection reset")
    SparedReleases w ∧ table w = [] ∧ (∀ c ∈ twoReleases, c.Drafts) ∧
      (tableAt .default twoReleases w 8).countP (·.status = .released) = 2 ∧
      ¬ Lifecycle .default twoReleases w := by
  have htwo : (tableAt .default twoReleases (releasePanel (.refused "connection reset")) 8).countP
      (·.status = .released) = 2 := by decide
  refine ⟨releasePanel_spared _, rfl, twoReleases_drafts, htwo, fun hlife => ?_⟩
  have hone := hlife.single 8 (by decide)
  rw [htwo] at hone
  exact absurd hone (by decide)

end AeroxeBee.Admin
