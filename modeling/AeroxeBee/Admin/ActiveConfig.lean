import AeroxeBee.Admin.ChangeRequests

/-!
# The active configuration of the language models

`Create` and `Update` deactivate the configurations that are active before they save the one they
are called with. If it is not saved then nothing activates the others again. A unique index sees to
it that no two configurations are active.

* `Keyed.statement`: no statement leaves two active configurations;
* `configs_save`: what the two statements of a call leave of the table;
* `single_and_allOrNothing_iff`: at most one configuration is ever active, and when a call leaves
  either the new configuration or the one before it active.
-/

namespace AeroxeBee.Admin

open Foundations

/-! ## At most one -/

/-- No two configurations have the same id, and at most one is active. -/
structure Keyed (rows : List AIConfig) : Prop where
  ids : (rows.map (·.id)).Nodup
  single : rows.countP (·.isActive) ≤ 1

section Keyed

variable {rows : List AIConfig} {cfg a b : AIConfig}

/-- A change of the rows that keeps the ids and activates none. -/
theorem Keyed.map (h : Keyed rows) {f : AIConfig → AIConfig} (hid : ∀ a, (f a).id = a.id)
    (hactive : ∀ a, (f a).isActive = true → a.isActive = true) : Keyed (rows.map f) := by
  constructor
  · rw [List.map_map, show (fun a : AIConfig => a.id) ∘ f = fun a => a.id from funext hid]
    exact h.ids
  · rw [List.countP_map]
    exact (List.countP_mono_left fun a _ => hactive a).trans h.single

/-- Configurations with the same id are the same row. -/
theorem Keyed.eq_of_id (h : Keyed rows) (ha : a ∈ rows) (hb : b ∈ rows) (hid : a.id = b.id) :
    a = b :=
  List.inj_on_of_nodup_map h.ids ha hb hid

/-- Two active configurations are the same row. -/
theorem Keyed.eq_of_active (h : Keyed rows) (ha : a ∈ rows) (hb : b ∈ rows)
    (hactive : a.isActive = true) (hactive' : b.isActive = true) : a = b := by
  have hlength : (rows.filter (·.isActive)).length ≤ 1 :=
    List.countP_eq_length_filter ▸ h.single
  have ha' : a ∈ rows.filter (·.isActive) := List.mem_filter.2 ⟨ha, hactive⟩
  have hb' : b ∈ rows.filter (·.isActive) := List.mem_filter.2 ⟨hb, hactive'⟩
  match hfilter : rows.filter (·.isActive) with
  | [] =>
    rw [hfilter] at ha'
    cases ha'
  | [c] =>
    rw [hfilter] at ha' hb'
    exact (List.mem_singleton.1 ha').trans (List.mem_singleton.1 hb').symm
  | c :: d :: rest =>
    rw [hfilter] at hlength
    simp at hlength

/-- A new row: it is active only if no other is. -/
theorem Keyed.insert {r : Registry} (h : Keyed r.aiConfigs) :
    Keyed (replaced r.aiConfigs (r.insertAIConfig cfg)).2 := by
  unfold Registry.insertAIConfig
  split_ifs with hid hactive
  · exact h
  · exact h
  · exact h
  · rw [List.any_eq_true] at hid
    constructor
    · rw [replaced, List.map_append, List.nodup_append]
      refine ⟨h.ids, List.nodup_singleton _, fun x hx y hy hxy => hid ?_⟩
      obtain ⟨a, ha, rfl⟩ := List.mem_map.1 hx
      exact ⟨a, ha, by rw [hxy, List.mem_singleton.1 hy]; simp⟩
    · rw [replaced, List.countP_append, List.countP_singleton]
      cases hnew : cfg.isActive with
      | false => simpa using h.single
      | true =>
        have hnone : r.aiConfigs.any AIConfig.isActive = false := by simpa [hnew] using hactive
        have hzero : r.aiConfigs.countP (·.isActive) = 0 := by
          rw [List.countP_eq_zero]
          intro a ha
          simpa using List.any_eq_false.1 hnone a ha
        rw [hzero]
        rfl

/-- A row that is overwritten: it becomes active only if no other is. -/
theorem Keyed.overwrite {r : Registry} (h : Keyed r.aiConfigs) :
    Keyed (replaced r.aiConfigs (r.overwriteAIConfig cfg)).2 := by
  unfold Registry.overwriteAIConfig
  split_ifs with hactive
  · exact h
  · have hids : ((updateWhere (·.id = cfg.id) (fun row => { cfg with createdBy := row.createdBy })
        r.aiConfigs).map (·.id)) = r.aiConfigs.map (·.id) := by
      rw [updateWhere, List.map_map]
      refine List.map_congr_left fun a _ => ?_
      by_cases hid : a.id = cfg.id <;> simp [hid]
    rw [replaced]
    refine ⟨by rw [hids]; exact h.ids, ?_⟩
    rw [updateWhere, List.countP_map]
    by_cases hmine : cfg.isActive = true ∧ ∃ a ∈ r.aiConfigs, a.id = cfg.id
    · -- only the rows with its id can be active, and there is one
      have hle : r.aiConfigs.countP ((fun a => a.isActive) ∘ fun row =>
          if decide (row.id = cfg.id) = true then { cfg with createdBy := row.createdBy } else row) ≤
          r.aiConfigs.countP (fun a => a.id == cfg.id) := by
        refine List.countP_mono_left fun a ha hnow => ?_
        by_contra hid
        have hid' : a.id ≠ cfg.id := by simpa using hid
        refine hactive ?_
        simp only [Function.comp_apply, hid', decide_false, Bool.false_eq_true, if_false] at hnow
        obtain ⟨c, hc, hcid⟩ := hmine.2
        simp only [Bool.and_eq_true, List.any_eq_true, decide_eq_true_eq]
        exact ⟨⟨⟨c, hc, hcid⟩, hmine.1⟩, a, ha, hid', hnow⟩
      refine hle.trans ?_
      have hcount := List.nodup_iff_count_le_one.1 h.ids cfg.id
      rwa [List.count, List.countP_map] at hcount
    · refine (List.countP_mono_left fun a ha hnow => ?_).trans h.single
      by_cases hid : a.id = cfg.id
      · simp only [Function.comp_apply, hid, decide_true, if_true] at hnow
        exact absurd ⟨hnow, a, ha, hid⟩ hmine
      · simpa [hid] using hnow

/-- A statement about the registry leaves at most one active configuration. -/
theorem Keyed.registry {r : Registry} (h : Keyed r.aiConfigs) {β : Type} (q : RegistryQuery β) :
    Keyed (q.run r).2.aiConfigs := by
  cases q with
  | deleteUsers ids => exact h.map (fun _ => rfl) fun _ => id
  | deactivateAIConfigs except =>
    refine h.map (fun a => ?_) fun a hactive => ?_
    · by_cases hdeactivate : (a.isActive && decide (some a.id ≠ except)) = true
      · rw [if_pos hdeactivate]
      · rw [if_neg hdeactivate]
    · by_cases hdeactivate : (a.isActive && decide (some a.id ≠ except)) = true
      · rw [if_pos hdeactivate] at hactive
        cases hactive
      · rwa [if_neg hdeactivate] at hactive
  | createAIConfig cfg => exact h.insert
  | updateAIConfig cfg => exact h.overwrite
  | deleteAIConfig id =>
    exact ⟨h.ids.sublist (List.filter_sublist.map _),
      (List.Sublist.countP_le List.filter_sublist).trans h.single⟩
  | _ => exact h

/-- **No statement leaves two active configurations.** -/
theorem Keyed.statement {db : Database} (h : Keyed db.registry.aiConfigs) {β : Type} (q : Query β) :
    Keyed (q.run db).2.registry.aiConfigs := by
  cases q with
  | registry q => exact h.registry q
  | createMessage msg =>
    simp only [Query.run]
    cases hinsert : db.insertMessage msg with
    | error e => exact h
    | ok db' =>
      unfold Database.insertMessage at hinsert
      split_ifs at hinsert
      cases hinsert
      exact h
  | incrementUsage accountID date =>
    change Keyed (db.countUsage accountID date).registry.aiConfigs
    rw [Database.countUsage_registry]
    exact h
  | deleteAccount id =>
    simp only [Query.run]
    split_ifs <;> exact h
  | _ => exact h

end Keyed

/-! ## Calls that save the active configuration -/

/-- The configurations. -/
abbrev configs (w : World) : List AIConfig := w.db.registry.aiConfigs

/-- The configurations after those that are active have been deactivated, but one if it is given. -/
def deactivated (except : Option String) (rows : List AIConfig) : List AIConfig :=
  updateWhere (fun cfg => cfg.isActive && some cfg.id ≠ except)
    (fun cfg => { cfg with isActive := false }) rows

/-- A call that saves a configuration. -/
inductive Saving where
  | create
  | update

namespace Saving

/-- The routine of the call. -/
def save : Saving → AIConfig → ServerProg (Except String Unit)
  | create => AIConfigService.create
  | update => AIConfigService.update

/-- The configuration that is not deactivated before the call saves its own. -/
def except : Saving → AIConfig → Option String
  | create, _ => none
  | update, c => some c.id

/-- The tick of the statement that saves. -/
def saveTick : Saving → ℕ
  | create => 2
  | update => 1

/-- The configuration is among the rows. -/
def Stored (w : World) (rows : List AIConfig) : Saving → AIConfig → Prop
  | create, c => { c with id := (w.later 1).uuid.text } ∈ rows
  | update, c => ∃ row ∈ rows, row = { c with createdBy := row.createdBy }

/-- There is a place for the configuration: it is new and its maker a user, or it is to be overwritten
and there. -/
def Fits (w : World) : Saving → AIConfig → Prop
  | create, c =>
    (¬ ∃ a ∈ configs w, a.id = (w.later 1).uuid.text) ∧
      ∀ id, c.createdBy = some id → ∃ u ∈ w.db.registry.users, u.id = id
  | update, c => ∃ a ∈ configs w, a.id = c.id

/-- Both statements of the call are executed, and it goes on from the first to the second. -/
def Completes (w : World) (call : Saving) (c : AIConfig) : Prop :=
  (w.later 0).fault = .none ∧ (w.later call.saveTick).fault.isRefused = false ∧ call.Fits w c

/-- The new configuration is stored, or whatever was active before is active still. -/
def AllOrNothing (cfg : Config) (w : World) (call : Saving) (c : AIConfig) : Prop :=
  call.Stored w (configs ((call.save c).exec (server cfg) w).state) c ∨
    ∀ a ∈ configs w, a.isActive = true →
      ∃ b ∈ configs ((call.save c).exec (server cfg) w).state, b.id = a.id ∧ b.isActive = true

/-- What keeps a configuration active: the others are not deactivated, there are none that are active,
or the call gets through. -/
def Covered (w : World) (call : Saving) (c : AIConfig) : Prop :=
  (w.later 0).fault.isRefused = true ∨
    (∀ a ∈ configs w, a.isActive = true → some a.id = call.except c) ∨ call.Completes w c

end Saving

section Deactivated

variable {rows : List AIConfig} {except : Option String} {a b : AIConfig}

/-- What is active after the others have been deactivated was active before. -/
theorem mem_deactivated (hb : b ∈ deactivated except rows) (hactive : b.isActive = true) :
    b ∈ rows ∧ some b.id = except := by
  obtain ⟨a, ha, rfl⟩ := List.mem_map.1 hb
  by_cases hdeactivate : (a.isActive && decide (some a.id ≠ except)) = true
  · simp only [hdeactivate, if_true] at hactive
    cases hactive
  · simp only [hdeactivate] at hactive ⊢
    refine ⟨ha, ?_⟩
    by_contra hne
    have hactive' : a.isActive = true := hactive
    exact hdeactivate (by simp [hactive', show some a.id ≠ except from hne])

/-- The configuration that is not deactivated stays. -/
theorem mem_deactivated_of_except (ha : a ∈ rows) (hid : some a.id = except) :
    a ∈ deactivated except rows :=
  List.mem_map.2 ⟨a, ha, by simp [hid]⟩

/-- Deactivation keeps the ids. -/
theorem exists_deactivated_id {id : String} :
    (∃ a ∈ deactivated except rows, a.id = id) ↔ ∃ a ∈ rows, a.id = id := by
  constructor
  · rintro ⟨b, hb, hid⟩
    obtain ⟨a, ha, rfl⟩ := List.mem_map.1 hb
    refine ⟨a, ha, hid ▸ ?_⟩
    split_ifs <;> rfl
  · rintro ⟨a, ha, rfl⟩
    refine ⟨_, List.mem_map_of_mem ha, ?_⟩
    split_ifs <;> rfl

end Deactivated

section Saves

variable (cfg : Config) {w : World} {call : Saving} {c : AIConfig}

open Saving

/-- What the second statement makes of the rows that the first one has deactivated. -/
theorem replaced_insert {r : Registry} {c : AIConfig} (hnone : ∀ a ∈ r.aiConfigs, a.isActive = false) :
    (replaced r.aiConfigs (r.insertAIConfig c)).2 =
      if (¬ ∃ a ∈ r.aiConfigs, a.id = c.id) ∧
          (∀ id, c.createdBy = some id → ∃ u ∈ r.users, u.id = id) then r.aiConfigs ++ [c]
      else r.aiConfigs := by
  have hinactive : r.aiConfigs.any AIConfig.isActive = false := by
    rw [List.any_eq_false]
    intro a ha
    simp [hnone a ha]
  unfold Registry.insertAIConfig
  rw [hinactive, Bool.and_false]
  by_cases hid : ∃ a ∈ r.aiConfigs, a.id = c.id
  · rw [if_pos (by simpa using hid), if_neg fun h => h.1 hid]
    rfl
  · rw [if_neg (by simpa using hid), if_neg (by simp)]
    cases hmaker : c.createdBy with
    | none => simp [replaced, hid]
    | some id =>
      by_cases huser : ∃ u ∈ r.users, u.id = id
      · have hany : r.users.any (fun u => u.id = id) = true := by simpa using huser
        simp only [Option.any_some, hany, Bool.not_true, Bool.false_eq_true, if_false, replaced]
        rw [if_pos ⟨hid, fun id' hid' => Option.some.inj hid' ▸ huser⟩]
      · have hany : r.users.any (fun u => u.id = id) = false := by
          simpa using huser
        simp only [Option.any_some, hany, Bool.not_false, if_true, replaced]
        rw [if_neg fun h => huser (h.2 id rfl)]

theorem replaced_overwrite {r : Registry} {c : AIConfig}
    (hnone : ∀ a ∈ r.aiConfigs, a.isActive = true → a.id = c.id) :
    (replaced r.aiConfigs (r.overwriteAIConfig c)).2 =
      updateWhere (·.id = c.id) (fun row => { c with createdBy := row.createdBy }) r.aiConfigs := by
  have hothers : (r.aiConfigs.any fun row => row.id ≠ c.id && row.isActive) = false := by
    rw [List.any_eq_false]
    intro a ha hother
    simp only [Bool.and_eq_true, decide_eq_true_eq] at hother
    exact hother.1 (hnone a ha hother.2)
  rw [Registry.overwriteAIConfig, hothers, Bool.and_false, if_neg (by simp)]
  rfl

/-- A statement about the configurations is refused, or it is executed. -/
theorem configs_statement (h : Alone w) {β : Type} (q : RegistryQuery β) :
    configs ((server cfg).step (.db (.registry q)) w).2 =
      if w.next.fault.isRefused then configs w else (q.run w.db.registry).2.aiConfigs := by
  rw [configs, step_statement, h.tick_db]
  split_ifs <;> rfl

/-- What the calls do once the others have been deactivated. -/
def Saving.rest : Saving → AIConfig → ServerProg (Except String Unit)
  | create, c => do
    let id ← Prog.call .uuid
    Prog.call (.db (.registry (.createAIConfig { c with id := id.text })))
  | update, c => Prog.call (.db (.registry (.updateAIConfig c)))

theorem save_eq (call : Saving) (c : AIConfig) :
    call.save c = AIConfigService.deactivating c.isActive (call.except c) (call.rest c) := by
  cases call <;> rfl

/-- The second statement stores the configuration if it is executed and there is a place for it. -/
theorem configs_rest (call : Saving) {w₁ : World} (h : Alone w₁)
    (hlater : ∀ n, w₁.later n = w.later (n + 1)) (husers : w₁.db.registry.users = w.db.registry.users)
    (hrows : configs w₁ = deactivated (call.except c) (configs w)) :
    (((w.later call.saveTick).fault.isRefused = false ∧ call.Fits w c) ∧
        call.Stored w (configs ((call.rest c).exec (server cfg) w₁).state) c) ∨
      (¬ ((w.later call.saveTick).fault.isRefused = false ∧ call.Fits w c) ∧
        configs ((call.rest c).exec (server cfg) w₁).state =
          deactivated (call.except c) (configs w)) := by
  cases call with
  | create =>
    let w₂ := ((server cfg).step .uuid w₁).2
    have hw₂ : Alone w₂ := h.step .uuid
    have hdb : w₂.db = w₁.db := h.tick_db
    have hdrawn : ((server cfg).step .uuid w₁).1 = (w.later 1).uuid := by
      rw [← hlater 0]
      rfl
    have hrun : configs ((Saving.create.rest c).exec (server cfg) w₁).state =
        if (w.later 2).fault.isRefused then configs w₁ else
          (replaced (configs w₁) (w₁.db.registry.insertAIConfig
            { c with id := (w.later 1).uuid.text })).2 := by
      change configs ((server cfg).step
        (.db (.registry (.createAIConfig { c with id := ((server cfg).step .uuid w₁).1.text }))) w₂).2 = _
      rw [configs_statement cfg hw₂, next_eq_later, step_later, hlater, hdrawn, configs, hdb]
      rfl
    have hplace : (¬ ∃ a ∈ w₁.db.registry.aiConfigs, a.id = (w.later 1).uuid.text) ∧
        (∀ id, c.createdBy = some id → ∃ u ∈ w₁.db.registry.users, u.id = id) ↔
          Saving.create.Fits w c := by
      rw [husers, show w₁.db.registry.aiConfigs = _ from hrows, exists_deactivated_id]
      rfl
    rw [replaced_insert (fun a ha => ?_)] at hrun
    · cases hrefused : (w.later 2).fault.isRefused with
      | true =>
        refine .inr ⟨fun h => by simp [saveTick, hrefused] at h, ?_⟩
        rw [hrun, hrefused, if_pos rfl, hrows]
      | false =>
        by_cases hfits : Saving.create.Fits w c
        · refine .inl ⟨⟨hrefused, hfits⟩, ?_⟩
          rw [hrun, hrefused, if_neg (by simp), if_pos (hplace.2 hfits)]
          exact List.mem_append_right _ (List.mem_singleton_self _)
        · refine .inr ⟨fun h => hfits h.2, ?_⟩
          rw [hrun, hrefused, if_neg (by simp), if_neg (mt hplace.1 hfits)]
          exact hrows
    · rw [show w₁.db.registry.aiConfigs = _ from hrows] at ha
      by_contra hstill
      exact nomatch (mem_deactivated ha (by simpa using hstill)).2
  | update =>
    have hrun := configs_statement cfg h (.updateAIConfig c)
    rw [next_eq_later, hlater] at hrun
    have hreplaced : ((RegistryQuery.updateAIConfig c).run w₁.db.registry).2.aiConfigs =
        updateWhere (·.id = c.id) (fun row => { c with createdBy := row.createdBy })
          (configs w₁) := by
      refine replaced_overwrite fun a ha hstill => ?_
      rw [show w₁.db.registry.aiConfigs = _ from hrows] at ha
      exact Option.some.inj (mem_deactivated ha hstill).2
    rw [hreplaced] at hrun
    change _ ∧ Saving.update.Stored w (configs ((server cfg).step _ w₁).2) c ∨
      _ ∧ configs ((server cfg).step _ w₁).2 = _
    cases hrefused : (w.later 1).fault.isRefused with
    | true =>
      refine .inr ⟨fun h => by simp [saveTick, hrefused] at h, ?_⟩
      rw [hrun, hrefused, if_pos rfl, hrows]
    | false =>
      by_cases hfits : Saving.update.Fits w c
      · refine .inl ⟨⟨hrefused, hfits⟩, ?_⟩
        obtain ⟨a, ha, hid⟩ : ∃ a ∈ deactivated (some c.id) (configs w), a.id = c.id :=
          exists_deactivated_id.2 hfits
        rw [hrun, hrefused, if_neg (by simp), hrows]
        exact ⟨_, List.mem_map_of_mem ha, by simp [hid]⟩
      · refine .inr ⟨fun h => hfits h.2, ?_⟩
        rw [hrun, hrefused, if_neg (by simp), hrows]
        refine (List.map_congr_left fun a ha => if_neg fun hid => hfits ?_).trans (List.map_id _)
        exact exists_deactivated_id.1 ⟨a, ha, of_decide_eq_true hid⟩

/-- **What a call leaves of the table**: the others are not deactivated, the configuration is stored,
or nothing is left but the deactivation. -/
theorem configs_save (call : Saving) (h : Alone w) (hactive : c.isActive = true) :
    ((w.later 0).fault.isRefused = true ∧
        configs ((call.save c).exec (server cfg) w).state = configs w) ∨
      (call.Completes w c ∧ call.Stored w (configs ((call.save c).exec (server cfg) w).state) c) ∨
      ((w.later 0).fault.isRefused = false ∧ ¬ call.Completes w c ∧
        configs ((call.save c).exec (server cfg) w).state =
          deactivated (call.except c) (configs w)) := by
  rw [save_eq, hactive]
  let q : RegistryQuery Unit := .deactivateAIConfigs (call.except c)
  have hfailed : ∀ e, ((server cfg).step (.db (.registry q)) w).1 = .error e →
      ((AIConfigService.deactivating true (call.except c) (call.rest c)).exec (server cfg) w).state =
        ((server cfg).step (.db (.registry q)) w).2 := fun e he => by
    simp only [AIConfigService.deactivating, Prog.call_bind, Prog.exec_act]
    rw [he]
    rfl
  rcases h.step_query cfg (.registry q) with
    ⟨hfault, hval, hdb⟩ | ⟨e, hfault, hval, hdb⟩ | ⟨e, hfault, hval, hdb⟩
  · have hnext := configs_rest cfg call (w := w) (h.step (.db (.registry q)))
      (fun n => step_later cfg w _ n) (by rw [hdb]; rfl) (by rw [configs, hdb]; rfl)
    have hstate : ((AIConfigService.deactivating true (call.except c) (call.rest c)).exec
        (server cfg) w).state =
          ((call.rest c).exec (server cfg) ((server cfg).step (.db (.registry q)) w).2).state := by
      simp only [AIConfigService.deactivating, Prog.call_bind, Prog.exec_act]
      rw [hval]
      rfl
    rw [hstate]
    rcases hnext with ⟨hsaved, hstored⟩ | ⟨hnot, hrows⟩
    · exact .inr (.inl ⟨⟨hfault, hsaved⟩, hstored⟩)
    · exact .inr (.inr ⟨by rw [← next_eq_later, hfault]; rfl, fun h => hnot h.2, hrows⟩)
  · refine .inl ⟨by rw [← next_eq_later, hfault]; rfl, ?_⟩
    rw [hfailed e hval, configs, hdb]
  · refine .inr (.inr ⟨by rw [← next_eq_later, hfault]; rfl, fun hdone => ?_, ?_⟩)
    · cases hfault.symm.trans (next_eq_later w ▸ hdone.1)
    · rw [hfailed e hval, configs, hdb]
      rfl

/-- A command leaves at most one active configuration. -/
theorem Keyed.step (halone : Alone w) (h : Keyed (configs w)) {β : Type} (e : ServerCmd β) :
    Keyed (configs ((server cfg).step e w).2) := by
  unfold configs
  rw [step_db]
  cases e with
  | db q =>
    rcases Fault.apply_snd w.next.fault id id (fun db => q.run db) w.tick.db with hr | hr
    · rw [ServerCmd.tables, hr, halone.tick_db]
      exact h
    · rw [ServerCmd.tables, hr, halone.tick_db]
      exact h.statement q
  | _ =>
    change Keyed w.tick.db.registry.aiConfigs
    rw [halone.tick_db]
    exact h

/-- If nothing is left of a call but the deactivation, then the configuration that is active stays so
only if it was spared. -/
theorem allOrNothing_deactivated (h : Keyed (configs w)) (hactive : c.isActive = true)
    (hrows : configs ((call.save c).exec (server cfg) w).state =
      deactivated (call.except c) (configs w)) :
    call.AllOrNothing cfg w c ↔ ∀ a ∈ configs w, a.isActive = true → some a.id = call.except c := by
  unfold AllOrNothing
  rw [hrows]
  constructor
  · rintro (hstored | hstill) a ha haactive
    · cases call with
      | create => exact nomatch (mem_deactivated hstored hactive).2
      | update =>
        obtain ⟨row, hrow, heq⟩ := hstored
        have hnow : row.isActive = true := by rw [heq, hactive]
        obtain ⟨hbefore, hspared⟩ := mem_deactivated hrow hnow
        rw [h.eq_of_active ha hbefore haactive hnow]
        exact hspared
    · obtain ⟨b, hb, hid, hbactive⟩ := hstill a ha haactive
      rw [← hid]
      exact (mem_deactivated hb hbactive).2
  · intro hspared
    refine .inr fun a ha haactive => ⟨a, ?_, rfl, haactive⟩
    exact mem_deactivated_of_except ha (hspared a ha haactive)

/-- **At most one configuration is active in every state that the server reaches**, and a call that
saves an active configuration leaves it active, or the one before it, exactly when the others are not
deactivated, there are none to deactivate, or both of its statements are executed and there is a place
for the configuration. -/
theorem single_and_allOrNothing_iff (call : Saving) (c : AIConfig) (halone : Alone w)
    (hkeyed : Keyed (configs w)) :
    (∀ {α : Type} (ps : List (ServerProg α)) (sched : List ℕ),
        (configs ((Pool.start ps w).run (server cfg) sched).state).countP (·.isActive) ≤ 1) ∧
      (c.isActive = true → (call.AllOrNothing cfg w c ↔ call.Covered w c)) := by
  refine ⟨fun ps sched => ?_, fun hactive => ?_⟩
  · have hinv := Pool.run_inv (M := server cfg) (P := Pool.start ps w)
      (I := fun P => Alone P.state ∧ Keyed (configs P.state)) (fun P i hP => ?_) ⟨halone, hkeyed⟩ sched
    · exact hinv.2.single
    · rcases P.step_cases (server cfg) i with hsame | ⟨β, e, k, -, hstep⟩
      · rwa [hsame]
      · rw [hstep]
        exact ⟨hP.1.step e, hP.2.step cfg hP.1 e⟩
  · rcases configs_save cfg call halone hactive with
      ⟨hrefused, hrows⟩ | ⟨hdone, hstored⟩ | ⟨hexecuted, hnot, hrows⟩
    · refine iff_of_true (.inr fun a ha haactive => ⟨a, ?_, rfl, haactive⟩) (.inl hrefused)
      rwa [hrows]
    · exact iff_of_true (.inl hstored) (.inr (.inr hdone))
    · rw [allOrNothing_deactivated cfg hkeyed hactive hrows, Covered, hexecuted]
      simp [hnot]

end Saves

/-! ## An unknown configuration -/

/-- A configuration for a provider. -/
def configFor (id : String) : AIConfig :=
  ⟨id, "ollama", "Local Ollama", "http://localhost:11434", "", "llama3", true, none⟩

/-- A server with one configuration, which is active. -/
def oneConfig : World :=
  { onePlan "pending" with
    db := ⟨[], [], [], [], [], [], [], [], [], [],
      { Registry.empty with aiConfigs := [configFor "config-1"] }⟩ }

/-- The configuration that is active is overwritten. -/
theorem oneConfig_overwritten :
    (∀ {α : Type} (ps : List (ServerProg α)) (sched : List ℕ),
        (configs ((Pool.start ps oneConfig).run (server .default) sched).state).countP
          (·.isActive) ≤ 1) ∧ Saving.update.AllOrNothing .default oneConfig (configFor "config-1") := by
  have h := single_and_allOrNothing_iff .default .update (configFor "config-1") (w := oneConfig)
    (by simp [Alone, oneConfig, onePlan]) ⟨by decide, by decide⟩
  refine ⟨h.1, (h.2 rfl).2 (.inr (.inl ?_))⟩
  decide

/-- A configuration that does not exist is overwritten: nothing is stored, and none is active. -/
theorem unknown_deactivates :
    Alone oneConfig ∧ Keyed (configs oneConfig) ∧
      (configs ((AIConfigService.update (configFor "config-2")).exec (server .default)
        oneConfig).state).map (fun a => (a.id, a.isActive)) = [("config-1", false)] ∧
      ¬ Saving.update.AllOrNothing .default oneConfig (configFor "config-2") := by
  refine ⟨by simp [Alone, oneConfig, onePlan], ⟨by decide, by decide⟩, by decide, ?_⟩
  rintro (⟨row, hrow, heq⟩ | hstill)
  · have hids : ∀ b ∈ configs ((AIConfigService.update (configFor "config-2")).exec (server .default)
        oneConfig).state, b.id ≠ "config-2" := by decide
    exact hids row hrow (congrArg AIConfig.id heq)
  · have hnone : ∀ b ∈ configs ((AIConfigService.update (configFor "config-2")).exec (server .default)
        oneConfig).state, b.isActive = false := by decide
    obtain ⟨b, hb, -, hactive⟩ := hstill (configFor "config-1") (by decide) rfl
    rw [hnone b hb] at hactive
    cases hactive

end AeroxeBee.Admin
