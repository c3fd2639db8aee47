import AeroxeBee.Admin.Templates

/-!
# The limit on templates

A plan allows an account so many templates. The route of the owners counts the templates and stores
the new one if there is room, in two statements; the route of the members does not count.

* `withinLimit_step_iff`: a step keeps an account within its limit exactly if the template that it
  stores finds room;
* `withinLimit_iff`: so a run does exactly if every template that it stores finds room;
* `create_withinLimit`: a request to the route of the owners that runs alone keeps the account
  within its limit.
-/

namespace AeroxeBee.Admin

open Foundations Accounts

/-! ## Room for templates -/

/-- How many templates an account may have. -/
def maxTemplates (db : Database) (accountID : String) : ℤ :=
  match db.subscriptions.find? (·.accountID = accountID) with
  | none => 10
  | some sub => sub.maxTemplates

/-- How many templates an account has. -/
def templatesOf (db : Database) (accountID : String) : ℕ :=
  db.registry.templates.countP (·.accountID = accountID)

/-- **The limit.** -/
def WithinLimit (accountID : String) (db : Database) : Prop :=
  (templatesOf db accountID : ℤ) ≤ maxTemplates db accountID

instance (accountID : String) (db : Database) : Decidable (WithinLimit accountID db) :=
  inferInstanceAs (Decidable (_ ≤ _))

/-- Whether a statement stores a template of an account. -/
def addsTo (accountID : String) : {β : Type} → ServerCmd β → Database → Bool
  | _, .db (.registry (.createTemplate tpl)), db =>
    tpl.accountID = accountID && (db.registry.insertTemplate tpl).isOk
  | _, _, _ => false

/-- A template that is stored finds room. -/
def FindsRoom (accountID : String) {β : Type} (e : ServerCmd β) (w : World) : Prop :=
  w.next.fault.isRefused = false → addsTo accountID e w.tick.db = true →
    (templatesOf w.tick.db accountID : ℤ) < maxTemplates w.tick.db accountID

instance (accountID : String) {β : Type} (e : ServerCmd β) (w : World) :
    Decidable (FindsRoom accountID e w) :=
  inferInstanceAs (Decidable (_ → _ → _ < _))

/-! ## One step -/

section Step

variable (cfg : Config) (accountID : String) {w : World} {β : Type} {e : ServerCmd β}

/-- A change of rows that leaves them with their accounts. -/
theorem countP_updateWhere {p : Template → Bool} {f : Template → Template}
    (hf : ∀ t, (f t).accountID = t.accountID) (rows : List Template) :
    (updateWhere p f rows).countP (·.accountID = accountID) =
      rows.countP (·.accountID = accountID) := by
  have hkeep : ((fun t : Template => decide (t.accountID = accountID)) ∘
      fun t => if p t then f t else t) = fun t => decide (t.accountID = accountID) := by
    funext t
    rw [Function.comp_apply]
    split_ifs
    · rw [hf]
    · rfl
  rw [updateWhere, List.countP_map, hkeep]

/-- A new row counts for its account, if it is stored. -/
theorem countP_insertTemplate (r : Registry) (tpl : Template) :
    (replaced r.templates (r.insertTemplate tpl)).2.countP (·.accountID = accountID) =
      r.templates.countP (·.accountID = accountID) +
        if tpl.accountID = accountID && (r.insertTemplate tpl).isOk then 1 else 0 := by
  unfold Registry.insertTemplate
  split_ifs <;> simp_all [replaced, Except.isOk, Except.toBool]

/-- What a statement does to the number of templates: one that stores a template makes it one more,
every other one leaves it or lowers it. The limit stays. -/
theorem templatesOf_run {q : Query β} (he : Templating (.db q)) (db : Database) :
    maxTemplates (q.run db).2 accountID = maxTemplates db accountID ∧
      if addsTo accountID (.db q) db = true then
        templatesOf (q.run db).2 accountID = templatesOf db accountID + 1
      else templatesOf (q.run db).2 accountID ≤ templatesOf db accountID := by
  cases q with
  | subscription => exact ⟨rfl, le_refl (templatesOf db accountID)⟩
  | deleteTemplates ids => exact ⟨rfl, List.filter_sublist.countP_le⟩
  | registry q =>
    refine ⟨rfl, ?_⟩
    cases q with
    | templateByID | countTemplates => exact le_refl (templatesOf db accountID)
    | createTemplate tpl =>
      have hcount := countP_insertTemplate accountID db.registry tpl
      split_ifs with hadds
      · exact hcount.trans (congrArg _ (if_pos hadds))
      · exact (hcount.trans (congrArg _ (if_neg hadds))).le
    | updateTemplate tpl => exact (countP_updateWhere accountID (by intro _; rfl) _).le
    | approveTemplate | rejectTemplate | bulkApproveTemplates | bulkRejectTemplates =>
      exact (countP_updateWhere accountID (by intro _; rfl) _).le
    | _ => exact he.elim
  | _ => exact he.elim

variable {accountID} in
/-- **A step keeps an account within its limit** exactly if the template that it stores finds
room. -/
theorem withinLimit_step_iff (he : Templating e) (h : WithinLimit accountID w.tick.db) :
    WithinLimit accountID ((server cfg).step e w).2.db ↔ FindsRoom accountID e w := by
  have hstill (hdb : ((server cfg).step e w).2.db = w.tick.db)
      (hnone : w.next.fault.isRefused = true ∨ ∀ db, addsTo accountID e db = false) :
      WithinLimit accountID ((server cfg).step e w).2.db ↔ FindsRoom accountID e w := by
    rw [hdb]
    refine iff_of_true h fun hexecuted hadds => ?_
    rcases hnone with hrefused | hnone
    · cases hexecuted.symm.trans hrefused
    · cases (hnone _).symm.trans hadds
  cases e with
  | db q =>
    cases hrefused : w.next.fault.isRefused with
    | true => exact hstill (by rw [step_statement, hrefused, if_pos rfl]) (.inl hrefused)
    | false =>
      obtain ⟨hlimit, hcount⟩ := templatesOf_run accountID he w.tick.db
      rw [step_statement, hrefused, if_neg Bool.false_ne_true]
      unfold WithinLimit FindsRoom at *
      rw [hlimit]
      split_ifs at hcount with hadds
      · simp only [hrefused, hadds, forall_true_left]
        omega
      · exact iff_of_true (by omega) fun _ hstores => absurd hstores hadds
  | now | uuid => exact hstill rfl (.inr fun _ => rfl)
  | _ => exact he.elim

end Step

/-! ## Any requests -/

/-- Nothing else that runs on the server touches the templates of an account or its subscription. -/
def SparedLimit (accountID : String) (w : World) : Prop :=
  ∀ t ∈ w.env, ∀ s : Shared, templatesOf (t.others s).db accountID = templatesOf s.db accountID ∧
    maxTemplates (t.others s).db accountID = maxTemplates s.db accountID

namespace SparedLimit

variable {accountID : String} {w : World}

theorem tick (h : SparedLimit accountID w) :
    templatesOf w.tick.db accountID = templatesOf w.db accountID ∧
      maxTemplates w.tick.db accountID = maxTemplates w.db accountID := by
  unfold World.tick World.next
  cases henv : w.env with
  | nil => exact ⟨rfl, rfl⟩
  | cons t ts => exact h t (henv ▸ List.mem_cons_self) w.toShared

theorem within (h : SparedLimit accountID w) :
    WithinLimit accountID w.tick.db ↔ WithinLimit accountID w.db := by
  rw [WithinLimit, h.tick.1, h.tick.2, WithinLimit]

theorem step (cfg : Config) {β : Type} (h : SparedLimit accountID w) (e : ServerCmd β) :
    SparedLimit accountID ((server cfg).step e w).2 := by
  intro t ht
  rw [step_env] at ht
  exact h t (List.mem_of_mem_tail ht)

end SparedLimit

/-- **An account stays within its limit all along a run** exactly if every template that the run
stores finds room. -/
theorem withinLimit_iff (cfg : Config) (accountID : String) (calls : List TemplateCall) (w : World)
    (sched : List ℕ) (hspared : SparedLimit accountID w) (h : WithinLimit accountID w.db) :
    (∀ past rest, sched = past ++ rest →
        WithinLimit accountID ((templating calls w).run (server cfg) past).state.db) ↔
      Pool.EachStep (server cfg) (Pool.Meets fun P _ {_} e => FindsRoom accountID e P.state)
        (templating calls w) sched := by
  rw [← Pool.eachNoted_iff (fun _ {_} _ _ => id) _ ()]
  refine Pool.forall_past_iff_of_only (A := Templating) (J := SparedLimit accountID)
    (I := fun v _ => WithinLimit accountID v.db) (fun p hp => ?_)
    (fun e v _ hv => hv.step cfg e) (fun e v _ i he hv hwithin => ?_) hspared h sched
  · obtain ⟨c, -, rfl⟩ := List.mem_map.1 hp
    exact handle_only c
  · exact withinLimit_step_iff cfg he (hv.within.2 hwithin)

/-! ## Room for one template -/

/-- A subscription that allows one template. -/
def allowsOne : Subscription where
  id := "subscription-1"
  accountID := "account-1"
  planType := "starter"
  billingCycle := "monthly"
  status := "active"
  quotaDaily := 100
  quotaMonthly := 3000
  overageBufferPct := 10
  maxQueueDepth := 1000
  maxTemplates := 1
  dedicatedPool := false
  defaultRoutingStrategy := .highestReliability

/-- A server with an account that has room for one template. -/
def roomForOne : World :=
  let draws (id : UUID) : Tick := { Tick.quiet with uuid := id }
  { oneTemplate with
    db :=
      { oneTemplate.db with
        subscriptions := [allowsOne]
        registry :=
          { Registry.empty with
            accounts :=
              [⟨"account-1", "Ann", "ann@example.com", "", "starter", 30, true, .active, 0⟩] } }
    env := List.replicate 3 (draws ⟨"00000000-0000-4000-8000-000000000001", secondID_ne_empty⟩) ++
      List.replicate 2 (draws ⟨"00000000-0000-4000-8000-000000000002", by decide⟩) }

theorem sparedLimit_roomForOne : SparedLimit "account-1" roomForOne := by
  intro t ht s
  rcases List.mem_append.1 ht with ht | ht
  · obtain rfl := List.eq_of_mem_replicate ht
    exact ⟨rfl, rfl⟩
  · obtain rfl := List.eq_of_mem_replicate ht
    exact ⟨rfl, rfl⟩

/-- Two templates for the account. -/
def twoCreations (route : Principal → Option TemplateBody → TemplateCall) : List TemplateCall :=
  [route ⟨"account-1", false⟩ (some ⟨"welcome", "Hello", []⟩),
    route ⟨"account-1", false⟩ (some ⟨"goodbye", "Bye", []⟩)]

/-- One request after the other: the second one finds the account full. -/
theorem withinLimit_inTurn :
    Pool.EachStep (server .default) (Pool.Meets fun P _ {_} e => FindsRoom "account-1" e P.state)
        (templating (twoCreations .create) roomForOne) [0, 0, 0, 0, 0, 1, 1] ∧
      ∀ past rest, [0, 0, 0, 0, 0, 1, 1] = past ++ rest → WithinLimit "account-1"
        ((templating (twoCreations .create) roomForOne).run (server .default) past).state.db :=
  have hroom : Pool.EachStep (server .default)
      (Pool.Meets fun P _ {_} e => FindsRoom "account-1" e P.state)
      (templating (twoCreations .create) roomForOne) [0, 0, 0, 0, 0, 1, 1] := by
    decide
  ⟨hroom, (withinLimit_iff .default "account-1" _ roomForOne [0, 0, 0, 0, 0, 1, 1]
    sparedLimit_roomForOne (by decide)).2 hroom⟩

/-- Both requests count before either has stored its template; and the route of the members stores
both templates without a count. -/
theorem limit_exceeded :
    (¬ ∀ past rest, [0, 0, 1, 1, 0, 0, 0, 1, 1, 1] = past ++ rest → WithinLimit "account-1"
      ((templating (twoCreations .create) roomForOne).run (server .default) past).state.db) ∧
    ¬ ∀ past rest, [0, 0, 0, 1, 1, 1] = past ++ rest → WithinLimit "account-1"
      ((templating (twoCreations .memberCreate) roomForOne).run (server .default) past).state.db :=
  ⟨fun hall => absurd (hall [0, 0, 1, 1, 0, 0, 0, 1, 1, 1] [] rfl) (by decide),
    fun hall => absurd (hall [0, 0, 0, 1, 1, 1] [] rfl) (by decide)⟩

/-! ## Requests one after the other -/

/-- What an account may have and has, while nothing stores a template. -/
structure Counted (accountID : String) (n : ℕ) (m : ℤ) (w : World) : Prop where
  spared : SparedLimit accountID w
  templates : templatesOf w.db accountID = n
  limit : maxTemplates w.db accountID = m

section Serial

variable {cfg : Config} {accountID : String} {n : ℕ} {m : ℤ} {w : World}

theorem Counted.step (h : Counted accountID n m w) {β : Type} {e : ServerCmd β}
    (hdb : ((server cfg).step e w).2.db = w.tick.db) :
    Counted accountID n m ((server cfg).step e w).2 where
  spared := h.spared.step cfg e
  templates := by rw [hdb, h.spared.tick.1, h.templates]
  limit := by rw [hdb, h.spared.tick.2, h.limit]

theorem Counted.within (h : Counted accountID n m w) (hle : (n : ℤ) ≤ m) :
    SparedLimit accountID w ∧ WithinLimit accountID w.db :=
  ⟨h.spared, by rwa [WithinLimit, h.templates, h.limit]⟩

/-- What the limit is found to be. -/
theorem getMaxTemplates_counted (cfg : Config) (h : Counted accountID n m w) :
    let o := (TemplateHandler.getMaxTemplates accountID).exec (server cfg) w
    Counted accountID n m o.state ∧ ∀ x, o.val = .ok x → x = m := by
  have hstep : Counted accountID n m ((server cfg).step (.db (.subscription accountID)) w).2 :=
    h.step (by rw [step_statement]; split_ifs <;> rfl)
  rw [TemplateHandler.getMaxTemplates, Prog.call_bind, Prog.exec_act]
  cases hr : ((server cfg).step (.db (.subscription accountID)) w).1 with
  | error e => exact ⟨hstep, nofun⟩
  | ok sub =>
    have hsub : w.tick.db.subscriptions.find? (·.accountID = accountID) = sub :=
      Except.ok.inj (Prod.mk.inj (run_of_ok hr)).1
    have hlimit : maxTemplates w.tick.db accountID = m := h.spared.tick.2.trans h.limit
    rw [maxTemplates, hsub] at hlimit
    cases sub with
    | none =>
      refine ⟨hstep, fun x hx => ?_⟩
      exact (Except.ok.inj hx).symm.trans hlimit
    | some sub =>
      refine ⟨hstep, fun x hx => ?_⟩
      exact (Except.ok.inj hx).symm.trans hlimit

/-- A template that is stored while there is room. -/
theorem store_withinLimit (h : Counted accountID n m w) (hroom : (n : ℤ) < m) (req : TemplateBody) :
    let v := ((TemplateHandler.store accountID req).exec (server cfg) w).state
    SparedLimit accountID v ∧ WithinLimit accountID v.db := by
  have hid : Counted accountID n m ((server cfg).step .uuid w).2 := h.step rfl
  have hnow : Counted accountID n m
      ((server cfg).step .now ((server cfg).step .uuid w).2).2 := hid.step rfl
  rw [TemplateHandler.store, Prog.call_bind, Prog.exec_act, Prog.call_bind, Prog.exec_act]
  dsimp only
  generalize ((server cfg).step .now ((server cfg).step .uuid w).2).2 = u at hnow ⊢
  rw [execute, Prog.call_bind, Prog.exec_act]
  generalize hq : (.db (.registry (.createTemplate _)) : ServerCmd (Except String Unit)) = e
  have hfinds : FindsRoom accountID e u := by
    intro _ _
    rwa [hnow.spared.tick.1, hnow.spared.tick.2, hnow.templates, hnow.limit]
  have hwithin : WithinLimit accountID u.db := (hnow.within hroom.le).2
  have hstored := (withinLimit_step_iff cfg (hq ▸ rfl) (hnow.spared.within.2 hwithin)).2 hfinds
  cases ((server cfg).step e u).1 with
  | error text => exact ⟨hnow.spared.step cfg e, hstored⟩
  | ok _ => exact ⟨hnow.spared.step cfg e, hstored⟩

/-- **A request to the route of the owners that runs alone** keeps the account within its limit. -/
theorem create_withinLimit (cfg : Config) (who : Principal) (body : Option TemplateBody) {w : World}
    (hspared : SparedLimit who.accountID w) (h : WithinLimit who.accountID w.db) :
    let v := ((TemplateHandler.create who body).exec (server cfg) w).state
    SparedLimit who.accountID v ∧ WithinLimit who.accountID v.db := by
  cases body with
  | none => exact ⟨hspared, h⟩
  | some req =>
    obtain ⟨hlimit, hmax⟩ := getMaxTemplates_counted cfg
      (⟨hspared, rfl, rfl⟩ : Counted who.accountID _ _ w)
    rw [TemplateHandler.create, Prog.exec_bind]
    generalize (TemplateHandler.getMaxTemplates who.accountID).exec (server cfg) w = o at *
    obtain ⟨r, u, evs⟩ := o
    cases r with
    | error e => exact hlimit.within h
    | ok limit =>
      obtain rfl := hmax limit rfl
      dsimp only at hlimit ⊢
      have hcount : Counted who.accountID (templatesOf w.db who.accountID)
          (maxTemplates w.db who.accountID)
          ((server cfg).step (.db (.registry (.countTemplates who.accountID))) u).2 :=
        hlimit.step (by rw [step_statement]; split_ifs <;> rfl)
      rw [Prog.call_bind, Prog.exec_act]
      cases hr : ((server cfg).step (.db (.registry (.countTemplates who.accountID))) u).1 with
      | error e => exact hcount.within h
      | ok count =>
        have hn : count = templatesOf w.db who.accountID := by
          have hrun := Except.ok.inj (Prod.mk.inj (run_of_ok hr)).1
          exact (hrun.symm.trans hlimit.spared.tick.1).trans hlimit.templates
        dsimp only
        split_ifs with hfull
        · exact hcount.within h
        · exact store_withinLimit hcount (by omega) req

end Serial

end AeroxeBee.Admin
