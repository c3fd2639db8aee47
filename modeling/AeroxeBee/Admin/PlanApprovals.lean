import AeroxeBee.Admin.ChangeRequests
import AeroxeBee.Runs

/-!
# Plans that reviewers have approved

Plans are changed in two ways: an administrator sends the plan, and the handler checks it; or a user
sends it in a request that an administrator approves. The second way stores the plan of the payload
under the id of the payload, and checks nothing.

* `enforced_createPlan`, `enforced_updatePlan`: what is stored in the first way;
* `plans_of_approved`: what a successful approval makes of the plans;
* `changesReviewed_iff`: when that is what was reviewed, and a plan that the first way could store.
-/

namespace AeroxeBee.Admin

open Foundations Accounts

/-! ## What is checked of a plan -/

/-- The limits of a plan are in range. -/
structure InRange (plan : Plan) : Prop where
  devices : 1 ≤ plan.maxDevices
  templates : 1 ≤ plan.maxTemplates
  queue : 1 ≤ plan.maxQueueDepth
  overage : 0 ≤ plan.overageBufferPct ∧ plan.overageBufferPct ≤ 100

/-- What holds of the plans that the handler stores for administrators. A plan that is overwritten may
be left without a name. -/
structure Enforced (action : PlanAction) (plan : Plan) : Prop where
  valid : BillingHandler.planError plan = none
  inRange : InRange plan
  id : plan.id ≠ ""
  name : action = .create → plan.name ≠ ""

/-- The plans. -/
abbrev plans (w : World) : List Plan := w.db.registry.plans

/-- The plan of a body; a plan whose features are missing has none. -/
def described (body : PlanBody) : Plan := { body.plan with features := body.features.getD [] }

section Checks

variable {plan : Plan} {body : PlanBody}

/-- Bringing the limits into range brings them into range. -/
theorem inRange_clamp (plan : Plan) : InRange (BillingHandler.clamp plan) := by
  unfold BillingHandler.clamp
  constructor
  · dsimp only
    split_ifs with h <;> omega
  · dsimp only
    split_ifs with h <;> omega
  · dsimp only
    split_ifs with h <;> omega
  · dsimp only
    split_ifs with h
    · norm_num
    · rw [not_or, not_lt, not_lt] at h
      exact h

/-- The limits are not what the handler refuses a plan for. -/
theorem planError_clamp (plan : Plan) :
    BillingHandler.planError (BillingHandler.clamp plan) = BillingHandler.planError plan := rfl

/-- Nor are the features. -/
theorem planError_described (body : PlanBody) :
    BillingHandler.planError (described body) = BillingHandler.planError body.plan := rfl

/-- The defaults are values that the handler allows. -/
theorem planError_withDefaults (h : BillingHandler.planError body.plan = none) :
    BillingHandler.planError (BillingService.withDefaults body) = none := by
  unfold BillingHandler.planError at h ⊢
  unfold BillingService.withDefaults
  split_ifs at h with hvisibility hquota hprice hcta hstrategy
  rw [if_neg, if_neg hquota, if_neg hprice, if_neg, if_neg hstrategy]
  · dsimp only
    split_ifs
    · decide
    · exact hcta
  · dsimp only
    split_ifs
    · decide
    · exact not_not.2 hvisibility

end Checks

/-! ## The plans of administrators -/

section Direct

variable (cfg : Config) {w : World} (who : Principal) {id : String}

/-- A plan that is stored was checked. -/
theorem mem_storePlan (halone : Alone w) {body : PlanBody}
    {q : PlanBody → RegistryQuery Unit} {failed : String} {p : Plan}
    (hp : p ∈ plans ((BillingHandler.storePlan body (fun body => Prog.call (.db (.registry (q body))))
      failed).exec (server cfg) w).state) :
    p ∈ plans w ∨ BillingHandler.planError body.plan = none ∧
      p ∈ ((q { body with plan := BillingHandler.clamp body.plan }).run w.db.registry).2.plans := by
  unfold BillingHandler.storePlan at hp
  cases hvalid : BillingHandler.planError body.plan with
  | some text =>
    rw [hvalid] at hp
    exact .inl hp
  | none =>
    rw [hvalid] at hp
    let body' : PlanBody := { body with plan := BillingHandler.clamp body.plan }
    have hstate : p ∈ plans ((server cfg).step (.db (.registry (q body'))) w).2 := by
      revert hp
      simp only [Prog.call_bind, Prog.exec_act]
      cases ((server cfg).step (.db (.registry (q body'))) w).1 <;> exact id
    rcases halone.step_query cfg (.registry (q body')) with
      ⟨-, -, hdb⟩ | ⟨e, -, -, hdb⟩ | ⟨e, -, -, hdb⟩
    · rw [plans, hdb] at hstate
      exact .inr ⟨rfl, hstate⟩
    · rw [plans, hdb] at hstate
      exact .inl hstate
    · rw [plans, hdb] at hstate
      exact .inr ⟨rfl, hstate⟩

/-- **The plans that administrators create satisfy what the handler checks.** -/
theorem enforced_createPlan (halone : Alone w) (body : Option PlanBody) {p : Plan}
    (hp : p ∈ plans ((BillingHandler.createPlan who body).exec (server cfg) w).state) :
    p ∈ plans w ∨ Enforced .create p := by
  unfold BillingHandler.createPlan BillingHandler.guarded at hp
  split_ifs at hp
  · cases body with
    | none => exact .inl hp
    | some body =>
      dsimp only at hp
      split_ifs at hp with hmissing
      · exact .inl hp
      · rw [not_or] at hmissing
        rcases mem_storePlan cfg halone hp with hbefore | ⟨hvalid, hstored⟩
        · exact .inl hbefore
        · simp only [RegistryQuery.run, Registry.insertPlan] at hstored
          split_ifs at hstored
          · exact .inl hstored
          · rcases List.mem_append.1 hstored with hbefore | hnew
            · exact .inl hbefore
            · rw [List.mem_singleton.1 hnew]
              exact .inr ⟨planError_withDefaults hvalid,
                ⟨(inRange_clamp body.plan).devices, (inRange_clamp body.plan).templates,
                  (inRange_clamp body.plan).queue, (inRange_clamp body.plan).overage⟩,
                hmissing.1, fun _ => hmissing.2⟩
  · exact .inl hp

/-- **The plans that administrators overwrite satisfy what the handler checks.** -/
theorem enforced_updatePlan (halone : Alone w) (hid : id ≠ "") (body : Option PlanBody) {p : Plan}
    (hp : p ∈ plans ((BillingHandler.updatePlan who id body).exec (server cfg) w).state) :
    p ∈ plans w ∨ Enforced .update p := by
  unfold BillingHandler.updatePlan BillingHandler.guarded at hp
  split_ifs at hp
  · cases body with
    | none => exact .inl hp
    | some body =>
      rcases mem_storePlan cfg halone hp with hbefore | ⟨hvalid, hstored⟩
      · exact .inl hbefore
      · simp only [RegistryQuery.run, Registry.overwritePlan] at hstored
        cases hfeatures : body.features with
        | none =>
          simp only [hfeatures] at hstored
          split_ifs at hstored <;> exact .inl hstored
        | some features =>
          simp only [hfeatures, replaced] at hstored
          obtain ⟨row, hrow, rfl⟩ := List.mem_map.1 hstored
          split_ifs
          · exact .inr ⟨hvalid,
              ⟨(inRange_clamp body.plan).devices, (inRange_clamp body.plan).templates,
                (inRange_clamp body.plan).queue, (inRange_clamp body.plan).overage⟩,
              hid, fun hcreate => (by cases hcreate)⟩
          · exact .inl hrow
  · exact .inl hp

end Direct

/-! ## The plans of requests -/

section Updates

variable {rows : List Plan} {a b : String} {p q : Plan}

/-- To overwrite the rows of one id is to overwrite those of another one only if the rows of both are
what they would be overwritten with. -/
theorem updateWhere_eq_iff (h : a ≠ b) :
    updateWhere (·.id = a) (fun _ => p) rows = updateWhere (·.id = b) (fun _ => q) rows ↔
      (∀ r ∈ rows, r.id = a → r = p) ∧ ∀ r ∈ rows, r.id = b → r = q := by
  unfold updateWhere
  rw [List.map_inj_left]
  constructor
  · refine fun heq => ⟨fun r hr hid => ?_, fun r hr hid => ?_⟩
    · have hrow := heq r hr
      rw [if_pos (decide_eq_true hid), if_neg (by simp [hid, h])] at hrow
      exact hrow.symm
    · have hrow := heq r hr
      rwa [if_neg (by simp [hid, h.symm]), if_pos (decide_eq_true hid)] at hrow
  · rintro ⟨ha, hb⟩ r hr
    by_cases hra : r.id = a
    · rw [if_pos (decide_eq_true hra), if_neg (by simp [hra, h]), ha r hr hra]
    · by_cases hrb : r.id = b
      · rw [if_neg (by simp [hrb, h.symm]), if_pos (decide_eq_true hrb), hb r hr hrb]
      · rw [if_neg (by simp [hra]), if_neg (by simp [hrb])]

end Updates

/-- The plan that a request to overwrite one describes, under the id that the request names. -/
def reviewedPlan (req : PlanChangeRequest) (body : PlanBody) : Plan :=
  { described body with id := req.planID }

/-- The plans after the approval are those before with the new one, and it satisfies what the handler
checks. -/
def CreatesReviewed (before after : List Plan) : Prop :=
  ∃ p, after = before ++ [p] ∧ Enforced .create p

/-- The plans after the approval are those before, where the plan that the request names, if there is
one, is what the request describes and satisfies what the handler checks. -/
structure UpdatesReviewed (req : PlanChangeRequest) (body : PlanBody) (before after : List Plan) :
    Prop where
  exact : after = updateWhere (·.id = req.planID) (fun _ => reviewedPlan req body) before
  enforced : ∀ p ∈ after, p.id = req.planID → Enforced .update p

/-- The payload is about the plan that the request names, or what it asks for is there already; and
the plan, if there is one, is to become one that the handler would store. -/
structure UpdateSound (req : PlanChangeRequest) (body : PlanBody) (before : List Plan) : Prop where
  named : body.plan.id = req.planID ∨
    (∀ r ∈ before, r.id = body.plan.id → r = described body) ∧
      ∀ r ∈ before, r.id = req.planID → r = reviewedPlan req body
  enforced : (∃ r ∈ before, r.id = req.planID) → Enforced .update (reviewedPlan req body)

section Approvals

variable {cfg : Config} {w w' : World} {who : Principal} {id notes : String}
  {req : PlanChangeRequest} {fields : List (String × String)}

/-- A statement that ends a routine which succeeds was executed. -/
theorem registry_of_saved {q : RegistryQuery Unit} {k : Except String Unit → ServerProg (Except HttpError Unit)}
    (halone : Alone w) (h : Runs cfg (.act (.db (.registry q)) k) w (.ok ()) w')
    (herror : ∀ text, ∃ e, k (.error text) = .ret (.error e)) (hok : k (.ok ()) = .ret (.ok ())) :
    (q.run w.db.registry).1 = .ok () ∧ Alone w' ∧ w'.db.registry = (q.run w.db.registry).2 := by
  obtain ⟨b, w₁, hreply, hafter, hrest⟩ := Runs.query halone h herror
  rw [show b = () from rfl, hok] at hrest
  obtain ⟨-, rfl⟩ := Runs.ret_iff.1 hrest
  exact ⟨hreply, hafter.alone, by rw [hafter.db_eq]; rfl⟩

/-- What a request that is carried out makes of the plans. -/
theorem plans_of_applied (halone : Alone w)
    (h : Runs cfg (PlanChangeRequestHandler.apply req) w (.ok ()) w') :
    Alone w' ∧
      (req.action = .create → ∃ body, req.payload = some body ∧
        plans w' = plans w ++ [BillingService.withDefaults body]) ∧
      (req.action = .update → ∃ body, req.payload = some body ∧
        plans w' = updateWhere (·.id = body.plan.id) (fun _ => described body) (plans w)) := by
  unfold PlanChangeRequestHandler.apply at h
  cases haction : req.action with
  | create =>
    simp only [haction] at h
    cases hpayload : req.payload with
    | none =>
      simp only [hpayload] at h
      cases (Runs.ret_iff.1 h).1
    | some body =>
      simp only [hpayload] at h
      obtain ⟨hreply, halone', hregistry⟩ := registry_of_saved halone h (fun _ => ⟨_, rfl⟩) rfl
      refine ⟨halone', fun _ => ⟨body, rfl, ?_⟩, fun hupdate => (by cases hupdate)⟩
      simp only [plans, hregistry, RegistryQuery.run] at hreply ⊢
      unfold Registry.insertPlan at hreply ⊢
      split_ifs at hreply ⊢
      · cases hreply
      · rfl
  | update =>
    simp only [haction] at h
    cases hpayload : req.payload with
    | none =>
      simp only [hpayload] at h
      cases (Runs.ret_iff.1 h).1
    | some body =>
      simp only [hpayload] at h
      obtain ⟨hreply, halone', hregistry⟩ := registry_of_saved halone h (fun _ => ⟨_, rfl⟩) rfl
      refine ⟨halone', fun hcreate => (by cases hcreate), fun _ => ⟨body, rfl, ?_⟩⟩
      simp only [plans, hregistry, RegistryQuery.run] at hreply ⊢
      unfold Registry.overwritePlan at hreply ⊢
      unfold described
      cases hfeatures : body.features with
      | some features => rfl
      | none =>
        simp only [hfeatures] at hreply ⊢
        split_ifs at hreply ⊢ with hexists
        · cases hreply
        · -- no plan has the id of the payload
          refine ((List.map_congr_left fun r hr => if_neg fun hid => hexists ?_).trans
            (List.map_id _)).symm
          exact List.any_eq_true.2 ⟨r, hr, hid⟩
  | delete =>
    refine ⟨?_, fun hcreate => (by cases hcreate), fun hupdate => (by cases hupdate)⟩
    rw [← h.state]
    exact halone.exec _

/-- **What a successful approval makes of the plans.** -/
theorem plans_of_approved (halone : Alone w)
    (h : Runs cfg (PlanChangeRequestHandler.approve who id notes) w (.ok fields) w')
    (hreq : w.db.registry.planChangeRequests.find? (·.id = id) = some req) :
    (req.action = .create → ∃ body, req.payload = some body ∧
        plans w' = plans w ++ [BillingService.withDefaults body]) ∧
      (req.action = .update → ∃ body, req.payload = some body ∧
        plans w' = updateWhere (·.id = body.plan.id) (fun _ => described body) (plans w)) := by
  obtain ⟨found, w₁, hfound, hread, hrest⟩ := Runs.query halone h fun _ => ⟨_, rfl⟩
  have hsome : found = some req := (Except.ok.inj hfound).symm.trans hreq
  subst hsome
  obtain ⟨applied, w₂, happly, hreview⟩ :=
    Runs.bind (p := PlanChangeRequestHandler.apply req) hrest
  cases applied with
  | error e => cases (Runs.ret_iff.1 hreview).1
  | ok u =>
    obtain ⟨halone₂, hcreate, hupdate⟩ := plans_of_applied hread.alone happly
    obtain ⟨n, w₃, -, hmark, hend⟩ := Runs.query halone₂ hreview fun _ => ⟨_, rfl⟩
    have hw' : w' = w₃ := by
      cases n with
      | zero => cases (Runs.ret_iff.1 hend).1
      | succ n => exact (Runs.ret_iff.1 hend).2
    have hplans : plans w' = plans w₂ := by
      rw [hw', plans, hmark.db_eq]
      rfl
    have hbefore : plans w₁ = plans w := by
      rw [plans, hread.db_eq]
      rfl
    rw [hplans, ← hbefore]
    exact ⟨hcreate, hupdate⟩

/-- **A successful approval changes what was reviewed** exactly when, for a new plan, the plan that is
stored satisfies what the handler checks, and otherwise the payload is about the plan that the request
names (or what it asks for is there already) and makes of it, if it exists, a plan that the handler
would store. -/
theorem changesReviewed_iff (halone : Alone w)
    (hreq : w.db.registry.planChangeRequests.find? (·.id = id) = some req)
    (hok : Runs cfg (PlanChangeRequestHandler.approve who id notes) w (.ok fields) w') :
    (req.action = .create →
        (CreatesReviewed (plans w) (plans w') ↔
          ∃ body, req.payload = some body ∧ Enforced .create (BillingService.withDefaults body))) ∧
      (req.action = .update → ∃ body, req.payload = some body ∧
        (UpdatesReviewed req body (plans w) (plans w') ↔ UpdateSound req body (plans w))) := by
  obtain ⟨hcreate, hupdate⟩ := plans_of_approved halone hok hreq
  refine ⟨fun haction => ?_, fun haction => ?_⟩
  · obtain ⟨body, hpayload, hplans⟩ := hcreate haction
    unfold CreatesReviewed
    rw [hplans]
    constructor
    · rintro ⟨p, hp, henforced⟩
      obtain rfl := List.singleton_inj.1 (List.append_cancel_left hp)
      exact ⟨body, hpayload, henforced⟩
    · rintro ⟨body', hpayload', henforced⟩
      obtain rfl := Option.some.inj (hpayload.symm.trans hpayload')
      exact ⟨_, rfl, henforced⟩
  · obtain ⟨body, hpayload, hplans⟩ := hupdate haction
    refine ⟨body, hpayload, ?_⟩
    have hmem : ∀ p ∈ updateWhere (·.id = req.planID) (fun _ => reviewedPlan req body) (plans w),
        p.id = req.planID → p = reviewedPlan req body := by
      intro p hp hid
      obtain ⟨r, -, rfl⟩ := List.mem_map.1 hp
      split_ifs at hid ⊢ with hr
      · rfl
      · exact absurd (decide_eq_true hid) hr
    constructor
    · rintro ⟨hexact, henforced⟩
      refine ⟨?_, fun hexists => ?_⟩
      · by_cases hid : body.plan.id = req.planID
        · exact .inl hid
        · rw [hplans] at hexact
          exact .inr ((updateWhere_eq_iff hid).1 hexact)
      · obtain ⟨r, hr, hid⟩ := hexists
        refine henforced _ ?_ rfl
        rw [hexact]
        exact List.mem_map.2 ⟨r, hr, if_pos (decide_eq_true hid)⟩
    · rintro ⟨hnamed, henforced⟩
      have hexact : plans w' =
          updateWhere (·.id = req.planID) (fun _ => reviewedPlan req body) (plans w) := by
        rw [hplans]
        by_cases hid : body.plan.id = req.planID
        · rw [reviewedPlan, ← hid]
          rfl
        · exact (updateWhere_eq_iff hid).2 (hnamed.resolve_left hid)
      refine ⟨hexact, fun p hp hid => ?_⟩
      rw [hexact] at hp
      rw [hmem p hp hid]
      obtain ⟨r, hr, hrp⟩ := List.mem_map.1 hp
      refine henforced ⟨r, hr, ?_⟩
      split_ifs at hrp with hr'
      · exact of_decide_eq_true hr'
      · rw [hrp, hid]

end Approvals

/-! ## A payload about another plan -/

/-- The request of a user to overwrite a plan. -/
def overwriting (planID : String) (payload : Plan) : PlanChangeRequest :=
  ⟨"request-1", "user-1", .update, planID, some ⟨payload, some []⟩, "pending", none, "", ""⟩

/-- A server with two plans and the request. -/
def twoPlans (payload : Plan) : World :=
  { onePlan "pending" with
    db := ⟨[], [], [], [], [], [], [], [], [], [],
      { Registry.empty with
        plans := [basicPlan, { basicPlan with id := "scale" }]
        planChangeRequests := [overwriting "basic" payload] }⟩ }

/-- An administrator approves the request. -/
def approvedTwoPlans (payload : Plan) : World :=
  ((PlanChangeRequestHandler.approve ⟨"admin-1", true⟩ "request-1" "").exec (server .default)
    (twoPlans payload)).state

/-- The plan that the request names gets another quota. -/
theorem approved_quota :
    UpdatesReviewed (overwriting "basic" { basicPlan with dailyQuota := 60 })
      ⟨{ basicPlan with dailyQuota := 60 }, some []⟩ (plans (twoPlans { basicPlan with dailyQuota := 60 }))
      (plans (approvedTwoPlans { basicPlan with dailyQuota := 60 })) := by
  have halone : Alone (twoPlans { basicPlan with dailyQuota := 60 }) := by
    simp [Alone, twoPlans, onePlan]
  have hok : Runs .default (PlanChangeRequestHandler.approve ⟨"admin-1", true⟩ "request-1" "")
      (twoPlans { basicPlan with dailyQuota := 60 }) (.ok [("status", "approved")])
      (approvedTwoPlans { basicPlan with dailyQuota := 60 }) := ⟨by decide, rfl⟩
  obtain ⟨body, hbody, hiff⟩ := (changesReviewed_iff halone rfl hok).2 rfl
  obtain rfl := Option.some.inj hbody
  exact hiff.2 ⟨.inl rfl, fun _ => ⟨by decide, ⟨by decide, by decide, by decide, by decide⟩,
    by decide, nofun⟩⟩

/-- A request that names one plan and whose payload is about another one is approved: the other plan is
overwritten, with a quota that the handler would refuse. -/
theorem approved_other :
    let payload : Plan := { basicPlan with id := "scale", dailyQuota := -1 }
    Alone (twoPlans payload) ∧ (overwriting "basic" payload).status = "pending" ∧
      (twoPlans payload).db.registry.planChangeRequests.find? (·.id = "request-1") =
        some (overwriting "basic" payload) ∧
      Runs .default (PlanChangeRequestHandler.approve ⟨"admin-1", true⟩ "request-1" "")
        (twoPlans payload) (.ok [("status", "approved")]) (approvedTwoPlans payload) ∧
      (plans (approvedTwoPlans payload)).map (fun p => (p.id, p.dailyQuota)) =
        [("basic", 50), ("scale", -1)] ∧
      BillingHandler.planError payload = some "daily_quota and monthly_quota must be non-negative" ∧
      ¬ UpdatesReviewed (overwriting "basic" payload) ⟨payload, some []⟩ (plans (twoPlans payload))
        (plans (approvedTwoPlans payload)) := by
  refine ⟨by simp [Alone, twoPlans, onePlan], rfl, rfl, ⟨by decide, rfl⟩, by decide, by decide,
    fun h => ?_⟩
  have hquotas := congrArg (List.map Plan.dailyQuota) h.exact
  revert hquotas
  decide

end AeroxeBee.Admin
