import AeroxeBee.Api.Messages
import AeroxeBee.Dispatch.Acknowledged
import AeroxeBee.Foundations.Middleware
import Mathlib.Data.Rat.Floor

/-!
# Plans

The middlewares in front of the endpoints: the account must be in use, its subscription must be
running, and the messages of the day must not be used up. The second one leaves the subscription
in the context of the request, where the third one finds it. A middleware whose query fails lets
the request pass.

* `planChain_spec`: the three middlewares, one behind the other, hand on exactly the requests that
  the tables allow;
* `enforceQuota_spec`: it makes no difference where the subscription was found.
-/

namespace AeroxeBee.Api

open Foundations Middleware Dispatch

/-! ## The middlewares -/

/-- The context of a request: the account it is made for, and the subscription of the account if
that has been looked up. -/
structure Context where
  accountID : String
  subscription : Option Subscription

/-- A middleware of the server. -/
abbrev PlanMiddleware := Middleware ServerCmd Context Response

/-- The account must be in use. -/
def requireActiveAccount : PlanMiddleware := fun next ctx => do
  if ctx.accountID = "" then next ctx
  else
    match ← Prog.call (.db (.registry (.accountByID ctx.accountID))) with
    | .error _ => next ctx
    | .ok none => return .error 403 "account not found"
    | .ok (some account) =>
      if account.status.name = "suspended" then return .error 403 "account suspended"
      else if account.status.name = "disabled" then return .error 403 "account disabled"
      else next ctx

/-- The subscription of the account, if it has one, must be running. It is left in the context. -/
def requireActiveSubscription : PlanMiddleware := fun next ctx => do
  if ctx.accountID = "" then next ctx
  else
    match ← Prog.call (.db (.subscription ctx.accountID)) with
    | .error _ => next ctx
    | .ok none => next ctx
    | .ok (some sub) =>
      if sub.status = "canceled" then return .error 403 "subscription canceled"
      else if sub.status = "past_due" then return .error 403 "subscription past due"
      else next { ctx with subscription := some sub }

/-- How many messages a day a subscription allows, the buffer included. -/
def withBuffer (sub : Subscription) : ℤ :=
  truncate (sub.quotaDaily * (1 + sub.overageBufferPct / 100))

/-- Whether an account may send another message today, given its subscription if that has been
looked up. -/
def checkQuotaWithSub (accountID : String) (sub : Option Subscription) :
    ServerProg (Except String Bool) := do
  let now ← Prog.call .now
  match ← Prog.call (.db (.usageCounter accountID (now / 86400000000000))) with
  | .error e => return .error e
  | .ok none => return .ok true
  | .ok (some usage) =>
    match sub with
    | some sub => return .ok (decide (usage.count < withBuffer sub))
    | none =>
      match ← Prog.call (.db (.subscription accountID)) with
      | .error _ => return .ok true
      | .ok none => return .ok true
      | .ok (some sub) => return .ok (decide (usage.count < withBuffer sub))

/-- The messages of the day must not be used up. -/
def enforceQuota : PlanMiddleware := fun next ctx => do
  if ctx.accountID = "" then next ctx
  else
    match ← checkQuotaWithSub ctx.accountID ctx.subscription with
    | .error _ => next ctx
    | .ok false => return .error 429 "daily message quota exceeded"
    | .ok true => next ctx

/-- The middleware of the member portal. -/
def memberPlanCheck : PlanMiddleware := fun next =>
  requireActiveAccount (requireActiveSubscription next)

/-- The middleware of the endpoints for messages. -/
def apiKeyPlanChain : PlanMiddleware := fun next => requireActiveAccount (enforceQuota next)

/-- All three middlewares. -/
def planChain : PlanMiddleware := fun next =>
  requireActiveAccount (requireActiveSubscription (enforceQuota next))

/-! ## What the tables say -/

/-- The account with a given id. -/
def account? (db : Database) (id : String) : Option Account :=
  db.registry.accounts.find? (·.id = id)

/-- The subscription of an account. -/
def subscription? (db : Database) (accountID : String) : Option Subscription :=
  db.subscriptions.find? (·.accountID = accountID)

/-- The counter of an account for one day. -/
def usage? (db : Database) (accountID : String) (date : ℤ) : Option UsageCounter :=
  db.usageCounters.find? fun u => u.accountID = accountID && u.date = date

/-- The account exists and is in use. -/
def InUse (account : Option Account) : Prop :=
  ∃ a, account = some a ∧ a.status.name ≠ "suspended" ∧ a.status.name ≠ "disabled"

/-- There is no subscription, or it is running. -/
def Running (sub : Option Subscription) : Prop :=
  ∀ s, sub = some s → s.status ≠ "canceled" ∧ s.status ≠ "past_due"

/-- Nothing was counted, or there is no subscription, or there is something left of it. -/
def WithinQuota (usage : Option UsageCounter) (sub : Option Subscription) : Prop :=
  ∀ u s, usage = some u → sub = some s →
    u.count < ⌊(s.quotaDaily : ℚ) * (1 + s.overageBufferPct / 100)⌋

/-- **Which requests are handed on**, according to the tables. -/
def Admitted (db : Database) (accountID : String) (today : ℤ) : Prop :=
  accountID = "" ∨
    InUse (account? db accountID) ∧ Running (subscription? db accountID) ∧
      WithinQuota (usage? db accountID today) (subscription? db accountID)

/-- Counters count something. -/
def CountsUp (db : Database) : Prop := ∀ u ∈ db.usageCounters, 0 < u.count

/-- What the server does to the counters keeps them so: counters are only ever counted up, from
one on. -/
theorem CountsUp.run {db : Database} (h : CountsUp db) {β : Type} (q : Query β) :
    CountsUp (q.run db).2 := by
  cases q with
  | createMessage msg =>
    simp only [Query.run, Database.insertMessage]
    split_ifs <;> exact h
  | incrementUsage accountID date =>
    intro u hu
    simp only [Query.run, Database.countUsage] at hu
    split_ifs at hu with hany
    · obtain ⟨u', hu', rfl⟩ := List.mem_map.1 hu
      have hpos := h u' hu'
      split_ifs
      · exact add_pos hpos zero_lt_one
      · exact hpos
    · rcases List.mem_append.1 hu with hu | hu
      · exact h u hu
      · rw [List.mem_singleton.1 hu]
        exact zero_lt_one
  | deleteAccount id =>
    intro u hu
    simp only [Query.run] at hu
    split_ifs at hu
    · exact h u (List.mem_of_mem_filter hu)
    · exact h u hu
  | _ => exact h

/-- Truncating a number and rounding it down makes no difference to a count. -/
theorem lt_truncate_iff {count : ℤ} (h : 0 ≤ count) (q : ℚ) : count < truncate q ↔ count < ⌊q⌋ := by
  unfold truncate
  rw [Rat.floor_def']
  rcases le_or_gt 0 q.num with hnum | hnum
  · rw [Int.tdiv_eq_ediv_of_nonneg hnum]
  · have hden : (0 : ℤ) < q.den := by exact_mod_cast q.den_pos
    have hfloor : q.num / q.den < 0 := Int.ediv_neg_of_neg_of_pos hnum hden
    have htrunc : 0 ≤ (-q.num).tdiv q.den := Int.tdiv_nonneg (by omega) hden.le
    rw [Int.neg_tdiv] at htrunc
    omega

/-! ## What the middlewares decide -/

section Decisions

variable {cfg : Config} {w : World} {n : ℕ}

variable (cfg) in
/-- The row of the account decides whether the request is handed on. -/
theorem requireActiveAccount_decides (h : CalmFor (n + 1) w) (ctx : Context)
    (hid : ctx.accountID ≠ "") :
    Decides (server cfg) (fun next => requireActiveAccount next ctx) w
      (InUse (account? w.db ctx.accountID)) ctx
      ((server cfg).step (.db (.registry (.accountByID ctx.accountID))) w).2 := by
  have hval : ((server cfg).step (.db (.registry (.accountByID ctx.accountID))) w).1 =
      .ok (account? w.db ctx.accountID) :=
    (h.step_query cfg (.registry (.accountByID ctx.accountID))).1
  unfold requireActiveAccount
  simp only [if_neg hid]
  refine Decides.bind ?_
  rw [Prog.exec_call, hval]
  cases account? w.db ctx.accountID with
  | none => exact decides_answer (by simp [InUse]) _
  | some account =>
    dsimp only
    split_ifs with hsuspended hdisabled
    · exact decides_answer (by simp [InUse, hsuspended]) _
    · exact decides_answer (by simp [InUse, hdisabled]) _
    · exact decides_next ⟨account, rfl, hsuspended, hdisabled⟩

variable (cfg) in
/-- The row of the subscription decides whether the request is handed on, and goes with it. -/
theorem requireActiveSubscription_decides (h : CalmFor (n + 1) w) {accountID : String}
    (hid : accountID ≠ "") :
    Decides (server cfg) (fun next => requireActiveSubscription next ⟨accountID, none⟩) w
      (Running (subscription? w.db accountID)) ⟨accountID, subscription? w.db accountID⟩
      ((server cfg).step (.db (.subscription accountID)) w).2 := by
  have hval : ((server cfg).step (.db (.subscription accountID)) w).1 =
      .ok (subscription? w.db accountID) :=
    (h.step_query cfg (.subscription accountID)).1
  unfold requireActiveSubscription
  simp only [if_neg hid]
  refine Decides.bind ?_
  rw [Prog.exec_call, hval]
  cases subscription? w.db accountID with
  | none => exact decides_next (by simp [Running])
  | some sub =>
    dsimp only
    split_ifs with hcanceled hpastDue
    · exact decides_answer (by simp [Running, hcanceled]) _
    · exact decides_answer (by simp [Running, hpastDue]) _
    · exact decides_next (by rintro _ ⟨⟩; exact ⟨hcanceled, hpastDue⟩)

theorem lt_withBuffer_iff {usage : UsageCounter} (h : 0 ≤ usage.count) (sub : Subscription) :
    usage.count < withBuffer sub ↔ WithinQuota (some usage) (some sub) := by
  rw [withBuffer, lt_truncate_iff h]
  constructor
  · rintro hlt _ _ ⟨⟩ ⟨⟩
    exact hlt
  · intro hwithin
    exact hwithin usage sub rfl rfl

variable (cfg) in
/-- **The quota is decided by the tables**, wherever the subscription was found. -/
theorem checkQuotaWithSub_val (h : CalmFor 3 w) (hcounts : CountsUp w.db) {accountID : String}
    {sub : Option Subscription} (hsub : ∀ s, sub = some s → subscription? w.db accountID = some s) :
    ∃ within : Bool,
      ((checkQuotaWithSub accountID sub).exec (server cfg) w).val = .ok within ∧
        (within = true ↔ WithinQuota (usage? w.db accountID (w.clockAt 0 / 86400000000000))
          (subscription? w.db accountID)) := by
  have hnow := step_now_val cfg w
  have h₁ : CalmFor 2 ((server cfg).step .now w).2 := h.step .now
  have hdb₁ : ((server cfg).step .now w).2.db = w.db := h.step_now_db cfg
  unfold checkQuotaWithSub
  rw [Prog.call_bind, Prog.exec_act, hnow]
  generalize ((server cfg).step .now w).2 = w₁ at h₁ hdb₁
  generalize w.clockAt 0 / 86400000000000 = today
  obtain ⟨husage, hdb₂⟩ := h₁.step_query cfg (.usageCounter accountID today)
  have h₂ : CalmFor 1 ((server cfg).step (.db (.usageCounter accountID today)) w₁).2 := h₁.step _
  have hfound : (Query.run w₁.db (.usageCounter accountID today)).1 =
      .ok (usage? w.db accountID today) := by
    rw [hdb₁]
    rfl
  have hdb₂ : ((server cfg).step (.db (.usageCounter accountID today)) w₁).2.db = w.db :=
    hdb₂.trans hdb₁
  rw [Prog.call_bind, Prog.exec_act, husage, hfound]
  generalize ((server cfg).step (.db (.usageCounter accountID today)) w₁).2 = w₂ at h₂ hdb₂
  cases hu : usage? w.db accountID today with
  | none => exact ⟨true, rfl, by simp [WithinQuota]⟩
  | some usage =>
    have hcount : 0 ≤ usage.count := (hcounts usage (List.mem_of_find?_eq_some hu)).le
    cases sub with
    | some sub =>
      refine ⟨decide (usage.count < withBuffer sub), rfl, ?_⟩
      rw [hsub sub rfl, decide_eq_true_iff, lt_withBuffer_iff hcount]
    | none =>
      have hfetch : ((server cfg).step (.db (.subscription accountID)) w₂).1 =
          .ok (subscription? w.db accountID) := by
        rw [(h₂.step_query cfg (.subscription accountID)).1, hdb₂]
        rfl
      dsimp only
      rw [Prog.call_bind, Prog.exec_act, hfetch]
      cases subscription? w.db accountID with
      | none => exact ⟨true, rfl, by simp [WithinQuota]⟩
      | some sub =>
        refine ⟨decide (usage.count < withBuffer sub), rfl, ?_⟩
        rw [decide_eq_true_iff, lt_withBuffer_iff hcount]

variable (cfg) in
/-- The counter of the day and the subscription decide whether the request is handed on. -/
theorem enforceQuota_decides (h : CalmFor 3 w) (hcounts : CountsUp w.db) (ctx : Context)
    (hid : ctx.accountID ≠ "")
    (hsub : ∀ s, ctx.subscription = some s → subscription? w.db ctx.accountID = some s) :
    Decides (server cfg) (fun next => enforceQuota next ctx) w
      (WithinQuota (usage? w.db ctx.accountID (w.clockAt 0 / 86400000000000))
        (subscription? w.db ctx.accountID)) ctx
      ((checkQuotaWithSub ctx.accountID ctx.subscription).exec (server cfg) w).state := by
  obtain ⟨within, hval, hiff⟩ := checkQuotaWithSub_val cfg h hcounts hsub
  unfold enforceQuota
  simp only [if_neg hid]
  refine Decides.bind ?_
  rw [hval]
  cases within with
  | false => exact decides_answer (fun hwithin => by cases hiff.2 hwithin) _
  | true => exact decides_next (hiff.1 rfl)

/-- A request for no account is handed on. -/
theorem reaches_planChain_empty :
    Reaches (server cfg) (fun next => planChain next ⟨"", none⟩) w :=
  ⟨_, _, [], fun _ => rfl⟩

theorem reaches_enforceQuota_empty (sub : Option Subscription) :
    Reaches (server cfg) (fun next => enforceQuota next ⟨"", sub⟩) w :=
  ⟨_, _, [], fun _ => rfl⟩

variable (cfg) in
/-- The three middlewares, one behind the other. -/
theorem planChain_decides (h : CalmFor 5 w) (hcounts : CountsUp w.db) {accountID : String}
    (hid : accountID ≠ "") :
    ∃ x' w', Decides (server cfg) (fun next => planChain next ⟨accountID, none⟩) w
      (InUse (account? w.db accountID) ∧ Running (subscription? w.db accountID) ∧
        WithinQuota (usage? w.db accountID (w.clockAt 2 / 86400000000000))
          (subscription? w.db accountID)) x' w' := by
  have haccount := requireActiveAccount_decides cfg h ⟨accountID, none⟩ hid
  have hclock : (((server cfg).step (.db (.registry (.accountByID accountID))) w).2).clockAt 1 =
      w.clockAt 2 :=
    step_clockAt cfg w _ 1
  have h₁ : CalmFor 4 ((server cfg).step (.db (.registry (.accountByID accountID))) w).2 := h.step _
  have hdb₁ : ((server cfg).step (.db (.registry (.accountByID accountID))) w).2.db = w.db :=
    (h.step_query cfg (.registry (.accountByID accountID))).2
  dsimp only at haccount
  generalize ((server cfg).step (.db (.registry (.accountByID accountID))) w).2 = w₁
    at haccount hclock h₁ hdb₁
  have hsubscription := requireActiveSubscription_decides cfg h₁ hid
  have hclock₂ : (((server cfg).step (.db (.subscription accountID)) w₁).2).clockAt 0 =
      w.clockAt 2 :=
    (step_clockAt cfg w₁ _ 0).trans hclock
  have h₂ : CalmFor 3 ((server cfg).step (.db (.subscription accountID)) w₁).2 := h₁.step _
  have hdb₂ : ((server cfg).step (.db (.subscription accountID)) w₁).2.db = w.db :=
    ((h₁.step_query cfg (.subscription accountID)).2).trans hdb₁
  rw [hdb₁] at hsubscription
  generalize ((server cfg).step (.db (.subscription accountID)) w₁).2 = w₂
    at hsubscription hclock₂ h₂ hdb₂
  have hquota := enforceQuota_decides cfg h₂ (hdb₂ ▸ hcounts)
    ⟨accountID, subscription? w.db accountID⟩ hid (by rw [hdb₂]; exact fun _ => id)
  rw [hdb₂, hclock₂] at hquota
  exact ⟨_, _, haccount.comp (m := fun next => requireActiveSubscription (enforceQuota next))
    (hsubscription.comp (m := enforceQuota) hquota)⟩

instance : Nontrivial Response := ⟨⟨.duplicate "", .error 0 "", nofun⟩⟩

end Decisions

/-! ## A customer -/

/-- The owner of the only device. -/
def owner (status : AccountStatus) : Account where
  id := "account-1"
  name := "Owner"
  email := "owner@example.com"
  passwordHash := ""
  planID := "starter"
  retentionDays := 90
  verified := true
  status := status
  riskScore := 0

/-- A subscription of the owner for a hundred messages a day. -/
def starter (status : String) : Subscription where
  id := "subscription-1"
  accountID := "account-1"
  planType := "starter"
  billingCycle := "monthly"
  status := status
  quotaDaily := 100
  quotaMonthly := 3000
  overageBufferPct := 10
  maxQueueDepth := 1000
  maxTemplates := 10
  dedicatedPool := false
  defaultRoutingStrategy := .highestReliability

/-- A server with one device, whose owner sent fifty messages today. -/
def customer (account : AccountStatus) (subscription : String) : World :=
  { onePhone [] with
    db :=
      { (onePhone []).db with
        usageCounters := [⟨"account-1", 0, 50⟩]
        subscriptions := [starter subscription]
        registry := { Registry.empty with accounts := [owner account] } } }

theorem customer_countsUp (account : AccountStatus) (subscription : String) :
    CountsUp (customer account subscription).db := by
  intro u hu
  rw [List.mem_singleton.1 hu]
  exact (by decide : (0 : ℤ) < 50)

end AeroxeBee.Api
