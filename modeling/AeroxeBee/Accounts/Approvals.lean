import AeroxeBee.Accounts.Concurrent
import AeroxeBee.Runs

/-!
# Approved subscriptions

An administrator approves the request of a member for another plan: the request is marked, the plan
is looked up, and its limits are copied into the subscription. The four statements belong to no
transaction, the last two drop their errors, and none of them touches the account.

* `subscribe_spec`: what becomes of the subscription;
* `applyPlan_whole_iff`: when an approval is whole once the request is marked;
* `whole_iff`: when an approval is done as a whole or not at all.
-/

namespace AeroxeBee.Accounts

open Foundations SubscriptionRequestHandler

/-! ## Whole approvals -/

/-- The ids of the requests, with their statuses. -/
def requestStatuses (db : Database) : List (String × String) :=
  db.registry.subscriptionRequests.map fun row => (row.id, row.status)

/-- The account of a request has an active subscription with the limits of a plan. -/
def HasSubscription (db : Database) (sr : SubscriptionRequest) (plan : Plan) : Prop :=
  ∃ sub ∈ db.subscriptions, sub.accountID = sr.accountID ∧ snapshot sr plan sub = sub

/-- The account of a request is on a plan. -/
def OnPlan (db : Database) (sr : SubscriptionRequest) (plan : Plan) : Prop :=
  ∃ account ∈ db.registry.accounts, account.id = sr.accountID ∧ account.planID = plan.id

/-- The request with an id is approved, its account is on the plan that it asked for, and has an active
subscription with the limits of this plan. -/
def ApprovedAll (db db' : Database) (id : String) : Prop :=
  ∃ sr plan, db.registry.subscriptionRequests.find? (·.id = id) = some sr ∧
    db.registry.plans.find? (·.id = sr.requestedPlan) = some plan ∧
      (id, "approved") ∈ requestStatuses db' ∧ HasSubscription db' sr plan ∧ OnPlan db' sr plan

/-- Nothing has become of a request, of the subscriptions and of the accounts. -/
structure Untouched (db db' : Database) : Prop where
  statuses : requestStatuses db' = requestStatuses db
  subscriptions : db'.subscriptions = db.subscriptions
  accounts : db'.registry.accounts = db.registry.accounts

/-- **An approval is whole**: done with if it is answered with success, and undone if not. -/
def Whole (db db' : Database) (id : String) : Answer → Prop
  | .ok _ => ApprovedAll db db' id
  | .error _ => Untouched db db'

/-- All requests with an id are approved already. -/
def AlreadyApproved (db : Database) (id : String) : Prop :=
  ∀ row ∈ db.registry.subscriptionRequests, row.id = id → row.status = "approved"

/-- The subscription of an account is found and written, after some other statements. -/
def Writes (w : World) (n : ℕ) (sr : SubscriptionRequest) : Prop :=
  (w.later n).fault = .none ∧ (∃ sub ∈ w.db.subscriptions, sub.accountID = sr.accountID) ∧
    (w.later (n + 1)).fault.isRefused = false

/-- What has to hold once the request is marked: if the plan is found, then the account is on it, and its
subscription is written or has the limits of the plan already; and if the plan is not found, then the
mark has changed nothing. -/
def SettlesMarked (w : World) (id : String) (sr : SubscriptionRequest) : Prop :=
  match (w.later 2).fault, w.db.registry.plans.find? (·.id = sr.requestedPlan) with
  | .none, some plan => OnPlan w.db sr plan ∧ (Writes w 3 sr ∨ HasSubscription w.db sr plan)
  | _, _ => AlreadyApproved w.db id

/-- What has to hold if the request is found: if the reply to the mark is lost, then the request is
approved already. -/
def Settles (w : World) (id : String) : Prop :=
  (w.later 0).fault = .none → ∀ sr,
    w.db.registry.subscriptionRequests.find? (·.id = id) = some sr →
      match (w.later 1).fault with
      | .refused _ => True
      | .lost _ => AlreadyApproved w.db id
      | .none => SettlesMarked w id sr

/-! ## The statements -/

section Statements

variable {cfg : Config} {w : World} {db db' : Database} {id : String}

/-- The statement that marks a request. -/
def marking (who : Principal) (id notes : String) : Query Unit :=
  .registry (.reviewSubscriptionRequest id "approved" who.accountID notes)

theorem marking_statuses (who : Principal) (notes : String) (db : Database) :
    requestStatuses ((marking who id notes).run db).2 =
      (requestStatuses db).map fun row => if row.1 = id then (row.1, "approved") else row := by
  change (List.map _ (List.map _ _)) = List.map _ (List.map _ _)
  rw [List.map_map, List.map_map]
  refine List.map_congr_left fun row _ => ?_
  by_cases h : row.id = id <;> simp [h]

/-- The mark changes no status exactly if the request was approved already. -/
theorem marking_idle_iff (who : Principal) (notes : String) (db : Database) :
    requestStatuses ((marking who id notes).run db).2 = requestStatuses db ↔
      AlreadyApproved db id := by
  rw [marking_statuses]
  constructor
  · intro h row hrow hid
    have hsame := List.map_eq_map_iff.1 (h.trans (List.map_id _).symm) (row.id, row.status)
      (List.mem_map_of_mem hrow)
    simpa [hid, eq_comm] using hsame
  · intro h
    conv_rhs => rw [← List.map_id (requestStatuses db)]
    refine List.map_congr_left fun x hx => ?_
    obtain ⟨row, hrow, rfl⟩ := List.mem_map.1 hx
    by_cases hid : row.id = id
    · simp [hid, ← h row hrow hid]
    · simp [hid]

theorem marked_mem (who : Principal) (notes : String) {sr : SubscriptionRequest}
    (hfind : db.registry.subscriptionRequests.find? (·.id = id) = some sr) :
    (id, "approved") ∈ requestStatuses ((marking who id notes).run db).2 := by
  have hfound := List.find?_some hfind
  have hid : sr.id = id := of_decide_eq_true hfound
  rw [marking_statuses]
  refine List.mem_map.2 ⟨(sr.id, sr.status), List.mem_map_of_mem (List.mem_of_find?_eq_some hfind), ?_⟩
  simp [hid]

/-- The subscription that is written has the limits of the plan. -/
theorem written_hasSubscription {sr : SubscriptionRequest} {plan : Plan} {sub : Subscription}
    (hfind : db.subscriptions.find? (·.accountID = sr.accountID) = some sub) :
    HasSubscription ((Query.updateSubscription (snapshot sr plan sub)).run db).2 sr plan := by
  have hfound := List.find?_some hfind
  have haccount : sub.accountID = sr.accountID := of_decide_eq_true hfound
  refine ⟨snapshot sr plan sub, List.mem_map.2 ⟨sub, List.mem_of_find?_eq_some hfind, ?_⟩,
    haccount, rfl⟩
  exact if_pos rfl

/-- **What becomes of the subscription**, which is written or left as it is. -/
theorem subscribe_spec (cfg : Config) (h : Alone w) (sr : SubscriptionRequest) (plan : Plan) :
    let o := (subscribe sr plan).exec (server cfg) w
    o.val = .ok [] ∧ o.state.db.registry = w.db.registry ∧
      (HasSubscription o.state.db sr plan ↔ Writes w 0 sr ∨ HasSubscription w.db sr plan) := by
  intro o
  have ho : o = (subscribe sr plan).exec (server cfg) w := rfl
  unfold subscribe at ho
  rw [Prog.call_bind, Prog.exec_act] at ho
  let w₁ := ((server cfg).step (.db (.subscription sr.accountID)) w).2
  have halone : Alone w₁ := h.step _
  have hlater : w₁.next = w.later 1 := step_later cfg w _ 0
  have hlookup := h.step_lookup cfg (.subscription sr.accountID) rfl
  rw [next_eq_later] at hlookup
  obtain ⟨⟨hfault, hval⟩ | ⟨hfault, e, hval⟩, hdb⟩ := hlookup
  · have hreply : ((server cfg).step (.db (.subscription sr.accountID)) w).1 =
        .ok (w.db.subscriptions.find? (·.accountID = sr.accountID)) := hval
    rw [hreply] at ho
    cases hfind : w.db.subscriptions.find? (·.accountID = sr.accountID) with
    | none =>
      rw [hfind] at ho
      have hnone : ¬ Writes w 0 sr := by
        rintro ⟨-, ⟨sub, hsub, haccount⟩, -⟩
        exact List.find?_eq_none.1 hfind sub hsub (decide_eq_true haccount)
      rw [ho, or_iff_right hnone]
      exact ⟨rfl, congrArg Database.registry hdb, by rw [← hdb]; rfl⟩
    | some sub =>
      rw [hfind] at ho
      have hfound := List.find?_some hfind
      have hexists : ∃ sub ∈ w.db.subscriptions, sub.accountID = sr.accountID :=
        ⟨sub, List.mem_of_find?_eq_some hfind, of_decide_eq_true hfound⟩
      have hwrites : Writes w 0 sr ↔ (w.later 1).fault.isRefused = false := by
        simp [Writes, hfault, hexists]
      have hstate : o.state = ((server cfg).step (.db (.updateSubscription (snapshot sr plan sub))) w₁).2 := by
        rw [ho]
        rfl
      have hrun : HasSubscription ((Query.updateSubscription (snapshot sr plan sub)).run w.db).2 sr plan :=
        written_hasSubscription hfind
      refine ⟨by rw [ho]; rfl, ?_⟩
      rw [hstate, hwrites, ← hlater]
      rcases halone.step_query cfg (.updateSubscription (snapshot sr plan sub)) with
        ⟨hupdate, -, hdb'⟩ | ⟨e, hupdate, -, hdb'⟩ | ⟨e, hupdate, -, hdb'⟩
      · rw [hdb', hdb, hupdate]
        exact ⟨rfl, iff_of_true hrun (.inl rfl)⟩
      · rw [hdb', hdb, hupdate]
        exact ⟨rfl, by simp [Fault.isRefused]⟩
      · rw [hdb', hdb, hupdate]
        exact ⟨rfl, iff_of_true hrun (.inl rfl)⟩
  · rw [hval] at ho
    have hnone : ¬ Writes w 0 sr := fun hwrites => hfault hwrites.1
    rw [ho, or_iff_right hnone]
    exact ⟨rfl, congrArg Database.registry hdb, by rw [← hdb]; rfl⟩

end Statements

/-! ## When an approval is whole -/

section Whole

variable {cfg : Config} {w w₂ : World} {id : String} {sr : SubscriptionRequest}

/-- An error after the mark leaves the mark. -/
theorem untouched_marked_iff (who : Principal) (notes : String) (db : Database) :
    Untouched db ((marking who id notes).run db).2 ↔ AlreadyApproved db id :=
  ⟨fun h => (marking_idle_iff who notes db).1 h.statuses,
    fun h => ⟨(marking_idle_iff who notes db).2 h, rfl, rfl⟩⟩

/-- What an approval that is answered with success leaves of the tables it marked. -/
theorem approvedAll_iff (who : Principal) (notes : String) {db db' : Database} {plan : Plan}
    (hsr : db.registry.subscriptionRequests.find? (·.id = id) = some sr)
    (hplan : db.registry.plans.find? (·.id = sr.requestedPlan) = some plan)
    (hregistry : db'.registry = ((marking who id notes).run db).2.registry) :
    ApprovedAll db db' id ↔ OnPlan db sr plan ∧ HasSubscription db' sr plan := by
  have hon : OnPlan db' sr plan ↔ OnPlan db sr plan := by
    unfold OnPlan
    rw [hregistry]
    rfl
  have hmarked : (id, "approved") ∈ requestStatuses db' := by
    rw [requestStatuses, hregistry]
    exact marked_mem who notes hsr
  constructor
  · rintro ⟨sr', plan', hsr', hplan', -, hhas, honplan⟩
    obtain rfl := Option.some.inj (hsr.symm.trans hsr')
    obtain rfl := Option.some.inj (hplan.symm.trans hplan')
    exact ⟨hon.1 honplan, hhas⟩
  · rintro ⟨honplan, hhas⟩
    exact ⟨sr, plan, hsr, hplan, hmarked, hhas, hon.2 honplan⟩

/-- Put the account of a request on the plan that is found. -/
def applyPlan (sr : SubscriptionRequest) : ServerProg Answer := do
  match ← Prog.call (.db (.registry (.plan sr.requestedPlan))) with
  | .error _ | .ok none => return .error ⟨500, "plan not found"⟩
  | .ok (some plan) => subscribe sr plan

/-- Go on once the request is marked. -/
def applyMarked (sr : SubscriptionRequest) : Except String Unit → ServerProg Answer
  | .error _ => return .error ⟨500, "failed to approve"⟩
  | .ok _ => applyPlan sr

/-- Go on with the request that is found. -/
def approveFound (who : Principal) (id notes : String) :
    Except String (Option SubscriptionRequest) → ServerProg Answer
  | .error _ | .ok none => return .error ⟨404, "not found"⟩
  | .ok (some sr) => .act (.db (marking who id notes)) (applyMarked sr)

/-- **When an approval is whole once the request is marked.** -/
theorem applyPlan_whole_iff (cfg : Config) (who : Principal) (notes : String)
    (hsr : w.db.registry.subscriptionRequests.find? (·.id = id) = some sr) (halone : Alone w₂)
    (hdb : w₂.db = ((marking who id notes).run w.db).2) (hlater : ∀ n, w₂.later n = w.later (n + 2)) :
    Reaches cfg (applyPlan sr) w₂ (fun answer w' => Whole w.db w'.db id answer) ↔
      SettlesMarked w id sr := by
  let lookup : Query (Option Plan) := .registry (.plan sr.requestedPlan)
  let w₃ := ((server cfg).step (.db lookup) w₂).2
  have hlater₃ (n : ℕ) : w₃.later n = w.later (n + 3) :=
    (step_later cfg w₂ _ n).trans (hlater (n + 1))
  obtain ⟨hlookup, hdb₃⟩ := halone.step_lookup cfg lookup rfl
  have hdb₃' : w₃.db = ((marking who id notes).run w.db).2 := hdb₃.trans hdb
  rw [next_eq_later, hlater] at hlookup
  -- without a plan the approval ends with an error, and the mark stays
  have hfailed : Untouched w.db w₃.db ↔ AlreadyApproved w.db id := by
    rw [hdb₃']
    exact untouched_marked_iff who notes w.db
  unfold applyPlan
  change Reaches cfg (match ((server cfg).step (.db lookup) w₂).1 with
    | .error _ | .ok none => .ret (.error ⟨500, "plan not found"⟩)
    | .ok (some plan) => subscribe sr plan) w₃ (fun answer w' => Whole w.db w'.db id answer) ↔
      SettlesMarked w id sr
  unfold SettlesMarked
  rcases hlookup with ⟨hfault, hval⟩ | ⟨hfault, e, hval⟩
  · have hreply : ((server cfg).step (.db lookup) w₂).1 =
        .ok (w.db.registry.plans.find? (·.id = sr.requestedPlan)) := by
      rw [hval, hdb]
      rfl
    rw [hreply, hfault]
    cases hplan : w.db.registry.plans.find? (·.id = sr.requestedPlan) with
    | none => exact hfailed
    | some plan =>
      obtain ⟨hanswer, hregistry, hhas⟩ := subscribe_spec cfg (halone.step (.db lookup)) sr plan
      have hwhole := approvedAll_iff who notes hsr hplan (hregistry.trans (congrArg _ hdb₃'))
      have hwrites : Writes w₃ 0 sr ↔ Writes w 3 sr := by
        unfold Writes
        rw [hlater₃, hlater₃, hdb₃']
        rfl
      have hkept : HasSubscription w₃.db sr plan ↔ HasSubscription w.db sr plan := by
        unfold HasSubscription
        rw [hdb₃']
        rfl
      change Whole w.db _ id ((subscribe sr plan).exec (server cfg) w₃).val ↔ _
      rw [hanswer]
      change ApprovedAll w.db _ id ↔ _
      rw [hwhole, hhas, hwrites, hkept]
  · rw [hval]
    cases hfault' : (w.later 2).fault with
    | none => exact absurd hfault' hfault
    | refused text => exact hfailed
    | lost text => exact hfailed

/-- **When an approval is done as a whole or not at all.** -/
theorem whole_iff (cfg : Config) (h : Alone w) (who : Principal) (id notes : String) :
    Whole w.db ((approve who id notes).exec (server cfg) w).state.db id
      ((approve who id notes).exec (server cfg) w).val ↔ Settles w id := by
  let found : Query (Option SubscriptionRequest) := .registry (.subscriptionRequestByID id)
  let w₁ := ((server cfg).step (.db found) w).2
  have hlater₁ (n : ℕ) : w₁.later n = w.later (n + 1) := step_later cfg w _ n
  obtain ⟨hlookup, hdb₁⟩ := h.step_lookup cfg found rfl
  rw [next_eq_later] at hlookup
  have hdb₁' : w₁.db = w.db := hdb₁
  have hsame : Untouched w.db w₁.db := by
    rw [hdb₁']
    exact ⟨rfl, rfl, rfl⟩
  change Reaches cfg (approveFound who id notes ((server cfg).step (.db found) w).1) w₁
    (fun answer w' => Whole w.db w'.db id answer) ↔ _
  unfold Settles
  rcases hlookup with ⟨hfault, hval⟩ | ⟨hfault, e, hval⟩
  swap
  · rw [hval]
    exact iff_of_true hsame fun hnone => absurd hnone hfault
  have hreply : ((server cfg).step (.db found) w).1 =
      .ok (w.db.registry.subscriptionRequests.find? (·.id = id)) := hval
  rw [hreply]
  cases hsr : w.db.registry.subscriptionRequests.find? (·.id = id) with
  | none => exact iff_of_true hsame fun _ sr hfound => by cases hfound
  | some sr =>
    simp only [hfault, Option.some.injEq, forall_eq', forall_const]
    let w₂ := ((server cfg).step (.db (marking who id notes)) w₁).2
    change Reaches cfg (applyMarked sr ((server cfg).step (.db (marking who id notes)) w₁).1) w₂
      (fun answer w' => Whole w.db w'.db id answer) ↔ _
    have halone₁ : Alone w₁ := h.step _
    have hmark := halone₁.step_query cfg (marking who id notes)
    rw [next_eq_later, hlater₁, hdb₁'] at hmark
    rcases hmark with ⟨hfault₁, hval₁, hdb₂⟩ | ⟨e, hfault₁, hval₁, hdb₂⟩ | ⟨e, hfault₁, hval₁, hdb₂⟩
    · have hreply₁ : ((server cfg).step (.db (marking who id notes)) w₁).1 = .ok () := hval₁
      rw [hreply₁, hfault₁]
      exact applyPlan_whole_iff cfg who notes hsr (halone₁.step _) hdb₂ fun n =>
        (step_later cfg w₁ _ n).trans (hlater₁ (n + 1))
    · rw [hval₁, hfault₁]
      refine iff_of_true ?_ trivial
      change Untouched w.db w₂.db
      rw [show w₂.db = w.db from hdb₂]
      exact ⟨rfl, rfl, rfl⟩
    · rw [hval₁, hfault₁]
      change Untouched w.db w₂.db ↔ _
      rw [show w₂.db = ((marking who id notes).run w.db).2 from hdb₂]
      exact untouched_marked_iff who notes w.db

end Whole

/-! ## A member who moves to a plan with more messages -/

/-- The request of the member. -/
def moveToPro : SubscriptionRequest :=
  ⟨"request-1", "account-1", "pro", "monthly", "free", "growth", "pending", none, ""⟩

/-- The plan that the member asks for. -/
def proPlan : Plan :=
  ⟨"pro", "Pro", "public", 5000, 100000, 10, 50000, 20, 50, false, .fastest, 0, 49, true, "", []⟩

/-- The subscription of the member. -/
def freeSubscription : Subscription :=
  ⟨"subscription-1", "account-1", "free", "monthly", "active", 100, 1000, 0, 1000, 5, false,
    .fastest⟩

/-- A server with the account of a member, the subscription and the request. -/
def oneRequest (account : Account) : World :=
  { oneAccount with
    db := { oneAccount.db with
      subscriptions := [freeSubscription]
      registry := { Registry.empty with
        accounts := [account]
        plans := [proPlan]
        subscriptionRequests := [moveToPro] } } }

/-- The approval is done as a whole if the account happens to be on the plan already. -/
theorem approve_whole_onPlan :
    Whole (oneRequest { memberAccount with planID := "pro" }).db
      ((approve ⟨"user-1", true⟩ "request-1" "").exec (server .default)
        (oneRequest { memberAccount with planID := "pro" })).state.db "request-1"
      ((approve ⟨"user-1", true⟩ "request-1" "").exec (server .default)
        (oneRequest { memberAccount with planID := "pro" })).val := by
  refine (whole_iff .default (fun t ht => by cases ht) ⟨"user-1", true⟩ "request-1" "").2 ?_
  intro _ sr hsr
  cases hsr
  exact ⟨⟨_, List.mem_cons_self, rfl, rfl⟩, .inl ⟨rfl, ⟨_, List.mem_cons_self, rfl⟩, rfl⟩⟩

/-- The approval is answered with success, and the account stays on the plan it was on. -/
theorem approve_not_whole :
    ((approve ⟨"user-1", true⟩ "request-1" "").exec (server .default)
      (oneRequest memberAccount)).val = .ok [] ∧
    ¬ Whole (oneRequest memberAccount).db
      ((approve ⟨"user-1", true⟩ "request-1" "").exec (server .default)
        (oneRequest memberAccount)).state.db "request-1"
      ((approve ⟨"user-1", true⟩ "request-1" "").exec (server .default)
        (oneRequest memberAccount)).val := by
  refine ⟨rfl, ?_⟩
  rintro ⟨sr, plan, hsr, hplan, -, -, account, haccount, -, hon⟩
  obtain rfl := Option.some.inj hsr
  obtain rfl := Option.some.inj hplan
  obtain rfl := List.mem_singleton.1 haccount
  revert hon
  decide

end AeroxeBee.Accounts
