import AeroxeBee.Admin.ChangeRequests

/-!
# Reviews of payments, subscriptions and identity checks

Administrators approve or reject what members have handed in. The statement that marks a payment, a
request for a subscription or an identity check as reviewed does not ask whether it still waits, so
that a second review succeeds as well and overwrites the first.

* `Reviewing.keeps`: a call marks its own request and answers with a success only after that, and a
  subscription changes only after the mark;
* `reviewedOnce_of_inTime`: when a request is marked only while it waits, it is reviewed once.
-/

namespace AeroxeBee.Admin

open Foundations Accounts

/-! ## Identity checks -/

namespace KycAdminHandler

/-- Mark the record of an identity check as reviewed. -/
def review (who : Principal) (id status notes failed message : String) : ServerProg Answer :=
  if id = "" then return .error ⟨400, "id required"⟩
  else do
    let now ← Prog.call .now
    execute (.registry (.reviewKyc id status who.accountID now notes)) ⟨500, failed⟩ fun _ =>
      [("message", message)]

/-- `POST /api/v1/admin/kyc/{id}/approve`. -/
def approve (who : Principal) (id notes : String) : ServerProg Answer :=
  review who id "verified" notes "failed to approve KYC" "KYC approved"

/-- `POST /api/v1/admin/kyc/{id}/reject`. -/
def reject (who : Principal) (id notes : String) : ServerProg Answer :=
  review who id "rejected" notes "failed to reject KYC" "KYC rejected"

end KycAdminHandler

namespace Reviews

/-! ## Calls -/

/-- What is reviewed. -/
inductive Kind where
  | payment
  | subscription
  | kyc
deriving DecidableEq

/-- A call that reviews a request. -/
structure Call where
  kind : Kind
  id : String
  approves : Bool
  who : Principal
  notes : String

/-- The handler of a call. -/
def Call.handle (c : Call) : ServerProg Answer :=
  match c.kind, c.approves with
  | .payment, true => PaymentRequestHandler.approve c.who c.id c.notes
  | .payment, false => PaymentRequestHandler.reject c.who c.id c.notes
  | .subscription, true => Accounts.SubscriptionRequestHandler.approve c.who c.id c.notes
  | .subscription, false => Admin.SubscriptionRequestHandler.reject c.who c.id c.notes
  | .kyc, true => KycAdminHandler.approve c.who c.id c.notes
  | .kyc, false => KycAdminHandler.reject c.who c.id c.notes

/-- The row of a request. -/
inductive Row where
  | payment (row : PaymentRequest)
  | subscription (row : SubscriptionRequest)
  | kyc (row : KycRecord)
deriving DecidableEq

/-- How far the review of a request has come. -/
def Row.status : Row → String
  | payment row => row.status
  | subscription row => row.status
  | kyc row => row.status

/-- The rows of a request. -/
def rows (kind : Kind) (id : String) (r : Registry) : List Row :=
  match kind with
  | .payment => (r.paymentRequests.filter (·.id = id)).map .payment
  | .subscription => (r.subscriptionRequests.filter (·.id = id)).map .subscription
  | .kyc => (r.kycRecords.filter (·.id = id)).map .kyc

/-- Whether the request waits for its review. -/
def waits (kind : Kind) (id : String) (r : Registry) : Bool :=
  (rows kind id r).any fun row => row.status = "pending"

/-- The request that a command marks as reviewed. -/
def marks : {β : Type} → ServerCmd β → Option (Kind × String)
  | _, .db (.registry (.reviewPaymentRequest id _ _ _)) => some (.payment, id)
  | _, .db (.registry (.reviewSubscriptionRequest id _ _ _)) => some (.subscription, id)
  | _, .db (.registry (.reviewKyc id _ _ _ _)) => some (.kyc, id)
  | _, _ => none

/-! ## What a call does -/

/-- A request was marked as reviewed. -/
def marked : Event ServerCmd → Bool
  | ⟨.db (.registry (.reviewPaymentRequest _ _ _ _)), .ok _⟩ => true
  | ⟨.db (.registry (.reviewSubscriptionRequest _ _ _ _)), .ok _⟩ => true
  | ⟨.db (.registry (.reviewKyc _ _ _ _ _)), .ok _⟩ => true
  | _ => false

/-- What a call may do before and after it has marked its request. -/
def Allows (c : Call) (done : Bool) : {β : Type} → ServerCmd β → Prop
  | _, .now => True
  | _, .db (.registry (.subscriptionRequestByID _)) => True
  | _, .db (.registry (.plan _)) => True
  | _, .db (.subscription _) => True
  | _, .db (.updateSubscription _) => done = true
  | _, .db (.registry (.reviewPaymentRequest id status _ _)) =>
    c.kind = .payment ∧ c.id = id ∧ status ≠ "pending"
  | _, .db (.registry (.reviewSubscriptionRequest id status _ _)) =>
    c.kind = .subscription ∧ c.id = id ∧ status ≠ "pending"
  | _, .db (.registry (.reviewKyc id status _ _ _)) =>
    c.kind = .kyc ∧ c.id = id ∧ status ≠ "pending"
  | _, _ => False

/-- Whether a call has marked its request. -/
def progress (done : Bool) (ev : Event ServerCmd) : Bool := done || marked ev

/-- A call marks its request, and changes a subscription only after that. -/
def reviewing (c : Call) : Protocol ServerCmd Bool where
  allows := Allows c
  expects _ := True
  next := progress

/-- A call that succeeds has marked its request. -/
def Ends (done : Bool) (answer : Answer) : Prop := answer.isOk = true → done = true

section Keeps

variable {c : Call} {done : Bool}

/-- A statement that marks the request, and the answer that depends on how it went. -/
theorem execute_keeps {q : RegistryQuery Unit} {failed : HttpError}
    {data : Unit → List (String × String)} (hallows : Allows c done (.db (.registry q)))
    (hmarked : marked ⟨.db (.registry q), .ok ()⟩ = true) :
    (execute (.registry q) failed data).Keeps (reviewing c) Ends done := by
  unfold execute
  rw [Prog.call_bind]
  refine ⟨hallows, fun b _ => ?_⟩
  cases b with
  | error e => exact fun h => nomatch h
  | ok u =>
    intro _
    change progress done _ = true
    rw [progress, hmarked, Bool.or_true]

/-- A read leaves open whether the request has been marked. -/
theorem keeps_read {α β : Type} {e : ServerCmd β} {k : β → ServerProg α} {Q : Bool → α → Prop}
    (hallows : Allows c done e) (hmarked : ∀ b, marked ⟨e, b⟩ = false)
    (hk : ∀ b, (k b).Keeps (reviewing c) Q done) : (Prog.act e k).Keeps (reviewing c) Q done := by
  refine ⟨hallows, fun b _ => ?_⟩
  change (k b).Keeps (reviewing c) Q (progress done ⟨e, b⟩)
  rw [progress, hmarked b, Bool.or_false]
  exact hk b

theorem kyc_keeps (hkind : c.kind = .kyc) {status notes failed message : String}
    (hstatus : status ≠ "pending") :
    (KycAdminHandler.review c.who c.id status notes failed message).Keeps (reviewing c) Ends done := by
  unfold KycAdminHandler.review
  split_ifs
  · exact fun h => nomatch h
  · rw [Prog.call_bind]
    refine keeps_read trivial (fun _ => rfl) fun now => ?_
    exact execute_keeps ⟨hkind, rfl, hstatus⟩ rfl

/-- The subscription of an account is changed after the mark. -/
theorem subscribe_keeps (sr : SubscriptionRequest) (plan : Plan) :
    (Accounts.SubscriptionRequestHandler.subscribe sr plan).Keeps (reviewing c) Ends true := by
  unfold Accounts.SubscriptionRequestHandler.subscribe
  rw [Prog.call_bind]
  refine keeps_read trivial (fun _ => rfl) fun sub => ?_
  match sub with
  | .error _ => exact fun _ => rfl
  | .ok none => exact fun _ => rfl
  | .ok (some sub) =>
    refine keeps_read rfl (fun _ => rfl) fun _ => ?_
    exact fun _ => rfl

theorem subscription_keeps (hkind : c.kind = .subscription) :
    (Accounts.SubscriptionRequestHandler.approve c.who c.id c.notes).Keeps (reviewing c) Ends
      false := by
  unfold Accounts.SubscriptionRequestHandler.approve
  simp only [Prog.call_bind]
  refine keeps_read trivial (fun _ => rfl) fun found => ?_
  match found with
  | .error _ => exact fun h => nomatch h
  | .ok none => exact fun h => nomatch h
  | .ok (some sr) =>
    refine ⟨⟨hkind, rfl, by decide⟩, fun reviewed _ => ?_⟩
    cases reviewed with
    | error e => exact fun h => nomatch h
    | ok u =>
      have hrest := @keeps_read c true
      refine hrest trivial (fun _ => rfl) fun plan => ?_
      match plan with
      | .error _ => exact fun h => nomatch h
      | .ok none => exact fun h => nomatch h
      | .ok (some plan) => exact subscribe_keeps sr plan

end Keeps

/-- **A call marks its own request, and succeeds only after that.** -/
theorem Reviewing.keeps (c : Call) : c.handle.Keeps (reviewing c) Ends false := by
  unfold Call.handle
  cases hkind : c.kind <;> cases c.approves
  · exact execute_keeps ⟨hkind, rfl, by decide⟩ rfl
  · exact execute_keeps ⟨hkind, rfl, by decide⟩ rfl
  · exact execute_keeps ⟨hkind, rfl, by decide⟩ rfl
  · exact subscription_keeps hkind
  · exact kyc_keeps hkind (by decide)
  · exact kyc_keeps hkind (by decide)

theorem phased : Pool.Phased Call.handle reviewing (fun _ => Ends) progress false :=
  ⟨fun _ => rfl, fun _ _ => trivial, Reviewing.keeps⟩

/-! ## What a command does to a request -/

section Effects

/-- The rows with an id after the rows with an id have been changed. -/
theorem filter_updateWhere {α : Type} (key : α → String) {f : α → α} (hf : ∀ a, key (f a) = key a)
    (id id' : String) (l : List α) :
    (updateWhere (fun a => key a = id') f l).filter (fun a => key a = id) =
      if id' = id then (l.filter fun a => key a = id).map f else l.filter fun a => key a = id := by
  induction l with
  | nil => simp [updateWhere]
  | cons a l ih =>
    rw [updateWhere, List.map_cons, ← updateWhere, List.filter_cons, ih, List.filter_cons]
    by_cases hid : id' = id <;> by_cases ha : key a = id'
    · subst hid
      simp [ha, hf]
    · subst hid
      simp [ha]
    · have hne : key a ≠ id := fun h => hid (ha.symm.trans h)
      simp [hid, ha, hf]
    · simp [hid, ha]

variable (cfg : Config) {c : Call} {done : Bool} {β : Type} {e : ServerCmd β} (w : World)
  (kind : Kind) (id : String)

/-- After the mark of a request none of its rows waits. -/
theorem rows_mark {q : RegistryQuery β} (hallows : Allows c done (.db (.registry q)))
    (hmarks : marks (.db (.registry q)) = some (kind, id)) (r : Registry) :
    (∀ row ∈ rows kind id (q.run r).2, row.status ≠ "pending") ∧
      (rows kind id (q.run r).2 = [] ↔ rows kind id r = []) := by
  cases q with
  | reviewPaymentRequest id' status reviewer notes =>
    cases hmarks
    simp only [rows, RegistryQuery.run]
    rw [filter_updateWhere PaymentRequest.id, if_pos rfl]
    case hf => exact fun _ => rfl
    refine ⟨?_, by simp only [List.map_eq_nil_iff]⟩
    simp only [List.forall_mem_map]
    exact fun _ _ => hallows.2.2
  | reviewSubscriptionRequest id' status reviewer notes =>
    cases hmarks
    simp only [rows, RegistryQuery.run]
    rw [filter_updateWhere SubscriptionRequest.id, if_pos rfl]
    case hf => exact fun _ => rfl
    refine ⟨?_, by simp only [List.map_eq_nil_iff]⟩
    simp only [List.forall_mem_map]
    exact fun _ _ => hallows.2.2
  | reviewKyc id' status reviewer now notes =>
    cases hmarks
    simp only [rows, RegistryQuery.run]
    rw [filter_updateWhere KycRecord.id, if_pos rfl]
    case hf => exact fun _ => rfl
    refine ⟨?_, by simp only [List.map_eq_nil_iff]⟩
    simp only [List.forall_mem_map]
    exact fun _ _ => hallows.2.2
  | _ => cases hmarks

/-- A statement of a call that does not mark the request leaves its rows alone. -/
theorem rows_of_not_mark {q : RegistryQuery β} (hallows : Allows c done (.db (.registry q)))
    (hmarks : marks (.db (.registry q)) ≠ some (kind, id)) (r : Registry) :
    rows kind id (q.run r).2 = rows kind id r := by
  cases q with
  | reviewPaymentRequest id' status reviewer notes =>
    cases kind with
    | payment =>
      have hne : id' ≠ id := fun h => hmarks (by rw [marks, h])
      simp only [rows, RegistryQuery.run]
      rw [filter_updateWhere PaymentRequest.id, if_neg hne]
      exact fun _ => rfl
    | subscription | kyc => rfl
  | reviewSubscriptionRequest id' status reviewer notes =>
    cases kind with
    | subscription =>
      have hne : id' ≠ id := fun h => hmarks (by rw [marks, h])
      simp only [rows, RegistryQuery.run]
      rw [filter_updateWhere SubscriptionRequest.id, if_neg hne]
      exact fun _ => rfl
    | payment | kyc => rfl
  | reviewKyc id' status reviewer now notes =>
    cases kind with
    | kyc =>
      have hne : id' ≠ id := fun h => hmarks (by rw [marks, h])
      simp only [rows, RegistryQuery.run]
      rw [filter_updateWhere KycRecord.id, if_neg hne]
      exact fun _ => rfl
    | payment | subscription => rfl
  | subscriptionRequestByID _ => rfl
  | plan _ => rfl
  | _ => exact hallows.elim

/-- A command that does not mark the request, or is refused, leaves its rows alone. -/
theorem rows_step (hallows : Allows c done e)
    (hmark : marks e = some (kind, id) → w.next.fault.isRefused = true) :
    rows kind id (after cfg e w) = rows kind id (before w) := by
  cases e with
  | now => rfl
  | db q =>
    cases q with
    | registry q =>
      rw [after_statement]
      split_ifs with hrefused
      · rfl
      · exact rows_of_not_mark kind id hallows (fun h => hrefused (hmark h)) _
    | subscription _ | updateSubscription _ =>
      rw [after, step_statement]
      split_ifs <;> rfl
    | _ => exact hallows.elim
  | _ => exact hallows.elim

/-- A mark that is executed leaves no row of the request that waits. -/
theorem rows_executed (hallows : Allows c done e) (hmarks : marks e = some (kind, id))
    (hexecuted : w.next.fault.isRefused = false) :
    (∀ row ∈ rows kind id (after cfg e w), row.status ≠ "pending") ∧
      (rows kind id (after cfg e w) = [] ↔ rows kind id (before w) = []) := by
  cases e with
  | db q =>
    cases q with
    | registry q =>
      rw [after_statement, hexecuted, if_neg Bool.false_ne_true]
      exact rows_mark kind id hallows hmarks _
    | _ => cases hmarks
  | _ => cases hmarks

/-- What a request governs: its rows, the accounts and the subscriptions. -/
def governed (db : Database) : List Row × List Account × List Subscription :=
  (rows kind id db.registry, db.registry.accounts, db.subscriptions)

/-- Before it has marked its request a call leaves alone what the request governs. -/
theorem governed_step (hallows : Allows c false e)
    (hmark : marks e = some (kind, id) → w.next.fault.isRefused = true) :
    governed kind id ((server cfg).step e w).2.db = governed kind id w.tick.db := by
  have hrows := rows_step cfg w kind id hallows hmark
  refine Prod.ext hrows (Prod.ext ?_ ?_)
  · change (after cfg e w).accounts = (before w).accounts
    cases e with
    | now => rfl
    | db q =>
      cases q with
      | registry q =>
        rw [after_statement]
        split_ifs
        · rfl
        · cases q <;> first | rfl | exact hallows.elim
      | subscription _ =>
        rw [after, step_statement]
        split_ifs <;> rfl
      | updateSubscription _ => cases hallows
      | _ => exact hallows.elim
    | _ => exact hallows.elim
  · change ((server cfg).step e w).2.db.subscriptions = w.tick.db.subscriptions
    cases e with
    | now => rfl
    | db q =>
      rw [step_statement]
      cases q with
      | registry q => split_ifs <;> rfl
      | subscription _ => split_ifs <;> rfl
      | updateSubscription _ => cases hallows
      | _ => exact hallows.elim
    | _ => exact hallows.elim

/-- A call that learns that it has marked its request has marked it. -/
theorem marked_step (hallows : Allows c done e)
    (hmarked : marked ⟨e, ((server cfg).step e w).1⟩ = true) :
    marks e = some (c.kind, c.id) ∧ w.next.fault.isRefused = false := by
  cases e with
  | db q =>
    have hreply : ((server cfg).step (.db q) w).1 =
        (w.next.fault.apply id id (fun db => q.run db) w.tick.db).1 := rfl
    rw [hreply] at hmarked
    cases q with
    | registry q =>
      cases q with
      | reviewPaymentRequest id' status reviewer notes =>
        obtain ⟨hkind, hid, -⟩ := hallows
        refine ⟨by rw [marks, hkind, hid], ?_⟩
        cases hfault : w.next.fault with
        | refused text => simp [hfault, Fault.apply, marked] at hmarked
        | none | lost => rfl
      | reviewSubscriptionRequest id' status reviewer notes =>
        obtain ⟨hkind, hid, -⟩ := hallows
        refine ⟨by rw [marks, hkind, hid], ?_⟩
        cases hfault : w.next.fault with
        | refused text => simp [hfault, Fault.apply, marked] at hmarked
        | none | lost => rfl
      | reviewKyc id' status reviewer now notes =>
        obtain ⟨hkind, hid, -⟩ := hallows
        refine ⟨by rw [marks, hkind, hid], ?_⟩
        cases hfault : w.next.fault with
        | refused text => simp [hfault, Fault.apply, marked] at hmarked
        | none | lost => rfl
      | subscriptionRequestByID _ => cases hmarked
      | plan _ => cases hmarked
      | _ => exact hallows.elim
    | _ => cases hmarked
  | _ => cases hmarked

end Effects

/-! ## One review of each request -/

/-- What is noted of a run about a request. -/
@[ext]
structure Note where
  /-- The calls with which the request ceased to wait. -/
  leavers : List ℕ
  /-- The calls about the request that changed what it governs. -/
  changers : List ℕ
deriving DecidableEq

/-- Whether a call is about a request. -/
def about (kind : Kind) (id : String) (calls : List Call) (i : ℕ) : Bool :=
  calls[i]?.any fun c => c.kind = kind && c.id = id

/-- What a command makes of the note. -/
def noteReview (cfg : Config) (kind : Kind) (id : String) (calls : List Call) (i : ℕ) {β : Type}
    (e : ServerCmd β) (w : World) (h : Note) : Note where
  leavers :=
    if waits kind id (before w) && !waits kind id (after cfg e w) then h.leavers ++ [i] else h.leavers
  changers :=
    if about kind id calls i &&
        governed kind id w.tick.db ≠ governed kind id ((server cfg).step e w).2.db then
      h.changers ++ [i]
    else h.changers

/-- The calls run concurrently. -/
abbrev pool (calls : List Call) (w : World) : Pool ServerCmd World Answer :=
  .start (calls.map Call.handle) w

/-- A call about the request has changed nothing that the request governs, and has not answered with a
success. -/
def Rejected (P : Pool ServerCmd World Answer) (h : Note) (j : ℕ) : Prop :=
  j ∉ h.changers ∧ ∀ answer, (j, answer) ∈ P.done → answer.isOk = false

/-- **A request is reviewed once.** -/
structure ReviewedOnce (kind : Kind) (id : String) (calls : List Call) (w : World)
    (P : Pool ServerCmd World Answer) (h : Note) : Prop where
  /-- The request ceases to wait at most once. -/
  once : h.leavers.length ≤ 1
  /-- Every other review is rejected. -/
  others : ∀ i ∈ h.leavers, ∀ j, j ≠ i → about kind id calls j = true → Rejected P h j
  /-- A request that has been reviewed before is not reviewed again. -/
  settled : rows kind id w.db.registry ≠ [] → waits kind id w.db.registry = false →
    ∀ j, about kind id calls j = true → Rejected P h j

/-- The request is marked only while it waits. -/
def InTime (kind : Kind) (id : String) (P : Pool ServerCmd World Answer) (_h : Note) (_i : ℕ)
    {β : Type} (e : ServerCmd β) : Prop :=
  marks e = some (kind, id) → P.state.next.fault.isRefused = true ∨
    ∀ row ∈ rows kind id (before P.state), row.status = "pending"

instance (kind : Kind) (id : String) (P : Pool ServerCmd World Answer) (h : Note) (i : ℕ) {β : Type}
    (e : ServerCmd β) : Decidable (InTime kind id P h i e) := by
  unfold InTime
  infer_instance

/-- Nothing else that runs on the server touches the rows of the request. -/
def SparedRows (kind : Kind) (id : String) (w : World) : Prop :=
  ∀ t ∈ w.env, ∀ s : Shared, rows kind id (t.others s).db.registry = rows kind id s.db.registry

namespace SparedRows

variable {kind : Kind} {id : String} {w : World}

theorem before (h : SparedRows kind id w) :
    rows kind id (Admin.before w) = rows kind id w.db.registry := by
  unfold Admin.before World.tick World.next
  cases henv : w.env with
  | nil => rfl
  | cons t ts => exact h t (henv ▸ List.mem_cons_self) w.toShared

theorem step (cfg : Config) {β : Type} (h : SparedRows kind id w) (e : ServerCmd β) :
    SparedRows kind id ((server cfg).step e w).2 := by
  intro t ht
  rw [step_env] at ht
  exact h t (List.mem_of_mem_tail ht)

end SparedRows

/-- What has become of a request. -/
inductive Course (kind : Kind) (id : String) (calls : List Call) (w : World)
    (P : Pool ServerCmd World Answer) (h : Note) : Prop
  /-- There is no such request. -/
  | vacant (hrows : rows kind id w.db.registry = []) (hnow : rows kind id P.state.db.registry = [])
      (hleavers : h.leavers = [])
  /-- No call has marked it. -/
  | fresh (hrows : rows kind id P.state.db.registry = rows kind id w.db.registry)
      (hexists : rows kind id w.db.registry ≠ []) (hnote : h = ⟨[], []⟩)
      (hphase : ∀ j, about kind id calls j = true → P.phase progress false j = false)
  /-- One call has marked it. -/
  | reviewed (i : ℕ) (hexists : rows kind id P.state.db.registry ≠ [])
      (hnow : ∀ row ∈ rows kind id P.state.db.registry, row.status ≠ "pending")
      (hwaited : waits kind id w.db.registry = true) (hleavers : h.leavers = [i])
      (hchangers : ∀ j ∈ h.changers, j = i)
      (hphase : ∀ j, about kind id calls j = true → P.phase progress false j = true → j = i)

theorem waits_eq_false {kind : Kind} {id : String} {r : Registry}
    (h : ∀ row ∈ rows kind id r, row.status ≠ "pending") : waits kind id r = false := by
  rw [waits, List.any_eq_false]
  intro row hrow
  simpa using h row hrow

theorem waits_eq_true {kind : Kind} {id : String} {r : Registry} (hne : rows kind id r ≠ [])
    (h : ∀ row ∈ rows kind id r, row.status = "pending") : waits kind id r = true := by
  obtain ⟨row, hrow⟩ := List.exists_mem_of_ne_nil _ hne
  rw [waits, List.any_eq_true]
  exact ⟨row, hrow, by simpa using h row hrow⟩

section Step

variable {cfg : Config} {kind : Kind} {id : String} {calls : List Call} {w : World}
  {P : Pool ServerCmd World Answer} {h : Note} {i : ℕ} {c : Call} {β : Type} {e : ServerCmd β}
  {k : β → ServerProg Answer}

theorem kind_id_of_about (hc : calls[i]? = some c) (habout : about kind id calls i = true) :
    c.kind = kind ∧ c.id = id := by
  simpa [about, hc] using habout

/-- A command that does not mark the request leaves open which calls have marked it. -/
theorem phase_of_not_executed (hc : calls[i]? = some c)
    (hallows : Allows c (P.phase progress false i) e)
    (hmark : marks e = some (kind, id) → P.state.next.fault.isRefused = true) {j : ℕ}
    (habout : about kind id calls j = true) :
    (P.advance (server cfg) i e k).phase progress false j = P.phase progress false j := by
  rw [Pool.phase_advance]
  by_cases hji : j = i
  · subst hji
    obtain ⟨rfl, rfl⟩ := kind_id_of_about hc habout
    rw [Function.update_self, progress]
    cases hmarked : marked ⟨e, ((server cfg).step e P.state).1⟩ with
    | false => exact Bool.or_false _
    | true =>
      obtain ⟨hmarks, hexecuted⟩ := marked_step cfg P.state hallows hmarked
      cases hexecuted.symm.trans (hmark hmarks)
  · rw [Function.update_of_ne hji]

theorem leavers_of_rows
    (hrows : rows kind id (after cfg e P.state) = rows kind id (before P.state)) :
    (noteReview cfg kind id calls i e P.state h).leavers = h.leavers := by
  have hwaits : waits kind id (after cfg e P.state) = waits kind id (before P.state) := by
    rw [waits, hrows, waits]
  rw [noteReview]
  cases hw : waits kind id (before P.state) <;> simp [hwaits, hw]

theorem mem_changers_step {j : ℕ}
    (hj : j ∈ (noteReview cfg kind id calls i e P.state h).changers) :
    j ∈ h.changers ∨ j = i ∧ about kind id calls i = true ∧
      governed kind id ((server cfg).step e P.state).2.db ≠ governed kind id P.state.tick.db := by
  rw [noteReview] at hj
  dsimp only at hj
  split_ifs at hj with hchange
  · simp only [Bool.and_eq_true, decide_eq_true_eq] at hchange
    rcases List.mem_append.1 hj with hj | hj
    · exact .inl hj
    · exact .inr ⟨List.mem_singleton.1 hj, hchange.1, fun heq => hchange.2 heq.symm⟩
  · exact .inl hj

/-- A command that is no executed mark of the request keeps its course. -/
theorem Course.other (hI : Course kind id calls w P h) (hspared : SparedRows kind id P.state)
    (hc : calls[i]? = some c) (hallows : Allows c (P.phase progress false i) e)
    (hmark : marks e = some (kind, id) → P.state.next.fault.isRefused = true) :
    Course kind id calls w (P.advance (server cfg) i e k)
      (noteReview cfg kind id calls i e P.state h) := by
  have hsame : rows kind id (after cfg e P.state) = rows kind id (before P.state) :=
    rows_step cfg P.state kind id hallows hmark
  have hrows : rows kind id (P.advance (server cfg) i e k).state.db.registry =
      rows kind id P.state.db.registry := hsame.trans hspared.before
  have hleavers : (noteReview cfg kind id calls i e P.state h).leavers = h.leavers :=
    leavers_of_rows hsame
  have hphase : ∀ j, about kind id calls j = true →
      (P.advance (server cfg) i e k).phase progress false j = P.phase progress false j :=
    fun j habout => phase_of_not_executed hc hallows hmark habout
  -- a call that has not marked the request changes nothing
  have hquiet : P.phase progress false i = false →
      governed kind id ((server cfg).step e P.state).2.db = governed kind id P.state.tick.db := by
    intro hfalse
    rw [hfalse] at hallows
    exact governed_step cfg P.state kind id hallows hmark
  cases hI with
  | vacant hempty hnow hnone =>
    exact .vacant hempty (hrows.trans hnow) (hleavers.trans hnone)
  | fresh hstart hexists hnote hunmarked =>
    refine .fresh (hrows.trans hstart) hexists ?_ fun j habout => ?_
    · subst hnote
      have hchangers : (noteReview cfg kind id calls i e P.state ⟨[], []⟩).changers = [] := by
        rw [List.eq_nil_iff_forall_not_mem]
        intro j hj
        rcases mem_changers_step hj with hj | ⟨-, habout, hchange⟩
        · cases hj
        · exact hchange (hquiet (hunmarked i habout))
      exact Note.ext hleavers hchangers
    · rw [hphase j habout]
      exact hunmarked j habout
  | reviewed i₀ hexists hnow hwaited hone hchangers hmarked =>
    refine .reviewed i₀ (hrows ▸ hexists) (hrows ▸ hnow) hwaited (hleavers.trans hone)
      (fun j hj => ?_) fun j habout hj => ?_
    · rcases mem_changers_step hj with hj | ⟨rfl, habout, hchange⟩
      · exact hchangers j hj
      · by_contra hne
        refine hchange (hquiet ?_)
        cases hphased : P.phase progress false j with
        | false => rfl
        | true => exact absurd (hmarked j habout hphased) hne
    · rw [hphase j habout] at hj
      exact hmarked j habout hj

/-- A mark that is executed while the request waits is the one review of it. -/
theorem Course.mark (hI : Course kind id calls w P h) (hspared : SparedRows kind id P.state)
    (hallows : Allows c (P.phase progress false i) e)
    (hmarks : marks e = some (kind, id)) (hexecuted : P.state.next.fault.isRefused = false)
    (hpending : ∀ row ∈ rows kind id (before P.state), row.status = "pending") :
    Course kind id calls w (P.advance (server cfg) i e k)
      (noteReview cfg kind id calls i e P.state h) := by
  obtain ⟨hended, hnil⟩ := rows_executed cfg P.state kind id hallows hmarks hexecuted
  rw [hspared.before] at hpending hnil
  cases hI with
  | vacant hempty hnow hnone =>
    have hafter : rows kind id (after cfg e P.state) = [] := hnil.2 hnow
    refine .vacant hempty hafter ((leavers_of_rows ?_).trans hnone)
    rw [hafter, hspared.before, hnow]
  | fresh hstart hexists hnote hunmarked =>
    subst hnote
    have hne : rows kind id P.state.db.registry ≠ [] := hstart ▸ hexists
    have hwaited : waits kind id (before P.state) = true := by
      rw [waits, hspared.before]
      exact waits_eq_true hne hpending
    refine .reviewed i (fun h => hne (hnil.1 h)) hended ?_ ?_ (fun j hj => ?_) fun j habout hj => ?_
    · rw [waits, ← hstart, ← hspared.before]
      exact hwaited
    · rw [noteReview, hwaited, waits_eq_false hended]
      rfl
    · rcases mem_changers_step hj with hj | ⟨hj, -⟩
      · cases hj
      · exact hj
    · rw [Pool.phase_advance] at hj
      by_contra hne
      rw [Function.update_of_ne hne, hunmarked j habout] at hj
      cases hj
  | reviewed i₀ hexists hnow =>
    obtain ⟨row, hrow⟩ := List.exists_mem_of_ne_nil _ hexists
    exact absurd (hpending row hrow) (hnow row hrow)

end Step

/-- What the rows of a request have been through at the start of a run. -/
theorem course_start (kind : Kind) (id : String) (calls : List Call) (w : World) :
    Course kind id calls w (pool calls w) ⟨[], []⟩ := by
  by_cases hempty : rows kind id w.db.registry = []
  · exact .vacant hempty hempty rfl
  · exact .fresh rfl hempty rfl fun _ _ => rfl

/-- **When a request is marked only while it waits, it is reviewed once**, in any interleaving of any
calls. -/
theorem reviewedOnce_of_inTime (cfg : Config) (kind : Kind) (id : String) (calls : List Call)
    (w : World) (sched : List ℕ) (hspared : SparedRows kind id w)
    (hinTime : Pool.EachNoted (server cfg) (noteReview cfg kind id calls) (InTime kind id)
      (pool calls w) ⟨[], []⟩ sched) :
    ReviewedOnce kind id calls w ((pool calls w).run (server cfg) sched)
      (Pool.noted (server cfg) (noteReview cfg kind id calls) (pool calls w) ⟨[], []⟩ sched) := by
  have hI := Pool.run_noted_inv (I := fun P h => SparedRows kind id P.state ∧
      Course kind id calls w P h) phased ⟨hspared, course_start kind id calls w⟩ hinTime
    fun P h i c β e k hc hi hkeeping hI hG => by
      obtain ⟨c', hc', hallows, -⟩ := hkeeping i _ hi
      obtain rfl := Option.some.inj (hc.symm.trans hc')
      refine ⟨hI.1.step cfg e, ?_⟩
      by_cases hexecuted : marks e = some (kind, id) ∧ P.state.next.fault.isRefused = false
      · refine hI.2.mark hI.1 hallows hexecuted.1 hexecuted.2 ?_
        rcases hG hexecuted.1 with hrefused | hpending
        · cases hexecuted.2.symm.trans hrefused
        · exact hpending
      · refine hI.2.other hI.1 hc hallows fun hmarks => ?_
        by_contra hnot
        exact hexecuted ⟨hmarks, Bool.eq_false_of_not_eq_true hnot⟩
  -- a call that has not marked the request has not answered with a success
  have hanswers : ∀ j, ((pool calls w).run (server cfg) sched).phase progress false j = false →
      ∀ answer, (j, answer) ∈ ((pool calls w).run (server cfg) sched).done →
        answer.isOk = false := by
    intro j hphase answer hdone
    have hthread := Pool.done_threads _ _ sched hdone
    obtain ⟨c, hcall, -⟩ := Pool.follows Call.handle calls w sched hthread
    have hends : Ends _ answer := phased.returned hcall hthread
    by_contra hok
    have htrue := hends (Bool.eq_true_of_not_eq_false hok)
    cases hphase.symm.trans htrue
  cases hI.2 with
  | vacant hempty _ hnone =>
    refine ⟨by rw [hnone]; exact Nat.zero_le 1, fun i hi => ?_, fun hne => absurd hempty hne⟩
    rw [hnone] at hi
    cases hi
  | fresh _ _ hnote hunmarked =>
    rw [hnote]
    exact ⟨Nat.zero_le 1, nofun, fun _ _ j habout => ⟨List.not_mem_nil, hanswers j (hunmarked j habout)⟩⟩
  | reviewed i₀ _ _ hwaited hone hchangers hmarked =>
    refine ⟨by rw [hone]; exact le_rfl, fun i hi j hne habout => ?_, fun _ hsettled => ?_⟩
    · rw [hone, List.mem_singleton] at hi
      subst hi
      refine ⟨fun hj => hne (hchangers j hj), hanswers j ?_⟩
      cases hphased : ((pool calls w).run (server cfg) sched).phase progress false j with
      | false => rfl
      | true => exact absurd (hmarked j habout hphased) hne
    · cases hwaited.symm.trans hsettled

/-! ## One payment -/

/-- What a member has paid. -/
def payment : PaymentRequest where
  id := "payment-1"
  accountID := "account-1"
  planID := "basic"
  billingCycle := "monthly"
  paymentMethod := "bank"
  amount := 10
  proofURL := ""
  status := "pending"
  reviewedBy := none
  reviewNotes := ""

/-- A server with the payment. -/
def onePayment (env : List Tick) : World :=
  { onePlan "pending" with
    db := ⟨[], [], [], [], [], [], [], [], [], [],
      { Registry.empty with plans := [basicPlan], paymentRequests := [payment] }⟩
    env := env }

/-- One administrator approves the payment, and another one rejects it. -/
def bothVerdicts : List Call :=
  [⟨.payment, "payment-1", true, ⟨"admin-1", true⟩, ""⟩,
    ⟨.payment, "payment-1", false, ⟨"admin-2", true⟩, ""⟩]

/-- The second review does not get through to the database. -/
theorem reviewedOnce_refused :
    let w := onePayment [.quiet, { Tick.quiet with fault := .refused "connection reset" }]
    ReviewedOnce .payment "payment-1" bothVerdicts w ((pool bothVerdicts w).run (server .default) [0, 1])
      (Pool.noted (server .default) (noteReview .default .payment "payment-1" bothVerdicts)
        (pool bothVerdicts w) ⟨[], []⟩ [0, 1]) := by
  refine reviewedOnce_of_inTime .default .payment "payment-1" bothVerdicts _ [0, 1] ?_
    (by decide)
  intro t ht s
  simp only [onePayment, List.mem_cons, List.not_mem_nil, or_false] at ht
  rcases ht with rfl | rfl <;> rfl

/-- The payment is approved, and rejected after that; both answers are successes. -/
theorem reviewed_twice :
    let w := onePayment []
    let P := (pool bothVerdicts w).run (server .default) [0, 1]
    let h := Pool.noted (server .default) (noteReview .default .payment "payment-1" bothVerdicts)
      (pool bothVerdicts w) ⟨[], []⟩ [0, 1]
    SparedRows .payment "payment-1" w ∧ h = ⟨[0], [0, 1]⟩ ∧ (P.done.all fun x => x.2.isOk) = true ∧
      ¬ ReviewedOnce .payment "payment-1" bothVerdicts w P h := by
  have hnote : Pool.noted (server .default)
      (noteReview .default .payment "payment-1" bothVerdicts) (pool bothVerdicts (onePayment []))
      ⟨[], []⟩ [0, 1] = ⟨[0], [0, 1]⟩ := by decide
  refine ⟨fun _ ht => absurd ht List.not_mem_nil, hnote, by decide, fun hone => ?_⟩
  rw [hnote] at hone
  exact (hone.others 0 (by decide) 1 (by decide) (by decide)).1 (by decide)

end Reviews

end AeroxeBee.Admin
