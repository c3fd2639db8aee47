import AeroxeBee.Api.Course
import Mathlib.Algebra.BigOperators.Ring.Finset
import Mathlib.Algebra.Order.BigOperators.Group.Finset

/-!
# The daily quota

The requests of an account check the daily counter and advance it later, once for every message
they store; a request for several recipients checks once, an account without a counter passes
unchecked, and a message for later is never counted.

* `Reserve`: the requests under way hold a part of the cap, and what they and the counted messages
  hold is no more than the cap;
* `accepted_le_cap`: in every run in which each request that passes the check fits into what is left
  beside those under way, and counts what it stores, the account never has more messages accepted
  than its daily cap.
-/

namespace AeroxeBee.Api

open Foundations Dispatch Finset

/-! ## The requests of an account -/

variable (svc : Services) (accountID : String)

/-- A request together with the API key it came with. -/
abbrev KeyedRequest := String × Request

/-- The handler of a request of the account. -/
def KeyedRequest.prog (c : KeyedRequest) : ServerProg Response := c.2.handle svc ⟨accountID, c.1⟩

/-- Requests of one account that are handled concurrently. -/
abbrev Requests := Pool ServerCmd World Response

/-- The requests before any of them has moved. -/
def portal (calls : List KeyedRequest) (w : World) : Requests :=
  .start (calls.map (KeyedRequest.prog svc accountID)) w

/-- The number of messages that a thread has accepted: those its answer accepts. -/
def acceptedBy (P : Requests) (i : ℕ) : ℕ :=
  (P.threads[i]?.bind Pool.returned).elim 0 Response.accepted

/-- The number of messages accepted so far. -/
def accepted (P : Requests) : ℕ := ∑ i ∈ range P.threads.length, acceptedBy P i

/-- How many messages a subscription allows on one day. -/
def dailyCap (sub : Subscription) : ℤ := ⌊(sub.quotaDaily : ℚ) * (1 + sub.overageBufferPct / 100)⌋

/-! ## Orderly runs -/

/-- The request has read the counter and has not been answered. -/
def Underway (P : Requests) (i : ℕ) : Prop :=
  (courseOf P i).usage.isSome = true ∧ P.threads[i]?.any fun p => (Pool.returned p).isNone

instance (P : Requests) : DecidablePred (Underway P) := fun _ => inferInstanceAs (Decidable (_ ∧ _))

/-- The number of messages that a request asks for. -/
def sizeOf (calls : List KeyedRequest) (i : ℕ) : ℕ := calls[i]?.elim 0 fun c => c.2.size

/-- The number of messages that a request and those under way ask for. -/
def asked (n : ℕ) (size : ℕ → ℕ) (underway : ℕ → Prop) [DecidablePred underway] (i : ℕ) : ℤ :=
  ∑ j ∈ range n, if j = i ∨ underway j then (size j : ℤ) else 0

/-- How many messages were counted on a day. -/
def countedOn (db : Database) (date : ℤ) : ℤ := (usage? db accountID date).elim 0 UsageCounter.count

/-- The request has read a counter below a bound. -/
def Course.below (s : Course) (bound : ℤ) : Bool :=
  s.usage.any fun found => found.any fun usage => usage.count < bound

/-- The next command of a request does nothing out of order. If the counter it looks for does not
exist, or the one it has read is below the limit, then what has been counted and what the requests
under way ask for fits into the cap; the subscription is read; no message is stored for later; and a
message that is stored is counted. -/
def InOrder (calls : List KeyedRequest) (sub : Subscription) (date : ℤ) (P : Requests) (i : ℕ) :
    {β : Type} → ServerCmd β → Prop
  | _, .db (.usageCounter _ _) =>
    (usage? P.state.db accountID date).isNone = true →
      asked calls.length (sizeOf calls) (Underway P) i ≤ dailyCap sub
  | _, .db (.subscription _) =>
    P.state.next.fault = .none ∧ ((courseOf P i).below (withBuffer sub) = true →
      countedOn accountID P.state.db date + asked calls.length (sizeOf calls) (Underway P) i ≤
        dailyCap sub)
  | _, .db (.createMessage row) => row.status = "scheduled" → P.state.next.fault ≠ .none
  | _, .db (.incrementUsage _ _) => P.state.next.fault.isRefused = false
  | _, _ => True

/-- The step of a request does nothing out of order. -/
def Orderly (calls : List KeyedRequest) (sub : Subscription) (date : ℤ) (P : Requests) (i : ℕ) :
    Prop :=
  match P.threads[i]? with
  | some (.act e _) => InOrder accountID calls sub date P i e
  | _ => True

/-! ## What is held in reserve -/

section Reserve

variable {cap : ℤ} {n : ℕ} {size : ℕ → ℕ} {counter counter' : ℤ} {underway underway' : ℕ → Prop}
  {s : ℕ → Course} {i : ℕ} {t : Course}

open Classical in
/-- What a request holds of the cap: all it asks for while it is under way and has passed the check,
and otherwise what it has stored. -/
noncomputable def held (size : ℕ) (underway : Prop) (s : Course) : ℤ :=
  if underway ∧ s.Passed then size else s.rows.length

theorem held_of_passed {size : ℕ} {underway : Prop} {s : Course} (h : underway) (hs : s.Passed) :
    held size underway s = size := if_pos ⟨h, hs⟩

theorem held_of_not {size : ℕ} {underway : Prop} {s : Course} (h : ¬ (underway ∧ s.Passed)) :
    held size underway s = s.rows.length := if_neg h

/-- **The requests hold no more than the cap.** `size` is what each request asks for, `counter` what
the database has counted. -/
structure Reserve (cap : ℤ) (n : ℕ) (size : ℕ → ℕ) (counter : ℤ) (underway : ℕ → Prop)
    (s : ℕ → Course) : Prop where
  counter_eq : counter = ∑ j ∈ range n, ((s j).dates.length : ℤ)
  rows_le : ∀ j, (s j).rows.length ≤ size j
  settled : ∀ j, ¬ underway j → (s j).rows.length = (s j).dates.length
  total : ∑ j ∈ range n, held (size j) (underway j) (s j) ≤ max 0 cap

namespace Reserve

theorem rows_le_held (h : Reserve cap n size counter underway s) (j : ℕ) :
    ((s j).rows.length : ℤ) ≤ held (size j) (underway j) (s j) := by
  unfold held
  split_ifs
  · exact_mod_cast h.rows_le j
  · exact le_rfl

/-- What is stored stays below the cap. -/
theorem stored_le (h : Reserve cap n size counter underway s) :
    ∑ j ∈ range n, ((s j).rows.length : ℤ) ≤ max 0 cap :=
  (sum_le_sum fun j _ => h.rows_le_held j).trans h.total

/-- A request that is not under way holds what it has counted, and the others hold what they ask for
at most. -/
theorem held_le (h : Reserve cap n size counter underway s) [DecidablePred underway] (i j : ℕ) :
    held (size j) (underway j) (s j) ≤
      (s j).dates.length + if j = i ∨ underway j then (size j : ℤ) else 0 := by
  have hrows := h.rows_le j
  by_cases hunder : underway j
  · rw [if_pos (.inr hunder)]
    unfold held
    split_ifs <;> omega
  · rw [held_of_not fun hpassed => hunder hpassed.1, h.settled j hunder]
    split_ifs <;> omega

/-- **A step of one request.** It may store a row if it holds a reserve for it, and it is granted a
reserve if what has been counted and what the requests under way ask for fits into the cap. -/
theorem update (h : Reserve cap n size counter underway s) [DecidablePred underway] (hi : i < n)
    (hothers : ∀ j, j ≠ i → (underway' j ↔ underway j))
    (hcounter : counter' = counter + t.dates.length - (s i).dates.length)
    (hsettled : ¬ underway' i → t.rows.length = t.dates.length)
    (hrows : t.rows.length = (s i).rows.length ∨ t.rows.length = (s i).rows.length + 1 ∧
      underway i ∧ (s i).Passed ∧ (s i).rows.length < size i)
    (hgranted : underway' i → t.Passed → underway i ∧ (s i).Passed ∨
      t.rows.length = (s i).rows.length ∧ counter + asked n size underway i ≤ cap) :
    Reserve cap n size counter' underway' (Function.update s i t) := by
  have hrowsi := h.rows_le i
  refine ⟨?_, fun j => ?_, fun j hj => ?_, ?_⟩
  · have hcounted := Pool.sum_of_eq_off hi (f := fun j => ((s j).dates.length : ℤ))
      (g := fun j => ((Function.update s i t j).dates.length : ℤ))
      fun j hj => by rw [Function.update_of_ne hj]
    rw [Function.update_self] at hcounted
    rw [hcounted, hcounter, h.counter_eq]
  · by_cases hji : j = i
    · subst hji
      rw [Function.update_self]
      omega
    · rw [Function.update_of_ne hji]
      exact h.rows_le j
  · by_cases hji : j = i
    · subst hji
      rw [Function.update_self]
      exact hsettled hj
    · rw [Function.update_of_ne hji]
      exact h.settled j fun hunder => hj ((hothers j hji).2 hunder)
  · have hsum := Pool.sum_of_eq_off hi (f := fun j => held (size j) (underway j) (s j))
      (g := fun j => held (size j) (underway' j) (Function.update s i t j))
      fun j hj => by rw [Function.update_of_ne hj, propext (hothers j hj)]
    rw [Function.update_self] at hsum
    have htotal := h.total
    have hle := h.rows_le_held i
    by_cases hpassed : underway' i ∧ t.Passed
    · rcases hgranted hpassed.1 hpassed.2 with hbefore | ⟨-, hfits⟩
      · rw [held_of_passed hpassed.1 hpassed.2, held_of_passed hbefore.1 hbefore.2] at hsum
        omega
      · -- the others hold what they have counted or what they ask for
        have hbound : ∑ j ∈ range n, held (size j) (underway' j) (Function.update s i t j) ≤
            ∑ j ∈ range n, (((s j).dates.length : ℤ) +
              if j = i ∨ underway j then (size j : ℤ) else 0) := by
          refine sum_le_sum fun j _ => ?_
          by_cases hji : j = i
          · subst hji
            rw [Function.update_self, held_of_passed hpassed.1 hpassed.2, if_pos (.inl rfl)]
            omega
          · rw [Function.update_of_ne hji, propext (hothers j hji)]
            exact h.held_le i j
        rw [sum_add_distrib, ← h.counter_eq] at hbound
        exact le_max_of_le_right (hbound.trans hfits)
    · rw [held_of_not hpassed] at hsum
      rcases hrows with hsame | ⟨hmore, hunder, hheld, hlt⟩
      · omega
      · rw [held_of_passed hunder hheld] at hsum
        omega

end Reserve

end Reserve

/-! ## A step of a request -/

section Step

variable {svc accountID} {calls : List KeyedRequest} {sub : Subscription} {date : ℤ}
  {w : World} {P : Requests} {i j : ℕ} {c : KeyedRequest} {β : Type} {e : ServerCmd β}
  {k : β → ServerProg Response}

theorem LeavesQuota.step_subscription (h : LeavesQuota e) (hw : Alone w) :
    subscription? ((server svc.cfg).step e w).2.db accountID = subscription? w.db accountID := by
  rw [subscription?, (h.step hw).2]
  rfl

theorem LeavesQuota.step_countedOn (h : LeavesQuota e) (hw : Alone w) :
    countedOn accountID ((server svc.cfg).step e w).2.db date = countedOn accountID w.db date := by
  rw [countedOn, usage?, (h.step hw).1]
  rfl

theorem countedOn_countUsage (db : Database) :
    countedOn accountID (db.countUsage accountID date) date = countedOn accountID db date + 1 := by
  unfold countedOn usage?
  rw [Database.find?_countUsage_self]
  cases db.usageCounters.find? fun u => u.accountID = accountID && u.date = date <;> rfl

/-- **What counting a message comes to**: it is counted unless the statement is refused. -/
theorem step_count (hw : Alone w) (owner : String) (date : ℤ) :
    ((server svc.cfg).step (.db (.incrementUsage owner date)) w).2.db =
      if w.next.fault.isRefused = true then w.db else w.db.countUsage owner date := by
  rcases hw.step_query svc.cfg (.incrementUsage owner date) with
    ⟨hfault, -, hdb⟩ | ⟨e, hfault, -, hdb⟩ | ⟨e, hfault, -, hdb⟩
  · rw [hfault]
    exact hdb
  · rw [hfault]
    exact hdb
  · rw [hfault]
    exact hdb

theorem underway_of_act (hi : P.threads[i]? = some (.act e k)) :
    Underway P i ↔ (courseOf P i).usage.isSome = true := by
  unfold Underway
  rw [hi]
  exact and_iff_left rfl

theorem underway_advance_of_ne (hj : j ≠ i) :
    Underway (P.advance (server svc.cfg) i e k) j ↔ Underway P j := by
  unfold Underway courseOf
  rw [Pool.phase_advance, Function.update_of_ne hj, Pool.advance,
    List.getElem?_set_ne (Ne.symm hj)]

theorem underway_advance_self (hi : P.threads[i]? = some (.act e k)) :
    Underway (P.advance (server svc.cfg) i e k) i ↔
      ((courseOf P i).next ⟨e, ((server svc.cfg).step e P.state).1⟩).usage.isSome = true ∧
        (Pool.returned (k ((server svc.cfg).step e P.state).1)).isNone = true := by
  have hlt : i < P.threads.length := (List.getElem?_eq_some_iff.1 hi).1
  unfold Underway courseOf
  rw [Pool.phase_advance, Function.update_self, Pool.advance, List.getElem?_set_self hlt]
  rfl

theorem Course.Passed.usage {s : Course} (h : s.Passed) : s.usage.isSome = true := by
  unfold Course.Passed at h
  cases hread : s.usage with
  | none =>
    rw [hread] at h
    exact h.elim
  | some _ => rfl

theorem Course.passed_congr {s t : Course} (husage : t.usage = s.usage) (hsub : t.sub = s.sub) :
    t.Passed ↔ s.Passed := by
  unfold Course.Passed
  rw [husage, hsub]

variable (accountID calls sub date) in
/-- The requests are all of one day, and hold no more than the cap. -/
structure Within (P : Requests) : Prop where
  alone : Alone P.state
  since : date * 86400000000000 ≤ P.state.clock
  before : P.state.horizon < (date + 1) * 86400000000000
  subscription : subscription? P.state.db accountID = some sub
  days : ∀ i t, (courseOf P i).now = some t → dayOf t = date
  plain : ∀ i, ∀ row ∈ (courseOf P i).rows, row.status ≠ "scheduled"
  reserve : Reserve (dailyCap sub) calls.length (sizeOf calls) (countedOn accountID P.state.db date)
    (Underway P) (courseOf P)

/-- Every look at the clock falls on the day. -/
theorem Within.today (h : Within accountID calls sub date P) :
    dayOf ((server svc.cfg).step .now P.state).1 = date := by
  have hsince := h.since
  have hbefore := h.before
  have hle := P.state.tick_clock_le_horizon
  change dayOf P.state.tick.clock = date
  have hclock : P.state.tick.clock = P.state.clock + P.state.next.elapsed := rfl
  have helapsed : (0 : ℤ) ≤ P.state.next.elapsed := Int.natCast_nonneg _
  unfold dayOf
  omega

/-- What has to be said of a step. -/
theorem Within.advance (h : Within accountID calls sub date P) (hc : calls[i]? = some c)
    (hi : P.threads[i]? = some (.act e k)) {t : Course}
    (ht : (courseOf P i).next ⟨e, ((server svc.cfg).step e P.state).1⟩ = t)
    (hkeeps : (k ((server svc.cfg).step e P.state).1).Keeps (course accountID c.2.size)
      (Course.Ends c.2) t)
    (hsub : subscription? ((server svc.cfg).step e P.state).2.db accountID = some sub)
    (hcounted : countedOn accountID ((server svc.cfg).step e P.state).2.db date =
      countedOn accountID P.state.db date + t.dates.length - (courseOf P i).dates.length)
    (hdays : ∀ now, t.now = some now → dayOf now = date)
    (hplain : ∀ row ∈ t.rows, row.status ≠ "scheduled")
    (hpending : t.usage = none → (courseOf P i).usage = none ∧
      t.rows.length = (courseOf P i).rows.length ∧ t.dates.length = (courseOf P i).dates.length)
    (hrows : t.rows.length = (courseOf P i).rows.length ∨
      t.rows.length = (courseOf P i).rows.length + 1 ∧ (courseOf P i).Passed ∧
        (courseOf P i).rows.length < c.2.size)
    (hgranted : t.Passed → (courseOf P i).Passed ∨
      t.rows.length = (courseOf P i).rows.length ∧ countedOn accountID P.state.db date +
        asked calls.length (sizeOf calls) (Underway P) i ≤ dailyCap sub) :
    Within accountID calls sub date (P.advance (server svc.cfg) i e k) := by
  have hlt : i < calls.length := (List.getElem?_eq_some_iff.1 hc).1
  have hsize : sizeOf calls i = c.2.size := by
    rw [sizeOf, hc]
    rfl
  have hphase : courseOf (P.advance (server svc.cfg) i e k) =
      Function.update (courseOf P) i t := by
    funext j
    rw [courseOf, Pool.phase_advance, ← ht]
  have hact := underway_of_act hi
  have hself : Underway (P.advance (server svc.cfg) i e k) i ↔ t.usage.isSome = true ∧
      (Pool.returned (k ((server svc.cfg).step e P.state).1)).isNone = true := by
    rw [underway_advance_self hi, ht]
  have hunder (hpassed : (courseOf P i).Passed) : Underway P i := hact.2 hpassed.usage
  refine ⟨h.alone.step e, ?_, ?_, hsub, fun j now hnow => ?_, fun j row hrow => ?_, ?_⟩
  · change _ ≤ ((server svc.cfg).step e P.state).2.clock
    have hsince := h.since
    rw [step_clock]
    omega
  · change ((server svc.cfg).step e P.state).2.horizon < _
    rw [horizon_step]
    exact h.before
  · rw [hphase] at hnow
    by_cases hji : j = i
    · subst hji
      rw [Function.update_self] at hnow
      exact hdays now hnow
    · rw [Function.update_of_ne hji] at hnow
      exact h.days j now hnow
  · rw [hphase] at hrow
    by_cases hji : j = i
    · subst hji
      rw [Function.update_self] at hrow
      exact hplain row hrow
    · rw [Function.update_of_ne hji] at hrow
      exact h.plain j row hrow
  · rw [hphase]
    refine h.reserve.update hlt (fun j hj => underway_advance_of_ne hj) hcounted (fun hnot => ?_) ?_
      fun _ hpassed => ?_
    · -- it has not read a counter yet, or it has been answered
      cases hread : t.usage with
      | none =>
        obtain ⟨husage, hrows', hdates'⟩ := hpending hread
        rw [hrows', hdates']
        refine h.reserve.settled i fun hunder' => ?_
        rw [hact, husage] at hunder'
        cases hunder'
      | some found =>
        rw [hself, hread] at hnot
        cases hk : k ((server svc.cfg).step e P.state).1 with
        | ret response =>
          rw [hk] at hkeeps
          exact Course.Ends.counted hkeeps hplain
        | act e' k' =>
          rw [hk] at hnot
          exact absurd ⟨rfl, rfl⟩ hnot
    · rw [hsize]
      exact hrows.imp_right fun ⟨hmore, hpassed, hless⟩ => ⟨hmore, hunder hpassed, hpassed, hless⟩
    · exact (hgranted hpassed).imp_left fun hbefore => ⟨hunder hbefore, hbefore⟩

/-- What has to be said of a step that learns nothing of the quota, and stores and counts nothing. -/
theorem Within.idle (h : Within accountID calls sub date P) (hc : calls[i]? = some c)
    (hi : P.threads[i]? = some (.act e k)) {t : Course}
    (ht : (courseOf P i).next ⟨e, ((server svc.cfg).step e P.state).1⟩ = t)
    (hkeeps : (k ((server svc.cfg).step e P.state).1).Keeps (course accountID c.2.size)
      (Course.Ends c.2) t)
    (hleaves : LeavesQuota e) (hdays : ∀ now, t.now = some now → dayOf now = date)
    (husage : t.usage = (courseOf P i).usage) (hsub : t.sub = (courseOf P i).sub)
    (hrows : t.rows = (courseOf P i).rows) (hdates : t.dates = (courseOf P i).dates) :
    Within accountID calls sub date (P.advance (server svc.cfg) i e k) := by
  refine h.advance hc hi ht hkeeps ?_ ?_ hdays ?_ (fun hnone => ?_) (.inl ?_) fun hpassed => .inl ?_
  · exact (hleaves.step_subscription h.alone).trans h.subscription
  · rw [hleaves.step_countedOn h.alone, hdates]
    omega
  · rw [hrows]
    exact h.plain i
  · rw [hrows, hdates]
    exact ⟨husage ▸ hnone, rfl, rfl⟩
  · rw [hrows]
  · exact (Course.passed_congr husage hsub).1 hpassed

/-- Reading the counter: an account without one passes the check. -/
theorem Within.readCounter (h : Within accountID calls sub date P) (hc : calls[i]? = some c)
    {owner : String} {day : ℤ} {k : Except String (Option UsageCounter) → ServerProg Response}
    (hi : P.threads[i]? = some (.act (.db (.usageCounter owner day)) k))
    (hallows : (courseOf P i).Allows accountID c.2.size (.db (.usageCounter owner day)))
    (hkeeps : ∀ b, (k b).Keeps (course accountID c.2.size) (Course.Ends c.2)
      ((courseOf P i).next ⟨.db (.usageCounter owner day), b⟩))
    (horder : InOrder accountID calls sub date P i (.db (.usageCounter owner day))) :
    Within accountID calls sub date (P.advance (server svc.cfg) i (.db (.usageCounter owner day)) k) := by
  obtain ⟨rfl, hnow, hrows⟩ := hallows
  obtain ⟨now, hread, rfl⟩ := Option.map_eq_some_iff.1 hnow
  obtain rfl := h.days i now hread
  have hleaves : LeavesQuota (.db (.usageCounter owner (dayOf now))) := trivial
  cases hreply : ((server svc.cfg).step (.db (.usageCounter owner (dayOf now))) P.state).1 with
  | error e =>
    refine h.idle hc hi (t := courseOf P i) (by rw [hreply]; rfl) ?_ hleaves (h.days i) rfl rfl rfl rfl
    rw [hreply]
    exact hkeeps (.error e)
  | ok found =>
    have hfound : found = usage? P.state.db owner (dayOf now) := by
      rcases h.alone.step_query svc.cfg (.usageCounter owner (dayOf now)) with
        ⟨-, hval, -⟩ | ⟨e, -, hval, -⟩ | ⟨e, -, hval, -⟩
      · exact Except.ok.inj (hreply.symm.trans hval)
      · cases hreply.symm.trans hval
      · cases hreply.symm.trans hval
    refine h.advance hc hi (t := { courseOf P i with usage := some found, sub := none })
      (by rw [hreply]; rfl) ?_ ?_ ?_ (h.days i) (h.plain i) nofun (.inl rfl) fun hpassed => .inr ⟨rfl, ?_⟩
    · rw [hreply]
      exact hkeeps (.ok found)
    · exact (hleaves.step_subscription h.alone).trans h.subscription
    · rw [hleaves.step_countedOn h.alone]
      dsimp only
      omega
    · cases found with
      | some usage => exact hpassed.elim
      | none =>
        have hcounted : countedOn owner P.state.db (dayOf now) = 0 := by
          rw [countedOn, ← hfound]
          rfl
        rw [hcounted, zero_add]
        exact horder (by rw [← hfound]; rfl)

/-- Reading the subscription: the counter is compared with the limit. -/
theorem Within.readSubscription (h : Within accountID calls sub date P) (hc : calls[i]? = some c)
    {owner : String} {k : Except String (Option Subscription) → ServerProg Response}
    (hi : P.threads[i]? = some (.act (.db (.subscription owner)) k))
    (hallows : (courseOf P i).Allows accountID c.2.size (.db (.subscription owner)))
    (hkeeps : ∀ b, (k b).Keeps (course accountID c.2.size) (Course.Ends c.2)
      ((courseOf P i).next ⟨.db (.subscription owner), b⟩))
    (horder : InOrder accountID calls sub date P i (.db (.subscription owner))) :
    Within accountID calls sub date (P.advance (server svc.cfg) i (.db (.subscription owner)) k) := by
  obtain ⟨rfl, hrows, usage, husage⟩ := hallows
  obtain ⟨hfault, hfits⟩ := horder
  have hleaves : LeavesQuota (.db (.subscription owner)) := trivial
  have hreply : ((server svc.cfg).step (.db (.subscription owner)) P.state).1 = .ok (some sub) := by
    rcases h.alone.step_query svc.cfg (.subscription owner) with
      ⟨-, hval, -⟩ | ⟨e, hrefused, -, -⟩ | ⟨e, hlost, -, -⟩
    · exact hval.trans (congrArg Except.ok h.subscription)
    · cases hfault.symm.trans hrefused
    · cases hfault.symm.trans hlost
  refine h.advance hc hi (t := { courseOf P i with sub := some (some sub) })
    (by rw [hreply]; rfl) ?_ ?_ ?_ (h.days i) (h.plain i) (fun hnone => ?_) (.inl rfl)
    fun hpassed => .inr ⟨rfl, hfits ?_⟩
  · rw [hreply]
    exact hkeeps (.ok (some sub))
  · exact (hleaves.step_subscription h.alone).trans h.subscription
  · rw [hleaves.step_countedOn h.alone]
    dsimp only
    omega
  · cases husage.symm.trans hnone
  · have hless : usage.count < withBuffer sub := by
      unfold Course.Passed at hpassed
      rwa [husage] at hpassed
    rw [Course.below, husage]
    exact decide_eq_true hless

/-- Storing a row uses up what the request holds. -/
theorem Within.storeRow (h : Within accountID calls sub date P) (hc : calls[i]? = some c)
    {row : Message} {k : Except String Unit → ServerProg Response}
    (hi : P.threads[i]? = some (.act (.db (.createMessage row)) k))
    (hallows : (courseOf P i).Allows accountID c.2.size (.db (.createMessage row)))
    (hkeeps : ∀ b, (k b).Keeps (course accountID c.2.size) (Course.Ends c.2)
      ((courseOf P i).next ⟨.db (.createMessage row), b⟩))
    (horder : InOrder accountID calls sub date P i (.db (.createMessage row))) :
    Within accountID calls sub date (P.advance (server svc.cfg) i (.db (.createMessage row)) k) := by
  obtain ⟨hpassed, hless, -⟩ := hallows
  have hleaves : LeavesQuota (.db (.createMessage row)) := trivial
  rcases hreply : ((server svc.cfg).step (.db (.createMessage row)) P.state).1 with e | ⟨⟩
  · refine h.idle hc hi (t := courseOf P i) (by rw [hreply]; rfl) ?_ hleaves (h.days i) rfl rfl rfl rfl
    rw [hreply]
    exact hkeeps (.error e)
  · have hpending : row.status ≠ "scheduled" := by
      intro hscheduled
      rcases h.alone.step_query svc.cfg (.createMessage row) with
        ⟨hfault, -, -⟩ | ⟨e, -, hval, -⟩ | ⟨e, -, hval, -⟩
      · exact horder hscheduled hfault
      · cases hreply.symm.trans hval
      · cases hreply.symm.trans hval
    refine h.advance hc hi (t := { courseOf P i with
      rows := (courseOf P i).rows ++ [row]
      failed := (courseOf P i).failed || row.createdAt.write.isNone }) (by rw [hreply]; rfl) ?_ ?_ ?_
      (h.days i) ?_ (fun hnone => ?_) (.inr ⟨List.length_append, hpassed, hless⟩)
      fun _ => .inl hpassed
    · rw [hreply]
      exact hkeeps (.ok ())
    · exact (hleaves.step_subscription h.alone).trans h.subscription
    · rw [hleaves.step_countedOn h.alone]
      dsimp only
      omega
    · intro row' hrow'
      rcases List.mem_append.1 hrow' with hold | hnew
      · exact h.plain i row' hold
      · rw [List.mem_singleton.1 hnew]
        exact hpending
    · have hread := hpassed.usage
      rw [show (courseOf P i).usage = none from hnone] at hread
      cases hread

/-- Counting a row leaves what the request holds as it is. -/
theorem Within.countRow (h : Within accountID calls sub date P) (hc : calls[i]? = some c)
    {owner : String} {day : ℤ} {k : Except String Unit → ServerProg Response}
    (hi : P.threads[i]? = some (.act (.db (.incrementUsage owner day)) k))
    (hallows : (courseOf P i).Allows accountID c.2.size (.db (.incrementUsage owner day)))
    (hkeeps : ∀ b, (k b).Keeps (course accountID c.2.size) (Course.Ends c.2)
      ((courseOf P i).next ⟨.db (.incrementUsage owner day), b⟩))
    (horder : InOrder accountID calls sub date P i (.db (.incrementUsage owner day))) :
    Within accountID calls sub date
      (P.advance (server svc.cfg) i (.db (.incrementUsage owner day)) k) := by
  obtain ⟨rfl, hnow, huncounted⟩ := hallows
  obtain ⟨now, hread, rfl⟩ := Option.map_eq_some_iff.1 hnow
  obtain rfl := h.days i now hread
  have hdb : ((server svc.cfg).step (.db (.incrementUsage owner (dayOf now))) P.state).2.db =
      P.state.db.countUsage owner (dayOf now) := by
    rw [step_count h.alone, if_neg (Bool.eq_false_iff.1 horder)]
  refine h.advance hc hi (t := { courseOf P i with dates := (courseOf P i).dates ++ [dayOf now] })
    rfl (hkeeps _) ?_ ?_ (h.days i) (h.plain i) (fun hnone => ?_) (.inl rfl) fun hpassed => .inl hpassed
  · rw [hdb, subscription?, Database.countUsage_subscriptions]
    exact h.subscription
  · rw [hdb, countedOn_countUsage, List.length_append, List.length_singleton]
    push_cast
    ring
  · -- a request that has not read the counter has nothing left to count
    have hsettled := h.reserve.settled i fun hunder => by
      rw [underway_of_act hi, show (courseOf P i).usage = none from hnone] at hunder
      cases hunder
    omega

/-- **A step that does nothing out of order.** -/
theorem Within.step (h : Within accountID calls sub date P) (hc : calls[i]? = some c)
    (hi : P.threads[i]? = some (.act e k))
    (hallows : (courseOf P i).Allows accountID c.2.size e)
    (hkeeps : ∀ b, (k b).Keeps (course accountID c.2.size) (Course.Ends c.2)
      ((courseOf P i).next ⟨e, b⟩))
    (horder : InOrder accountID calls sub date P i e) :
    Within accountID calls sub date (P.advance (server svc.cfg) i e k) := by
  cases e with
  | now =>
    refine h.idle hc hi rfl (hkeeps _) trivial (fun now hnow => ?_) rfl rfl rfl rfl
    obtain rfl := Option.some.inj hnow
    exact h.today
  | uuid | nonce | redis e => exact h.idle hc hi rfl (hkeeps _) trivial (h.days i) rfl rfl rfl rfl
  | db q =>
    cases q with
    | deviceByID | recordSent =>
      exact h.idle hc hi rfl (hkeeps _) trivial (h.days i) rfl rfl rfl rfl
    | usageCounter owner day => exact h.readCounter hc hi hallows hkeeps horder
    | subscription owner => exact h.readSubscription hc hi hallows hkeeps horder
    | createMessage row => exact h.storeRow hc hi hallows hkeeps horder
    | incrementUsage owner day => exact h.countRow hc hi hallows hkeeps horder
    | _ => exact hallows.elim
  | queue e =>
    cases e with
    | now => exact h.idle hc hi rfl (hkeeps _) trivial (h.days i) rfl rfl rfl rfl
    | xAdd name values maxLen =>
      have hk := hkeeps ((server svc.cfg).step (.queue (.xAdd name values maxLen)) P.state).1
      cases hreply : ((server svc.cfg).step (.queue (.xAdd name values maxLen)) P.state).1 with
      | ok id =>
        rw [hreply] at hk
        refine h.idle hc hi (t := courseOf P i) (by rw [hreply]; rfl) ?_ trivial (h.days i)
          rfl rfl rfl rfl
        rw [hreply]
        exact hk
      | error e =>
        rw [hreply] at hk
        refine h.idle hc hi (t := { courseOf P i with failed := true }) (by rw [hreply]; rfl) ?_ trivial
          (h.days i) rfl rfl rfl rfl
        rw [hreply]
        exact hk
    | _ => exact hallows.elim
  | _ => exact hallows.elim

end Step

/-! ## Runs -/

theorem phased_handle : Pool.Phased (KeyedRequest.prog svc accountID)
    (fun c => course accountID c.2.size) (fun c => Course.Ends c.2) Course.next .start where
  next_eq _ := rfl
  expects _ _ := trivial
  keeps c := Request.handle_course svc ⟨accountID, c.1⟩ c.2

/-- A thread has accepted no more messages than it has stored. -/
theorem acceptedBy_le (calls : List KeyedRequest) (w : World) (sched : List ℕ) (i : ℕ) :
    acceptedBy ((portal svc accountID calls w).run (server svc.cfg) sched) i ≤
      (courseOf ((portal svc accountID calls w).run (server svc.cfg) sched) i).rows.length := by
  unfold acceptedBy
  cases hi : ((portal svc accountID calls w).run (server svc.cfg) sched).threads[i]? with
  | none => exact Nat.zero_le _
  | some p =>
    cases p with
    | act e k => exact Nat.zero_le _
    | ret response =>
      obtain ⟨c, hc, -⟩ := Pool.follows (KeyedRequest.prog svc accountID) calls w sched hi
      exact ((phased_handle svc accountID).returned hc hi).accepted_le

/-- **The daily cap**, in runs in which every step is orderly. -/
theorem accepted_le_cap (calls : List KeyedRequest) (w : World) (sub : Subscription) (date : ℤ)
    (sched : List ℕ) (hw : Alone w) (hsince : date * 86400000000000 ≤ w.clock)
    (hbefore : w.horizon < (date + 1) * 86400000000000)
    (husage : usage? w.db accountID date = none)
    (hsub : subscription? w.db accountID = some sub)
    (hsched : Pool.EachStep (server svc.cfg) (Orderly accountID calls sub date)
      (portal svc accountID calls w) sched) :
    (accepted ((portal svc accountID calls w).run (server svc.cfg) sched) : ℤ) ≤
      max 0 (dailyCap sub) := by
  have hstart : Within accountID calls sub date (portal svc accountID calls w) := by
    refine ⟨hw, hsince, hbefore, hsub, fun _ _ => nofun, fun _ _ => nofun, ?_, fun _ => Nat.zero_le _,
      fun _ _ => rfl, ?_⟩
    · have hcounted : countedOn accountID w.db date = 0 := by
        rw [countedOn, husage]
        rfl
      exact hcounted.trans (sum_eq_zero fun _ _ => rfl).symm
    · refine (sum_eq_zero fun j _ => ?_).trans_le (le_max_left _ _)
      exact held_of_not fun hpassed => hpassed.2
  have hrun := Pool.run_phases_inv (phased_handle svc accountID) hstart hsched
    fun P i c β e k hc hi hallows hkeeps hP hG => by
      refine hP.step hc hi hallows hkeeps ?_
      rw [Orderly, hi] at hG
      exact hG
  have hlength : ((portal svc accountID calls w).run (server svc.cfg) sched).threads.length =
      calls.length := by
    rw [Pool.length_run]
    exact List.length_map _
  unfold accepted
  rw [hlength]
  push_cast
  refine le_trans (sum_le_sum fun i _ => ?_) hrun.reserve.stored_le
  exact_mod_cast acceptedBy_le svc accountID calls w sched i

/-! ## Two accounts -/

section Decidable

variable {accountID} {calls : List KeyedRequest} {sub : Subscription} {date : ℤ}

/-- The condition on a command as a test. -/
def inOrder (accountID : String) (calls : List KeyedRequest) (sub : Subscription) (date : ℤ)
    (P : Requests) (i : ℕ) : {β : Type} → ServerCmd β → Bool
  | _, .db (.usageCounter _ _) => decide ((usage? P.state.db accountID date).isNone = true →
      asked calls.length (sizeOf calls) (Underway P) i ≤ dailyCap sub)
  | _, .db (.subscription _) =>
    decide (P.state.next.fault = .none ∧ ((courseOf P i).below (withBuffer sub) = true →
      countedOn accountID P.state.db date + asked calls.length (sizeOf calls) (Underway P) i ≤
        dailyCap sub))
  | _, .db (.createMessage row) => decide (row.status = "scheduled" → P.state.next.fault ≠ .none)
  | _, .db (.incrementUsage _ _) => decide (P.state.next.fault.isRefused = false)
  | _, _ => true

instance decidableInOrder (P : Requests) (i : ℕ) {β : Type} (e : ServerCmd β) :
    Decidable (InOrder accountID calls sub date P i e) :=
  decidable_of_iff (inOrder accountID calls sub date P i e = true) (by
    cases e with
    | db q =>
      cases q with
      | usageCounter | subscription | createMessage | incrementUsage => exact decide_eq_true_iff
      | _ => exact iff_of_true rfl trivial
    | _ => exact iff_of_true rfl trivial)

instance decidableOrderly (P : Requests) (i : ℕ) :
    Decidable (Orderly accountID calls sub date P i) := by
  unfold Orderly
  split <;> infer_instance

end Decidable

/-- The server of an account with a subscription. -/
def subscribed (sub : Subscription) : World :=
  { onePhone [] with db := { (onePhone []).db with subscriptions := [sub] } }

/-- A subscription without any messages. -/
def noMessages : Subscription := { starter "active" with quotaDaily := 0 }

/-- The request to `send` of the account, by itself. -/
def oneOrder : List KeyedRequest := [(order.caller.apiKeyID, .send order.body)]

/-- The message is accepted all the same: the account has no counter yet. -/
theorem noMessages_accepted :
    ¬ (accepted ((portal plainServices order.caller.accountID oneOrder (subscribed noMessages)).run
      (server plainServices.cfg) (List.replicate 20 0)) : ℤ) ≤ max 0 (dailyCap noMessages) := by
  decide +kernel

/-- With a subscription that allows it, the request does nothing out of order. -/
theorem accepted_le_cap_starter :
    (accepted ((portal plainServices order.caller.accountID oneOrder
      (subscribed (starter "active"))).run (server plainServices.cfg) (List.replicate 20 0)) : ℤ) ≤
        max 0 (dailyCap (starter "active")) :=
  accepted_le_cap plainServices order.caller.accountID oneOrder (subscribed (starter "active"))
    (starter "active") 0 (List.replicate 20 0) (fun _ ht => absurd ht List.not_mem_nil) (by decide)
    (by decide) rfl rfl (by decide +kernel)

end AeroxeBee.Api
