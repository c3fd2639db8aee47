import AeroxeBee.Api.Quota
import AeroxeBee.Dispatch.Opening

/-!
# The usage that is billed

The handlers count a message when they store it, and the worker counts it once more when it has
handed it to a device; a message for later is counted by nobody before it is dispatched, and then
for no account. The invoice is computed from the counters.

* `Tallied.step`: what one step of a request, of the worker or of the scheduler does to the counters
  of an account;
* `usage_matches`: in every run in which the worker counts nothing for the account, and the requests
  count each message once, on the day it is accepted, the counters and the invoices of the account
  stand for the messages that were accepted.
-/

namespace AeroxeBee.Api

open Foundations Dispatch Finset

/-! ## The invoice -/

/-- The days of a month. -/
def inMonth (year month : ℤ) (date : ℤ) : Bool :=
  Civil.toDays ⟨year, month, 1⟩ ≤ date && date ≤ Civil.toDays ⟨year, month, Civil.daysIn month year⟩

/-- How many messages of an account were counted in a month. -/
def getMonthlyUsage (accountID : String) (year month : ℤ) : ServerProg (Except String ℤ) :=
  Prog.call (.db (.usageBetween accountID (Civil.toDays ⟨year, month, 1⟩)
    (Civil.toDays ⟨year, month, Civil.daysIn month year⟩)))

/-- What an account has to pay for a month. -/
structure InvoiceData where
  accountID : String
  year : ℤ
  month : ℤ
  totalSMS : ℤ
  planPrice : ℚ
  overageCost : ℚ
  total : ℚ
deriving DecidableEq

/-- The invoice for a number of messages. What goes beyond the quota costs extra. -/
def invoice (accountID : String) (year month monthly : ℤ) :
    Option (Subscription × Plan) → InvoiceData
  | none => ⟨accountID, year, month, monthly, 0, 0, 0⟩
  | some (sub, plan) =>
    let overage := monthly - sub.quotaMonthly
    let overageCost : ℚ := if 0 < overage then overage * plan.pricePerSMS else 0
    ⟨accountID, year, month, monthly, plan.monthlyPrice, overageCost,
      plan.monthlyPrice + overageCost⟩

/-- The invoice of an account for a month. -/
def getInvoiceData (accountID : String) (year month : ℤ) : ServerProg (Except String InvoiceData) := do
  match ← getMonthlyUsage accountID year month with
  | .error e => return .error e
  | .ok monthly =>
    match ← Prog.call (.db (.subscription accountID)) with
    | .error e => return .error e
    | .ok none => return .ok (invoice accountID year month monthly none)
    | .ok (some sub) =>
      match ← Prog.call (.db (.registry (.plan sub.planType))) with
      | .ok (some plan) => return .ok (invoice accountID year month monthly (some (sub, plan)))
      | _ => return .ok (invoice accountID year month monthly none)

/-- The subscription of an account with its plan. -/
def priced (db : Database) (accountID : String) : Option (Subscription × Plan) :=
  (subscription? db accountID).bind fun sub =>
    (db.registry.plans.find? (·.id = sub.planType)).map (sub, ·)

/-- **The invoice is computed from the counters.** -/
theorem getInvoiceData_val {cfg : Config} {w : World} (h : CalmFor 3 w) (accountID : String)
    (year month : ℤ) : ((getInvoiceData accountID year month).exec (server cfg) w).val =
      .ok (invoice accountID year month (w.db.usage accountID (inMonth year month))
        (priced w.db accountID)) := by
  let first := Civil.toDays ⟨year, month, 1⟩
  let last := Civil.toDays ⟨year, month, Civil.daysIn month year⟩
  let w₁ := ((server cfg).step (.db (.usageBetween accountID first last)) w).2
  have hval₁ : ((server cfg).step (.db (.usageBetween accountID first last)) w).1 =
      .ok (w.db.usage accountID (inMonth year month)) :=
    (h.step_query cfg (.usageBetween accountID first last)).1
  have hdb₁ : w₁.db = w.db := (h.step_query cfg (.usageBetween accountID first last)).2
  have h₁ : CalmFor 2 w₁ := h.step _
  let w₂ := ((server cfg).step (.db (.subscription accountID)) w₁).2
  have hval₂ : ((server cfg).step (.db (.subscription accountID)) w₁).1 =
      .ok (subscription? w.db accountID) := by
    rw [← hdb₁]
    exact (h₁.step_query cfg (.subscription accountID)).1
  have hdb₂ : w₂.db = w.db := (h₁.step_query cfg (.subscription accountID)).2.trans hdb₁
  have h₂ : CalmFor 1 w₂ := h₁.step _
  unfold getInvoiceData getMonthlyUsage priced
  rw [Prog.call_bind, Prog.exec_act, hval₁]
  dsimp only
  rw [Prog.call_bind, Prog.exec_act, hval₂]
  cases subscription? w.db accountID with
  | none => rfl
  | some sub =>
    have hval₃ : ((server cfg).step (.db (.registry (.plan sub.planType))) w₂).1 =
        .ok (w.db.registry.plans.find? (·.id = sub.planType)) := by
      rw [← hdb₂]
      exact (h₂.step_query cfg (.registry (.plan sub.planType))).1
    dsimp only
    rw [Prog.call_bind, Prog.exec_act, hval₃, Option.bind_some]
    cases w.db.registry.plans.find? (·.id = sub.planType) <;> rfl

/-! ## Requests, the worker and the scheduler -/

/-- What runs on the server: a request, the dispatch of a message from the queue, or a round of the
scheduler. A message whose dispatch has failed is dispatched again. -/
inductive Job where
  | request (caller : Caller) (r : Request)
  | dispatch (msg : QueueMessage)
  | round

/-- The program of a job, with the response of a request. -/
def Job.prog (svc : Services) (scan : ContentScan) : Job → ServerProg (Option Response)
  | request caller r => do
    let response ← r.handle svc caller
    return some response
  | dispatch msg => do
    let _ ← processMessage svc.cfg scan msg
    return none
  | round => do
    processDue svc
    return none

/-- Jobs that are done concurrently. -/
abbrev Jobs := Pool ServerCmd World (Option Response)

/-- The jobs, none of which has begun. -/
def working (svc : Services) (scan : ContentScan) (jobs : List Job) (w : World) : Jobs :=
  .start (jobs.map (Job.prog svc scan)) w

section Statement

variable (accountID : String)

/-- How many messages a response accepts on some days. -/
def Response.acceptedIn (days : ℤ → Bool) (response : Response) : ℕ :=
  if days (dayOf response.createdAt) = true then response.accepted else 0

/-- How many messages of the account a job has accepted on some days. -/
def Job.acceptedIn (days : ℤ → Bool) : Job → Option (Option Response) → ℕ
  | request caller _, some (some response) =>
    if caller.accountID = accountID then response.acceptedIn days else 0
  | _, _ => 0

/-- How many messages of the account were accepted on some days. -/
def acceptedIn (days : ℤ → Bool) (jobs : List Job) (P : Jobs) : ℕ :=
  ∑ i ∈ range jobs.length, jobs[i]?.elim 0 fun job =>
    job.acceptedIn accountID days (P.threads[i]?.bind Pool.returned)

/-- Every request of the account has been answered. -/
def Answered (jobs : List Job) (P : Jobs) : Prop :=
  ∀ (i : ℕ) (caller : Caller) (r : Request), jobs[i]? = some (.request caller r) →
    caller.accountID = accountID → ∃ response, P.threads[i]? = some (.ret (some response))

theorem answered_of_returned {P : Jobs} {i : ℕ}
    (h : ((P.threads[i]?.bind Pool.returned).bind id).isSome = true) :
    ∃ response, P.threads[i]? = some (.ret (some response)) := by
  cases hi : P.threads[i]? with
  | none =>
    rw [hi] at h
    cases h
  | some p =>
    cases p with
    | act e k =>
      rw [hi] at h
      cases h
    | ret result =>
      cases result with
      | none =>
        rw [hi] at h
        cases h
      | some response => exact ⟨response, rfl⟩

/-- **The usage is that of the accepted messages**: the counters have advanced by the number of
messages that were accepted on each day, and the invoice of a month is one for the messages that
were accepted in it. -/
structure UsageMatches (cfg : Config) (jobs : List Job) (w : World) (P : Jobs) : Prop where
  daily : ∀ date, countedOn accountID P.state.db date =
    countedOn accountID w.db date + acceptedIn accountID (· = date) jobs P
  monthly : ∀ year month, P.state.db.usage accountID (inMonth year month) =
    w.db.usage accountID (inMonth year month) + acceptedIn accountID (inMonth year month) jobs P
  invoiced : ∀ year month, CalmFor 3 P.state →
    ((getInvoiceData accountID year month).exec (server cfg) P.state).val =
      .ok (invoice accountID year month (w.db.usage accountID (inMonth year month) +
        acceptedIn accountID (inMonth year month) jobs P) (priced P.state.db accountID))

/-- The next command of a job does not upset the counters of the account. A request of the account
does not store a message for later, counts each message on the day it was created, and where its
answer depends on it puts the message on the queue; and the worker does not count. -/
def CountsOnce (P : Jobs) (i : ℕ) : Job → {β : Type} → ServerCmd β → Prop
  | .request caller r, _, .db (.createMessage row) => caller.accountID = accountID →
    (row.status = "scheduled" → P.state.next.fault ≠ .none) ∧
      (r.AnswersEnqueue → row.createdAt.write.isSome = true)
  | .request caller _, _, .db (.incrementUsage _ date) => caller.accountID = accountID →
    P.state.next.fault.isRefused = false ∧
      (courseOf P i).rows.getLast?.all fun row => dayOf row.createdAt.nanos = date
  | .request caller r, _, .queue (.xAdd _ _ _) =>
    caller.accountID = accountID → r.AnswersEnqueue → P.state.next.fault = .none
  | .dispatch _, _, .db (.incrementUsage owner _) =>
    owner = accountID → P.state.next.fault.isRefused = true
  | _, _, _ => True

/-- The step of a job does not upset the counters of the account. -/
def KeepsCount (jobs : List Job) (P : Jobs) (i : ℕ) : Prop :=
  match jobs[i]?, P.threads[i]? with
  | some job, some (.act e _) => CountsOnce accountID P i job e
  | _, _ => True

end Statement

/-! ## What the jobs do to the counters -/

section Protocols

variable {svc : Services} {scan : ContentScan}

theorem releaseAll_leavesQuota (now : ℤ) (rows : List Message) :
    (releaseAll svc now rows).Only LeavesQuota := by
  have henqueue (lane : PriorityLane) (msg : QueueMessage) :
      (enqueue svc lane msg).Only LeavesQuota :=
    (Prog.only_of_forall (P := fun _ => True) (fun _ => trivial) _).embed fun _ _ => trivial
  induction rows with
  | nil => trivial
  | cons row rows ih =>
    refine Prog.Only.bind ?_ fun _ => ih
    unfold releaseOne
    split_ifs
    · trivial
    · cases plaintext svc row with
      | error e => trivial
      | ok text =>
        refine ⟨trivial, fun released => ?_⟩
        cases released with
        | error e => trivial
        | ok =>
          refine (henqueue _ _).bind fun enqueued => ?_
          cases enqueued with
          | ok n => trivial
          | error e => exact ⟨trivial, fun _ => trivial⟩

theorem processDue_leavesQuota : (processDue svc).Only LeavesQuota := by
  refine ⟨trivial, fun now => ⟨trivial, fun rows => ?_⟩⟩
  cases rows with
  | error e => trivial
  | ok rows => exact releaseAll_leavesQuota now rows

/-- The protocol of a job. -/
def Job.protocol : Job → Protocol ServerCmd Course
  | request caller r => course caller.accountID r.size
  | dispatch _ => ⟨fun _ => Handles, fun _ => True, Course.next⟩
  | round => ⟨fun _ => LeavesQuota, fun _ => True, Course.next⟩

/-- How a job ends. -/
def Job.Ends : Job → Course → Option Response → Prop
  | request _ r, s, result => ∃ response, result = some response ∧ s.Ends r response
  | _, _, _ => True

theorem Job.ends_request {caller : Caller} {r : Request} {s : Course} {response : Response}
    (h : (Job.request caller r).Ends s (some response)) : s.Ends r response := by
  obtain ⟨response', hresponse, hends⟩ := h
  obtain rfl := Option.some.inj hresponse
  exact hends

variable (svc scan) in
theorem phased_jobs :
    Pool.Phased (Job.prog svc scan) Job.protocol Job.Ends Course.next .start where
  next_eq job := by cases job <;> rfl
  expects job _ := by cases job <;> trivial
  keeps job := by
    cases job with
    | request caller r =>
      exact (Request.handle_course svc caller r).bind fun s response h => ⟨response, rfl, h⟩
    | dispatch msg =>
      exact Prog.keeps_of_only_forall (processMessage_handles.bind fun _ => trivial)
        (fun _ _ _ he => he) fun _ _ => trivial
    | round =>
      exact Prog.keeps_of_only_forall (processDue_leavesQuota.bind fun _ => trivial)
        (fun _ _ _ he => he) fun _ _ => trivial

end Protocols

/-! ## A step of a job -/

section Step

variable {svc : Services} {accountID owner : String} {date : ℤ} {days : ℤ → Bool} {w : World}
  {β : Type} {e : ServerCmd β}

theorem LeavesQuota.step_usage (h : LeavesQuota e) (hw : Alone w) :
    ((server svc.cfg).step e w).2.db.usage accountID days = w.db.usage accountID days := by
  unfold Database.usage
  rw [(h.step hw).1]

theorem LeavesQuota.step_unique (h : LeavesQuota e) (hw : Alone w) (hunique : w.db.UniqueCounters) :
    ((server svc.cfg).step e w).2.db.UniqueCounters := by
  unfold Database.UniqueCounters
  rw [(h.step hw).1]
  exact hunique

theorem step_count_unique (hw : Alone w) (hunique : w.db.UniqueCounters) (owner : String)
    (date : ℤ) :
    ((server svc.cfg).step (.db (.incrementUsage owner date)) w).2.db.UniqueCounters := by
  rw [step_count hw]
  split_ifs
  · exact hunique
  · exact hunique.countUsage owner date

/-- What is counted for another account, or not at all. -/
theorem step_count_usage (hw : Alone w) (owner : String) (date : ℤ)
    (h : owner = accountID → w.next.fault.isRefused = true) :
    ((server svc.cfg).step (.db (.incrementUsage owner date)) w).2.db.usage accountID days =
      w.db.usage accountID days := by
  rw [step_count hw]
  split_ifs with hrefused
  · rfl
  · exact Database.usage_countUsage_of_ne fun howner => hrefused (h howner)

/-- A request that has only stored messages for now, has met with no failure, and has counted its
messages on the days they were created. -/
structure Course.Tidy (r : Request) (s : Course) : Prop where
  plain : ∀ row ∈ s.rows, row.status ≠ "scheduled"
  sent : r.AnswersEnqueue → s.failed = false
  days : s.dates <+: s.rows.map fun row => dayOf row.createdAt.nanos

theorem Course.Tidy.congr {r : Request} {s t : Course} (h : s.Tidy r) (hrows : t.rows = s.rows)
    (hdates : t.dates = s.dates) (hfailed : t.failed = s.failed) : t.Tidy r := by
  obtain ⟨hplain, hsent, hdays⟩ := h
  rw [← hrows] at hplain hdays
  rw [← hdates] at hdays
  rw [← hfailed] at hsent
  exact ⟨hplain, hsent, hdays⟩

theorem Course.Tidy.store {r : Request} {s : Course} (h : s.Tidy r) {row : Message}
    (hpending : row.status ≠ "scheduled")
    (hwritten : r.AnswersEnqueue → row.createdAt.write.isSome = true) :
    Course.Tidy r { s with
      rows := s.rows ++ [row], failed := s.failed || row.createdAt.write.isNone } := by
  refine ⟨fun row' hrow' => ?_, fun hr => ?_, ?_⟩
  · rcases List.mem_append.1 hrow' with hold | hnew
    · exact h.plain row' hold
    · rw [List.mem_singleton.1 hnew]
      exact hpending
  · simp [h.sent hr, ← Option.not_isSome, hwritten hr]
  · rw [List.map_append]
    exact h.days.trans (List.prefix_append _ _)

theorem Course.Tidy.count {r : Request} {s : Course} (h : s.Tidy r)
    (hlength : s.rows.length = s.dates.length + 1)
    (hlast : s.rows.getLast?.all fun row => dayOf row.createdAt.nanos = date) :
    Course.Tidy r { s with dates := s.dates ++ [date] } := by
  refine ⟨h.plain, h.sent, ?_⟩
  rcases List.eq_nil_or_concat s.rows with hnil | ⟨rows, row, hrows⟩
  · rw [hnil] at hlength
    cases hlength
  · rw [List.concat_eq_append] at hrows
    rw [hrows, List.getLast?_concat] at hlast
    obtain rfl : dayOf row.createdAt.nanos = date := of_decide_eq_true hlast
    have hdays := h.days
    rw [hrows, List.length_append, List.length_singleton] at hlength
    change s.dates ++ [dayOf row.createdAt.nanos] <+: s.rows.map fun row => dayOf row.createdAt.nanos
    rw [hrows, List.map_append] at hdays ⊢
    have hlength' : s.dates.length = (rows.map fun row => dayOf row.createdAt.nanos).length := by
      rw [List.length_map]
      omega
    have hold : s.dates <+: rows.map fun row => dayOf row.createdAt.nanos :=
      List.prefix_of_prefix_length_le hdays (List.prefix_append _ _) hlength'.le
    rw [hold.eq_of_length hlength']
    exact List.prefix_rfl

/-- **A request that is answered has counted what it has accepted**, on the day it has accepted
it. -/
theorem Course.Tidy.countP_dates {r : Request} {s : Course} (h : s.Tidy r) {response : Response}
    (hends : s.Ends r response) (days : ℤ → Bool) :
    s.dates.countP days = response.acceptedIn days := by
  have haccepted := hends.accepted_eq h.sent
  have hdates : s.dates = s.rows.map fun row => dayOf row.createdAt.nanos := by
    refine h.days.eq_of_length ?_
    rw [List.length_map, hends.counted h.plain]
  rw [hdates, List.countP_map]
  unfold Response.acceptedIn
  by_cases hnone : response.accepted = 0
  · rw [hnone, List.length_eq_zero_iff.1 (haccepted.symm.trans hnone)]
    split_ifs <;> rfl
  · have hday (row : Message) (hrow : row ∈ s.rows) :
        (days ∘ fun row : Message => dayOf row.createdAt.nanos) row =
          days (dayOf response.createdAt) := by
      rw [Function.comp_apply, hends.createdAt hnone row hrow]
    split_ifs with hin
    · rw [haccepted, List.countP_eq_length]
      exact fun row hrow => (hday row hrow).trans hin
    · rw [List.countP_eq_zero]
      exact fun row hrow hout => hin ((hday row hrow).symm.trans hout)

/-! The counters of an account while jobs are under way. -/

variable {scan : ContentScan} {jobs : List Job} {P : Jobs} {i : ℕ} {job : Job}
  {k : β → ServerProg (Option Response)}

variable (accountID days) in
/-- How many messages of the account a job has counted on some days. -/
def Job.counted (job : Job) (s : Course) : ℕ :=
  match job with
  | request caller _ => if caller.accountID = accountID then s.dates.countP days else 0
  | _ => 0

variable (accountID w jobs) in
/-- The counters have advanced by what the requests of the account have counted, and these are
tidy. -/
structure Tallied (P : Jobs) : Prop where
  alone : Alone P.state
  unique : P.state.db.UniqueCounters
  usage : ∀ days, P.state.db.usage accountID days = w.db.usage accountID days +
    ∑ i ∈ range jobs.length, ((jobs[i]?.elim 0 fun job =>
      job.counted accountID days (courseOf P i) : ℕ) : ℤ)
  tidy : ∀ (i : ℕ) (caller : Caller) (r : Request), jobs[i]? = some (.request caller r) →
    caller.accountID = accountID → (courseOf P i).Tidy r

/-- What has to be said of a step. -/
theorem Tallied.advance (h : Tallied accountID w jobs P) (hjob : jobs[i]? = some job) {t : Course}
    (ht : (courseOf P i).next ⟨e, ((server svc.cfg).step e P.state).1⟩ = t)
    (hunique : ((server svc.cfg).step e P.state).2.db.UniqueCounters)
    (husage : ∀ days, ((server svc.cfg).step e P.state).2.db.usage accountID days +
      (job.counted accountID days (courseOf P i) : ℤ) =
        P.state.db.usage accountID days + job.counted accountID days t)
    (htidy : ∀ caller r, job = .request caller r → caller.accountID = accountID → t.Tidy r) :
    Tallied accountID w jobs (P.advance (server svc.cfg) i e k) := by
  have hlt : i < jobs.length := (List.getElem?_eq_some_iff.1 hjob).1
  have hphase : courseOf (P.advance (server svc.cfg) i e k) =
      Function.update (courseOf P) i t := by
    funext j
    rw [courseOf, Pool.phase_advance, ← ht]
  refine ⟨h.alone.step e, hunique, fun days => ?_, fun j caller r hj hcaller => ?_⟩
  · have hsum := Pool.sum_of_eq_off hlt
      (f := fun j => ((jobs[j]?.elim 0 fun job =>
        job.counted accountID days (courseOf P j) : ℕ) : ℤ))
      (g := fun j => ((jobs[j]?.elim 0 fun job =>
        job.counted accountID days (Function.update (courseOf P) i t j) : ℕ) : ℤ))
      fun j hj => by rw [Function.update_of_ne hj]
    have hbefore := h.usage days
    have hstep := husage days
    rw [hphase, hsum, hjob, Function.update_self]
    change ((server svc.cfg).step e P.state).2.db.usage accountID days = _
    simp only [Option.elim_some]
    omega
  · rw [hphase]
    by_cases hji : j = i
    · subst hji
      rw [Function.update_self]
      exact htidy caller r (Option.some.inj (hjob.symm.trans hj)) hcaller
    · rw [Function.update_of_ne hji]
      exact h.tidy j caller r hj hcaller

/-- What has to be said of a step that counts nothing. -/
theorem Tallied.aside (h : Tallied accountID w jobs P) (hjob : jobs[i]? = some job) {t : Course}
    (ht : (courseOf P i).next ⟨e, ((server svc.cfg).step e P.state).1⟩ = t)
    (hleaves : LeavesQuota e) (hdates : t.dates = (courseOf P i).dates)
    (htidy : ∀ caller r, job = .request caller r → caller.accountID = accountID → t.Tidy r) :
    Tallied accountID w jobs (P.advance (server svc.cfg) i e k) := by
  refine h.advance hjob ht (hleaves.step_unique h.alone h.unique) (fun days => ?_) htidy
  have hcounted : job.counted accountID days t = job.counted accountID days (courseOf P i) := by
    unfold Job.counted
    rw [hdates]
  rw [hleaves.step_usage h.alone, hcounted]

/-- The worker and the scheduler have no course. -/
theorem Tallied.other (h : Tallied accountID w jobs P) (hjob : jobs[i]? = some job)
    (hother : ∀ caller r, job ≠ .request caller r)
    (hunique : ((server svc.cfg).step e P.state).2.db.UniqueCounters)
    (husage : ∀ days, ((server svc.cfg).step e P.state).2.db.usage accountID days =
      P.state.db.usage accountID days) :
    Tallied accountID w jobs (P.advance (server svc.cfg) i e k) := by
  have hcounted (days : ℤ → Bool) (s : Course) : job.counted accountID days s = 0 := by
    cases job with
    | request caller r => exact absurd rfl (hother caller r)
    | dispatch | round => rfl
  refine h.advance hjob rfl hunique (fun days => ?_) fun caller r hrequest => ?_
  · rw [hcounted, hcounted, husage]
  · exact absurd hrequest (hother caller r)

/-- A request counts each message once, on the day it was created. -/
theorem Tallied.count {caller : Caller} {r : Request} (h : Tallied accountID w jobs P)
    (hjob : jobs[i]? = some (.request caller r))
    {k : Except String Unit → ServerProg (Option Response)}
    (hallows : (courseOf P i).Allows caller.accountID r.size (.db (.incrementUsage owner date)))
    (horder : CountsOnce accountID P i (.request caller r) (.db (.incrementUsage owner date))) :
    Tallied accountID w jobs (P.advance (server svc.cfg) i (.db (.incrementUsage owner date)) k) := by
  obtain ⟨rfl, -, hlength⟩ := hallows
  refine h.advance hjob (t := { courseOf P i with dates := (courseOf P i).dates ++ [date] }) rfl
    (step_count_unique h.alone h.unique _ _) (fun days => ?_) fun caller' r' hrequest hcaller => ?_
  · by_cases hcaller : caller.accountID = accountID
    · obtain ⟨hexecuted, -⟩ := horder hcaller
      rw [step_count h.alone, hexecuted, if_neg Bool.false_ne_true, hcaller,
        Database.usage_countUsage h.unique]
      unfold Job.counted
      dsimp only
      rw [if_pos hcaller, if_pos hcaller, List.countP_append, List.countP_singleton]
      split_ifs <;> omega
    · rw [step_count_usage h.alone _ _ fun howner => absurd howner hcaller]
      unfold Job.counted
      dsimp only
      rw [if_neg hcaller, if_neg hcaller]
  · obtain ⟨rfl, rfl⟩ := Job.request.inj hrequest
    exact (h.tidy i caller r hjob hcaller).count hlength (horder hcaller).2

/-- **A step of a request.** -/
theorem Tallied.request {caller : Caller} {r : Request} (h : Tallied accountID w jobs P)
    (hjob : jobs[i]? = some (.request caller r))
    (hallows : (courseOf P i).Allows caller.accountID r.size e)
    (horder : CountsOnce accountID P i (.request caller r) e) :
    Tallied accountID w jobs (P.advance (server svc.cfg) i e k) := by
  have htidy (t : Course) (hstep : caller.accountID = accountID → t.Tidy r) (caller' : Caller)
      (r' : Request) (hrequest : Job.request caller r = .request caller' r')
      (hcaller : caller'.accountID = accountID) : t.Tidy r' := by
    obtain ⟨rfl, rfl⟩ := Job.request.inj hrequest
    exact hstep hcaller
  have hsame (t : Course) (hrows : t.rows = (courseOf P i).rows)
      (hdates : t.dates = (courseOf P i).dates) (hfailed : t.failed = (courseOf P i).failed) :=
    htidy t fun hcaller => (h.tidy i caller r hjob hcaller).congr hrows hdates hfailed
  cases e with
  | now | uuid | nonce | redis e =>
    exact h.aside hjob rfl trivial rfl (hsame _ rfl rfl rfl)
  | db q =>
    cases q with
    | deviceByID | recordSent => exact h.aside hjob rfl trivial rfl (hsame _ rfl rfl rfl)
    | usageCounter owner date =>
      cases hreply : ((server svc.cfg).step (.db (.usageCounter owner date)) P.state).1 with
      | error e =>
        exact h.aside hjob (t := courseOf P i) (by rw [hreply]; rfl) trivial rfl
          (hsame _ rfl rfl rfl)
      | ok found =>
        exact h.aside hjob (t := { courseOf P i with usage := some found, sub := none })
          (by rw [hreply]; rfl) trivial rfl (hsame _ rfl rfl rfl)
    | subscription owner =>
      cases hreply : ((server svc.cfg).step (.db (.subscription owner)) P.state).1 with
      | error e =>
        exact h.aside hjob (t := { courseOf P i with sub := some none }) (by rw [hreply]; rfl) trivial
          rfl (hsame _ rfl rfl rfl)
      | ok sub =>
        exact h.aside hjob (t := { courseOf P i with sub := some sub }) (by rw [hreply]; rfl) trivial
          rfl (hsame _ rfl rfl rfl)
    | createMessage row =>
      rcases hreply : ((server svc.cfg).step (.db (.createMessage row)) P.state).1 with e | ⟨⟩
      · exact h.aside hjob (t := courseOf P i) (by rw [hreply]; rfl) trivial rfl
          (hsame _ rfl rfl rfl)
      · refine h.aside hjob (t := { courseOf P i with
          rows := (courseOf P i).rows ++ [row]
          failed := (courseOf P i).failed || row.createdAt.write.isNone }) (by rw [hreply]; rfl)
          trivial rfl (htidy _ fun hcaller => ?_)
        obtain ⟨hpending, hwritten⟩ := horder hcaller
        refine (h.tidy i caller r hjob hcaller).store (fun hscheduled => ?_) hwritten
        -- a statement that is answered has been executed
        refine hpending hscheduled ?_
        rcases h.alone.step_query svc.cfg (.createMessage row) with
          ⟨hfault, -, -⟩ | ⟨e, -, hval, -⟩ | ⟨e, -, hval, -⟩
        · exact hfault
        · cases hreply.symm.trans hval
        · cases hreply.symm.trans hval
    | incrementUsage owner date => exact h.count hjob hallows horder
    | _ => exact hallows.elim
  | queue e =>
    cases e with
    | now => exact h.aside hjob rfl trivial rfl (hsame _ rfl rfl rfl)
    | xAdd name values maxLen =>
      cases hreply : ((server svc.cfg).step (.queue (.xAdd name values maxLen)) P.state).1 with
      | ok id =>
        exact h.aside hjob (t := courseOf P i) (by rw [hreply]; rfl) trivial rfl
          (hsame _ rfl rfl rfl)
      | error e =>
        refine h.aside hjob (t := { courseOf P i with failed := true }) (by rw [hreply]; rfl) trivial
          rfl (htidy _ fun hcaller => ?_)
        obtain ⟨hplain, -, hdays⟩ := h.tidy i caller r hjob hcaller
        refine ⟨hplain, fun hr => ?_, hdays⟩
        have hfault := horder hcaller hr
        rcases xAdd_cases svc h.alone name values maxLen with
          ⟨hrefused, -, -⟩ | ⟨-, -, -, ⟨-, id, hok⟩ | ⟨hlost, -⟩⟩
        · rw [hfault] at hrefused
          cases hrefused
        · cases hreply.symm.trans hok
        · exact absurd hfault hlost
    | _ => exact hallows.elim
  | _ => exact hallows.elim

/-- **A step of a job** that does not upset the counters of the account. -/
theorem Tallied.step (h : Tallied accountID w jobs P) (hjob : jobs[i]? = some job)
    (hallows : job.protocol.allows (courseOf P i) e) (horder : CountsOnce accountID P i job e) :
    Tallied accountID w jobs (P.advance (server svc.cfg) i e k) := by
  cases job with
  | request caller r => exact h.request hjob hallows horder
  | round =>
    have hleaves : LeavesQuota e := hallows
    exact h.other hjob nofun (hleaves.step_unique h.alone h.unique) fun _ =>
      hleaves.step_usage h.alone
  | dispatch msg =>
    have haside (hleaves : LeavesQuota e) :
        Tallied accountID w jobs (P.advance (server svc.cfg) i e k) :=
      h.other hjob nofun (hleaves.step_unique h.alone h.unique) fun _ => hleaves.step_usage h.alone
    cases e with
    | db q =>
      cases q with
      | incrementUsage owner date =>
        exact h.other hjob nofun (step_count_unique h.alone h.unique _ _) fun _ =>
          step_count_usage h.alone owner date horder
      | updateSubscription | deleteAccount => exact hallows.elim
      | _ => exact haside trivial
    | _ => exact haside trivial

theorem Course.tidy_start (r : Request) : Course.start.Tidy r where
  plain _ hrow := absurd hrow List.not_mem_nil
  sent _ := rfl
  days := List.prefix_rfl

/-- Before the jobs have begun, nothing is counted. -/
theorem Job.counted_start (job : Job) : job.counted accountID days .start = 0 := by
  cases job with
  | request caller r => exact ite_self 0
  | dispatch | round => rfl

variable (svc scan) in
theorem tallied_start (hw : Alone w) (hunique : w.db.UniqueCounters) :
    Tallied accountID w jobs (working svc scan jobs w) where
  alone := hw
  unique := hunique
  usage days := by
    have hzero : ∑ i ∈ range jobs.length, ((jobs[i]?.elim 0 fun job =>
        job.counted accountID days (courseOf (working svc scan jobs w) i) : ℕ) : ℤ) = 0 := by
      refine sum_eq_zero fun i _ => ?_
      cases jobs[i]? with
      | none => rfl
      | some job => exact congrArg Nat.cast (Job.counted_start job)
    rw [hzero, add_zero]
    rfl
  tidy _ _ r _ _ := Course.tidy_start r

/-- **When the requests of the account have been answered**, the counters have advanced by what they
have accepted. -/
theorem Tallied.usage_eq (h : Tallied accountID w jobs P) (hdone : Answered accountID jobs P)
    (hends : ∀ i caller r response, jobs[i]? = some (.request caller r) →
      P.threads[i]? = some (.ret (some response)) → (courseOf P i).Ends r response) :
    P.state.db.usage accountID days =
      w.db.usage accountID days + acceptedIn accountID days jobs P := by
  rw [h.usage days, acceptedIn]
  push_cast
  refine congrArg _ (sum_congr rfl fun i _ => ?_)
  cases hjob : jobs[i]? with
  | none => rfl
  | some job =>
    cases job with
    | dispatch | round => rfl
    | request caller r =>
      rw [Option.elim_some, Option.elim_some, Job.counted]
      by_cases hcaller : caller.accountID = accountID
      · obtain ⟨response, hi⟩ := hdone i caller r hjob hcaller
        have hcounted := (h.tidy i caller r hjob hcaller).countP_dates
          (hends i caller r response hjob hi) days
        rw [hi, if_pos hcaller, hcounted]
        exact congrArg Nat.cast (if_pos hcaller).symm
      · rw [if_neg hcaller]
        cases P.threads[i]?.bind Pool.returned with
        | none => rfl
        | some result =>
          cases result with
          | none => rfl
          | some response => exact congrArg Nat.cast (if_neg hcaller).symm

end Step

/-! ## Runs -/

section Runs

variable (svc : Services) (scan : ContentScan) (accountID : String)

/-- **The usage that is billed**, in runs in which no step upsets the counters of the account. -/
theorem usage_matches (jobs : List Job) (w : World) (sched : List ℕ) (hw : Alone w)
    (hunique : w.db.UniqueCounters)
    (hsched : Pool.EachStep (server svc.cfg) (KeepsCount accountID jobs) (working svc scan jobs w)
      sched)
    (hdone : Answered accountID jobs ((working svc scan jobs w).run (server svc.cfg) sched)) :
    UsageMatches accountID svc.cfg jobs w ((working svc scan jobs w).run (server svc.cfg) sched) := by
  have hrun : Tallied accountID w jobs ((working svc scan jobs w).run (server svc.cfg) sched) :=
    Pool.run_phases_inv (phased_jobs svc scan) (tallied_start svc scan hw hunique) hsched
      fun P i job β e k hjob hi hallows _ hP hG => by
        rw [KeepsCount, hjob, hi] at hG
        exact hP.step hjob hallows hG
  have hends (i : ℕ) (caller : Caller) (r : Request) (response : Response)
      (hjob : jobs[i]? = some (.request caller r))
      (hi : ((working svc scan jobs w).run (server svc.cfg) sched).threads[i]? =
        some (.ret (some response))) :
      (courseOf ((working svc scan jobs w).run (server svc.cfg) sched) i).Ends r response :=
    Job.ends_request ((phased_jobs svc scan).returned hjob hi)
  refine ⟨fun date => ?_, fun year month => hrun.usage_eq hdone hends, fun year month hcalm => ?_⟩
  · rw [countedOn, countedOn, usage?, usage?, ← Database.usage_day hrun.unique,
      ← Database.usage_day hunique]
    exact hrun.usage_eq hdone hends
  · rw [getInvoiceData_val hcalm, hrun.usage_eq hdone hends]

end Runs

/-! ## A message that is counted twice -/

section Decidable

variable {accountID : String} {jobs : List Job}

/-- The condition on a command as a test. -/
def countsOnce (accountID : String) (P : Jobs) (i : ℕ) : Job → {β : Type} → ServerCmd β → Bool
  | .request caller r, _, .db (.createMessage row) => decide (caller.accountID = accountID →
    (row.status = "scheduled" → P.state.next.fault ≠ .none) ∧
      (r.AnswersEnqueue → row.createdAt.write.isSome = true))
  | .request caller _, _, .db (.incrementUsage _ date) => decide (caller.accountID = accountID →
    P.state.next.fault.isRefused = false ∧
      (courseOf P i).rows.getLast?.all fun row => dayOf row.createdAt.nanos = date)
  | .request caller r, _, .queue (.xAdd _ _ _) =>
    decide (caller.accountID = accountID → r.AnswersEnqueue → P.state.next.fault = .none)
  | .dispatch _, _, .db (.incrementUsage owner _) =>
    decide (owner = accountID → P.state.next.fault.isRefused = true)
  | _, _, _ => true

instance decidableCountsOnce (P : Jobs) (i : ℕ) (job : Job) {β : Type} (e : ServerCmd β) :
    Decidable (CountsOnce accountID P i job e) :=
  decidable_of_iff (countsOnce accountID P i job e = true) (by
    cases job with
    | request caller r =>
      cases e with
      | db q =>
        cases q with
        | createMessage | incrementUsage => exact decide_eq_true_iff
        | _ => exact iff_of_true rfl trivial
      | queue e =>
        cases e with
        | xAdd => exact decide_eq_true_iff
        | _ => exact iff_of_true rfl trivial
      | _ => exact iff_of_true rfl trivial
    | dispatch msg =>
      cases e with
      | db q =>
        cases q with
        | incrementUsage => exact decide_eq_true_iff
        | _ => exact iff_of_true rfl trivial
      | _ => exact iff_of_true rfl trivial
    | round => exact iff_of_true rfl trivial)

instance decidableKeepsCount (P : Jobs) (i : ℕ) : Decidable (KeepsCount accountID jobs P i) := by
  unfold KeepsCount
  split <;> infer_instance

end Decidable

/-- The message that the request to `send` puts on the queue. -/
def orderQueued : QueueMessage where
  id := "00000000-0000-4000-8000-000000000000"
  accountID := "account-1"
  apiKeyID := "key-1"
  recipient := "+919999999999"
  sender := "AeroXe Bee"
  message := "hello"
  messageType := .transactional
  priority := .transactional
  idempotencyKey := "order-17"
  createdAt := timestamp 0
  routingStrategy := .highestReliability
  maxAge := 900000000000
  attempts := 0

example : ((ordered (onePhone [])).state.streams
    (plainServices.cfg.queue.stream .transactional)).added.map some =
      [orderQueued.marshal.map fun data => Worker.entryFields orderQueued data 0] := rfl

/-- The request, and the dispatch of its message. -/
def orderAndDispatch : List Job := [.request order.caller (.send order.body), .dispatch orderQueued]

/-- First the request is handled, then its message is dispatched. -/
def requestFirst : List ℕ := List.replicate 20 0 ++ List.replicate 60 1

/-- One message has been accepted, and two have been counted. -/
theorem dispatch_counts_again : ¬ UsageMatches order.caller.accountID plainServices.cfg
    orderAndDispatch (onePhone []) ((working plainServices noViolations orderAndDispatch
      (onePhone [])).run (server plainServices.cfg) requestFirst) := by
  intro h
  exact absurd (h.daily 0) (by decide +kernel)

/-- The request by itself is counted once. -/
theorem usage_matches_order : UsageMatches order.caller.accountID plainServices.cfg
    [.request order.caller (.send order.body)] (onePhone [])
      ((working plainServices noViolations [.request order.caller (.send order.body)]
        (onePhone [])).run (server plainServices.cfg) (List.replicate 20 0)) := by
  refine usage_matches plainServices noViolations order.caller.accountID
    [.request order.caller (.send order.body)] (onePhone []) (List.replicate 20 0)
    (fun _ ht => absurd ht List.not_mem_nil) List.nodup_nil (by decide) ?_
  intro i caller r hjob _
  cases i with
  | zero => exact answered_of_returned (by decide)
  | succ i => cases hjob

end AeroxeBee.Api
