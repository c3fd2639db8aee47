import AeroxeBee.Api.Duplicates
import AeroxeBee.Api.Plans

/-!
# Endpoints

The endpoints that accept messages, each behind the middlewares it is wired with, from the
authentication of the caller on. The endpoint for one-time passwords stores a password for a
message that it never creates.

* `blocks_iff`: which endpoints turn away the accounts that are suspended, disabled, or without a
  running subscription.
-/

namespace AeroxeBee.Api

open Foundations Middleware Dispatch

/-! ## One-time passwords -/

/-- The body of a request for a one-time password. -/
structure OTPSendRequest where
  phone : String

/-- What the handler of one-time passwords is given when the server starts: how long a password is
good for, after how many wrong guesses a number is locked out and for how long, the six digits that
random bytes stand for, and the hash under which they are stored. -/
structure OTPServices extends Services where
  ttl : ℤ
  maxAttempts : ℤ
  lockoutTTL : ℤ
  generateCode : String → String
  hashCode : String → String

/-- Whether a text is an international phone number: seven to fifteen digits, the first of them not
zero, perhaps after a plus. -/
def isValidPhoneNumber (svc : Services) (phone : String) : Bool :=
  let cs := ((phone.toList.dropWhile svc.chars.isSpace).reverse.dropWhile
    svc.chars.isSpace).reverse
  let digits := match cs with
    | '+' :: rest => rest
    | cs => cs
  digits.all Char.isDigit && digits.head?.any (· ≠ '0') &&
    decide (7 ≤ digits.length) && decide (digits.length ≤ 15)

/-- The key of the password for a number. -/
def codeKey (phone : String) : String := "otp:" ++ phone

/-- The key of the number of wrong guesses. -/
def attemptsKey (phone : String) : String := "otp:attempts:" ++ phone

/-- Store the hash of a password for a number, reset its attempts, and note both for a message. The
two keys are written in one batch. -/
def storeCode (otp : OTPServices) (phone code messageID : String) :
    ServerProg (Except String Unit) := do
  let set ← Prog.call (.redis (.set (codeKey phone) (otp.hashCode code).toList
    (RedisCmd.expiration otp.ttl)))
  let reset ← Prog.call (.redis (.set (attemptsKey phone) "0".toList
    (RedisCmd.expiration otp.ttl)))
  let executed : Except RedisErr Unit := do
    set
    reset
  match executed with
  | .error e => return .error e.text
  | .ok () => do
    let now ← Prog.call .now
    Prog.call (.db (.insertOTPMetadata messageID phone (now + otp.ttl)))

/-- Make up a one-time password and store it. -/
def otpSend (otp : OTPServices) (body : Option OTPSendRequest) : ServerProg Response := do
  match body with
  | none => return .error 400 "invalid request body"
  | some req =>
    if req.phone = "" then return .error 400 "phone is required"
    else if !isValidPhoneNumber otp.toServices req.phone then
      return .error 400 "invalid phone number format"
    else
      match ← Prog.call .nonce with
      | .error _ => return .error 500 "failed to generate code"
      | .ok bytes => do
        let messageID ← Prog.call .uuid
        match ← storeCode otp req.phone (otp.generateCode bytes) messageID.text with
        | .error _ => return .error 500 "failed to store OTP"
        | .ok () => return .otpSent messageID.text 300

/-! ## The routes -/

/-- The endpoints that accept messages. -/
inductive Endpoint where
  | send
  | sendBulk
  | sendSchedule
  | otpSend
  | memberSend
deriving DecidableEq

/-- A request to one of the endpoints. -/
inductive Call where
  | send (body : Option SendSMSRequest)
  | sendBulk (body : Option BulkSendRequest)
  | sendSchedule (body : Option ScheduleSendRequest)
  | otpSend (body : Option OTPSendRequest)
  | memberSend (body : Option SendSMSRequest)

namespace Call

/-- Where the request goes. -/
def endpoint : Call → Endpoint
  | send _ => .send
  | sendBulk _ => .sendBulk
  | sendSchedule _ => .sendSchedule
  | otpSend _ => .otpSend
  | memberSend _ => .memberSend

/-- The handler of a request, behind the middlewares of its route. -/
def serve (otp : OTPServices) (caller : Caller) : Call → ServerProg Response
  | send body =>
    apiKeyPlanChain (fun _ => Api.send otp.toServices caller body) ⟨caller.accountID, none⟩
  | sendBulk body =>
    apiKeyPlanChain (fun _ => bulkSend otp.toServices caller body) ⟨caller.accountID, none⟩
  | sendSchedule body => scheduleSend otp.toServices caller body
  | otpSend body => apiKeyPlanChain (fun _ => Api.otpSend otp body) ⟨caller.accountID, none⟩
  | memberSend body =>
    memberPlanCheck (fun _ => Api.memberSend otp.toServices caller.accountID body)
      ⟨caller.accountID, none⟩

end Call

/-! ## Accounts that may not send -/

/-- Why an account may not send messages. -/
inductive Bar where
  | suspended
  | disabled
  | canceled
  | pastDue
deriving DecidableEq

/-- The tables say so. -/
def Bar.Holds (db : Database) (accountID : String) : Bar → Prop
  | suspended => ∃ a, account? db accountID = some a ∧ a.status.name = "suspended"
  | disabled => ∃ a, account? db accountID = some a ∧ a.status.name = "disabled"
  | canceled => ∃ s, subscription? db accountID = some s ∧ s.status = "canceled"
  | pastDue => ∃ s, subscription? db accountID = some s ∧ s.status = "past_due"

/-- A query that only reads is executed and its reply arrives. -/
def ReadSucceeds : {β : Type} → ServerCmd β → World → Prop
  | _, .db q, w => (∀ db, (q.run db).2 = db) → w.next.fault = .none
  | _, _, _ => True

/-- There are no more messages and no more entries on the queue than before. -/
def CreatesNothing (cfg : Config) (p : ServerProg Response) (w : World) : Prop :=
  (p.exec (server cfg) w).state.db.messages = w.db.messages ∧
    (p.exec (server cfg) w).state.streams = w.streams

/-- **No request of an account that is barred creates anything** at the endpoint, while its queries
are answered and nothing else runs. -/
def Blocks (endpoint : Endpoint) (bar : Bar) : Prop :=
  ∀ (otp : OTPServices) (caller : Caller) (call : Call) (w : World), call.endpoint = endpoint →
    caller.accountID ≠ "" → bar.Holds w.db caller.accountID → Alone w →
      (call.serve otp caller).EachStep (server otp.cfg) ReadSucceeds w →
        CreatesNothing otp.cfg (call.serve otp caller) w

/-- Whether an endpoint is wired with a check that turns such accounts away, or has nothing to
create. -/
def Guarded : Endpoint → Bar → Bool
  | .send, bar | .sendBulk, bar => bar = .suspended || bar = .disabled
  | .sendSchedule, _ => false
  | .otpSend, _ | .memberSend, _ => true

/-! ## What leaves the messages alone -/

/-- The command neither stores a message nor puts one on the queue. -/
def LeavesRows : {β : Type} → ServerCmd β → Prop
  | _, .now | _, .uuid | _, .nonce | _, .redis _ => True
  | _, .db q => ∀ db, (q.run db).2.messages = db.messages
  | _, _ => False

section LeavesRows

variable {cfg : Config} {w : World}

variable (cfg) in
theorem LeavesRows.step {β : Type} {e : ServerCmd β} (he : LeavesRows e) (h : Alone w) :
    ((server cfg).step e w).2.db.messages = w.db.messages ∧
      ((server cfg).step e w).2.streams = w.streams := by
  constructor
  · cases e with
    | db q =>
      rcases h.step_query cfg q with ⟨-, -, hdb⟩ | ⟨-, -, -, hdb⟩ | ⟨-, -, -, hdb⟩
      · rw [hdb, he w.db]
      · rw [hdb]
      · rw [hdb, he w.db]
    | now | uuid | nonce | redis =>
      exact congrArg Database.messages ((step_db cfg w _).trans h.tick_db)
    | _ => exact he.elim
  · cases e with
    | db | now | uuid | nonce | redis => exact (step_streams cfg w _).trans h.tick_streams
    | _ => exact he.elim

variable (cfg) in
/-- A program that only issues such commands creates nothing. -/
theorem createsNothing_of_only {p : ServerProg Response} (hp : p.Only LeavesRows) (h : Alone w) :
    CreatesNothing cfg p w := by
  have hinv := hp.exec_inv (M := server cfg)
    (I := fun w' => Alone w' ∧ w'.db.messages = w.db.messages ∧ w'.streams = w.streams)
    (fun e w' he hw' => by
      obtain ⟨hmessages, hstreams⟩ := he.step cfg hw'.1
      exact ⟨hw'.1.step e, hmessages.trans hw'.2.1, hstreams.trans hw'.2.2⟩)
    ⟨h, rfl, rfl⟩
  exact hinv.2

theorem checkQuotaWithSub_leavesRows (accountID : String) (sub : Option Subscription) :
    (checkQuotaWithSub accountID sub).Only LeavesRows := by
  refine ⟨trivial, fun now => ⟨fun _ => rfl, fun usage => ?_⟩⟩
  rcases usage with e | (_ | usage)
  · trivial
  · trivial
  · cases sub with
    | some sub => trivial
    | none =>
      refine ⟨fun _ => rfl, fun reply => ?_⟩
      rcases reply with e | (_ | sub) <;> trivial

variable {next : Handler ServerCmd Context Response} (hnext : ∀ ctx, (next ctx).Only LeavesRows)
include hnext

theorem requireActiveAccount_leavesRows (ctx : Context) :
    (requireActiveAccount next ctx).Only LeavesRows := by
  unfold requireActiveAccount
  split_ifs
  · exact hnext ctx
  · refine ⟨fun _ => rfl, fun reply => ?_⟩
    rcases reply with e | (_ | account)
    · exact hnext ctx
    · trivial
    · change Prog.Only _ (ite _ _ _)
      split_ifs
      · trivial
      · trivial
      · exact hnext ctx

theorem requireActiveSubscription_leavesRows (ctx : Context) :
    (requireActiveSubscription next ctx).Only LeavesRows := by
  unfold requireActiveSubscription
  split_ifs
  · exact hnext ctx
  · refine ⟨fun _ => rfl, fun reply => ?_⟩
    rcases reply with e | (_ | sub)
    · exact hnext ctx
    · exact hnext ctx
    · change Prog.Only _ (ite _ _ _)
      split_ifs
      · trivial
      · trivial
      · exact hnext _

theorem enforceQuota_leavesRows (ctx : Context) : (enforceQuota next ctx).Only LeavesRows := by
  unfold enforceQuota
  split_ifs
  · exact hnext ctx
  · refine (checkQuotaWithSub_leavesRows _ _).bind fun reply => ?_
    rcases reply with e | (_ | _)
    · exact hnext ctx
    · trivial
    · exact hnext ctx

theorem apiKeyPlanChain_leavesRows (ctx : Context) :
    (apiKeyPlanChain next ctx).Only LeavesRows :=
  requireActiveAccount_leavesRows (enforceQuota_leavesRows hnext) ctx

theorem memberPlanCheck_leavesRows (ctx : Context) :
    (memberPlanCheck next ctx).Only LeavesRows :=
  requireActiveAccount_leavesRows (requireActiveSubscription_leavesRows hnext) ctx

end LeavesRows

theorem otpSend_leavesRows (otp : OTPServices) (body : Option OTPSendRequest) :
    (otpSend otp body).Only LeavesRows := by
  cases body with
  | none => trivial
  | some req =>
    unfold otpSend
    dsimp only
    split_ifs
    · trivial
    · trivial
    · refine ⟨trivial, fun bytes => ?_⟩
      cases bytes with
      | error e => trivial
      | ok bytes =>
        refine ⟨trivial, fun messageID => ⟨trivial, fun set => ⟨trivial, fun reset => ?_⟩⟩⟩
        cases set with
        | error e => trivial
        | ok =>
          cases reset with
          | error e => trivial
          | ok =>
            refine ⟨trivial, fun now => ⟨fun _ => rfl, fun reply => ?_⟩⟩
            cases reply <;> trivial

/-! ## What the checks turn away -/

section Blocked

variable {cfg : Config} {w : World} {accountID : String}

theorem calmFor_one (h : Alone w) (hread : w.next.fault = .none) : CalmFor 1 w := by
  intro k hk
  obtain rfl : k = 0 := by omega
  refine ⟨?_, hread⟩
  unfold World.later
  rw [List.drop_zero]
  cases henv : w.env with
  | nil => rfl
  | cons t ts => exact h t (henv ▸ List.mem_cons_self)

/-- A request that is answered by the middlewares creates nothing. -/
theorem createsNothing_of_answers {f : Front ServerCmd Context Response} (h : Alone w)
    (hanswers : ∃ o, Middleware.Answers (server cfg) f w o)
    (hleaves : (f fun _ => .ret (.error 0 "")).Only LeavesRows)
    (next : Handler ServerCmd Context Response) : CreatesNothing cfg (f next) w := by
  obtain ⟨o, ho⟩ := hanswers
  have hnothing := createsNothing_of_only cfg hleaves h
  unfold CreatesNothing at hnothing ⊢
  rwa [ho next, ← ho fun _ => .ret (.error 0 "")]

theorem answer_leavesRows (_ctx : Context) :
    (Prog.ret (.error 0 "") : ServerProg Response).Only LeavesRows :=
  trivial

theorem Bar.not_inUse {bar : Bar} (hbar : bar = .suspended ∨ bar = .disabled)
    (h : bar.Holds w.db accountID) : ¬ InUse (account? w.db accountID) := by
  rintro ⟨a, ha, hsuspended, hdisabled⟩
  rcases hbar with rfl | rfl
  · obtain ⟨a', ha', hstatus⟩ := h
    obtain rfl := Option.some.inj (ha.symm.trans ha')
    exact hsuspended hstatus
  · obtain ⟨a', ha', hstatus⟩ := h
    obtain rfl := Option.some.inj (ha.symm.trans ha')
    exact hdisabled hstatus

theorem Bar.not_running {bar : Bar} (hbar : bar = .canceled ∨ bar = .pastDue)
    (h : bar.Holds w.db accountID) : ¬ Running (subscription? w.db accountID) := by
  intro hrunning
  rcases hbar with rfl | rfl
  · obtain ⟨s, hs, hstatus⟩ := h
    exact (hrunning s hs).1 hstatus
  · obtain ⟨s, hs, hstatus⟩ := h
    exact (hrunning s hs).2 hstatus

variable {next : Handler ServerCmd Context Response}

/-- The query for the account is answered. -/
theorem read_of_eachStep (hid : accountID ≠ "")
    (heach : (requireActiveAccount next ⟨accountID, none⟩).EachStep (server cfg) ReadSucceeds w) :
    w.next.fault = .none := by
  unfold requireActiveAccount at heach
  simp only [if_neg hid] at heach
  exact heach.1 fun _ => rfl

/-- The query for the subscription is answered. -/
theorem read_of_requireActiveSubscription (hid : accountID ≠ "")
    (heach : (requireActiveSubscription next ⟨accountID, none⟩).EachStep (server cfg)
      ReadSucceeds w) : w.next.fault = .none := by
  unfold requireActiveSubscription at heach
  simp only [if_neg hid] at heach
  exact heach.1 fun _ => rfl

/-- Behind an account that is in use the queries are answered as well. -/
theorem eachStep_of_inUse (h : CalmFor 1 w) (hid : accountID ≠ "")
    (huse : InUse (account? w.db accountID))
    (heach : (requireActiveAccount next ⟨accountID, none⟩).EachStep (server cfg) ReadSucceeds w) :
    (next ⟨accountID, none⟩).EachStep (server cfg) ReadSucceeds
      ((server cfg).step (.db (.registry (.accountByID accountID))) w).2 := by
  have hval : ((server cfg).step (.db (.registry (.accountByID accountID))) w).1 =
      .ok (account? w.db accountID) :=
    (h.step_query cfg (.registry (.accountByID accountID))).1
  obtain ⟨account, hfind, hsuspended, hdisabled⟩ := huse
  unfold requireActiveAccount at heach
  simp only [if_neg hid] at heach
  have hrest := heach.2
  rw [hval, hfind] at hrest
  change Prog.EachStep _ _ (ite _ _ _) _ at hrest
  rwa [if_neg hsuspended, if_neg hdisabled] at hrest

/-- The chain of the API keys turns away an account that is not in use. -/
theorem apiKeyPlanChain_blocks (h : Alone w) (hid : accountID ≠ "")
    (hnot : ¬ InUse (account? w.db accountID))
    (heach : (apiKeyPlanChain next ⟨accountID, none⟩).EachStep (server cfg) ReadSucceeds w) :
    CreatesNothing cfg (apiKeyPlanChain next ⟨accountID, none⟩) w := by
  have hcalm := calmFor_one h (read_of_eachStep hid heach)
  obtain ⟨o, hanswers⟩ :=
    (requireActiveAccount_decides cfg hcalm ⟨accountID, none⟩ hid).2 hnot
  exact createsNothing_of_answers (f := fun next => apiKeyPlanChain next ⟨accountID, none⟩) h
    ⟨o, hanswers.comp enforceQuota⟩ (apiKeyPlanChain_leavesRows answer_leavesRows _) next

/-- The check of the member portal turns away an account that is not in use, and one whose
subscription is not running. -/
theorem memberPlanCheck_blocks (h : Alone w) (hid : accountID ≠ "")
    (hnot : ¬ (InUse (account? w.db accountID) ∧ Running (subscription? w.db accountID)))
    (heach : (memberPlanCheck next ⟨accountID, none⟩).EachStep (server cfg) ReadSucceeds w) :
    CreatesNothing cfg (memberPlanCheck next ⟨accountID, none⟩) w := by
  have hcalm := calmFor_one h (read_of_eachStep hid heach)
  have haccount := requireActiveAccount_decides cfg hcalm ⟨accountID, none⟩ hid
  have hanswers : ∃ o, Middleware.Answers (server cfg)
      (fun next => memberPlanCheck next ⟨accountID, none⟩) w o := by
    by_cases huse : InUse (account? w.db accountID)
    · have hread := read_of_requireActiveSubscription hid (eachStep_of_inUse hcalm hid huse heach)
      have hcalm' : CalmFor 1
          ((server cfg).step (.db (.registry (.accountByID accountID))) w).2 :=
        calmFor_one (h.step _) hread
      have hsubscription := requireActiveSubscription_decides cfg hcalm' hid
      rw [(hcalm.step_query cfg (.registry (.accountByID accountID))).2] at hsubscription
      exact (haccount.comp (m := requireActiveSubscription) hsubscription).2 hnot
    · obtain ⟨o, ho⟩ := haccount.2 huse
      exact ⟨o, ho.comp requireActiveSubscription⟩
  exact createsNothing_of_answers (f := fun next => memberPlanCheck next ⟨accountID, none⟩) h
    hanswers (memberPlanCheck_leavesRows answer_leavesRows _) next

end Blocked

/-- What the wiring of an endpoint guards against, the endpoint turns away. -/
theorem blocks_of_guarded {endpoint : Endpoint} {bar : Bar} (hguarded : Guarded endpoint bar) :
    Blocks endpoint bar := by
  intro otp caller call w hendpoint hid hbar halone heach
  cases call with
  | send body =>
    subst hendpoint
    exact apiKeyPlanChain_blocks halone hid
      (Bar.not_inUse (by simpa [Guarded, Call.endpoint] using hguarded) hbar) heach
  | sendBulk body =>
    subst hendpoint
    exact apiKeyPlanChain_blocks halone hid
      (Bar.not_inUse (by simpa [Guarded, Call.endpoint] using hguarded) hbar) heach
  | sendSchedule body =>
    subst hendpoint
    cases hguarded
  | otpSend body =>
    exact createsNothing_of_only _
      (apiKeyPlanChain_leavesRows (fun _ => otpSend_leavesRows otp body) _) halone
  | memberSend body =>
    refine memberPlanCheck_blocks halone hid (fun hboth => ?_) heach
    cases bar with
    | suspended => exact Bar.not_inUse (.inl rfl) hbar hboth.1
    | disabled => exact Bar.not_inUse (.inr rfl) hbar hboth.1
    | canceled => exact Bar.not_running (.inl rfl) hbar hboth.2
    | pastDue => exact Bar.not_running (.inr rfl) hbar hboth.2

/-! ## What is not turned away -/

/-- While nothing fails, every query is answered. -/
theorem eachStep_of_calm {cfg : Config} (p : ServerProg Response) {w : World} (h : Calm w) :
    p.EachStep (server cfg) ReadSucceeds w := by
  induction p generalizing w with
  | ret r => trivial
  | act e k ih =>
    refine ⟨?_, ih _ (h.step e)⟩
    cases e with
    | db q => exact fun _ => h.fault
    | _ => trivial

/-- A customer who is barred. -/
def Bar.customer : Bar → World
  | suspended => Api.customer .suspended "active"
  | disabled => Api.customer ⟨"disabled"⟩ "active"
  | canceled => Api.customer .active "canceled"
  | pastDue => Api.customer .active "past_due"

theorem Bar.customer_holds (bar : Bar) : bar.Holds bar.customer.db "account-1" := by
  cases bar with
  | suspended | disabled => exact ⟨owner _, rfl, rfl⟩
  | canceled | pastDue => exact ⟨starter _, rfl, rfl⟩

theorem Bar.customer_calm (bar : Bar) : Calm bar.customer := by
  cases bar <;> exact fun t ht => absurd ht List.not_mem_nil

/-- The services of the endpoint for one-time passwords. -/
def plainOTP : OTPServices where
  toServices := plainServices
  ttl := 300000000000
  maxAttempts := 5
  lockoutTTL := 900000000000
  generateCode _ := "000000"
  hashCode code := code

/-- A request to each endpoint for one message to one recipient. -/
def Endpoint.call : Endpoint → Call
  | send => .send order.body
  | sendBulk => .sendBulk (some
      { recipients := ["+919999999999"]
        sender := ""
        message := "hello"
        messageType := .transactional
        templateID := ""
        deviceID := ""
        routingStrategy := ⟨""⟩ })
  | sendSchedule => .sendSchedule (some
      { recipient := "+919999999999"
        sender := ""
        message := "hello"
        messageType := .transactional
        scheduledAt := 1000000000
        templateID := ""
        deviceID := ""
        routingStrategy := ⟨""⟩ })
  | otpSend => .otpSend (some ⟨"+919999999999"⟩)
  | memberSend => .memberSend order.body

theorem Endpoint.call_endpoint (endpoint : Endpoint) : endpoint.call.endpoint = endpoint := by
  cases endpoint <;> rfl

/-- The message of a barred customer is stored. -/
theorem stored_of_not_guarded {endpoint : Endpoint} {bar : Bar}
    (h : Guarded endpoint bar = false) :
    ((endpoint.call.serve plainOTP order.caller).exec (server .default)
      bar.customer).state.db.messages.length = 1 := by
  cases endpoint with
  | send | sendBulk =>
    cases bar with
    | suspended | disabled => cases h
    | canceled | pastDue => decide +kernel
  | sendSchedule => cases bar <;> decide +kernel
  | otpSend | memberSend => cases h

theorem not_blocks {endpoint : Endpoint} {bar : Bar} (h : Guarded endpoint bar = false) :
    ¬ Blocks endpoint bar := by
  intro hblocks
  have hnothing := (hblocks plainOTP order.caller endpoint.call bar.customer endpoint.call_endpoint
    (by decide) bar.customer_holds bar.customer_calm.alone
    (eachStep_of_calm _ bar.customer_calm)).1
  have hstored := stored_of_not_guarded h
  have hempty : bar.customer.db.messages.length = 0 := by cases bar <;> rfl
  change ((endpoint.call.serve plainOTP order.caller).exec (server .default)
    bar.customer).state.db.messages = _ at hnothing
  rw [hnothing, hempty] at hstored
  cases hstored

/-- **Which endpoints turn barred accounts away**: those for one-time passwords and of the member
portal all of them, those of the API keys the ones that are suspended or disabled, and the one for
scheduled messages none. -/
theorem blocks_iff (endpoint : Endpoint) (bar : Bar) :
    Blocks endpoint bar ↔ Guarded endpoint bar = true := by
  constructor
  · intro hblocks
    by_contra hnot
    exact not_blocks (Bool.eq_false_of_not_eq_true hnot) hblocks
  · exact blocks_of_guarded

/-- A suspended account can have messages sent later. -/
theorem suspended_schedules : ¬ Blocks .sendSchedule .suspended := not_blocks rfl

end AeroxeBee.Api
