import AeroxeBee.Otp.Isolation

/-!
# Sending one-time passwords

What the endpoint that makes up a password leaves behind. A request writes the hash of the password,
resets the number of wrong guesses, and notes the password for a message; it puts no message on the
lane for one-time passwords, and there is none that the note could be for.

* `verifies_iff`: when a password is accepted;
* `otpSend_spec`: what a request comes to, whatever fails;
* `allOrNothing_iff`: when it leaves a consistent state.
-/

namespace AeroxeBee.Otp

open Foundations Api

variable (otp : OTPServices) (phone : String)

/-! ## Whether a password is accepted -/

/-- The world at a time, when nothing else happens from then on. -/
def settledAt (w : World) (t : ℤ) : World := { w with clock := t, env := [] }

/-- A password would be accepted at a time. -/
def Verifies (w : World) (code : String) (t : ℤ) : Prop :=
  ((verifyCode otp phone code).exec (server otp.cfg) (settledAt w t)).val.1 = true

/-- An entry holds the hash of a password. -/
def Holds (entry : Option RedisEntry) (code : String) : Prop :=
  entry.map RedisEntry.value = some (.text (otp.hashCode code).toList)

theorem countAttempt_returns : (countAttempt otp phone).Returns fun r => r.1 = false := by
  intro reply
  cases reply with
  | error e => rfl
  | ok attempts =>
    change Prog.Returns _ (ite _ _ _)
    split_ifs
    · exact fun _ _ => rfl
    · rfl

theorem consumeCode_returns : (consumeCode phone).Returns fun r => r.1 = true := by
  intro _ _ reply
  cases reply <;> rfl

/-- A command on a key when nothing else happens. -/
theorem step_settledAt (cfg : Config) {β : Type} (e : RedisCmd β) (w : World) (t : ℤ) :
    (server cfg).step (.redis e) (settledAt w t) =
      ((e.run t w.redis).1, settledAt { w with redis := (e.run t w.redis).2 } t) := by
  have hclock : (settledAt w t).tick.clock = t := Int.add_zero t
  simp only [server, serve, World.next, settledAt, List.headD_nil, Tick.quiet, Worker.Tick.quiet,
    Fault.apply] at hclock ⊢
  rw [hclock]
  simp [World.tick, World.next, Tick.quiet, Worker.Tick.quiet]

/-- **When a password is accepted**: the number is not locked out, and the password is stored. -/
theorem verifies_iff (w : World) (code : String) (t : ℤ) : Verifies otp phone w code t ↔
    w.redis.live t (lockoutKey phone) = none ∧ Holds otp (w.redis.live t (codeKey phone)) code := by
  unfold Verifies verifyCode
  rw [Prog.call_bind, Prog.exec_act, step_settledAt]
  cases hlock : w.redis.live t (lockoutKey phone) with
  | some entry =>
    have hreply : ((RedisCmd.keyExists (lockoutKey phone)).run t w.redis).1 = .ok 1 := by
      simp [RedisCmd.run, RedisCmd.reply, RedisCmd.key, hlock]
    rw [hreply]
    exact iff_of_false (fun h => by cases h) fun h => by cases h.1
  | none =>
    have hreply : ((RedisCmd.keyExists (lockoutKey phone)).run t w.redis).1 = .ok 0 := by
      simp [RedisCmd.run, RedisCmd.reply, RedisCmd.key, hlock]
    have hcode : ((RedisCmd.keyExists (lockoutKey phone)).run t w.redis).2.live t (codeKey phone) =
        w.redis.live t (codeKey phone) :=
      Keyspace.live_congr (RedisCmd.run_frame t _ w.redis (codeKey_ne_lockoutKey phone)) t
    rw [hreply]
    dsimp only
    rw [if_neg (lt_irrefl 0), Prog.call_bind, Prog.exec_act, step_settledAt]
    dsimp only [RedisCmd.run, RedisCmd.key] at hcode ⊢
    rw [hcode, and_iff_right rfl]
    rcases hentry : w.redis.live t (codeKey phone) with _ | ⟨cs | members, expires⟩
    · exact iff_of_false (fun h => by cases h) fun h => by cases h
    · dsimp only [RedisCmd.reply]
      by_cases hwrong : (otp.hashCode code).toList ≠ cs
      · rw [if_pos hwrong]
        refine iff_of_false (fun htrue => ?_) fun hholds => hwrong ?_
        · rw [(countAttempt_returns otp phone).exec] at htrue
          cases htrue
        · simpa [Holds] using hholds.symm
      · rw [if_neg hwrong]
        refine iff_of_true ((consumeCode_returns phone).exec _ _) ?_
        simpa [Holds] using (not_not.1 hwrong).symm
    · exact iff_of_false (fun h => by cases h) fun hholds => by simp [Holds] at hholds

/-! ## What sending a password does -/

section Store

variable {otp phone} {v : World} {code messageID : String}

/-- Whether a password can be written. -/
theorem step_set_ok (cfg : Config) (key : String) (value : List Char) (ttl : Option ℤ) (w : World) :
    ((server cfg).step (.redis (.set key value ttl)) w).1 = .ok () ↔ w.next.fault = .none := by
  rw [step_redis_ok, RedisCmd.reply]
  exact and_iff_left rfl

/-- The entry of a password that is stored at a time. -/
def newEntry (otp : OTPServices) (code : String) (now : ℤ) : RedisEntry :=
  ⟨.text (otp.hashCode code).toList, (RedisCmd.expiration otp.ttl).map (now + ·)⟩

/-- Both keys of a password are written and the replies arrive. -/
def Written (v : World) : Prop := (v.later 0).fault = .none ∧ (v.later 1).fault = .none

instance (v : World) : Decidable (Written v) := inferInstanceAs (Decidable (_ ∧ _))

variable (otp phone code messageID) in
/-- What storing a password comes to: what it returns, and the world that it leaves. -/
structure StoresCode (v : World) (val : Except String Unit) (v' : World) : Prop where
  ok_iff : val = .ok () ↔ Written v ∧ (v.later 3).fault = .none ∧ notable v.db messageID = true
  code : v'.redis (codeKey phone) =
    if (v.later 0).fault.isRefused = true then v.redis (codeKey phone)
    else some (newEntry otp code (v.clockAt 0))
  lockout : v'.redis (lockoutKey phone) = v.redis (lockoutKey phone)
  streams : v'.streams = v.streams
  clock : v'.clock = v.clockAt (if Written v then 3 else 1)

/-- The reply to a note of a password. -/
theorem insertPassword_ok (db : Database) (expiresAt : ℤ) :
    (Query.run db (.insertOTPMetadata messageID phone expiresAt)).1 = .ok () ↔
      notable db messageID = true := by
  simp only [Query.run, Database.insertPassword, notable]
  cases db.otpMetadata.any (·.messageID = messageID) <;>
    cases db.messages.any (·.id = messageID) <;> simp [replaced]

/-- What is noted when both keys are written. -/
theorem noted_ok (cfg : Config) {u : World} (h : Alone u) (expiresAt : ℤ) :
    ((server cfg).step (.db (.insertOTPMetadata messageID phone expiresAt)) u).1 = .ok () ↔
      u.next.fault = .none ∧ notable u.db messageID = true := by
  rcases h.step_query cfg (.insertOTPMetadata messageID phone expiresAt) with
    ⟨hfault, hval, -⟩ | ⟨e, hfault, hval, -⟩ | ⟨e, hfault, hval, -⟩
  · rw [hval, insertPassword_ok, and_iff_right hfault]
  · rw [hval, hfault]
    exact iff_of_false nofun fun hok => nomatch hok.1
  · rw [hval, hfault]
    exact iff_of_false nofun fun hok => nomatch hok.1

variable (otp phone code messageID) in
/-- **What storing a password comes to.** -/
theorem storeCode_spec (h : Alone v) :
    StoresCode otp phone code messageID v
      ((storeCode otp phone code messageID).exec (server otp.cfg) v).val
      ((storeCode otp phone code messageID).exec (server otp.cfg) v).state := by
  let set : ServerCmd _ := .redis (.set (codeKey phone) (otp.hashCode code).toList
    (RedisCmd.expiration otp.ttl))
  let reset : ServerCmd _ := .redis (.set (attemptsKey phone) "0".toList
    (RedisCmd.expiration otp.ttl))
  let v₁ := ((server otp.cfg).step set v).2
  let v₂ := ((server otp.cfg).step reset v₁).2
  have h₁ : Alone v₁ := h.step _
  have h₂ : Alone v₂ := h₁.step _
  have hset : ((server otp.cfg).step set v).1 = .ok () ↔ (v.later 0).fault = .none :=
    step_set_ok otp.cfg _ _ _ v
  have hreset : ((server otp.cfg).step reset v₁).1 = .ok () ↔ (v.later 1).fault = .none := by
    rw [← step_later otp.cfg v set]
    exact step_set_ok otp.cfg _ _ _ v₁
  -- what the two writes leave
  have hcode₁ : v₁.redis (codeKey phone) =
      if (v.later 0).fault.isRefused = true then v.redis (codeKey phone)
      else some (newEntry otp code (v.clockAt 0)) := by
    have hspares := h.spares {codeKey phone}
    split_ifs with hrefused
    · exact hspares.redis_of_refused rfl _ hrefused
    · rw [newEntry, ← step_now_val otp.cfg v]
      exact hspares.redis_of_executed rfl hrefused
  have hcode : v₂.redis (codeKey phone) = v₁.redis (codeKey phone) :=
    (h₁.spares {codeKey phone}).redis_of_ne rfl (codeKey_ne_attemptsKey phone)
  have hlockout : v₂.redis (lockoutKey phone) = v.redis (lockoutKey phone) :=
    calc v₂.redis (lockoutKey phone) = v₁.redis (lockoutKey phone) :=
          (h₁.spares {lockoutKey phone}).redis_of_ne rfl
            (attemptsKey_ne_lockoutKey phone).symm
      _ = v.redis (lockoutKey phone) :=
          (h.spares {lockoutKey phone}).redis_of_ne rfl (codeKey_ne_lockoutKey phone).symm
  have hstreams : v₂.streams = v.streams :=
    ((step_streams otp.cfg v₁ reset).trans h₁.tick_streams).trans
      ((step_streams otp.cfg v set).trans h.tick_streams)
  have hdb : v₂.db = v.db :=
    ((step_db otp.cfg v₁ reset).trans h₁.tick_db).trans
      ((step_db otp.cfg v set).trans h.tick_db)
  have hclock : v₂.clock = v.clockAt 1 :=
    (step_clockAt_zero otp.cfg reset v₁).trans (step_clockAt otp.cfg v set 0)
  unfold storeCode
  rw [Prog.call_bind, Prog.exec_act, Prog.call_bind, Prog.exec_act]
  change StoresCode otp phone code messageID v (Prog.exec (server otp.cfg) _ v₂).val
    (Prog.exec (server otp.cfg) _ v₂).state
  by_cases hwritten : Written v
  · -- both keys are written, so the password is noted
    let v₃ := ((server otp.cfg).step .now v₂).2
    have hnow : v₃.toShared = v₂.toShared := h₂.tick
    have hfault : v₃.next.fault = (v.later 3).fault := by
      rw [next_eq_later, step_later, step_later, step_later]
    let note : ServerCmd _ := .db (.insertOTPMetadata messageID phone
      (((server otp.cfg).step .now v₂).1 + otp.ttl))
    let v₄ := ((server otp.cfg).step note v₃).2
    have hnoted : ((server otp.cfg).step note v₃).1 = .ok () ↔
        v₃.next.fault = .none ∧ notable v₃.db messageID = true :=
      noted_ok otp.cfg (h₂.step .now) _
    rw [hset.2 hwritten.1, hreset.2 hwritten.2]
    change StoresCode otp phone code messageID v ((server otp.cfg).step note v₃).1 v₄
    have hredis : v₄.redis = v₂.redis :=
      ((step_redis otp.cfg v₃ note).trans (h₂.step .now).tick_redis).trans
        (congrArg Shared.redis hnow)
    refine ⟨?_, ?_, ?_, ?_, ?_⟩
    · rw [hnoted, and_iff_right hwritten, hfault, congrArg Shared.db hnow, hdb]
    · rw [hredis, hcode, hcode₁]
    · rw [hredis, hlockout]
    · exact ((step_streams otp.cfg v₃ note).trans (h₂.step .now).tick_streams).trans
        ((congrArg Shared.streams hnow).trans hstreams)
    · rw [if_pos hwritten]
      calc v₄.clock = v₃.clockAt 0 := step_clockAt_zero otp.cfg note v₃
        _ = v₂.clockAt 1 := step_clockAt otp.cfg v₂ .now 0
        _ = v₁.clockAt 2 := step_clockAt otp.cfg v₁ reset 1
        _ = v.clockAt 3 := step_clockAt otp.cfg v set 2
  · -- a write has failed, so nothing else is done
    have hfails : ∃ e : RedisErr, (do
        ((server otp.cfg).step set v).1
        ((server otp.cfg).step reset v₁).1 : Except RedisErr Unit) = .error e := by
      cases hval : ((server otp.cfg).step set v).1 with
      | error e => exact ⟨e, rfl⟩
      | ok =>
        cases hval' : ((server otp.cfg).step reset v₁).1 with
        | error e => exact ⟨e, rfl⟩
        | ok => exact absurd ⟨hset.1 hval, hreset.1 hval'⟩ hwritten
    obtain ⟨e, he⟩ := hfails
    rw [he]
    exact ⟨iff_of_false nofun fun hok => hwritten hok.1, hcode.trans hcode₁, hlockout, hstreams,
      by rw [if_neg hwritten]; exact hclock⟩

end Store

/-! ## Sending a password -/

/-- A message for a number that contains a password is on the lane for one-time passwords. -/
def OnLane (cfg : Worker.QueueConfig) (w : World) (phone code : String) : Prop :=
  ∃ id values msg, (w.streams cfg.otpStream).entryAt? id = some values ∧
    Worker.decode values = some msg ∧ msg.recipient = phone ∧ code.toList <:+: msg.message.toList

/-- The response reports that a password was sent. -/
def sent : Response → Bool
  | .otpSent _ _ => true
  | _ => false

/-- **Sending a password is all or nothing.** If it succeeds, then a message with the password that
was made up is on its lane, and the password is accepted until it expires. If it fails, then the
same passwords are accepted as before. -/
def AllOrNothing (w : World) : Prop :=
  let o := (otpSend otp (some ⟨phone⟩)).exec (server otp.cfg) w
  if sent o.val = true then
    ∃ bytes, w.next.nonce = .ok bytes ∧
      OnLane otp.cfg.queue o.state phone (otp.generateCode bytes) ∧
      ∀ t, o.state.clock ≤ t → t ≤ w.clockAt 2 + otp.ttl →
        Verifies otp phone o.state (otp.generateCode bytes) t
  else ∀ t, o.state.clock ≤ t → ∀ code,
    Verifies otp phone o.state code t ↔ Verifies otp phone w code t

/-- Everything that is written in the course of a request is written: both keys of the password, and
its note, which must be for a message that exists. -/
def Stored (w : World) : Prop :=
  (w.later 2).fault = .none ∧ (w.later 3).fault = .none ∧ (w.later 5).fault = .none ∧
    notable w.db (w.later 1).uuid.text = true

instance (w : World) : Decidable (Stored w) := inferInstanceAs (Decidable (_ ∧ _ ∧ _ ∧ _))

/-- A request leaves a consistent state. When everything is written, a message with the password is
on its lane already, and the number is not locked out while the password exists. When something is
not, then the first key is not written; or at every later time the number is locked out, or what is
stored stands for the same passwords as what is written. -/
def Consistent (w : World) : Prop :=
  match w.next.nonce with
  | .error _ => True
  | .ok bytes =>
    if Stored w then
      OnLane otp.cfg.queue w phone (otp.generateCode bytes) ∧
        ∀ t, w.clockAt 5 ≤ t → t ≤ w.clockAt 2 + otp.ttl →
          w.redis.live t (lockoutKey phone) = none
    else (w.later 2).fault.isRefused = true ∨
      ∀ t, w.clockAt (if (w.later 2).fault = .none ∧ (w.later 3).fault = .none then 5 else 3) ≤ t →
        w.redis.live t (lockoutKey phone) ≠ none ∨
          ∀ code, Holds otp ((some (newEntry otp (otp.generateCode bytes) (w.clockAt 2))).filter
              (Keyspace.fresh t)) code ↔
            Holds otp (w.redis.live t (codeKey phone)) code

section Send

variable {otp phone} {w : World}

/-- The password that was stored is found until it expires. -/
theorem live_newEntry {code : String} {now t : ℤ} (h : t ≤ now + otp.ttl) :
    (some (newEntry otp code now)).filter (Keyspace.fresh t) = some (newEntry otp code now) := by
  rw [Option.filter_eq_some_iff]
  refine ⟨rfl, ?_⟩
  unfold Keyspace.fresh newEntry RedisCmd.expiration
  split_ifs
  · exact decide_eq_true h
  · rfl

/-- What a request for a valid number does. -/
theorem otpSend_valid (hphone : phone ≠ "")
    (hvalid : isValidPhoneNumber otp.toServices phone = true) :
    otpSend otp (some ⟨phone⟩) = Prog.act .nonce fun
      | .error _ => Prog.ret (.error 500 "failed to generate code")
      | .ok bytes => Prog.act .uuid fun messageID =>
        storeCode otp phone (otp.generateCode bytes) messageID.text >>= fun
          | .error _ => Prog.ret (.error 500 "failed to store OTP")
          | .ok () => Prog.ret (.otpSent messageID.text 300) := by
  unfold otpSend
  simp only [hphone, if_false, hvalid, Bool.not_true, Bool.false_eq_true]
  rfl

variable (otp phone) in
/-- What a request with some random bytes comes to. -/
structure SendsCode (w : World) (bytes : String) (val : Response) (w' : World) : Prop where
  sent_iff : sent val = true ↔ Stored w
  code : w'.redis (codeKey phone) =
    if (w.later 2).fault.isRefused = true then w.redis (codeKey phone)
    else some (newEntry otp (otp.generateCode bytes) (w.clockAt 2))
  lockout : w'.redis (lockoutKey phone) = w.redis (lockoutKey phone)
  streams : w'.streams = w.streams
  clock : w'.clock =
    w.clockAt (if (w.later 2).fault = .none ∧ (w.later 3).fault = .none then 5 else 3)

theorem otpSend_spec (h : Alone w) (hphone : phone ≠ "")
    (hvalid : isValidPhoneNumber otp.toServices phone = true) {bytes : String}
    (hbytes : w.next.nonce = .ok bytes) :
    SendsCode otp phone w bytes ((otpSend otp (some ⟨phone⟩)).exec (server otp.cfg) w).val
      ((otpSend otp (some ⟨phone⟩)).exec (server otp.cfg) w).state := by
  let w₁ := ((server otp.cfg).step .nonce w).2
  let w₂ := ((server otp.cfg).step .uuid w₁).2
  have hshared : w₂.toShared = w.toShared := (h.step .nonce).tick.trans h.tick
  have huuid : ((server otp.cfg).step .uuid w₁).1 = (w.later 1).uuid :=
    congrArg Tick.uuid (step_later otp.cfg w .nonce 0)
  have hlater (n : ℕ) : w₂.later n = w.later (n + 2) :=
    (step_later otp.cfg w₁ .uuid n).trans (step_later otp.cfg w .nonce (n + 1))
  have hclock (n : ℕ) : w₂.clockAt n = w.clockAt (n + 2) :=
    (step_clockAt otp.cfg w₁ .uuid n).trans (step_clockAt otp.cfg w .nonce (n + 1))
  have hwritten : Written w₂ ↔ (w.later 2).fault = .none ∧ (w.later 3).fault = .none := by
    rw [Written, hlater, hlater]
  have h₂ : Alone w₂ := (h.step .nonce).step .uuid
  have hstore := storeCode_spec otp phone (otp.generateCode bytes) (w.later 1).uuid.text h₂
  have hnonce : ((server otp.cfg).step .nonce w).1 = .ok bytes := hbytes
  rw [otpSend_valid hphone hvalid, Prog.exec_act, hnonce]
  dsimp only
  rw [Prog.exec_act, huuid, Prog.exec_bind]
  dsimp only
  obtain ⟨hok, hcode, hlockout, hstreams, hend⟩ := hstore
  rw [hlater, hclock, congrArg Shared.redis hshared] at hcode
  rw [congrArg Shared.redis hshared] at hlockout
  rw [congrArg Shared.streams hshared] at hstreams
  rw [hwritten, hlater, congrArg Shared.db hshared, and_assoc] at hok
  have hclock' : w₂.clockAt (if Written w₂ then 3 else 1) =
      w.clockAt (if (w.later 2).fault = .none ∧ (w.later 3).fault = .none then 5 else 3) := by
    simp only [hwritten, hclock]
    split_ifs <;> rfl
  rw [hclock'] at hend
  cases hval : ((storeCode otp phone (otp.generateCode bytes) (w.later 1).uuid.text).exec
      (server otp.cfg) w₂).val with
  | error e =>
    rw [hval] at hok
    exact ⟨iff_of_false nofun (fun hstored => nomatch hok.2 hstored), hcode, hlockout, hstreams, hend⟩
  | ok =>
    rw [hval] at hok
    exact ⟨iff_of_true rfl (hok.1 rfl), hcode, hlockout, hstreams, hend⟩

/-- A request that has no random bytes leaves everything as it is. -/
theorem verifies_of_no_bytes (h : Alone w) (hphone : phone ≠ "")
    (hvalid : isValidPhoneNumber otp.toServices phone = true) {e : String}
    (hbytes : w.next.nonce = .error e) :
    sent ((otpSend otp (some ⟨phone⟩)).exec (server otp.cfg) w).val = false ∧
      ((otpSend otp (some ⟨phone⟩)).exec (server otp.cfg) w).state.redis = w.redis := by
  have hnonce : ((server otp.cfg).step .nonce w).1 = .error e := hbytes
  rw [otpSend_valid hphone hvalid, Prog.exec_act, hnonce]
  exact ⟨rfl, h.tick_redis⟩

/-- **A request is all or nothing exactly when it leaves a consistent state.** -/
theorem allOrNothing_iff (h : Alone w) (hphone : phone ≠ "")
    (hvalid : isValidPhoneNumber otp.toServices phone = true) :
    AllOrNothing otp phone w ↔ Consistent otp phone w := by
  unfold AllOrNothing Consistent
  cases hbytes : w.next.nonce with
  | error e =>
    obtain ⟨hsent, hredis⟩ := verifies_of_no_bytes h hphone hvalid hbytes
    simp only [hsent, verifies_iff, hredis, Bool.false_eq_true, if_false, implies_true]
  | ok bytes =>
    obtain ⟨hsent, hcode, hlockout, hstreams, hclock⟩ := otpSend_spec h hphone hvalid hbytes
    simp only [hsent, verifies_iff, Keyspace.live_congr hlockout, OnLane, hstreams, hclock]
    by_cases hstored : Stored w
    · -- the answer is a success, and both keys are written
      rw [if_neg (by rw [hstored.1]; exact Bool.false_ne_true)] at hcode
      have hholds {t : ℤ} (ht : t ≤ w.clockAt 2 + otp.ttl) :
          Holds otp (((otpSend otp (some ⟨phone⟩)).exec (server otp.cfg) w).state.redis.live t
            (codeKey phone)) (otp.generateCode bytes) := by
        rw [Keyspace.live, hcode, live_newEntry ht]
        rfl
      rw [if_pos hstored, if_pos hstored, if_pos ⟨hstored.1, hstored.2.1⟩]
      constructor
      · rintro ⟨bytes', hbytes', hlane, hverifies⟩
        cases hbytes'
        exact ⟨hlane, fun t ht hexpiry => (hverifies t ht hexpiry).1⟩
      · rintro ⟨hlane, hunlocked⟩
        exact ⟨bytes, rfl, hlane, fun t ht hexpiry => ⟨hunlocked t ht hexpiry, hholds hexpiry⟩⟩
    · rw [if_neg hstored, if_neg hstored]
      by_cases hrefused : (w.later 2).fault.isRefused = true
      · -- nothing is written
        rw [if_pos hrefused] at hcode
        simp only [Keyspace.live_congr hcode, hrefused, implies_true, true_or]
      · rw [if_neg hrefused] at hcode
        simp only [Keyspace.live, hcode, hrefused, Bool.false_eq_true, false_or]
        refine forall₂_congr fun t ht => ?_
        by_cases hlocked : Option.filter (Keyspace.fresh t) (w.redis (lockoutKey phone)) = none
        · simp [hlocked]
        · simp [hlocked]

end Send

/-! ## One number -/

/-- Nothing fails, but there is no message that the password could be noted for: the answer is an
error, and yet the password is accepted. -/
theorem failedSend_verifies : ¬ AllOrNothing plainOTP "+919999999999" (Dispatch.onePhone []) := by
  intro h
  have hfails : sent ((otpSend plainOTP (some ⟨"+919999999999"⟩)).exec (server plainOTP.cfg)
      (Dispatch.onePhone [])).val = false := by decide
  unfold AllOrNothing at h
  dsimp only at h
  rw [hfails, if_neg Bool.false_ne_true] at h
  have hnew : Verifies plainOTP "+919999999999" ((otpSend plainOTP (some ⟨"+919999999999"⟩)).exec
      (server plainOTP.cfg) (Dispatch.onePhone [])).state "000000" 1 := by
    unfold Verifies
    decide
  have hold : ¬ Verifies plainOTP "+919999999999" (Dispatch.onePhone []) "000000" 1 := by
    unfold Verifies
    decide
  exact hold ((h 1 (by decide) "000000").1 hnew)

/-- The key of the password cannot be written. -/
def unwritten : World := Dispatch.onePhone [.quiet, .quiet, { Tick.quiet with fault := .refused "" }]

theorem alone_unwritten : Alone unwritten := by
  simp [Alone, unwritten, Dispatch.onePhone, Tick.quiet]

theorem consistent_unwritten : Consistent plainOTP "+919999999999" unwritten := by
  have hstored : ¬ Stored unwritten := by decide
  have hbytes : unwritten.next.nonce = .ok "" := rfl
  unfold Consistent
  rw [hbytes]
  dsimp only
  rw [if_neg hstored]
  exact .inl rfl

/-- The request fails, and the same passwords are accepted as before. -/
theorem allOrNothing_unwritten : AllOrNothing plainOTP "+919999999999" unwritten := by
  have hphone : ("+919999999999" : String) ≠ "" := by decide
  have hvalid : isValidPhoneNumber plainOTP.toServices "+919999999999" = true := by decide
  exact (allOrNothing_iff alone_unwritten hphone hvalid).2 consistent_unwritten

end AeroxeBee.Otp
