import AeroxeBee.Api.Endpoints
import AeroxeBee.Foundations.Protocol

/-!
# Verifying one-time passwords

The endpoint that checks one-time passwords, and what several calls of the service for one number
do to the three keys of the number. A call looks for the lockout, reads the stored hash, and then
either counts a wrong guess or removes the password; each of these is a command of its own.

* `phased_calls`: the protocol that the calls keep to;
* `verified_once`: a password is accepted once, in every run in which a call reads the hash of its own
  password only after the calls that read theirs before have removed it.
-/

namespace AeroxeBee.Otp

open Foundations Api

/-! ## The service -/

/-- The key that locks a number out. -/
def lockoutKey (phone : String) : String := "otp:lockout:" ++ phone

/-- Why there is no verdict on a password. -/
inductive OTPError where
  | notFound
  | locked
  | other (text : String)
deriving DecidableEq

/-- Count a wrong guess; one too many locks the number out and removes the password. -/
def countAttempt (otp : OTPServices) (phone : String) : ServerProg (Bool × Option OTPError) := do
  match ← Prog.call (.redis (.incr (attemptsKey phone))) with
  | .error e => return (false, some (.other e.text))
  | .ok attempts =>
    if otp.maxAttempts ≤ attempts then do
      let _ ← Prog.call (.redis (.set (lockoutKey phone) "1".toList
        (RedisCmd.expiration otp.lockoutTTL)))
      let _ ← Prog.call (.redis (.del (codeKey phone)))
      return (false, none)
    else return (false, none)

/-- Remove a password that was guessed, and note that it was. -/
def consumeCode (phone : String) : ServerProg (Bool × Option OTPError) := do
  let _ ← Prog.call (.redis (.del (codeKey phone)))
  let _ ← Prog.call (.redis (.del (attemptsKey phone)))
  match ← Prog.call (.db (.verifyOTPMetadata phone)) with
  | .error e => return (true, some (.other e))
  | .ok () => return (true, none)

/-- Check a password for a number. -/
def verifyCode (otp : OTPServices) (phone code : String) :
    ServerProg (Bool × Option OTPError) := do
  match ← Prog.call (.redis (.keyExists (lockoutKey phone))) with
  | .error e => return (false, some (.other e.text))
  | .ok locked =>
    if 0 < locked then return (false, some .locked)
    else
      match ← Prog.call (.redis (.get (codeKey phone))) with
      | .error .nil => return (false, some .notFound)
      | .error e => return (false, some (.other e.text))
      | .ok storedHash =>
        if (otp.hashCode code).toList ≠ storedHash then countAttempt otp phone
        else consumeCode phone

/-- The body of a request to check a one-time password. -/
structure OTPVerifyRequest where
  phone : String
  code : String

/-- Check a one-time password. -/
def otpVerify (otp : OTPServices) (body : Option OTPVerifyRequest) : ServerProg Response := do
  match body with
  | none => return .error 400 "invalid request body"
  | some req =>
    if req.phone = "" ∨ req.code = "" then return .error 400 "phone and code are required"
    else
      match ← verifyCode otp req.phone req.code with
      | (_, some .notFound) => return .error 404 "OTP expired or not found"
      | (_, some .locked) => return .error 429 "too many failed attempts, account locked"
      | (_, some (.other _)) => return .error 500 "verification failed"
      | (false, none) => return .error 401 "invalid OTP code"
      | (true, none) => return .otpVerified

/-! ## Calls of the service -/

/-- A call of the service for a number. -/
inductive OTPCall where
  | store (code messageID : String)
  | verify (code : String)

/-- What a call returns. -/
inductive OTPReply where
  | stored (err : Option String)
  | verified (valid : Bool) (err : Option OTPError)
deriving DecidableEq

/-- A call of the service. -/
def OTPCall.prog (otp : OTPServices) (phone : String) : OTPCall → ServerProg OTPReply
  | store code messageID => do
    match ← storeCode otp phone code messageID with
    | .error e => return .stored (some e)
    | .ok () => return .stored none
  | verify code => do
    let (valid, err) ← verifyCode otp phone code
    return .verified valid err

/-- Calls of the service that are served concurrently. -/
abbrev Calls := Pool ServerCmd World OTPReply

/-- The calls for a number before any of them has moved. -/
def service (otp : OTPServices) (phone : String) (calls : List OTPCall) (w : World) : Calls :=
  .start (calls.map (OTPCall.prog otp phone)) w

/-! ## The commands of a call -/

section Commands

variable {otp : OTPServices} {phone : String} {P : ∀ {β : Type}, ServerCmd β → Prop}

theorem storeCode_only {code messageID : String}
    (hset : P (.redis (.set (codeKey phone) (otp.hashCode code).toList
      (RedisCmd.expiration otp.ttl))))
    (hreset : P (.redis (.set (attemptsKey phone) "0".toList (RedisCmd.expiration otp.ttl))))
    (hnow : P .now) (hnote : ∀ expiresAt, P (.db (.insertOTPMetadata messageID phone expiresAt))) :
    (storeCode otp phone code messageID).Only P := by
  refine ⟨hset, fun set => ⟨hreset, fun reset => ?_⟩⟩
  cases set with
  | error e => trivial
  | ok =>
    cases reset with
    | error e => trivial
    | ok => exact ⟨hnow, fun now => ⟨hnote _, fun reply => trivial⟩⟩

theorem countAttempt_only (hincr : P (.redis (.incr (attemptsKey phone))))
    (hlock : P (.redis (.set (lockoutKey phone) "1".toList (RedisCmd.expiration otp.lockoutTTL))))
    (hdel : P (.redis (.del (codeKey phone)))) : (countAttempt otp phone).Only P := by
  refine ⟨hincr, fun attempts => ?_⟩
  cases attempts with
  | error e => trivial
  | ok attempts =>
    change Prog.Only _ (ite _ _ _)
    split_ifs
    · exact ⟨hlock, fun _ => ⟨hdel, fun _ => trivial⟩⟩
    · trivial

theorem consumeCode_only (hdel : P (.redis (.del (codeKey phone))))
    (hforget : P (.redis (.del (attemptsKey phone)))) (hmark : P (.db (.verifyOTPMetadata phone))) :
    (consumeCode phone).Only P := by
  refine ⟨hdel, fun _ => ⟨hforget, fun _ => ⟨hmark, fun reply => ?_⟩⟩⟩
  cases reply <;> trivial

theorem verifyCode_only {code : String} (hlook : P (.redis (.keyExists (lockoutKey phone))))
    (hread : P (.redis (.get (codeKey phone)))) (hcount : (countAttempt otp phone).Only P)
    (hconsume : (consumeCode phone).Only P) : (verifyCode otp phone code).Only P := by
  refine ⟨hlook, fun locked => ?_⟩
  cases locked with
  | error e => trivial
  | ok locked =>
    change Prog.Only _ (ite _ _ _)
    split_ifs
    · trivial
    · refine ⟨hread, fun reply => ?_⟩
      cases reply with
      | error e => cases e <;> trivial
      | ok storedHash =>
        change Prog.Only _ (ite _ _ _)
        split_ifs
        · exact hcount
        · exact hconsume

end Commands

/-! ## The protocol of a call -/

/-- What a call has done: whether it found that the number is not locked out, the hash it read,
whether its guess was counted, and whether it removed the password. -/
structure Progress where
  admitted : Bool
  found : Option (List Char)
  counted : Bool
  removed : Bool

namespace Progress

/-- A call that has not done anything. -/
def start : Progress := ⟨false, none, false, false⟩

/-- What a call makes of an event. -/
def next (phone : String) (s : Progress) : Event ServerCmd → Progress
  | ⟨.redis (.keyExists _), .ok 0⟩ => { s with admitted := true }
  | ⟨.redis (.get _), .ok storedHash⟩ => { s with found := some storedHash }
  | ⟨.redis (.incr _), reply⟩ => { s with counted := s.counted || executed reply }
  | ⟨.redis (.del key), reply⟩ =>
    { s with removed := s.removed || (key = codeKey phone && executed reply) }
  | _ => s

/-- What a call may do next. -/
def Allows (otp : OTPServices) (phone : String) (c : OTPCall) (s : Progress) :
    {β : Type} → ServerCmd β → Prop
  | _, .now | _, .db _ => True
  | _, .redis (.set key value ttl) =>
    match c with
    | .store _ _ => key = codeKey phone ∨ key = attemptsKey phone ∧ value = "0".toList
    | .verify _ => key = lockoutKey phone ∧ ttl = RedisCmd.expiration otp.lockoutTTL
  | _, .redis e =>
    ∃ code, c = .verify code ∧
      match e with
      | .keyExists key => key = lockoutKey phone ∧ s.admitted = false
      | .get key => key = codeKey phone ∧ s.admitted = true ∧ s.found = none ∧
          s.counted = false ∧ s.removed = false
      | .incr key => key = attemptsKey phone ∧ ∃ storedHash, s.found = some storedHash ∧
          (otp.hashCode code).toList ≠ storedHash
      | .del key => key = codeKey phone ∨ key = attemptsKey phone
      | _ => False
  | _, _ => False

/-- The reply of a call that accepts its password follows from what it read. -/
def Ends (otp : OTPServices) (c : OTPCall) (s : Progress) : OTPReply → Prop
  | .verified true _ => ∃ code, c = .verify code ∧ s.found = some (otp.hashCode code).toList
  | _ => True

end Progress

variable (otp : OTPServices) (phone : String)

/-- The protocol of a call. -/
def protocol (c : OTPCall) : Protocol ServerCmd Progress where
  allows s := Progress.Allows otp phone c s
  expects _ := True
  next := Progress.next phone

theorem store_keeps (code messageID : String) (s : Progress) :
    ((OTPCall.store code messageID).prog otp phone).Keeps (protocol otp phone (.store code messageID))
      (Progress.Ends otp (.store code messageID)) s := by
  refine ⟨.inl rfl, fun set _ => ⟨.inr ⟨rfl, rfl⟩, fun reset _ => ?_⟩⟩
  cases set with
  | error e => trivial
  | ok =>
    cases reset with
    | error e => trivial
    | ok =>
      refine ⟨trivial, fun now _ => ⟨trivial, fun reply _ => ?_⟩⟩
      cases reply <;> trivial

theorem countAttempt_keeps {code : String} {s : Progress} {storedHash : List Char}
    (hfound : s.found = some storedHash) (hwrong : (otp.hashCode code).toList ≠ storedHash) :
    (countAttempt otp phone).Keeps (protocol otp phone (.verify code))
      (fun _ r => r.1 = false) s := by
  refine ⟨⟨code, rfl, rfl, storedHash, hfound, hwrong⟩, fun reply _ => ?_⟩
  cases reply with
  | error e => rfl
  | ok attempts =>
    change Prog.Keeps _ _ (ite _ _ _) _
    split_ifs
    · exact ⟨⟨rfl, rfl⟩, fun _ _ => ⟨⟨code, rfl, .inl rfl⟩, fun _ _ => rfl⟩⟩
    · rfl

theorem consumeCode_keeps {code : String} {s : Progress}
    (hfound : s.found = some (otp.hashCode code).toList) :
    (consumeCode phone).Keeps (protocol otp phone (.verify code))
      (fun s _ => s.found = some (otp.hashCode code).toList) s := by
  refine ⟨⟨code, rfl, .inl rfl⟩, fun _ _ => ⟨⟨code, rfl, .inr rfl⟩, fun _ _ => ⟨trivial, fun reply _ => ?_⟩⟩⟩
  cases reply <;> exact hfound

theorem verify_keeps (code : String) :
    ((OTPCall.verify code).prog otp phone).Keeps (protocol otp phone (.verify code))
      (Progress.Ends otp (.verify code)) .start := by
  have hverify : (verifyCode otp phone code).Keeps (protocol otp phone (.verify code))
      (fun s r => r.1 = true → s.found = some (otp.hashCode code).toList) .start := by
    refine ⟨⟨code, rfl, rfl, rfl⟩, fun locked _ => ?_⟩
    cases locked with
    | error e => nofun
    | ok locked =>
      cases locked with
      | succ n => nofun
      | zero =>
        refine ⟨⟨code, rfl, rfl, rfl, rfl, rfl, rfl⟩, fun reply _ => ?_⟩
        cases reply with
        | error e => cases e <;> nofun
        | ok storedHash =>
          change Prog.Keeps _ _ (ite _ _ _) _
          split_ifs with hwrong
          · refine (countAttempt_keeps otp phone rfl hwrong).mono fun s r hr => ?_
            rw [hr]
            nofun
          · have hfound : some storedHash = some (otp.hashCode code).toList :=
              congrArg some (not_not.1 hwrong).symm
            refine (consumeCode_keeps otp phone hfound).mono fun s r hr => ?_
            intro
            exact hr
  refine hverify.bind fun s r hr => ?_
  obtain ⟨valid, err⟩ := r
  cases valid with
  | false => trivial
  | true => exact ⟨code, rfl, hr rfl⟩

theorem phased_calls : Pool.Phased (OTPCall.prog otp phone) (protocol otp phone)
    (Progress.Ends otp) (Progress.next phone) .start where
  next_eq _ := rfl
  expects _ _ := trivial
  keeps c := by
    cases c with
    | store code messageID => exact store_keeps otp phone code messageID .start
    | verify code => exact verify_keeps otp phone code

/-! ## Passwords are accepted once -/

/-- The hash that a call has read is that of its own password. -/
def OTPCall.guesses (storedHash : List Char) : OTPCall → Bool
  | store _ _ => false
  | verify code => (otp.hashCode code).toList = storedHash

/-- What a call among others has done. -/
abbrev progress (P : Calls) (i : ℕ) : Progress := P.phase (Progress.next phone) .start i

/-- The call has found its password stored. -/
def accepts (calls : List OTPCall) (P : Calls) (i : ℕ) : Bool :=
  calls[i]?.any fun c => (progress phone P i).found.any fun storedHash => c.guesses otp storedHash

/-- A call that finds its password stored comes after every other such call has removed it. -/
def Settled (calls : List OTPCall) (P : Calls) (i : ℕ) : {β : Type} → ServerCmd β → Prop
  | _, .redis (.get key) => ∀ storedHash,
    ((server otp.cfg).step (.redis (.get key)) P.state).1 = .ok storedHash →
      (calls[i]?.any fun c => c.guesses otp storedHash) = true →
        ∀ j < calls.length, j ≠ i → accepts otp phone calls P j = true →
          (progress phone P j).removed = true
  | _, _ => True

theorem codeKey_ne_attemptsKey : codeKey phone ≠ attemptsKey phone := by
  intro h
  have hlength := congrArg String.length h
  simp [codeKey, attemptsKey, String.length] at hlength

theorem codeKey_ne_lockoutKey : codeKey phone ≠ lockoutKey phone := by
  intro h
  have hlength := congrArg String.length h
  simp [codeKey, lockoutKey, String.length] at hlength

theorem attemptsKey_ne_lockoutKey : attemptsKey phone ≠ lockoutKey phone := by
  intro h
  have hlength := congrArg String.length h
  simp [attemptsKey, lockoutKey, String.length] at hlength

/-- The keys of a number. -/
def keysOf (phone : String) : Set String := {codeKey phone, attemptsKey phone, lockoutKey phone}

variable {phone} in
theorem codeKey_mem : codeKey phone ∈ keysOf phone := .inl rfl

variable {phone} in
theorem attemptsKey_mem : attemptsKey phone ∈ keysOf phone := .inr (.inl rfl)

variable {phone} in
theorem lockoutKey_mem : lockoutKey phone ∈ keysOf phone := .inr (.inr rfl)

section Once

variable {otp phone} {calls : List OTPCall} {P : Calls} {i j : ℕ} {c : OTPCall} {β : Type}
  {e : ServerCmd β} {k : β → ServerProg OTPReply}

variable (otp phone calls) in
/-- At most one call has found its password stored, and the password is gone once such a call has
removed it. -/
structure Once (P : Calls) : Prop where
  spared : Spares {codeKey phone} P.state
  gone : ∀ i, accepts otp phone calls P i = true → (progress phone P i).removed = true →
    P.state.redis (codeKey phone) = none
  one : ∀ i j, accepts otp phone calls P i = true → accepts otp phone calls P j = true → i = j


theorem accepts_congr {P' : Calls} (h : (progress phone P' j).found = (progress phone P j).found) :
    accepts otp phone calls P' j = accepts otp phone calls P j := by
  rw [accepts, accepts, h]

theorem lt_length_of_accepts (h : accepts otp phone calls P j = true) : j < calls.length := by
  by_contra hlt
  rw [accepts, List.getElem?_eq_none (Nat.le_of_not_lt hlt)] at h
  cases h

/-- What a call has done after a step. -/
theorem progress_advance : progress phone (P.advance (server otp.cfg) i e k) =
    Function.update (progress phone P) i
      ((progress phone P i).next phone ⟨e, ((server otp.cfg).step e P.state).1⟩) :=
  funext fun _ => by rw [progress, Pool.phase_advance]

/-- A step that reads nothing, and removes the password if it claims to. -/
theorem Once.idle (h : Once otp phone calls P) {t : Progress}
    (ht : (progress phone P i).next phone ⟨e, ((server otp.cfg).step e P.state).1⟩ = t)
    (hnone : P.state.redis (codeKey phone) = none →
      ((server otp.cfg).step e P.state).2.redis (codeKey phone) = none)
    (hfound : t.found = (progress phone P i).found)
    (hremoved : t.removed = true → (progress phone P i).removed = true ∨
      ((server otp.cfg).step e P.state).2.redis (codeKey phone) = none) :
    Once otp phone calls (P.advance (server otp.cfg) i e k) := by
  have hphase : progress phone (P.advance (server otp.cfg) i e k) =
      Function.update (progress phone P) i t := by rw [progress_advance, ht]
  have hsame (j : ℕ) : accepts otp phone calls (P.advance (server otp.cfg) i e k) j =
      accepts otp phone calls P j := by
    refine accepts_congr ?_
    rw [hphase]
    by_cases hji : j = i
    · rw [hji, Function.update_self, hfound]
    · rw [Function.update_of_ne hji]
  refine ⟨h.spared.step e, fun j hj hgone => ?_, fun j l hj hl => ?_⟩
  · rw [hsame] at hj
    rw [hphase] at hgone
    by_cases hji : j = i
    · subst hji
      rw [Function.update_self] at hgone
      exact (hremoved hgone).elim (fun hbefore => hnone (h.gone j hj hbefore)) id
    · rw [Function.update_of_ne hji] at hgone
      exact hnone (h.gone j hj hgone)
  · rw [hsame] at hj hl
    exact h.one j l hj hl

/-- A call reads the stored hash. -/
theorem Once.read (h : Once otp phone calls P) {k : Except RedisErr (List Char) → ServerProg OTPReply}
    (hremoved : (progress phone P i).removed = false)
    (hsettled : Settled otp phone calls P i (.redis (.get (codeKey phone)))) :
    Once otp phone calls (P.advance (server otp.cfg) i (.redis (.get (codeKey phone))) k) := by
  have htick : P.state.tick.redis (codeKey phone) = P.state.redis (codeKey phone) :=
    h.spared.tick rfl
  have hkey := step_key otp.cfg (.get (codeKey phone)) P.state
  dsimp only [RedisCmd.key] at hkey
  rw [Keyspace.live_congr htick] at hkey
  have hlive : P.state.redis (codeKey phone) = none →
      P.state.redis.live P.state.tick.clock (codeKey phone) = none := by
    intro hnone
    rw [Keyspace.live, hnone]
    rfl
  have hget := RedisCmd.reply_get P.state.tick.clock
    (P.state.redis.live P.state.tick.clock (codeKey phone)) (codeKey phone)
  have hnone : P.state.redis (codeKey phone) = none →
      ((server otp.cfg).step (.redis (.get (codeKey phone))) P.state).2.redis (codeKey phone) =
        none := by
    intro hgone
    rcases hkey with ⟨text, -, -, hsame⟩ | ⟨-, hreply, -⟩
    · rw [hsame, htick, hgone]
    · rw [hreply, hget.1, hlive hgone]
  cases hval : ((server otp.cfg).step (.redis (.get (codeKey phone))) P.state).1 with
  | error err => exact h.idle (t := progress phone P i) (by rw [hval]; rfl) hnone rfl .inl
  | ok storedHash =>
    have hphase : progress phone (P.advance (server otp.cfg) i (.redis (.get (codeKey phone))) k) =
        Function.update (progress phone P) i
          { progress phone P i with found := some storedHash } := by
      rw [progress_advance, hval]
      rfl
    have hself : accepts otp phone calls
        (P.advance (server otp.cfg) i (.redis (.get (codeKey phone))) k) i =
          calls[i]?.any fun c => c.guesses otp storedHash := by
      rw [accepts, hphase, Function.update_self]
      rfl
    have hother (j : ℕ) (hj : j ≠ i) : accepts otp phone calls
        (P.advance (server otp.cfg) i (.redis (.get (codeKey phone))) k) j =
          accepts otp phone calls P j :=
      accepts_congr (by rw [hphase, Function.update_of_ne hj])
    -- there is a hash to be read, so nobody has removed it
    have hfirst (hguess : (calls[i]?.any fun c => c.guesses otp storedHash) = true) (j : ℕ)
        (hj : j ≠ i) : accepts otp phone calls P j = false := by
      by_contra hacc
      have hacc := Bool.eq_true_of_not_eq_false hacc
      have hgone := hlive (h.gone j hacc (hsettled storedHash hval hguess j
        (lt_length_of_accepts hacc) hj hacc))
      rcases hkey with ⟨text, -, hreply, -⟩ | ⟨-, -, hreply | ⟨text, hreply⟩⟩
      · cases hval.symm.trans hreply
      · cases hval.symm.trans (hreply.trans (hget.2.2 hgone))
      · cases hval.symm.trans hreply
    refine ⟨h.spared.step _, fun j hj hgone => ?_, fun j l hj hl => ?_⟩
    · rw [hphase] at hgone
      by_cases hji : j = i
      · rw [hji, Function.update_self] at hgone
        cases hremoved.symm.trans hgone
      · rw [Function.update_of_ne hji] at hgone
        rw [hother j hji] at hj
        exact hnone (h.gone j hj hgone)
    · by_cases hji : j = i
      · by_cases hli : l = i
        · rw [hji, hli]
        · rw [hji, hself] at hj
          rw [hother l hli, hfirst hj l hli] at hl
          cases hl
      · by_cases hli : l = i
        · rw [hli, hself] at hl
          rw [hother j hji, hfirst hl j hji] at hj
          cases hj
        · rw [hother j hji] at hj
          rw [hother l hli] at hl
          exact h.one j l hj hl

variable (phone) in
theorem next_keyExists (s : Progress) (key : String) (reply : Except RedisErr ℕ) :
    (s.next phone ⟨.redis (.keyExists key), reply⟩).found = s.found ∧
      (s.next phone ⟨.redis (.keyExists key), reply⟩).removed = s.removed := by
  rcases reply with e | (_ | n) <;> exact ⟨rfl, rfl⟩

/-- What the removal of the password comes to. -/
theorem step_del {w : World} (htick : w.tick.redis (codeKey phone) = w.redis (codeKey phone)) :
    (w.redis (codeKey phone) = none →
        ((server otp.cfg).step (.redis (.del (codeKey phone))) w).2.redis (codeKey phone) = none) ∧
      ∀ s : Progress, (s.next phone ⟨.redis (.del (codeKey phone)),
          ((server otp.cfg).step (.redis (.del (codeKey phone))) w).1⟩).removed = true →
        s.removed = true ∨
          ((server otp.cfg).step (.redis (.del (codeKey phone))) w).2.redis (codeKey phone) =
            none := by
  rcases step_key otp.cfg (.del (codeKey phone)) w with
    ⟨text, -, hreply, hsame⟩ | ⟨-, hgone, -⟩
  · refine ⟨fun hnone => ?_, fun s hremoved => .inl ?_⟩
    · exact hsame.trans (htick.trans hnone)
    · rw [hreply] at hremoved
      simpa [Progress.next, executed] using hremoved
  · exact ⟨fun _ => hgone, fun _ _ => .inr hgone⟩

/-- A call takes its next step. -/
theorem Once.step (h : Once otp phone calls P) {code : String}
    (hallows : (progress phone P i).Allows otp phone (.verify code) e)
    (hsettled : Settled otp phone calls P i e) :
    Once otp phone calls (P.advance (server otp.cfg) i e k) := by
  have htick : P.state.tick.redis (codeKey phone) = P.state.redis (codeKey phone) :=
    h.spared.tick rfl
  cases e with
  | redis e =>
    have hframe (hne : codeKey phone ≠ e.key) : P.state.redis (codeKey phone) = none →
        ((server otp.cfg).step (.redis e) P.state).2.redis (codeKey phone) = none := by
      intro hnone
      rw [step_key_of_ne otp.cfg e P.state hne, htick, hnone]
    cases e with
    | set key value ttl =>
      obtain ⟨rfl, -⟩ := hallows
      exact h.idle rfl (hframe (codeKey_ne_lockoutKey phone)) rfl .inl
    | get key =>
      obtain ⟨code', -, rfl, -, -, -, hremoved⟩ := hallows
      exact h.read hremoved hsettled
    | keyExists key =>
      obtain ⟨code', -, rfl, -⟩ := hallows
      obtain ⟨hfound, hremoved⟩ := next_keyExists phone (progress phone P i) (lockoutKey phone)
        ((server otp.cfg).step (.redis (.keyExists (lockoutKey phone))) P.state).1
      exact h.idle rfl (hframe (codeKey_ne_lockoutKey phone)) hfound fun hgone =>
        .inl (hremoved.symm.trans hgone)
    | incr key =>
      obtain ⟨code', -, rfl, -⟩ := hallows
      exact h.idle rfl (hframe (codeKey_ne_attemptsKey phone)) rfl .inl
    | del key =>
      obtain ⟨code', -, rfl | rfl⟩ := hallows
      · exact h.idle rfl (step_del htick).1 rfl ((step_del htick).2 _)
      · refine h.idle rfl (hframe (codeKey_ne_attemptsKey phone)) rfl fun hgone => .inl ?_
        simpa [Progress.next, (codeKey_ne_attemptsKey phone).symm] using hgone
    | _ =>
      obtain ⟨code', -, hfalse⟩ := hallows
      exact hfalse.elim
  | now | db => exact h.idle rfl htick.trans rfl .inl
  | _ => exact hallows.elim

end Once

/-- A call that has accepted its password has found it stored. -/
theorem accepts_of_done {calls : List OTPCall} {w : World} {sched : List ℕ} {i : ℕ}
    {err : Option OTPError}
    (h : (i, .verified true err) ∈ ((service otp phone calls w).run (server otp.cfg) sched).done) :
    accepts otp phone calls ((service otp phone calls w).run (server otp.cfg) sched) i = true := by
  have hi := Pool.done_threads (calls.map (OTPCall.prog otp phone)) w sched h
  obtain ⟨c, hc, -⟩ := Pool.follows (OTPCall.prog otp phone) calls w sched hi
  obtain ⟨code, rfl, hfound⟩ := (phased_calls otp phone).returned hc hi
  change (progress phone ((service otp phone calls w).run (server otp.cfg) sched) i).found = _
    at hfound
  rw [accepts, hc, hfound]
  exact decide_eq_true rfl

/-- **A password is accepted once**, in runs in which a call that finds its password stored comes
after every other such call has removed it. -/
theorem verified_once (code messageID : String) (guesses : List String) (w : World)
    (sched : List ℕ) (hw : Spares {codeKey phone} w)
    (hsched : Pool.EachStep (server otp.cfg)
      (Pool.Meets fun P i => Settled otp phone (guesses.map .verify) P i)
      (service otp phone (guesses.map .verify)
        ((storeCode otp phone code messageID).exec (server otp.cfg) w).state) sched) :
    {i | ∃ err, (i, .verified true err) ∈ ((service otp phone (guesses.map .verify)
      ((storeCode otp phone code messageID).exec (server otp.cfg) w).state).run (server otp.cfg)
        sched).done}.Subsingleton := by
  have hnobody (i : ℕ) : accepts otp phone (guesses.map .verify)
      (service otp phone (guesses.map .verify)
        ((storeCode otp phone code messageID).exec (server otp.cfg) w).state) i = false := by
    rw [accepts]
    cases (guesses.map OTPCall.verify)[i]? <;> rfl
  have hstart : Once otp phone (guesses.map .verify) (service otp phone (guesses.map .verify)
      ((storeCode otp phone code messageID).exec (server otp.cfg) w).state) := by
    refine ⟨hw.exec _, fun i hi => ?_, fun i j hi => ?_⟩
    · cases (hnobody i).symm.trans hi
    · cases (hnobody i).symm.trans hi
  have hrun := Pool.run_phases_inv (phased_calls otp phone) hstart hsched
    fun P i c β e k hc hi hallows _ hP hG => by
      obtain ⟨code, -, rfl⟩ := List.mem_map.1 (List.mem_of_getElem? hc)
      exact hP.step hallows (Pool.meets_of_act hG hi)
  rintro i ⟨err, hi⟩ j ⟨err', hj⟩
  exact hrun.one i j (accepts_of_done otp phone hi) (accepts_of_done otp phone hj)

/-! ## Two right guesses -/

section Decidable

variable {otp phone} {calls : List OTPCall}

/-- The condition on a command as a test. -/
def settled (otp : OTPServices) (phone : String) (calls : List OTPCall) (P : Calls) (i : ℕ) :
    {β : Type} → ServerCmd β → Bool
  | _, .redis (.get key) =>
    match ((server otp.cfg).step (.redis (.get key)) P.state).1 with
    | .error _ => true
    | .ok storedHash => decide ((calls[i]?.any fun c => c.guesses otp storedHash) = true →
        ∀ j < calls.length, j ≠ i → accepts otp phone calls P j = true →
          (progress phone P j).removed = true)
  | _, _ => true

instance decidableSettled (P : Calls) (i : ℕ) {β : Type} (e : ServerCmd β) :
    Decidable (Settled otp phone calls P i e) :=
  decidable_of_iff (settled otp phone calls P i e = true) (by
    cases e with
    | redis e =>
      cases e with
      | get key =>
        simp only [settled, Settled]
        generalize ((server otp.cfg).step (.redis (.get key)) P.state).1 = reply
        cases reply with
        | error err => exact iff_of_true rfl fun _ => nofun
        | ok storedHash =>
          rw [decide_eq_true_iff]
          exact ⟨fun h _ heq => Except.ok.inj heq ▸ h, fun h => h storedHash rfl⟩
      | _ => exact iff_of_true rfl trivial
    | _ => exact iff_of_true rfl trivial)

end Decidable

/-- The server on which a password is stored for a message. -/
def passwordStored : World :=
  ((storeCode plainOTP "+919999999999" "123456" "00000000-0000-4000-8000-000000000000").exec
    (server .default) ((send plainServices order.caller order.body).exec (server .default)
      (Dispatch.onePhone [])).state).state

/-- Two calls with the password. -/
def twoGuesses : Calls :=
  service plainOTP "+919999999999" (["123456", "123456"].map .verify) passwordStored

/-- Both calls are accepted: the second reads the hash before the first has removed it. -/
theorem twoGuesses_accepted :
    ¬ {i | ∃ err, (i, .verified true err) ∈
      (twoGuesses.run (server .default) [0, 1, 0, 1, 0, 0, 0, 1, 1, 1]).done}.Subsingleton := by
  intro h
  have hdone : (twoGuesses.run (server .default) [0, 1, 0, 1, 0, 0, 0, 1, 1, 1]).done =
      [(0, .verified true none), (1, .verified true none)] := by decide
  have hsame : 0 = 1 := h ⟨none, by rw [hdone]; simp⟩ ⟨none, by rw [hdone]; simp⟩
  cases hsame

/-- One after the other, only the first of them is. -/
theorem verified_once_inOrder :
    {i | ∃ err, (i, .verified true err) ∈
      (twoGuesses.run (server .default) [0, 0, 0, 0, 0, 1, 1]).done}.Subsingleton :=
  verified_once plainOTP "+919999999999" "123456" "00000000-0000-4000-8000-000000000000"
    ["123456", "123456"]
    ((send plainServices order.caller order.body).exec (server .default) (Dispatch.onePhone [])).state
    [0, 0, 0, 0, 0, 1, 1] (Spares.exec (fun _ ht => absurd ht List.not_mem_nil) _) (by decide)

end AeroxeBee.Otp
