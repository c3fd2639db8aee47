import AeroxeBee.Foundations.Sequence
import AeroxeBee.Otp.Send
import AeroxeBee.Runs
import AeroxeBee.Status.Reports

/-!
# Which messages are marked as verified

The store keeps one password for a number, while what is noted about passwords is kept by message. A
number that asks again has notes for several messages, of which only the last still has its password
stored; a right guess marks them all.

* `verifyCode_db`: what checking a password does to the notes;
* `tracks_served`: what is stored for a number is the hash of its latest password, unless it is an
  integer;
* `marksRight_iff`: over a sequence of calls only the messages are marked whose passwords were
  presented, exactly when every call that goes through finds no other message noted for its number.
-/

namespace AeroxeBee.Otp

open Foundations Api

variable (otp : OTPServices)

/-! ## What is noted for a message -/

/-- What is noted about the password of a message. -/
def getMetadata (messageID : String) : ServerProg (Except String OTPMetadata) := do
  match ← Prog.call (.db (.otpMetadataByID messageID)) with
  | .error e => return .error e
  | .ok none => return .error "no rows in result set"
  | .ok (some data) => return .ok data

/-- Whether the password of a message was verified. -/
def isVerified (messageID : String) : ServerProg (Bool × Option String) := do
  match ← getMetadata messageID with
  | .error e => return (false, some e)
  | .ok data => return (data.verified, none)

/-- A message counts as verified. -/
def Marked (w : World) (messageID : String) : Prop :=
  ((isVerified messageID).exec (server otp.cfg) (settledAt w w.clock)).val.1 = true

/-- The note for a message says that its password was verified. -/
def marked (db : Database) (messageID : String) : Bool :=
  (db.otpMetadata.find? (·.messageID = messageID)).any OTPMetadata.verified

/-- There is a note of a password for a message and a number, and it was not verified. -/
def awaits (db : Database) (phone messageID : String) : Bool :=
  (db.otpMetadata.find? (·.messageID = messageID)).any fun data =>
    data.phone = phone && !data.verified

theorem marked_iff (w : World) (messageID : String) :
    Marked otp w messageID ↔ marked w.db messageID = true := by
  unfold Marked marked isVerified getMetadata
  rw [Prog.call_bind, Prog.act_bind, Prog.exec_act]
  have hreply : ((server otp.cfg).step (.db (.otpMetadataByID messageID)) (settledAt w w.clock)).1 =
      .ok (w.db.otpMetadata.find? (·.messageID = messageID)) := rfl
  rw [hreply]
  cases w.db.otpMetadata.find? (·.messageID = messageID) with
  | none => exact Iff.rfl
  | some data => exact Iff.rfl

theorem not_marked_of_awaits {db : Database} {phone messageID : String}
    (h : awaits db phone messageID = true) : ¬ marked db messageID = true := by
  unfold awaits at h
  unfold marked
  cases hdata : db.otpMetadata.find? (·.messageID = messageID) with
  | none => nofun
  | some data =>
    rw [hdata, Option.any_some, Bool.and_eq_true, Bool.not_eq_true'] at h
    rw [Option.any_some, h.2]
    nofun

theorem mem_of_awaits {db : Database} {phone messageID : String}
    (h : awaits db phone messageID = true) : messageID ∈ db.otpMetadata.map OTPMetadata.messageID := by
  obtain ⟨data, hdata, -⟩ := (Option.any_eq_true _ _).1 h
  have hid : data.messageID = messageID := by simpa using List.find?_some hdata
  exact List.mem_map.2 ⟨data, List.mem_of_find?_eq_some hdata, hid⟩

/-- Marking the notes for a number marks those of them that await it. -/
theorem marked_verify (db : Database) (phone messageID : String) :
    marked (Query.run db (.verifyOTPMetadata phone)).2 messageID =
      (marked db messageID || awaits db phone messageID) := by
  have hid : (fun data : OTPMetadata => decide (data.messageID = messageID)) ∘ (fun data =>
      if data.phone = phone ∧ data.verified = false then
        { data with verified := true, attempts := 0 } else data) =
        fun data => decide (data.messageID = messageID) := by
    funext data
    dsimp only [Function.comp_apply]
    split_ifs <;> rfl
  simp only [Query.run, marked, awaits, List.find?_map, hid]
  cases db.otpMetadata.find? (·.messageID = messageID) with
  | none => rfl
  | some data =>
    simp only [Option.map_some, Option.any_some]
    by_cases hphone : data.phone = phone <;> cases hverified : data.verified <;> simp [hphone, hverified]

/-- A new note does not say that its password was verified. -/
theorem marked_insert (db : Database) (messageID phone : String) (expiresAt : ℤ) (id : String) :
    marked (Query.run db (.insertOTPMetadata messageID phone expiresAt)).2 id = marked db id := by
  simp only [Query.run, marked, Database.insertPassword]
  split_ifs
  · rfl
  · rfl
  · simp only [replaced, List.find?_append]
    cases db.otpMetadata.find? (·.messageID = id) with
    | some data => rfl
    | none =>
      by_cases hid : messageID = id <;> simp [hid]

/-! ## What checking a password does to the notes -/

section Check

variable {otp} {phone code : String} {w : World}

variable (otp phone code w) in
/-- A guess goes through: the number is not locked out, the password is found, and the notes are
marked. -/
structure Accepts : Prop where
  look : (w.later 0).fault = .none
  unlocked : w.redis.live (w.clockAt 0) (lockoutKey phone) = none
  read : (w.later 1).fault = .none
  holds : Holds otp (w.redis.live (w.clockAt 1) (codeKey phone)) code
  executed : (w.later 4).fault.isRefused = false

/-- The command is no statement. -/
def NoStatement : {β : Type} → ServerCmd β → Prop
  | _, .db _ => False
  | _, _ => True

theorem tables_of_noStatement {β : Type} (e : ServerCmd β) (w : World) (he : NoStatement e) :
    e.tables w = w.tick.db := by
  cases e with
  | db q => exact he.elim
  | _ => rfl

/-- A command on a key leaves the notes alone. -/
theorem step_redis_db (h : Alone w) {β : Type} (e : RedisCmd β) :
    ((server otp.cfg).step (.redis e) w).2.db = w.db :=
  (step_db otp.cfg w (.redis e)).trans h.tick_db

/-- Counting a wrong guess leaves the notes alone. -/
theorem countAttempt_db (h : Alone w) :
    ((countAttempt otp phone).exec (server otp.cfg) w).state.db = w.db := by
  have honly : (countAttempt otp phone).Only NoStatement := countAttempt_only trivial trivial trivial
  exact (Runs.of_only h honly tables_of_noStatement ⟨rfl, rfl⟩).2

variable (otp phone) in
/-- Removing a password marks the notes for its number, unless the statement is refused. -/
theorem consumeCode_db (h : Alone w) :
    ((consumeCode phone).exec (server otp.cfg) w).state.db =
      if (w.later 2).fault.isRefused = true then w.db
      else (Query.run w.db (.verifyOTPMetadata phone)).2 := by
  let w₁ := ((server otp.cfg).step (.redis (.del (codeKey phone))) w).2
  let w₂ := ((server otp.cfg).step (.redis (.del (attemptsKey phone))) w₁).2
  have h₁ : Alone w₁ := h.step _
  have h₂ : Alone w₂ := h₁.step _
  have hdb : w₂.db = w.db :=
    (step_redis_db h₁ _).trans (step_redis_db h _)
  have hfault : w₂.next.fault = (w.later 2).fault := by
    rw [next_eq_later, step_later, step_later]
  have hmark := step_statement otp.cfg w₂ (.verifyOTPMetadata phone)
  rw [hfault, h₂.tick_db, hdb] at hmark
  unfold consumeCode
  rw [Prog.call_bind, Prog.exec_act, Prog.call_bind, Prog.exec_act, Prog.call_bind, Prog.exec_act]
  refine Eq.trans ?_ hmark
  change (Prog.exec (server otp.cfg) _
    ((server otp.cfg).step (.db (.verifyOTPMetadata phone)) w₂).2).state.db = _
  cases ((server otp.cfg).step (.db (.verifyOTPMetadata phone)) w₂).1 <;> rfl

variable (otp phone) in
/-- The look at the lockout finds none. -/
theorem look_ok (h : Alone w) :
    ((server otp.cfg).step (.redis (.keyExists (lockoutKey phone))) w).1 = .ok 0 ↔
      (w.later 0).fault = .none ∧ w.redis.live (w.clockAt 0) (lockoutKey phone) = none := by
  rw [step_redis_ok, h.tick_redis, ← w.tick_clock]
  refine and_congr_right' ?_
  change Except.ok (if (w.redis.live w.tick.clock (lockoutKey phone)).isSome then 1 else 0) = _ ↔
    w.redis.live w.tick.clock (lockoutKey phone) = none
  cases w.redis.live w.tick.clock (lockoutKey phone) with
  | none => exact iff_of_true rfl rfl
  | some entry => exact iff_of_false nofun nofun

variable (otp phone) in
/-- The lookup of a password finds a hash. -/
theorem read_ok (h : Alone w) (cs : List Char) :
    ((server otp.cfg).step (.redis (.get (codeKey phone))) w).1 = .ok cs ↔
      (w.later 0).fault = .none ∧
        (w.redis.live (w.clockAt 0) (codeKey phone)).map RedisEntry.value = some (.text cs) := by
  rw [step_redis_ok, h.tick_redis, ← w.tick_clock]
  refine and_congr_right' ?_
  change ((RedisCmd.get _).reply _ (w.redis.live w.tick.clock (codeKey phone))).1 = _ ↔
    (w.redis.live w.tick.clock (codeKey phone)).map RedisEntry.value = _
  rcases w.redis.live w.tick.clock (codeKey phone) with _ | ⟨found | members, expires⟩ <;>
    simp [RedisCmd.reply]

variable (otp phone code) in
/-- **What checking a password does to the notes**: it marks those for the number if the guess goes
through, and leaves them alone otherwise. -/
theorem verifyCode_db (h : Alone w) :
    (Accepts otp phone code w ∧ ((verifyCode otp phone code).exec (server otp.cfg) w).state.db =
        (Query.run w.db (.verifyOTPMetadata phone)).2) ∨
      (¬ Accepts otp phone code w ∧
        ((verifyCode otp phone code).exec (server otp.cfg) w).state.db = w.db) := by
  let w₁ := ((server otp.cfg).step (.redis (.keyExists (lockoutKey phone))) w).2
  let w₂ := ((server otp.cfg).step (.redis (.get (codeKey phone))) w₁).2
  have h₁ : Alone w₁ := h.step _
  have h₂ : Alone w₂ := h₁.step _
  have hdb₁ : w₁.db = w.db := step_redis_db h _
  have hdb₂ : w₂.db = w.db := (step_redis_db h₁ _).trans hdb₁
  have hlook := look_ok otp phone h
  have hkey : w₁.redis (codeKey phone) = w.redis (codeKey phone) :=
    (h.spares {codeKey phone}).redis_of_ne rfl (codeKey_ne_lockoutKey phone)
  have hread (cs : List Char) := read_ok otp phone h₁ cs
  rw [step_later, step_clockAt, Keyspace.live_congr hkey] at hread
  unfold verifyCode
  rw [Prog.call_bind, Prog.exec_act]
  cases hval : ((server otp.cfg).step (.redis (.keyExists (lockoutKey phone))) w).1 with
  | error e =>
    refine .inr ⟨fun haccepts => ?_, hdb₁⟩
    cases hval.symm.trans (hlook.2 ⟨haccepts.look, haccepts.unlocked⟩)
  | ok locked =>
    cases locked with
    | succ n =>
      refine .inr ⟨fun haccepts => ?_, hdb₁⟩
      cases hval.symm.trans (hlook.2 ⟨haccepts.look, haccepts.unlocked⟩)
    | zero =>
      obtain ⟨hfault, hunlocked⟩ := hlook.1 hval
      dsimp only
      rw [if_neg (lt_irrefl 0), Prog.call_bind, Prog.exec_act]
      cases hget : ((server otp.cfg).step (.redis (.get (codeKey phone))) w₁).1 with
      | error e =>
        refine .inr ⟨fun haccepts => ?_, ?_⟩
        · cases hget.symm.trans ((hread _).2 ⟨haccepts.read, haccepts.holds⟩)
        · cases e <;> exact hdb₂
      | ok cs =>
        by_cases hwrong : (otp.hashCode code).toList ≠ cs
        · -- the guess is wrong
          refine .inr ⟨fun haccepts => hwrong ?_, ?_⟩
          · exact Except.ok.inj (((hread _).2 ⟨haccepts.read, haccepts.holds⟩).symm.trans hget)
          · dsimp only
            rw [if_pos hwrong]
            exact (countAttempt_db h₂).trans hdb₂
        · -- the guess is right, so that the notes are marked unless the statement is refused
          obtain ⟨hfault', hholds⟩ := (hread cs).1 hget
          have hmark := consumeCode_db otp phone h₂
          rw [step_later, step_later, hdb₂] at hmark
          dsimp only
          rw [if_neg hwrong]
          by_cases hrefused : (w.later 4).fault.isRefused = true
          · rw [if_pos hrefused] at hmark
            exact .inr ⟨fun haccepts => (nomatch haccepts.executed.symm.trans hrefused), hmark⟩
          · rw [if_neg hrefused] at hmark
            have hexecuted := Bool.eq_false_of_not_eq_true hrefused
            refine .inl ⟨⟨hfault, hunlocked, hfault', ?_, hexecuted⟩, hmark⟩
            rw [Holds, hholds, not_not.1 hwrong]

/-- A message is marked by a guess that goes through and awaits its number, if it was not marked
before. -/
theorem marked_verifyCall (h : Alone w) (messageID : String) :
    marked (((OTPCall.verify code).prog otp phone).exec (server otp.cfg) w).state.db messageID = true ↔
      marked w.db messageID = true ∨
        Accepts otp phone code w ∧ awaits w.db phone messageID = true := by
  have hstate : (((OTPCall.verify code).prog otp phone).exec (server otp.cfg) w).state =
      ((verifyCode otp phone code).exec (server otp.cfg) w).state := by
    rw [OTPCall.prog, Prog.exec_bind]
    rfl
  rw [hstate]
  rcases verifyCode_db otp phone code h with
    ⟨haccepts, hdb⟩ | ⟨hrefuses, hdb⟩
  · rw [hdb, marked_verify, Bool.or_eq_true, and_iff_right haccepts]
  · rw [hdb]
    exact ⟨.inl, fun hmarked => hmarked.elim id fun hboth => absurd hboth.1 hrefuses⟩

/-- The command is one of those that store a password. -/
def Notes : {β : Type} → ServerCmd β → Prop
  | _, .db (.insertOTPMetadata _ _ _) => True
  | _, .db _ => False
  | _, _ => True

/-- Storing a password marks no message. -/
theorem marked_storeCall (h : Alone w) (messageID id : String) :
    marked (((OTPCall.store code messageID).prog otp phone).exec (server otp.cfg) w).state.db id =
      marked w.db id := by
  have honly : ((OTPCall.store code messageID).prog otp phone).Only Notes := by
    refine Prog.Only.bind (storeCode_only trivial trivial trivial fun _ => trivial) fun r => ?_
    cases r <;> trivial
  refine (honly.exec_inv (I := fun w' => Alone w' ∧ marked w'.db id = marked w.db id)
    (fun e w' he hw' => ⟨hw'.1.step e, Eq.trans ?_ hw'.2⟩) ⟨h, rfl⟩).2
  rw [step_db]
  cases e with
  | db q =>
    cases q with
    | insertOTPMetadata messageID phone expiresAt =>
      rw [← step_db otp.cfg, step_statement, hw'.1.tick_db]
      split_ifs
      · rfl
      · exact marked_insert _ _ _ _ _
    | _ => exact he.elim
  | _ => exact congrArg (marked · id) hw'.1.tick_db

end Check

/-! ## The latest password of a number -/

/-- A password as it was stored: the message that it was stored for, and the time until which it is
good if there is one. -/
structure Password where
  code : String
  messageID : String
  expires : Option ℤ
deriving DecidableEq

/-- The password is still good. -/
def Password.Valid (p : Password) (t : ℤ) : Prop := ∀ expiry ∈ p.expires, t ≤ expiry

/-- The world after a sequence of calls, each of them for a number. -/
def served (w : World) (calls : List (String × OTPCall)) : World :=
  Prog.after (server otp.cfg) (fun c => c.2.prog otp c.1) w calls

/-- The password that a call stores for a number, unless its command is refused. -/
def stored (phone : String) : (String × OTPCall) × World → Option Password
  | ((phone', .store code messageID), w) =>
    if phone' = phone ∧ (w.later 0).fault.isRefused = false then
      some ⟨code, messageID, (RedisCmd.expiration otp.ttl).map (w.clockAt 0 + ·)⟩
    else none
  | _ => none

/-- The last password that was stored for a number in the course of some calls. -/
def latest (w : World) (calls : List (String × OTPCall)) (phone : String) : Option Password :=
  ((Prog.history (server otp.cfg) (fun c => c.2.prog otp c.1) w calls).filterMap
    (stored otp phone)).getLast?

section Latest

variable {otp} {w : World} {calls : List (String × OTPCall)} {phone : String}

theorem served_concat (c : String × OTPCall) : served otp w (calls ++ [c]) =
    ((c.2.prog otp c.1).exec (server otp.cfg) (served otp w calls)).state :=
  Prog.after_append calls [c]

theorem latest_concat (c : String × OTPCall) : latest otp w (calls ++ [c]) phone =
    (stored otp phone (c, served otp w calls)).or (latest otp w calls phone) := by
  unfold latest
  rw [Prog.history_append, List.filterMap_append, List.getLast?_append]
  congr 1
  change List.getLast? (List.filterMap _ [(c, served otp w calls)]) = _
  cases h : stored otp phone (c, served otp w calls) <;> simp [h]

theorem stored_of_executed {code messageID : String} (h : (w.later 0).fault.isRefused = false) :
    stored otp phone ((phone, .store code messageID), w) =
      some ⟨code, messageID, (RedisCmd.expiration otp.ttl).map (w.clockAt 0 + ·)⟩ :=
  if_pos ⟨rfl, h⟩

theorem eq_of_stored {x : (String × OTPCall) × World} {p : Password}
    (h : stored otp phone x = some p) : x.1 = (phone, .store p.code p.messageID) := by
  obtain ⟨⟨phone', c⟩, w⟩ := x
  cases c with
  | verify code => cases h
  | store code messageID =>
    dsimp only [stored] at h
    split_ifs at h with hexecuted
    obtain rfl := Option.some.inj h
    rw [hexecuted.1]

/-- The latest password was stored by one of the calls. -/
theorem mem_of_latest {p : Password} (h : latest otp w calls phone = some p) :
    (phone, .store p.code p.messageID) ∈ calls := by
  obtain ⟨x, hmem, hstored⟩ := List.mem_filterMap.1 (List.mem_of_getLast? h)
  rw [← eq_of_stored hstored]
  exact Prog.mem_of_history hmem

end Latest

/-! ## What is stored for a number -/

/-- What is stored for a number is the hash of its latest password, unless it is an integer: the key of
a strange number may be a counter or a lockout of another. -/
def Tracks (K : Keyspace) (last : String → Option Password) : Prop :=
  ∀ phone cs expires, K (codeKey phone) = some ⟨.text cs, expires⟩ → Json.parseInt cs = none →
    ∃ p, last phone = some p ∧ cs = (otp.hashCode p.code).toList ∧ expires = p.expires

/-- The command is one of the service that stores nothing but integers. -/
def Counts : {β : Type} → ServerCmd β → Prop
  | _, .redis (.set _ value _) => (Json.parseInt value).isSome = true
  | _, .redis (.get _) | _, .redis (.del _) | _, .redis (.keyExists _) | _, .redis (.incr _) => True
  | _, .redis _ => False
  | _, _ => True

section Tracks

variable {otp} {w : World} {phone : String} {last : String → Option Password}

theorem codeKey_injective : Function.Injective codeKey := fun _ _ h =>
  (String.append_right_inj _).1 h

/-- A text that is no integer was there before a command that stores nothing but integers. -/
theorem reply_of_counts {β : Type} {e : RedisCmd β} (he : Counts (.redis e)) {now : ℤ}
    {entry : Option RedisEntry} {cs : List Char} {expires : Option ℤ}
    (hreply : (e.reply now entry).2 = some ⟨.text cs, expires⟩) (hcs : Json.parseInt cs = none) :
    entry = some ⟨.text cs, expires⟩ := by
  cases e with
  | get key => exact (RedisCmd.reply_of_reads (e := .get key) rfl now entry).symm.trans hreply
  | keyExists key =>
    exact (RedisCmd.reply_of_reads (e := .keyExists key) rfl now entry).symm.trans hreply
  | set key value ttl =>
    change (Json.parseInt value).isSome = true at he
    obtain ⟨rfl, -⟩ : value = cs ∧ _ := by simpa [RedisCmd.reply] using hreply
    rw [hcs] at he
    cases he
  | del key => cases hreply
  | incr key =>
    rcases entry with _ | ⟨found | members, old⟩
    · obtain ⟨rfl, -⟩ : Json.intLit 1 = cs ∧ _ := by simpa [RedisCmd.reply] using hreply
      cases (Json.parseInt_intLit 1).symm.trans hcs
    · cases hfound : Json.parseInt found with
      | none => simpa [RedisCmd.reply, hfound] using hreply
      | some n =>
        obtain ⟨rfl, -⟩ : Json.intLit (n + 1) = cs ∧ _ := by
          simpa [RedisCmd.reply, hfound] using hreply
        cases (Json.parseInt_intLit (n + 1)).symm.trans hcs
    · simp [RedisCmd.reply] at hreply
  | _ => exact he.elim

/-- Commands that store nothing but integers keep track. -/
theorem Tracks.step (h : Tracks otp w.redis last) (hw : Alone w) {β : Type} {e : ServerCmd β}
    (he : Counts e) : Tracks otp ((server otp.cfg).step e w).2.redis last := by
  intro phone cs expires hentry hcs
  refine h phone cs expires ?_ hcs
  have hkeys := step_redis otp.cfg w e
  cases e with
  | redis e =>
    by_cases hkey : codeKey phone = e.key
    · rw [hkey] at hentry ⊢
      rcases step_key otp.cfg e w with ⟨text, -, -, hsame⟩ | ⟨-, hreply, -⟩
      · rw [← hw.tick_redis, ← hsame]
        exact hentry
      · have hlive := reply_of_counts he (hreply.symm.trans hentry) hcs
        rw [hw.tick_redis] at hlive
        exact (Option.filter_eq_some_iff.1 hlive).1
    · rw [step_key_of_ne otp.cfg e w hkey, hw.tick_redis] at hentry
      exact hentry
  | _ =>
    rw [hkeys] at hentry
    exact (congrFun hw.tick_redis (codeKey phone)).symm.trans hentry

/-- A routine of such commands keeps track. -/
theorem Tracks.exec (h : Tracks otp w.redis last) (hw : Alone w) {α : Type} {p : ServerProg α}
    (hp : p.Only Counts) : Tracks otp (p.exec (server otp.cfg) w).state.redis last :=
  (hp.exec_inv (I := fun w' => Alone w' ∧ Tracks otp w'.redis last)
    (fun e _ he hw' => ⟨hw'.1.step e, hw'.2.step hw'.1 he⟩) ⟨hw, h⟩).2

theorem verifyCall_counts (phone code : String) :
    ((OTPCall.verify code).prog otp phone).Only Counts := by
  have hverify : (verifyCode otp phone code).Only Counts :=
    verifyCode_only trivial trivial (countAttempt_only trivial rfl trivial)
      (consumeCode_only trivial trivial trivial)
  exact hverify.bind fun r => trivial

/-- A password that is stored is the latest of its number. -/
theorem Tracks.storeCall (h : Tracks otp w.redis last) (hw : Alone w) (code messageID : String) :
    Tracks otp (((OTPCall.store code messageID).prog otp phone).exec (server otp.cfg) w).state.redis
      fun phone' => (stored otp phone' ((phone, .store code messageID), w)).or (last phone') := by
  let set : ServerCmd _ := .redis (.set (codeKey phone) (otp.hashCode code).toList
    (RedisCmd.expiration otp.ttl))
  let w₁ := ((server otp.cfg).step set w).2
  have hspares := hw.spares Set.univ
  have hset : Tracks otp w₁.redis fun phone' =>
      (stored otp phone' ((phone, .store code messageID), w)).or (last phone') := by
    intro phone' cs expires hentry hcs
    by_cases hphone : phone = phone'
    · subst hphone
      by_cases hrefused : (w.later 0).fault.isRefused = true
      · rw [hspares.redis_of_refused trivial _ hrefused] at hentry
        simpa [stored, hrefused] using h phone cs expires hentry hcs
      · have hnew : w₁.redis (codeKey phone) = some (newEntry otp code (w.clockAt 0)) := by
          rw [newEntry, ← step_now_val otp.cfg w]
          exact hspares.redis_of_executed trivial hrefused
        rw [hnew, newEntry, Option.some_inj, RedisEntry.mk.injEq, RedisValue.text.injEq] at hentry
        obtain ⟨rfl, rfl⟩ := hentry
        refine ⟨⟨code, messageID, _⟩, ?_, rfl, rfl⟩
        dsimp only
        rw [stored_of_executed (Bool.eq_false_of_not_eq_true hrefused)]
        rfl
    · have hne : codeKey phone' ≠ codeKey phone := fun hkey => hphone (codeKey_injective hkey).symm
      rw [hspares.redis_of_ne trivial hne] at hentry
      simpa [stored, hphone] using h phone' cs expires hentry hcs
  refine hset.exec (hw.step set) ?_
  generalize ((server otp.cfg).step set w).1 = set'
  refine ⟨rfl, fun reset => ?_⟩
  cases set' with
  | error e => trivial
  | ok =>
    cases reset with
    | error e => trivial
    | ok =>
      refine ⟨trivial, fun now => ⟨trivial, fun reply => ?_⟩⟩
      cases reply <;> trivial

variable (otp) in
theorem alone_served (hw : Alone w) (calls : List (String × OTPCall)) :
    Alone (served otp w calls) :=
  Prog.after_inv (fun c _ _ hv => hv.exec (c.2.prog otp c.1)) hw

/-- **What is stored is the hash of the latest password**, after any calls. -/
theorem tracks_served (hw : Alone w) (hstart : Tracks otp w.redis fun _ => none)
    (calls : List (String × OTPCall)) :
    Tracks otp (served otp w calls).redis (latest otp w calls) := by
  induction calls using List.reverseRecOn with
  | nil => exact hstart
  | append_singleton calls c ih =>
    have halone := alone_served otp hw calls
    obtain ⟨phone, c⟩ := c
    rw [served_concat]
    cases c with
    | store code messageID =>
      have hlatest : latest otp w (calls ++ [(phone, .store code messageID)]) = fun phone' =>
          (stored otp phone' ((phone, .store code messageID), served otp w calls)).or
            (latest otp w calls phone') :=
        funext fun phone' => latest_concat (phone, .store code messageID)
      rw [hlatest]
      exact ih.storeCall halone code messageID
    | verify code =>
      have hlatest : latest otp w (calls ++ [(phone, .verify code)]) = latest otp w calls :=
        funext fun phone' => latest_concat (phone, .verify code)
      rw [hlatest]
      exact ih.exec halone (verifyCall_counts phone code)

end Tracks

/-! ## Only the right messages are marked -/

/-- A call presents the password of a message while it is good: it is the latest of the number. -/
def Presents (w : World) (last : Option Password) (c : OTPCall) (messageID : String) : Prop :=
  ∃ p, last = some p ∧ c = .verify p.code ∧ p.messageID = messageID ∧ p.Valid (w.clockAt 1)

/-- The password of a message was replaced or has expired: it is not the latest of any number, or no
longer good. -/
def Lapsed (last : String → Option Password) (now : ℤ) (messageID : String) : Prop :=
  ∀ phone p, last phone = some p → p.messageID = messageID → ¬ p.Valid now

/-- **Verification marks the right message.** A message comes to be marked only by a call that presents
its password while it is good; and one that is not marked when its password has been replaced or has
expired is not marked later, unless a password is stored for it again. -/
structure MarksRight (w : World) (calls : List (String × OTPCall)) : Prop where
  marks : ∀ before phone c, before ++ [(phone, c)] <+: calls → ∀ messageID,
    ¬ Marked otp (served otp w before) messageID →
      Marked otp (served otp w (before ++ [(phone, c)])) messageID →
        Presents (served otp w before) (latest otp w before phone) c messageID
  stays : ∀ before rest, before ++ rest <+: calls → ∀ messageID,
    ¬ Marked otp (served otp w before) messageID →
      Lapsed (latest otp w before) (served otp w before).clock messageID →
        (∀ phone code, (phone, OTPCall.store code messageID) ∉ rest) →
          ¬ Marked otp (served otp w (before ++ rest)) messageID

/-- A guess that goes through finds no message noted for its number but the one for which the latest
password was stored, apart from those that are marked already. -/
def Sole (w : World) (phone : String) (last : Option Password) : OTPCall → Prop
  | .store _ _ => True
  | .verify code => Accepts otp phone code w → ∀ messageID, awaits w.db phone messageID = true →
    last.map Password.messageID = some messageID

/-- The password of a call. -/
def OTPCall.code : OTPCall → String
  | store code _ | verify code => code

/-- The hashes of some passwords differ, and none of them is the text of an integer. -/
structure Hashed (codes : Set String) : Prop where
  injOn : Set.InjOn otp.hashCode codes
  parseInt : ∀ code ∈ codes, Json.parseInt (otp.hashCode code).toList = none

/-- The passwords of some calls. -/
def codes (calls : List (String × OTPCall)) : Set String := {code | ∃ c ∈ calls, c.2.code = code}

section Marks

variable {otp} {w : World} {phone : String} {c : OTPCall} {calls : List (String × OTPCall)}

/-- A guess that goes through presents the latest password of its number. -/
theorem presents_of_accepts {last : String → Option Password}
    (htracks : Tracks otp w.redis last) {codes : Set String} (hhash : Hashed otp codes)
    (hlast : ∀ p, last phone = some p → p.code ∈ codes) {code : String} (hcode : code ∈ codes)
    (h : Accepts otp phone code w) {p : Password} (hp : last phone = some p) :
    p.code = code ∧ p.Valid (w.clockAt 1) := by
  obtain ⟨⟨value, expires⟩, hentry, hvalue⟩ := Option.map_eq_some_iff.1 h.holds
  dsimp only at hvalue
  subst hvalue
  obtain ⟨hentry, hfresh⟩ := Option.filter_eq_some_iff.1 hentry
  obtain ⟨q, hq, hhash', rfl⟩ := htracks phone _ _ hentry (hhash.parseInt code hcode)
  obtain rfl := Option.some.inj (hq.symm.trans hp)
  refine ⟨hhash.injOn (hlast q hp) hcode (String.toList_inj.1 hhash'.symm), fun expiry hexpiry => ?_⟩
  rw [Keyspace.fresh, Option.mem_def.1 hexpiry] at hfresh
  exact of_decide_eq_true hfresh

/-- **One call**: it marks only the message whose password it presents, exactly when its guess, if it
goes through, finds no other noted for its number. -/
theorem marks_iff (hw : Alone w) {last : String → Option Password}
    (htracks : Tracks otp w.redis last) {codes : Set String} (hhash : Hashed otp codes)
    (hlast : ∀ p, last phone = some p → p.code ∈ codes) (hcode : c.code ∈ codes) :
    (∀ messageID, ¬ Marked otp w messageID →
      Marked otp ((c.prog otp phone).exec (server otp.cfg) w).state messageID →
        Presents w (last phone) c messageID) ↔
      Sole otp w phone (last phone) c := by
  simp only [marked_iff]
  cases c with
  | store code messageID =>
    refine iff_of_true (fun id hbefore hafter => ?_) trivial
    rw [marked_storeCall hw] at hafter
    exact absurd hafter hbefore
  | verify code =>
    simp only [marked_verifyCall hw]
    constructor
    · intro h haccepts messageID hawaits
      obtain ⟨p, hp, -, rfl, -⟩ :=
        h messageID (not_marked_of_awaits hawaits) (.inr ⟨haccepts, hawaits⟩)
      rw [hp]
      rfl
    · intro h messageID hbefore hafter
      obtain ⟨haccepts, hawaits⟩ := hafter.resolve_left hbefore
      obtain ⟨p, hp, rfl⟩ := Option.map_eq_some_iff.1 (h haccepts messageID hawaits)
      obtain ⟨rfl, hvalid⟩ := presents_of_accepts htracks hhash hlast hcode haccepts hp
      exact ⟨p, hp, rfl, rfl, hvalid⟩

/-- No time is before the start of a call when it has been served. -/
theorem clock_le_exec (cfg : Config) {α : Type} (p : ServerProg α) (w : World) :
    w.clock ≤ (p.exec (server cfg) w).state.clock :=
  (Prog.only_of_forall (P := fun _ => True) (fun _ => trivial) p).exec_inv
    (fun e w' _ (hle : w.clock ≤ World.clock w') => hle.trans (by
      rw [step_clockAt_zero]
      exact w'.clock_le_clockAt 0)) le_rfl

theorem Password.Valid.mono {p : Password} {t t' : ℤ} (h : p.Valid t') (hle : t ≤ t') : p.Valid t :=
  fun expiry hexpiry => hle.trans (h expiry hexpiry)

/-- What is not marked when its password has lapsed stays so while only the right messages are
marked. -/
theorem stays_of_marks {before : List (String × OTPCall)} {messageID : String}
    (h : ∀ before phone c, before ++ [(phone, c)] <+: calls → ∀ messageID,
      ¬ Marked otp (served otp w before) messageID →
        Marked otp (served otp w (before ++ [(phone, c)])) messageID →
          Presents (served otp w before) (latest otp w before phone) c messageID)
    (hbefore : ¬ Marked otp (served otp w before) messageID)
    (hlapsed : Lapsed (latest otp w before) (served otp w before).clock messageID)
    (rest : List (String × OTPCall)) (hrest : before ++ rest <+: calls)
    (hstores : ∀ phone code, (phone, OTPCall.store code messageID) ∉ rest) :
    ¬ Marked otp (served otp w (before ++ rest)) messageID ∧
      Lapsed (latest otp w (before ++ rest)) (served otp w (before ++ rest)).clock messageID := by
  induction rest using List.reverseRecOn with
  | nil =>
    rw [List.append_nil]
    exact ⟨hbefore, hlapsed⟩
  | append_singleton rest c ih =>
    obtain ⟨phone, c⟩ := c
    rw [← List.append_assoc] at hrest ⊢
    obtain ⟨hunmarked, hlapsed'⟩ := ih ((List.prefix_append _ _).trans hrest)
      fun phone' code hmem => hstores phone' code (List.mem_append_left _ hmem)
    refine ⟨fun hmarked => ?_, fun phone' p hp hid hvalid => ?_⟩
    · obtain ⟨p, hp, -, hid, hvalid⟩ := h _ phone c hrest messageID hunmarked hmarked
      exact hlapsed' phone p hp hid (hvalid.mono ((served otp w _).clock_le_clockAt 1))
    · rw [served_concat] at hvalid
      rw [latest_concat] at hp
      have hvalid' := hvalid.mono (clock_le_exec otp.cfg _ _)
      rcases Option.or_eq_some_iff.1 hp with hstored | ⟨-, hlast⟩
      · -- the call stores a password, for another message
        obtain ⟨rfl, rfl⟩ := Prod.mk.inj (eq_of_stored hstored)
        subst hid
        exact hstores _ p.code (List.mem_append_right _ (List.mem_singleton_self _))
      · exact hlapsed' phone' p hlast hid hvalid'

/-- **Verification marks the right message exactly when every guess that goes through finds no other
message noted for its number.** -/
theorem marksRight_iff (hw : Alone w) (hstart : Tracks otp w.redis fun _ => none)
    (hhash : Hashed otp (codes calls)) :
    MarksRight otp w calls ↔ ∀ before phone c, before ++ [(phone, c)] <+: calls →
      Sole otp (served otp w before) phone (latest otp w before phone) c := by
  have hcall (before : List (String × OTPCall)) (phone : String) (c : OTPCall)
      (hinit : before ++ [(phone, c)] <+: calls) :
      (∀ messageID, ¬ Marked otp (served otp w before) messageID →
        Marked otp (served otp w (before ++ [(phone, c)])) messageID →
          Presents (served otp w before) (latest otp w before phone) c messageID) ↔
        Sole otp (served otp w before) phone (latest otp w before phone) c := by
    have hmem {x : String × OTPCall} (hx : x ∈ before ++ [(phone, c)]) : x.2.code ∈ codes calls :=
      ⟨x, hinit.subset hx, rfl⟩
    rw [served_concat]
    refine marks_iff (alone_served otp hw before) (tracks_served hw hstart before) hhash
      (fun p hp => ?_) (hmem (List.mem_append_right _ (List.mem_singleton_self _)))
    exact hmem (List.mem_append_left _ (mem_of_latest hp))
  constructor
  · intro h before phone c hinit
    exact (hcall before phone c hinit).1 (h.marks before phone c hinit)
  · intro h
    have hmarks := fun before phone c hinit =>
      (hcall before phone c hinit).2 (h before phone c hinit)
    exact ⟨hmarks, fun before rest hrest messageID hbefore hlapsed hstores =>
      (stays_of_marks hmarks hbefore hlapsed rest hrest hstores).1⟩

end Marks

/-! ## A number that asks again -/

/-- The services with the hashes of two passwords as they are. -/
def hexOTP : OTPServices :=
  { plainOTP with
    hashCode code :=
      if code = "111111" then "19d49d2353137ddae8b82689283199369e3636ac4303bf83fef444fe271eb2c6"
      else if code = "222222" then
        "14f9a5f5ae86bc82499cb305c99e4c02da5df5d9b04dbb62688df0203b3018ab"
      else code }

/-- A server with two messages to the same number. -/
def twoMessages : World :=
  let w := Dispatch.onePhone []
  { w with db := { w.db with
      messages := [Status.waitingMessage, { Status.waitingMessage with id := "message-2" }] } }

/-- A password is stored for a message, and then another for a second message to the same number. -/
def askedAgain : List (String × OTPCall) :=
  [("+919999999999", .store "111111" "message-1"), ("+919999999999", .store "222222" "message-2")]

/-- The second password is presented, and the first message is marked too. -/
theorem askedAgain_marks : ¬ MarksRight hexOTP twoMessages
    (askedAgain ++ [("+919999999999", .verify "222222")]) := by
  intro h
  have hbefore : ¬ Marked hexOTP (served hexOTP twoMessages askedAgain) "message-1" := by
    unfold Marked
    decide
  have hafter : Marked hexOTP (served hexOTP twoMessages
      (askedAgain ++ [("+919999999999", .verify "222222")])) "message-1" := by
    unfold Marked
    decide
  have hlatest : (latest hexOTP twoMessages askedAgain "+919999999999").map Password.messageID =
      some "message-2" := by decide
  obtain ⟨p, hp, -, hid, -⟩ := h.marks askedAgain _ _ List.prefix_rfl _ hbefore hafter
  rw [hp, Option.map_some, hid] at hlatest
  revert hlatest
  decide

/-- A password is stored for a message and presented. -/
def askedOnce : List (String × OTPCall) :=
  [("+919999999999", .store "111111" "message-1"), ("+919999999999", .verify "111111")]

theorem alone_twoMessages : Alone twoMessages := fun _ ht => absurd ht List.not_mem_nil

theorem tracks_twoMessages : Tracks hexOTP twoMessages.redis fun _ => none := nofun

theorem hashed_askedOnce : Hashed hexOTP (codes askedOnce) := by
  have hcode {code : String} (h : code ∈ codes askedOnce) : code = "111111" := by
    obtain ⟨c, hc, rfl⟩ := h
    rcases List.mem_cons.1 hc with rfl | hc
    · rfl
    · rw [List.mem_singleton.1 hc]
      rfl
  refine ⟨fun code h code' h' _ => (hcode h).trans (hcode h').symm, fun code h => ?_⟩
  rw [hcode h]
  decide

/-- The message is noted alone when its password is presented. -/
theorem sole_askedOnce (before : List (String × OTPCall)) (phone : String) (c : OTPCall)
    (h : before ++ [(phone, c)] <+: askedOnce) : Sole hexOTP (served hexOTP twoMessages before) phone
      (latest hexOTP twoMessages before phone) c := by
  obtain ⟨rest, hrest⟩ := h
  rw [List.append_assoc, List.singleton_append] at hrest
  rcases before with _ | ⟨x, _ | ⟨y, before⟩⟩
  · obtain ⟨rfl, rfl⟩ := Prod.mk.inj (List.cons.inj hrest).1
    trivial
  · obtain ⟨hfirst, hlast⟩ := List.cons.inj hrest
    subst hfirst
    obtain ⟨rfl, rfl⟩ := Prod.mk.inj (List.cons.inj hlast).1
    intro _ messageID hawaits
    have hnoted : (served hexOTP twoMessages
        [("+919999999999", .store "111111" "message-1")]).db.otpMetadata.map OTPMetadata.messageID =
          ["message-1"] := by decide
    have hmem := mem_of_awaits hawaits
    rw [hnoted, List.mem_singleton] at hmem
    rw [hmem]
    decide
  · have hlength := congrArg List.length hrest
    simp [askedOnce] at hlength

/-- Then only its message is marked. -/
theorem askedOnce_marks : MarksRight hexOTP twoMessages askedOnce :=
  (marksRight_iff alone_twoMessages tracks_twoMessages hashed_askedOnce).2 sole_askedOnce

end AeroxeBee.Otp
