import AeroxeBee.Foundations.Relational
import AeroxeBee.Otp.Verify
import Mathlib.Order.CompletePartialOrder

/-!
# One-time passwords of several accounts

The requests of two accounts to the endpoints for one-time passwords, handled concurrently. A number
has one password, whichever account asked for it: the keys are made from the number alone. So the
requests of one account see those of another through a number that both use, and only so.

* `isolated`: the answers to the requests of an account are the same whatever another account
  requests for numbers that share no key with its own;
* `sameNumber_seen`: for the same number they are not.
-/

namespace AeroxeBee.Otp

open Foundations Api

variable (otp : OTPServices)

/-! ## Requests -/

/-- A request to the endpoints for one-time passwords. -/
inductive OTPRequest where
  | send (body : Option OTPSendRequest)
  | verify (body : Option OTPVerifyRequest)

namespace OTPRequest

/-- The handler of a request. -/
def handle : OTPRequest → ServerProg Response
  | send body => otpSend otp body
  | verify body => otpVerify otp body

/-- The keys of the number that a request is about. -/
def keys : OTPRequest → Set String
  | send body => body.elim ∅ fun req => keysOf req.phone
  | verify body => body.elim ∅ fun req => keysOf req.phone

end OTPRequest

/-- A moment at which a request takes its next step: the time, and what the environment contributes
to the step. Nothing runs on the server but the requests of the two accounts. -/
structure Moment where
  now : ℤ
  tick : Tick

/-- The world at a moment. -/
def Moment.put (m : Moment) (w : World) : World :=
  { w with clock := m.now, env := [{ m.tick with elapsed := 0, others := id }] }

/-- The requests of two accounts, and when they take their steps. -/
def handled (as bs : List OTPRequest) (w : World) (sched : List (ℕ × Moment)) :
    Pool ServerCmd World Response :=
  (Pool.start ((as ++ bs).map (OTPRequest.handle otp)) w).feed (server otp.cfg) Moment.put sched

/-- The answer to a request, if it has been given. -/
def answerTo (P : Pool ServerCmd World Response) (i : ℕ) : Option Response :=
  P.threads[i]?.bind Pool.returned

/-! ## What a request touches -/

/-- The command touches none but some keys, and of the database what is kept about passwords. -/
def Touches (keys : Set String) : {β : Type} → ServerCmd β → Prop
  | _, .now | _, .uuid | _, .nonce => True
  | _, .redis e => e.key ∈ keys
  | _, .db (.insertOTPMetadata _ _ _) | _, .db (.verifyOTPMetadata _) => True
  | _, _ => False

theorem Touches.mono {keys keys' : Set String} (h : keys ⊆ keys') {β : Type} {e : ServerCmd β}
    (he : Touches keys e) : Touches keys' e := by
  cases e with
  | redis e => exact h he
  | db q =>
    cases q with
    | insertOTPMetadata | verifyOTPMetadata => trivial
    | _ => exact he.elim
  | now | uuid | nonce => trivial
  | _ => exact he.elim

theorem otpSend_touches (body : Option OTPSendRequest) :
    (otpSend otp body).Only (Touches (OTPRequest.send body).keys) := by
  cases body with
  | none => trivial
  | some req =>
    unfold otpSend
    dsimp only
    split_ifs
    · trivial
    · trivial
    · refine ⟨trivial, fun bytes => ?_⟩
      cases bytes with
      | error e => trivial
      | ok bytes =>
        refine ⟨trivial, fun messageID => ?_⟩
        have hstore : (storeCode otp req.phone (otp.generateCode bytes) messageID.text).Only
            (Touches (OTPRequest.send (some req)).keys) :=
          storeCode_only codeKey_mem attemptsKey_mem trivial fun _ => trivial
        refine hstore.bind fun r => ?_
        cases r <;> trivial

theorem verifyCode_touches (phone code : String) :
    (verifyCode otp phone code).Only (Touches (keysOf phone)) :=
  verifyCode_only lockoutKey_mem codeKey_mem
    (countAttempt_only attemptsKey_mem lockoutKey_mem codeKey_mem)
    (consumeCode_only codeKey_mem attemptsKey_mem trivial)

theorem otpVerify_touches (body : Option OTPVerifyRequest) :
    (otpVerify otp body).Only (Touches (OTPRequest.verify body).keys) := by
  cases body with
  | none => trivial
  | some req =>
    unfold otpVerify
    dsimp only
    split_ifs
    · trivial
    · refine (verifyCode_touches otp req.phone req.code).bind fun r => ?_
      rcases r with ⟨_ | _, _ | (_ | _ | _)⟩ <;> trivial

theorem handle_touches (r : OTPRequest) : (r.handle otp).Only (Touches r.keys) := by
  cases r with
  | send body => exact otpSend_touches otp body
  | verify body => exact otpVerify_touches otp body

/-! ## What the requests of an account see -/

/-- What a password can be noted for: the messages, and those it was noted for before. -/
def notable (db : Database) (id : String) : Bool :=
  db.otpMetadata.any (·.messageID = id) || db.messages.any (·.id = id)

/-- Two worlds in which some keys hold the same and the same messages are stored. -/
structure SameKeys (keys : Set String) (w w' : World) : Prop where
  redis : ∀ key ∈ keys, w.redis key = w'.redis key
  notable : ∀ id, notable w.db id = notable w'.db id

namespace SameKeys

variable {keys : Set String} {w w' : World}

theorem symm (h : SameKeys keys w w') : SameKeys keys w' w :=
  ⟨fun key hkey => (h.redis key hkey).symm, fun id => (h.notable id).symm⟩

end SameKeys

section Statements

variable {keys : Set String} {β : Type} {q : Query β} (hq : Touches keys (.db q))
include hq

/-- The statements leave it as it is for which messages a password can be noted. -/
theorem run_notable (db : Database) (id : String) : notable (q.run db).2 id = notable db id := by
  cases q with
  | insertOTPMetadata messageID phone expiresAt =>
    simp only [Query.run, Database.insertPassword]
    split_ifs with hknown hmessage
    · rfl
    · rfl
    · -- the message exists, so a password could be noted for it before
      simp only [Bool.not_eq_true, Bool.not_eq_false'] at hmessage
      simp only [notable, replaced, List.any_append, List.any_cons, List.any_nil, Bool.or_false]
      by_cases hid : messageID = id
      · subst hid
        simp [hmessage]
      · simp [hid]
  | verifyOTPMetadata phone =>
    simp only [Query.run, notable, List.any_map]
    congr 2
    funext data
    dsimp only [Function.comp_apply]
    split_ifs <;> rfl
  | _ => exact hq.elim

/-- Their replies depend on nothing else. -/
theorem run_reply {db db' : Database} (h : ∀ id, notable db id = notable db' id) :
    (q.run db).1 = (q.run db').1 := by
  cases q with
  | insertOTPMetadata messageID phone expiresAt =>
    have hreply (db : Database) : (Query.run db (.insertOTPMetadata messageID phone expiresAt)).1 =
        cond (notable db messageID) (.ok ())
          (.error "insert or update on table \"otp_metadata\" violates foreign key constraint") := by
      simp only [Query.run, Database.insertPassword, notable]
      cases db.otpMetadata.any (·.messageID = messageID) <;>
        cases db.messages.any (·.id = messageID) <;> rfl
    rw [hreply, hreply, h]
  | verifyOTPMetadata phone => rfl
  | _ => exact hq.elim

end Statements

/-- A command on one of some keys depends on these keys only. -/
theorem run_redis {keys : Set String} {K K' : Keyspace} (now : ℤ) {β : Type} {e : RedisCmd β}
    (he : e.key ∈ keys) (h : ∀ key ∈ keys, K key = K' key) :
    (e.run now K).1 = (e.run now K').1 ∧
      ∀ key ∈ keys, (e.run now K).2 key = (e.run now K').2 key := by
  obtain ⟨hreply, hself⟩ := e.run_congr now (h e.key he)
  refine ⟨hreply, fun key hkey => ?_⟩
  by_cases hkeys : key = e.key
  · rw [hkeys]
    exact hself
  · rw [e.run_frame now K hkeys, e.run_frame now K' hkeys]
    exact h key hkey

/-- **The keys of some numbers are seen and changed by requests for these numbers only.** -/
theorem separates (cfg : Config) (keys : Set String) :
    Pool.Separates (server cfg) Moment.put (SameKeys keys) (Touches keys) (Touches keysᶜ) where
  symm := SameKeys.symm
  put_left h := ⟨h.redis, h.notable⟩
  step_own := by
    intro β e m w w' he h
    cases e with
    | now | uuid | nonce => exact ⟨rfl, h.redis, h.notable⟩
    | redis e =>
      obtain ⟨hreply, hkeys⟩ := @Fault.apply_agrees _ _ _
        (fun K K' : Keyspace => ∀ key ∈ keys, K key = K' key) m.tick.fault .refused .lost _ _ w.redis
        w'.redis h.redis (run_redis (m.now + 0) he h.redis)
      exact ⟨hreply, hkeys, h.notable⟩
    | db q =>
      obtain ⟨hreply, hdb⟩ := @Fault.apply_agrees _ _ _
        (fun db db' : Database => ∀ id, notable db id = notable db' id) m.tick.fault id id
        (fun db => q.run db) (fun db => q.run db) _ _ h.notable
        ⟨run_reply he h.notable, fun id => by rw [run_notable he, run_notable he, h.notable]⟩
      exact ⟨hreply, h.redis, hdb⟩
    | _ => exact he.elim
  step_foreign := by
    intro β e m w w' he h
    cases e with
    | now | uuid | nonce => exact ⟨h.redis, h.notable⟩
    | redis e =>
      refine ⟨fun key hkey => ?_, h.notable⟩
      have hne : key ≠ e.key := by
        rintro rfl
        exact he hkey
      exact (step_key_of_ne cfg e (m.put w) hne).trans (h.redis key hkey)
    | db q =>
      refine ⟨h.redis, fun id => Eq.trans ?_ (h.notable id)⟩
      rw [step_db, ServerCmd.tables]
      rcases Fault.apply_snd (m.put w).next.fault (fun s => s) (fun s => s) (fun db => q.run db)
        (m.put w).tick.db with hdb | hdb
      · exact congrArg (notable · id) hdb
      · exact (congrArg (notable · id) hdb).trans (run_notable he _ id)
    | _ => exact he.elim

/-- **The requests of an account do not see those of another** for numbers that share no key with its
own. -/
theorem isolated (as bs bs' : List OTPRequest) (w : World) (sched : List (ℕ × Moment))
    (hkeys : ∀ a ∈ as, ∀ b ∈ bs ++ bs', Disjoint a.keys b.keys) (i : ℕ) (hi : i < as.length) :
    answerTo (handled otp as bs w sched) i = answerTo (handled otp as bs' w sched) i := by
  have hown (j : ℕ) (hj : j < as.length) (p : ServerProg Response)
      (hp : ((as ++ bs).map (OTPRequest.handle otp))[j]? = some p) :
      p.Only (Touches {key | ∃ a ∈ as, key ∈ a.keys}) := by
    rw [List.getElem?_map, List.getElem?_append_left hj] at hp
    obtain ⟨a, ha, rfl⟩ := Option.map_eq_some_iff.1 hp
    refine (handle_touches otp a).mono fun e he => he.mono fun key hkey => ?_
    exact ⟨a, List.mem_of_getElem? ha, hkey⟩
  have hforeign (others : List OTPRequest) (hothers : others ⊆ bs ++ bs') :
      Pool.From (Touches {key | ∃ a ∈ as, key ∈ a.keys}ᶜ) as.length
        (Pool.start ((as ++ others).map (OTPRequest.handle otp)) w) := by
    intro j hj p hp
    change ((as ++ others).map (OTPRequest.handle otp))[j]? = some p at hp
    rw [List.getElem?_map, List.getElem?_append_right hj] at hp
    obtain ⟨b, hb, rfl⟩ := Option.map_eq_some_iff.1 hp
    refine (handle_touches otp b).mono fun e he => he.mono fun key hkey => ?_
    rintro ⟨a, ha, hmem⟩
    exact Set.disjoint_left.1 (hkeys a ha b (hothers (List.mem_of_getElem? hb))) hmem hkey
  refine congrArg (Option.bind · Pool.returned) (Pool.feed_threads_eq
    (separates otp.cfg {key | ∃ a ∈ as, key ∈ a.keys}) ?_ sched hi)
  refine ⟨⟨fun _ _ => rfl, fun _ => rfl⟩, fun j hj => ?_, hown, hforeign bs ?_, hforeign bs' ?_⟩
  · change ((as ++ bs).map (OTPRequest.handle otp))[j]? = ((as ++ bs').map (OTPRequest.handle otp))[j]?
    rw [List.getElem?_map, List.getElem?_map, List.getElem?_append_left hj,
      List.getElem?_append_left hj]
  · exact List.subset_append_left _ _
  · exact List.subset_append_right _ _

/-! ## One number of two accounts -/

/-- A moment at which nothing happens but the step. -/
def quietMoment : Moment := ⟨0, .quiet⟩

/-- An account requests a password for a number, and then verifies it. -/
def ownRequests : List OTPRequest :=
  [.send (some ⟨"+919999999999"⟩), .verify (some ⟨"+919999999999", "000000"⟩)]

/-- Another account verifies a password for the number in between. -/
def otherVerify : List OTPRequest := [.verify (some ⟨"+919999999999", "000000"⟩)]

/-- The requests one after the other. -/
def inTurn : List (ℕ × Moment) :=
  (List.replicate 6 0 ++ List.replicate 5 2 ++ List.replicate 5 1).map (·, quietMoment)

/-- The password is gone when its account verifies it: it would be accepted without the other
request. -/
theorem sameNumber_seen :
    answerTo (handled plainOTP ownRequests otherVerify (Dispatch.onePhone []) inTurn) 1 ≠
      answerTo (handled plainOTP ownRequests [] (Dispatch.onePhone []) inTurn) 1 := by
  decide

/-- The other account verifies passwords for its own number. -/
def otherNumber : List OTPRequest := [.verify (some ⟨"+918888888888", "000000"⟩)]

theorem keysOf_disjoint : Disjoint (keysOf "+919999999999") (keysOf "+918888888888") := by
  rw [Set.disjoint_left]
  rintro key (rfl | rfl | rfl) <;> rintro (h | h | h) <;> revert h <;> decide

/-- The answer is the same with and without its request. -/
theorem isolated_otherNumber :
    answerTo (handled plainOTP ownRequests otherNumber (Dispatch.onePhone []) inTurn) 1 =
      answerTo (handled plainOTP ownRequests [] (Dispatch.onePhone []) inTurn) 1 :=
  isolated plainOTP ownRequests otherNumber [] (Dispatch.onePhone []) inTurn (by
    intro a ha b hb
    obtain rfl : b = .verify (some ⟨"+918888888888", "000000"⟩) := by simpa [otherNumber] using hb
    rcases List.mem_cons.1 ha with rfl | ha
    · exact keysOf_disjoint
    · obtain rfl := List.mem_singleton.1 ha
      exact keysOf_disjoint) 1 (by decide)

end AeroxeBee.Otp
