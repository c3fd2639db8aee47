import AeroxeBee.Api.Handling
import AeroxeBee.Dispatch.Acknowledged

/-!
# Requests answered as duplicates

Requests to `send` are handled one after the other. A request whose idempotency key is found is
answered as a duplicate with what is stored under the key. The key is stored, with an empty message
id, before the quota, the encryption, the database and the queue had a chance to fail, and it is
never completed or taken back.

* `answer_duplicate_iff`: a request is answered as a duplicate exactly when it finds its key;
* `send_blank`: a request leaves nothing but the empty text under its key, once it stored a
  message;
* `sequence_faithful_iff`: duplicates are answered as they should be exactly as long as no request finds
  its key.
-/

namespace AeroxeBee.Api

open Foundations Dispatch

variable (svc : Services)

/-! ## Requests to send a message -/

/-- A request to `send`. -/
structure SendCall where
  caller : Caller
  body : Option SendSMSRequest

namespace SendCall

/-- The handler of the request. -/
def prog (c : SendCall) : ServerProg Response := send svc c.caller c.body

/-- The idempotency key of the request. -/
def key (c : SendCall) : Option String := c.body.map SendSMSRequest.idempotencyKey

/-- The run of the handler from a world. -/
def run (x : SendCall × World) : Outcome ServerCmd World Response :=
  (x.1.prog svc).exec (server svc.cfg) x.2

/-- Where a request looks its key up, if it gets there: the message it asks for, and the world
before the lookup. -/
def lookup (c : SendCall) (w : World) : Option (Draft × World) :=
  match SendSMSRequest.validate svc c.body with
  | .error _ => none
  | .ok d =>
    let checked := (checkOptionalDevice c.caller.accountID d.deviceID).exec (server svc.cfg)
      ((server svc.cfg).step .now w).2
    match checked.val with
    | .error _ => none
    | .ok () => some (d, checked.state)

end SendCall

/-- The lookup of a key in this world succeeds and finds a text. -/
def Finds (w : World) (key : String) (cs : List Char) : Prop :=
  w.next.fault = .none ∧
    ∃ expires, w.tick.redis.live w.tick.clock (redisKey key) = some ⟨.text cs, expires⟩

/-- The request comes to the lookup of its key and finds it. -/
def FindsKey (x : SendCall × World) : Prop :=
  ∃ d w cs, x.1.lookup svc x.2 = some (d, w) ∧ Finds w d.idempotencyKey cs

/-! ## Faithful answers -/

/-- The event stores a message with the given id. -/
def stores (msgID : String) : Event ServerCmd → Bool
  | ⟨.db (.createMessage row), .ok ()⟩ => row.id = msgID
  | _ => false

/-- The event puts a message with the given id on the queue. -/
def enqueues (msgID : String) : Event ServerCmd → Bool
  | ⟨.queue (.xAdd _ values _), .ok _⟩ => (Worker.decode values).any fun msg => msg.id = msgID
  | _ => false

/-- A message with the given id was stored and put on the queue. -/
def Delivered (msgID : String) (evs : List (Event ServerCmd)) : Prop :=
  evs.any (stores msgID) = true ∧ evs.any (enqueues msgID) = true

/-- **What is asked of an answer**, given the requests before it. If the request is answered as a
duplicate, then an earlier request with its key stored and enqueued the message whose id is given;
and if every earlier request with its key failed, it is not answered as a duplicate. -/
def Answers (before : List (SendCall × World)) (x : SendCall × World) : Prop :=
  (∀ msgID, (SendCall.run svc x).val = .duplicate msgID →
    ∃ y ∈ before, y.1.key = x.1.key ∧ Delivered msgID (SendCall.run svc y).trace) ∧
  ((∀ y ∈ before, y.1.key = x.1.key →
    ∃ status text, (SendCall.run svc y).val = .error status text) →
      ∀ msgID, (SendCall.run svc x).val ≠ .duplicate msgID)

/-- The requests and the worlds they come to, when they are handled one after the other. -/
abbrev requests (calls : List SendCall) (w : World) : List (SendCall × World) :=
  Prog.history (server svc.cfg) (SendCall.prog svc) w calls

/-- **Duplicates are answered faithfully** in a sequence of requests. -/
def Faithful (calls : List SendCall) (w : World) : Prop :=
  Justified (Answers svc) (requests svc calls w)

/-- Nothing else on the server touches the idempotency keys. -/
def Undisturbed (w : World) : Prop :=
  ∀ t ∈ w.env, ∀ s key, (t.others s).redis (redisKey key) = s.redis (redisKey key)

/-! ## The handler in two parts -/

variable {svc}

theorem exec_orReturn {α : Type} (p : ServerProg (Except Response α))
    (rest : α → ServerProg Response) (w : World) :
    (orReturn p rest).exec (server svc.cfg) w =
      match p.exec (server svc.cfg) w with
      | ⟨.error r, w₁, evs⟩ => ⟨r, w₁, evs⟩
      | ⟨.ok a, w₁, evs⟩ =>
        let o := (rest a).exec (server svc.cfg) w₁
        ⟨o.val, o.state, evs ++ o.trace⟩ := by
  unfold orReturn
  rw [Prog.exec_bind]
  generalize p.exec (server svc.cfg) w = o
  obtain ⟨r, w₁, evs⟩ := o
  cases r with
  | error r => simp
  | ok a => rfl

/-- The response is not the answer to a duplicate. -/
def NotDuplicate (r : Response) : Prop := ∀ msgID, r ≠ .duplicate msgID

/-- The check does not end the request with the answer to a duplicate. -/
def Refuses {α : Type} (r : Except Response α) : Prop := ∀ e, r = .error e → NotDuplicate e

theorem Errs.refuses {α : Type} {r : Except Response α} (h : Errs r) : Refuses r := by
  intro e he
  obtain ⟨status, text, rfl⟩ := h e he
  exact fun _ => nofun

theorem orReturn_notDuplicate {α : Type} {p : ServerProg (Except Response α)}
    {rest : α → ServerProg Response} (hp : p.Returns Refuses)
    (hrest : ∀ a, (rest a).Returns NotDuplicate) : (orReturn p rest).Returns NotDuplicate := by
  refine hp.bind fun r hr => ?_
  cases r with
  | error e => exact hr e rfl
  | ok a => exact hrest a

/-- A message whose key is new is not answered as a duplicate. -/
theorem sendFresh_notDuplicate (caller : Caller) (startTime : ℤ) (d : Draft) :
    (sendFresh svc caller startTime d).Returns NotDuplicate := by
  refine orReturn_notDuplicate ((requireQuota_errs _).mono fun _ => Errs.refuses) fun _ msgID now => ?_
  refine orReturn_notDuplicate ((encrypt_errs _).mono fun _ => Errs.refuses) fun encrypted => ?_
  refine orReturn_notDuplicate
    ((storeAndEnqueue_errs _ _ _ _ _).mono fun _ => Errs.refuses) fun _ done => ?_
  exact fun _ => nofun

/-! ## The lookup -/

/-- The command stores no message. -/
def StoresNothing : {β : Type} → ServerCmd β → Prop
  | _, .db (.createMessage _) => False
  | _, _ => True

theorem StoresNothing.not_stores {β : Type} {e : ServerCmd β} (h : StoresNothing e) (b : β)
    (msgID : String) : stores msgID ⟨e, b⟩ = false := by
  cases e with
  | db q =>
    cases q with
    | createMessage row => exact h.elim
    | _ => rfl
  | _ => rfl

theorem Plain.storesNothing {keys : Prop} {β : Type} {e : ServerCmd β} (h : Plain keys e) :
    StoresNothing e := by
  cases e with
  | db q =>
    cases q with
    | createMessage row => exact h.elim
    | _ => trivial
  | _ => trivial

theorem checkOptionalDevice_storesNothing (account deviceID : String) :
    (checkOptionalDevice account deviceID).Only StoresNothing := by
  have hplain : (checkOptionalDevice account deviceID).Only (Plain True) :=
    checkOptionalDevice_plain account deviceID
  exact hplain.mono fun _ => Plain.storesNothing

variable (svc) in
theorem checkDuplicate_storesNothing (key : String) :
    (checkDuplicate svc key).Only StoresNothing :=
  (checkDuplicate_plain key).mono fun _ => Plain.storesNothing

theorem get_ok_iff {key : String} {cs : List Char} {w : World} :
    ((server svc.cfg).step (.redis (.get (redisKey key))) w).1 = .ok cs ↔ Finds w key cs := by
  change (w.next.fault.apply RedisErr.refused RedisErr.lost
    ((RedisCmd.get (redisKey key)).run w.tick.clock) w.tick.redis).1 = .ok cs ↔ _
  unfold Finds
  cases w.next.fault with
  | refused text => simp [Fault.apply]
  | lost text => simp [Fault.apply]
  | none =>
    rw [Fault.apply]
    simp only [RedisCmd.run, RedisCmd.key, RedisCmd.reply, true_and]
    rcases w.tick.redis.live w.tick.clock (redisKey key) with _ | ⟨cs' | members, expires⟩ <;> simp

theorem Finds.unique {key : String} {cs cs' : List Char} {w : World} (h : Finds w key cs)
    (h' : Finds w key cs') : cs = cs' := by
  obtain ⟨-, expires, hlive⟩ := h
  obtain ⟨-, expires', hlive'⟩ := h'
  exact RedisValue.text.inj (RedisEntry.mk.inj (Option.some.inj (hlive.symm.trans hlive'))).1

/-- The lookup of a key. -/
abbrev getKey (svc : Services) (key : String) (w : World) : Except RedisErr (List Char) × World :=
  (server svc.cfg).step (.redis (.get (redisKey key))) w

/-- The store of a key that was not found. -/
abbrev setKey (svc : Services) (key : String) (w : World) : Except RedisErr Unit × World :=
  (server svc.cfg).step (.redis (.set (redisKey key) []
    (if 0 < svc.cfg.app.idempotencyTTL then some svc.cfg.app.idempotencyTTL else none))) w

/-- The time to live of a key that was stored. -/
abbrev expireKey (svc : Services) (key : String) (w : World) : Except RedisErr Unit × World :=
  (server svc.cfg).step (.redis (.expire (redisKey key) svc.cfg.app.idempotencyTTL)) w

theorem Finds.not_nil {key : String} {cs : List Char} {w : World} (h : Finds w key cs) :
    (getKey svc key w).1 ≠ .error .nil := by
  rw [get_ok_iff.2 h]
  exact nofun

/-- What the check of a key can come to. -/
inductive Checked (svc : Services) (key : String) (w : World)
    (o : Outcome ServerCmd World (Except Response Unit)) : Prop
  | found (cs : List Char) (hfinds : Finds w key cs)
      (hval : o.val = .error (.duplicate (String.ofList cs)))
      (hstate : o.state = (getKey svc key w).2)
  | stored (hnil : (getKey svc key w).1 = .error .nil)
      (hset : (setKey svc key (getKey svc key w).2).1 = .ok ())
      (hexpire : (expireKey svc key (setKey svc key (getKey svc key w).2).2).1 = .ok ())
      (hval : o.val = .ok ())
      (hstate : o.state = (expireKey svc key (setKey svc key (getKey svc key w).2).2).2)
  | notStored (hnil : (getKey svc key w).1 = .error .nil)
      (hnot : (setKey svc key (getKey svc key w).2).1 = .ok () →
        (expireKey svc key (setKey svc key (getKey svc key w).2).2).1 ≠ .ok ())
      (hval : o.val = .error (.error 500 "idempotency check failed"))
      (hstate : o.state = (expireKey svc key (setKey svc key (getKey svc key w).2).2).2)
  | failed (hnil : (getKey svc key w).1 ≠ .error .nil) (hfinds : ∀ cs, ¬ Finds w key cs)
      (hval : o.val = .error (.error 500 "idempotency check failed"))
      (hstate : o.state = (getKey svc key w).2)

variable (svc) in
/-- **What the check of a key does**, in any world. -/
theorem checked (key : String) (w : World) :
    Checked svc key w ((checkDuplicate svc key).exec (server svc.cfg) w) := by
  have hfinds := fun cs => (@get_ok_iff svc key cs w).symm
  unfold checkDuplicate checkAndSet
  rw [bind_assoc, Prog.call_bind, Prog.exec_act]
  cases hget : (getKey svc key w).1 with
  | ok cs => exact .found cs ((hfinds cs).2 hget) rfl rfl
  | error e =>
    cases e with
    | nil =>
      simp only [Prog.call_bind, Prog.act_bind, Prog.exec_act, String.toList_empty]
      cases hset : (setKey svc key (getKey svc key w).2).1 with
      | error e => exact .notStored hget (fun h => by cases hset.symm.trans h) rfl rfl
      | ok =>
        cases hexpire : (expireKey svc key (setKey svc key (getKey svc key w).2).2).1 with
        | error e => exact .notStored hget (fun _ h => by cases hexpire.symm.trans h) rfl rfl
        | ok => exact .stored hget hset hexpire rfl rfl
    | refused text =>
      exact .failed (by simp [hget]) (fun cs h => by simpa [hget] using (hfinds cs).1 h) rfl rfl
    | lost text =>
      exact .failed (by simp [hget]) (fun cs h => by simpa [hget] using (hfinds cs).1 h) rfl rfl

/-! ## The run of a request -/

theorem StoresNothing.any_stores {α : Type} {p : ServerProg α} (hp : p.Only StoresNothing)
    (w : World) (msgID : String) :
    (p.exec (server svc.cfg) w).trace.any (stores msgID) = false := by
  refine List.any_eq_false.2 fun ev hev => ?_
  rw [(hp.exec_trace (server svc.cfg) w ev hev).not_stores ev.val msgID]
  exact Bool.false_ne_true

/-- A request that does not come to the lookup stores nothing and is not answered as a
duplicate. -/
theorem run_of_lookup_none {c : SendCall} {w : World} (h : c.lookup svc w = none) :
    NotDuplicate (SendCall.run svc (c, w)).val ∧
      ∀ msgID, (SendCall.run svc (c, w)).trace.any (stores msgID) = false := by
  unfold SendCall.lookup at h
  unfold SendCall.run SendCall.prog send
  rw [Prog.call_bind, Prog.exec_act]
  cases hv : SendSMSRequest.validate svc c.body with
  | error r => exact ⟨(errs_validate c.body).refuses r hv, fun _ => rfl⟩
  | ok d =>
    have hrefuses := (checkOptionalDevice_errs c.caller.accountID d.deviceID).exec
      (server svc.cfg) ((server svc.cfg).step .now w).2
    have hstores := @StoresNothing.any_stores svc _ _
      (checkOptionalDevice_storesNothing c.caller.accountID d.deviceID)
      ((server svc.cfg).step .now w).2
    simp only [hv, exec_orReturn] at h ⊢
    generalize (checkOptionalDevice c.caller.accountID d.deviceID).exec (server svc.cfg)
      ((server svc.cfg).step .now w).2 = checked at h hrefuses hstores ⊢
    obtain ⟨e | _, w₁, evs⟩ := checked
    · exact ⟨hrefuses.refuses e rfl, hstores⟩
    · exact absurd h (by simp)

theorem lookup_eq_some {c : SendCall} {w w₁ : World} {d : Draft} :
    c.lookup svc w = some (d, w₁) ↔ SendSMSRequest.validate svc c.body = .ok d ∧
      ((checkOptionalDevice c.caller.accountID d.deviceID).exec (server svc.cfg)
        ((server svc.cfg).step .now w).2).val = .ok () ∧
      ((checkOptionalDevice c.caller.accountID d.deviceID).exec (server svc.cfg)
        ((server svc.cfg).step .now w).2).state = w₁ := by
  unfold SendCall.lookup
  cases hv : SendSMSRequest.validate svc c.body with
  | error r => simp
  | ok d' =>
    simp only [Except.ok.injEq]
    constructor
    · intro h
      split at h
      · cases h
      · rename_i hval
        obtain ⟨rfl, rfl⟩ := Prod.mk.inj (Option.some.inj h)
        exact ⟨rfl, hval, rfl⟩
    · rintro ⟨rfl, hval, rfl⟩
      rw [hval]

/-- A request that comes to the lookup goes on with the message it asks for. -/
theorem run_of_lookup {c : SendCall} {w w₁ : World} {d : Draft}
    (h : c.lookup svc w = some (d, w₁)) :
    ∃ evs : List (Event ServerCmd), (∀ msgID, evs.any (stores msgID) = false) ∧
      SendCall.run svc (c, w) =
        let o := (orReturn (checkDuplicate svc d.idempotencyKey) fun _ =>
          sendFresh svc c.caller w.tick.clock d).exec (server svc.cfg) w₁
        ⟨o.val, o.state, evs ++ o.trace⟩ := by
  obtain ⟨hv, hval, rfl⟩ := lookup_eq_some.1 h
  have hstores := @StoresNothing.any_stores svc _ _
    (checkOptionalDevice_storesNothing c.caller.accountID d.deviceID)
    ((server svc.cfg).step .now w).2
  refine ⟨⟨.now, w.tick.clock⟩ :: _, hstores, ?_⟩
  unfold SendCall.run SendCall.prog send
  rw [Prog.call_bind, Prog.exec_act]
  simp only [hv]
  rw [exec_orReturn]
  generalize (checkOptionalDevice c.caller.accountID d.deviceID).exec (server svc.cfg)
    ((server svc.cfg).step .now w).2 = o at hval ⊢
  obtain ⟨r, w₂, evs⟩ := o
  obtain rfl : r = _ := hval
  rfl

/-- **A request is answered as a duplicate exactly when it finds its key**, and then with what is
stored there. -/
theorem answer_duplicate_iff {x : SendCall × World} {msgID : String} :
    (SendCall.run svc x).val = .duplicate msgID ↔
      ∃ d w cs, x.1.lookup svc x.2 = some (d, w) ∧ Finds w d.idempotencyKey cs ∧
        msgID = String.ofList cs := by
  cases h : x.1.lookup svc x.2 with
  | none => exact iff_of_false ((run_of_lookup_none h).1 msgID) (by simp)
  | some checked =>
    obtain ⟨d, w⟩ := checked
    obtain ⟨evs, -, hrun⟩ := run_of_lookup h
    have hfresh := fun w' => (@sendFresh_notDuplicate svc x.1.caller x.2.tick.clock d).exec
      (server svc.cfg) w' msgID
    have hchecked := checked svc d.idempotencyKey w
    rw [hrun, exec_orReturn]
    generalize (checkDuplicate svc d.idempotencyKey).exec (server svc.cfg) w = o at hchecked ⊢
    obtain ⟨r, w', evs'⟩ := o
    cases hchecked with
    | found cs hfinds hval =>
      obtain rfl : r = _ := hval
      constructor
      · rintro h
        exact ⟨d, w, cs, rfl, hfinds, (Response.duplicate.inj h).symm⟩
      · rintro ⟨_, _, cs', ⟨⟩, hfinds', rfl⟩
        exact congrArg (Response.duplicate ∘ String.ofList) (hfinds.unique hfinds')
    | stored hnil hset hexpire hval =>
      obtain rfl : r = _ := hval
      refine iff_of_false (hfresh _) ?_
      rintro ⟨_, _, cs', ⟨⟩, hfinds', -⟩
      exact hfinds'.not_nil hnil
    | notStored hnil hnot hval =>
      obtain rfl : r = _ := hval
      refine iff_of_false nofun ?_
      rintro ⟨_, _, cs', ⟨⟩, hfinds', -⟩
      exact hfinds'.not_nil hnil
    | failed hnil hnone hval =>
      obtain rfl : r = _ := hval
      refine iff_of_false nofun ?_
      rintro ⟨_, _, cs', ⟨⟩, hfinds', -⟩
      exact hnone cs' hfinds'

theorem key_of_validate {body : Option SendSMSRequest} {d : Draft}
    (h : SendSMSRequest.validate svc body = .ok d) :
    body.map SendSMSRequest.idempotencyKey = some d.idempotencyKey := by
  obtain ⟨req, sender, rfl, -, -, rfl⟩ := validate_ok h
  rfl

theorem key_of_lookup {c : SendCall} {w w₁ : World} {d : Draft}
    (h : c.lookup svc w = some (d, w₁)) : c.key = some d.idempotencyKey :=
  key_of_validate (lookup_eq_some.1 h).1

/-! ## What is left under a key -/

/-- Nothing is stored under the key but the empty text. -/
def Blank (key : String) (w : World) : Prop :=
  ∀ entry, w.redis (redisKey key) = some entry → entry.value = .text []

theorem Undisturbed.step {β : Type} {w : World} (h : Undisturbed w) (e : ServerCmd β) :
    Undisturbed ((server svc.cfg).step e w).2 := by
  intro t ht
  rw [step_env] at ht
  exact h t (List.mem_of_mem_tail ht)

theorem Undisturbed.tick {w : World} (h : Undisturbed w) (key : String) :
    w.tick.redis (redisKey key) = w.redis (redisKey key) := by
  unfold World.tick World.next
  cases henv : w.env with
  | nil => rfl
  | cons t ts => exact h t (henv ▸ List.mem_cons_self) w.toShared key

/-- A command of a handler leaves nothing but the empty text where there was nothing else. -/
theorem reply_blank {accountID : String} {β : Type} {e : RedisCmd β}
    (he : Own True accountID (.redis e)) (now : ℤ) {entry : Option RedisEntry}
    (h : ∀ old, entry = some old → old.value = .text []) :
    ∀ new, (e.reply now entry).2 = some new → new.value = .text [] := by
  intro new hnew
  cases e with
  | get key =>
    rcases entry with _ | ⟨cs | members, expires⟩
    · cases hnew
    · exact h new hnew
    · exact h new hnew
  | set key value ttl =>
    obtain rfl := Option.some.inj hnew
    exact congrArg RedisValue.text he.2
  | expire key ttl =>
    unfold RedisCmd.reply at hnew
    dsimp only at hnew
    split_ifs at hnew
    obtain ⟨old, hold, rfl⟩ := Option.map_eq_some_iff.1 hnew
    exact h old hold
  | _ => exact he.elim

theorem Blank.step {accountID key : String} {β : Type} {e : ServerCmd β}
    (he : Own True accountID e) {w : World} (hu : Undisturbed w) (h : Blank key w) :
    Blank key ((server svc.cfg).step e w).2 := by
  unfold Blank
  rw [step_redis]
  have htick : ∀ entry, w.tick.redis (redisKey key) = some entry → entry.value = .text [] := by
    rw [hu.tick]
    exact h
  cases e with
  | redis r =>
    rcases Fault.apply_snd w.next.fault RedisErr.refused RedisErr.lost (r.run w.tick.clock)
      w.tick.redis with hkeys | hkeys
    · rw [ServerCmd.keys, hkeys]
      exact htick
    · rw [ServerCmd.keys, hkeys]
      by_cases hkey : redisKey key = r.key
      · rw [hkey, RedisCmd.run_self]
        refine reply_blank he _ fun old hold => ?_
        rw [← hkey] at hold
        exact htick old (Option.filter_eq_some_iff.1 hold).1
      · rw [RedisCmd.run_frame _ r _ hkey]
        exact htick
  | _ => exact htick

theorem Undisturbed.exec {α : Type} {w : World} (h : Undisturbed w) (p : ServerProg α) :
    Undisturbed (p.exec (server svc.cfg) w).state := by
  induction p generalizing w with
  | ret a => exact h
  | act e k ih => exact ih _ (h.step e)

/-- A handler leaves a blank key blank. -/
theorem Blank.exec {accountID key : String} {α : Type} {p : ServerProg α}
    (hp : p.Only (Own True accountID)) {w : World} (hu : Undisturbed w) (h : Blank key w) :
    Blank key (p.exec (server svc.cfg) w).state :=
  (hp.exec_inv (I := fun w => Undisturbed w ∧ Blank key w)
    (fun e _ he hw => ⟨hw.1.step e, hw.2.step he hw.1⟩) ⟨hu, h⟩).2

/-- A text that was stored is found under its key. -/
theorem redis_of_set_ok {key : String} {value : List Char} {ttl : Option ℤ} {w : World}
    (h : ((server svc.cfg).step (.redis (.set key value ttl)) w).1 = .ok ()) :
    ((server svc.cfg).step (.redis (.set key value ttl)) w).2.redis key =
      some ⟨.text value, ttl.map (w.tick.clock + ·)⟩ := by
  change (w.next.fault.apply RedisErr.refused RedisErr.lost
    ((RedisCmd.set key value ttl).run w.tick.clock) w.tick.redis).1 = .ok () at h
  rw [step_redis, ServerCmd.keys]
  cases hfault : w.next.fault with
  | refused text => rw [hfault] at h; cases h
  | lost text => rw [hfault] at h; cases h
  | none => exact RedisCmd.run_self w.tick.clock (.set key value ttl) w.tick.redis

variable (svc) in
/-- A key that was accepted as new has the empty text stored under it. -/
theorem blank_of_checked (key : String) {w : World} (hu : Undisturbed w)
    (h : ((checkDuplicate svc key).exec (server svc.cfg) w).val = .ok ()) :
    Blank key ((checkDuplicate svc key).exec (server svc.cfg) w).state := by
  cases checked svc key w with
  | found cs hfinds hval => rw [hval] at h; cases h
  | notStored hnil hnot hval => rw [hval] at h; cases h
  | failed hnil hnone hval => rw [hval] at h; cases h
  | stored hnil hset hexpire hval hstate =>
    have hblank : Blank key (setKey svc key (getKey svc key w).2).2 := by
      intro entry hentry
      obtain rfl := Option.some.inj ((redis_of_set_ok hset).symm.trans hentry)
      rfl
    rw [hstate]
    have hown : Own True "" (.redis (.expire (redisKey key) svc.cfg.app.idempotencyTTL)) := trivial
    exact hblank.step hown ((hu.step _).step _)

/-- **After a request that stored a message, nothing but the empty text is under its key.** -/
theorem blank_of_stores {c : SendCall} {w : World} (hu : Undisturbed w) {msgID : String}
    (h : (SendCall.run svc (c, w)).trace.any (stores msgID) = true) :
    ∃ key, c.key = some key ∧ Blank key (SendCall.run svc (c, w)).state := by
  cases hlookup : c.lookup svc w with
  | none => rw [(run_of_lookup_none hlookup).2 msgID] at h; cases h
  | some reached =>
    obtain ⟨d, w₁⟩ := reached
    obtain ⟨evs, hevs, hrun⟩ := run_of_lookup hlookup
    have hu₁ : Undisturbed w₁ := by
      obtain ⟨-, -, rfl⟩ := lookup_eq_some.1 hlookup
      exact (hu.step .now).exec _
    have hblank := blank_of_checked svc d.idempotencyKey hu₁
    have hstores := @StoresNothing.any_stores svc _ _
      (checkDuplicate_storesNothing svc d.idempotencyKey) w₁ msgID
    have hu₂ : Undisturbed ((checkDuplicate svc d.idempotencyKey).exec (server svc.cfg) w₁).state :=
      hu₁.exec _
    rw [hrun, exec_orReturn] at h ⊢
    generalize (checkDuplicate svc d.idempotencyKey).exec (server svc.cfg) w₁ = o
      at h hblank hstores hu₂ ⊢
    obtain ⟨e | _, w₂, evs'⟩ := o
    · simp [hevs, hstores] at h
    · exact ⟨d.idempotencyKey, key_of_lookup hlookup,
        (hblank rfl).exec (sendFresh_own c.caller _ d) hu₂⟩

/-- What is found under a blank key is the empty text. -/
theorem Finds.eq_nil {key : String} {cs : List Char} {w : World} (hu : Undisturbed w)
    (hblank : Blank key w) (h : Finds w key cs) : cs = [] := by
  obtain ⟨-, expires, hlive⟩ := h
  have hentry := (Option.filter_eq_some_iff.1 hlive).1
  rw [hu.tick] at hentry
  exact RedisValue.text.inj (hblank _ hentry)

/-- A key that is blank when a request begins is blank when the request looks it up. -/
theorem blank_of_lookup {c : SendCall} {w w₁ : World} {d : Draft} {key : String}
    (h : c.lookup svc w = some (d, w₁)) (hu : Undisturbed w) (hblank : Blank key w) :
    Undisturbed w₁ ∧ Blank key w₁ := by
  obtain ⟨-, -, rfl⟩ := lookup_eq_some.1 h
  have hnow : Own True "" .now := trivial
  have hcheck : (checkOptionalDevice c.caller.accountID d.deviceID).Only (Own True "") :=
    checkOptionalDevice_own _ _
  have hu' : Undisturbed ((server svc.cfg).step .now w).2 := hu.step .now
  have hblank' : Blank key ((server svc.cfg).step .now w).2 := hblank.step hnow hu
  exact ⟨hu'.exec _, hblank'.exec hcheck hu'⟩

/-! ## A sequence of requests -/

theorem not_stores_empty {c : SendCall} {w : World} :
    (SendCall.run svc (c, w)).trace.any (stores "") = false := by
  refine List.any_eq_false.2 fun ev hev hstores => ?_
  have hown := (send_own svc c.caller c.body).exec_trace (server svc.cfg) w ev hev
  obtain ⟨e, reply⟩ := ev
  cases e with
  | db q =>
    cases q with
    | createMessage row =>
      rcases reply with _ | ⟨⟩
      · cases hstores
      · exact hown.1 (by simpa [stores] using hstores)
    | _ => cases hstores
  | _ => cases hstores

/-- **Duplicates are answered faithfully exactly as long as no request finds its key**, in every
sequence of requests that nothing else on the server interferes with. -/
theorem sequence_faithful_iff (calls : List SendCall) (w : World) (hu : Undisturbed w) :
    Faithful svc calls w ↔ ∀ x ∈ requests svc calls w, ¬ FindsKey svc x := by
  constructor
  · rintro h x hx ⟨d, w₁, cs, hlookup, hfinds⟩
    obtain ⟨n, hn⟩ := List.mem_iff_getElem?.1 hx
    obtain ⟨y, hy, hkey, hstores, -⟩ := (h n x hn).1 _
      (answer_duplicate_iff.2 ⟨d, w₁, cs, hlookup, hfinds, rfl⟩)
    -- the earlier request with the key left the key blank, and nobody changed that
    have huy : Undisturbed y.2 := Prog.history_inv (fun c s (hs : Undisturbed s) => hs.exec _) hu y
      (List.mem_of_mem_take hy)
    obtain ⟨key, hykey, hblank⟩ := blank_of_stores huy hstores
    obtain rfl : key = d.idempotencyKey :=
      Option.some.inj (hykey.symm.trans (hkey.trans (key_of_lookup hlookup)))
    have hx₂ : Undisturbed x.2 ∧ Blank d.idempotencyKey x.2 :=
      Prog.history_later (I := fun w => Undisturbed w ∧ Blank d.idempotencyKey w)
        (fun c s hs => ⟨hs.1.exec _, hs.2.exec (send_own _ c.caller c.body) hs.1⟩) hn hy
        ⟨huy.exec _, hblank⟩
    obtain ⟨hu₁, hblank₁⟩ := blank_of_lookup hlookup hx₂.1 hx₂.2
    obtain rfl := hfinds.eq_nil hu₁ hblank₁
    -- so the id that was answered is empty, and no message has that id
    have hnot := @not_stores_empty svc y.1 y.2
    rw [String.ofList_nil, hnot] at hstores
    cases hstores
  · intro h n x hn
    have hnot : ∀ msgID, (SendCall.run svc x).val ≠ .duplicate msgID := by
      intro msgID hdup
      obtain ⟨d, w₁, cs, hlookup, hfinds, -⟩ := answer_duplicate_iff.1 hdup
      exact h x (List.mem_of_getElem? hn) ⟨d, w₁, cs, hlookup, hfinds⟩
    exact ⟨fun msgID hdup => absurd hdup (hnot msgID), fun _ => hnot⟩

/-! ## A retry -/

/-- Services without a master key, for senders in ASCII. -/
def plainServices : Services where
  cfg := .default
  cipher := none
  chars := ⟨Char.isWhitespace, Char.isAlpha, Char.isDigit, Char.toLower⟩

/-- A request of the account of the only device. -/
def order : SendCall where
  caller := ⟨"account-1", "key-1"⟩
  body := some
    { recipient := "+919999999999"
      sender := ""
      message := "hello"
      messageType := .transactional
      idempotencyKey := "order-17"
      templateID := ""
      deviceID := ""
      routingStrategy := ⟨""⟩ }

/-- A server whose database refuses the message of the first request. -/
def refusing : World :=
  onePhone (List.replicate 8 .quiet ++ [{ Tick.quiet with fault := .refused "connection refused" }])

/-- The request fails; its retry is answered as the duplicate of a message without an id. -/
theorem retry_not_faithful : ¬ Faithful plainServices [order, order] refusing := by
  have hfirst : (SendCall.run plainServices (order, refusing)).val =
      .error 500 "failed to create message" := by
    decide
  have hretry : (SendCall.run plainServices
      (order, (SendCall.run plainServices (order, refusing)).state)).val = .duplicate "" := by
    decide
  intro h
  refine (h 1 _ rfl).2 (fun y hy _ => ?_) "" hretry
  obtain rfl : y = (order, refusing) := List.mem_singleton.1 hy
  exact ⟨_, _, hfirst⟩

/-- A tick of ten minutes. -/
def tenMinutes : Tick :=
  { Tick.quiet with
    elapsed := 600000000000
    uuid := ⟨"00000000-0000-4000-8000-000000000001", secondID_ne_empty⟩ }

/-- A server on which time passes only after the first request. -/
def slow : World := onePhone (List.replicate 14 .quiet ++ List.replicate 15 tenMinutes)

theorem slow_undisturbed : Undisturbed slow := by
  intro t ht s key
  rcases List.mem_append.1 ht with h | h
  · rw [List.eq_of_mem_replicate h]
    rfl
  · rw [List.eq_of_mem_replicate h]
    rfl

theorem not_findsKey {x : SendCall × World} (h : NotDuplicate (SendCall.run svc x).val) :
    ¬ FindsKey svc x := by
  rintro ⟨d, w, cs, hlookup, hfinds⟩
  exact h _ (answer_duplicate_iff.2 ⟨d, w, cs, hlookup, hfinds, rfl⟩)

/-- When the key has expired, both requests are answered as they should be. -/
theorem sequence_faithful_slow : Faithful plainServices [order, order] slow := by
  refine (sequence_faithful_iff [order, order] slow slow_undisturbed).2 ?_
  have hfirst : (SendCall.run plainServices (order, slow)).val =
      .queued "00000000-0000-4000-8000-000000000000" .transactional (some "order-17") 0 0 := by
    decide
  have hlater : (SendCall.run plainServices
      (order, (SendCall.run plainServices (order, slow)).state)).val =
        .queued "00000000-0000-4000-8000-000000000001" .transactional (some "order-17")
          5400000000000 8400000 := by
    decide
  intro x hx
  rcases List.mem_cons.1 hx with rfl | hx
  · exact not_findsKey fun _ h => by cases hfirst.symm.trans h
  · obtain rfl := List.mem_singleton.1 hx
    exact not_findsKey fun _ h => by cases hlater.symm.trans h

end AeroxeBee.Api
