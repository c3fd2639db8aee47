import AeroxeBee.Api.Duplicates
import AeroxeBee.Foundations.Relational

/-!
# Accounts that share the idempotency keys

Idempotency keys are stored without the account that chose them. So what other accounts did before
can be seen by a request to `send`, and this is the only way in which it can: the response is what
it would be without their requests, unless the request finds a key that it would not find without
them.

* `apart_after`: the requests of other accounts leave alone whatever the request reads, except
  that a key can be stored;
* `agrees_sendFresh`: from there on the responses are the same;
* `send_isolated_iff`: the comparison of the two runs.
-/

namespace AeroxeBee.Api

open Foundations Dispatch

variable (svc : Services)

/-! ## What a request can see -/

/-- What a request can tell of a device. -/
def standing (d : Device) : String × DeviceStatus := (d.accountID, d.status)

/-- Two states of the database in which an account sees the same, its messages apart. -/
structure Alike (accountID : String) (db db' : Database) : Prop where
  devices : ∀ id, (db.devices.find? (·.id = id)).map standing =
    (db'.devices.find? (·.id = id)).map standing
  apiKeys : db.apiKeys = db'.apiKeys
  templates : db.registry.templates = db'.registry.templates
  subscriptions : db.subscriptions = db'.subscriptions
  usage : ∀ date, (db.usageCounters.find? fun u => u.accountID = accountID && u.date = date) =
    db'.usageCounters.find? fun u => u.accountID = accountID && u.date = date

/-- The requests of an account or of several, each with the caller. -/
abbrev Calls := List (Caller × Request)

/-- The world after some requests were handled one after the other. -/
abbrev afterCalls (calls : Calls) (w : World) : World :=
  Prog.after (server svc.cfg) (fun x : Caller × Request => x.2.handle svc x.1) w calls

/-- The world that a later one would be if what happened meanwhile had not happened: the time and
the environment are those of the later one. -/
def without (w later : World) : World := { w with clock := later.clock, env := later.env }

/-- No stored message has an id that is still to be drawn. -/
def Unused (w : World) : Prop :=
  ∀ t ∈ Tick.quiet :: w.env, ∀ m ∈ w.db.messages, m.id ≠ t.uuid.text

variable {svc} {accountID : String}

theorem Alike.refl (db : Database) : Alike accountID db db :=
  ⟨fun _ => rfl, rfl, rfl, rfl, fun _ => rfl⟩

theorem Alike.trans {db₁ db₂ db₃ : Database} (h : Alike accountID db₁ db₂)
    (h' : Alike accountID db₂ db₃) : Alike accountID db₁ db₃ where
  devices id := (h.devices id).trans (h'.devices id)
  apiKeys := h.apiKeys.trans h'.apiKeys
  templates := h.templates.trans h'.templates
  subscriptions := h.subscriptions.trans h'.subscriptions
  usage date := (h.usage date).trans (h'.usage date)

theorem Alike.symm {db db' : Database} (h : Alike accountID db db') : Alike accountID db' db where
  devices id := (h.devices id).symm
  apiKeys := h.apiKeys.symm
  templates := h.templates.symm
  subscriptions := h.subscriptions.symm
  usage date := (h.usage date).symm

/-- Then a message refers to rows of both or of none. -/
theorem Alike.refers {db db' : Database} (h : Alike accountID db db') (msg : Message) :
    db.refersToRows msg = db'.refersToRows msg := by
  have hdevices : ∀ id, db.devices.any (·.id = id) = db'.devices.any (·.id = id) := by
    intro id
    have hfound := congrArg Option.isSome (h.devices id)
    rwa [Option.isSome_map, Option.isSome_map, List.isSome_find?, List.isSome_find?] at hfound
  simp only [Database.refersToRows, h.apiKeys, h.templates, hdevices]

theorem undisturbed_of_alone {w : World} (h : Alone w) : Undisturbed w := by
  intro t ht s key
  rw [h t ht]
  rfl

/-! ## The requests of other accounts -/

/-- Finding a device by its id commutes with a change that leaves the ids alone. -/
theorem find?_map_of_id (devices : List Device) {f : Device → Device} (hf : ∀ d, (f d).id = d.id)
    (id : String) :
    (devices.map f).find? (·.id = id) = (devices.find? (·.id = id)).map f := by
  rw [List.find?_map]
  congr 2
  funext d
  exact congrArg (fun x => decide (x = id)) (hf d)

/-- The statements of a handler change nothing that another account sees, and remove no
message. -/
theorem run_alike {keys : Prop} {owner : String} (hne : accountID ≠ owner) {β : Type} {q : Query β}
    (hq : Own keys owner (.db q)) (db : Database) :
    Alike accountID db (q.run db).2 ∧ ∀ m ∈ db.messages, m ∈ (q.run db).2.messages := by
  cases q with
  | createMessage row =>
    simp only [Query.run, Database.insertMessage]
    split_ifs
    · exact ⟨.refl db, fun _ hm => hm⟩
    · exact ⟨.refl db, fun _ hm => hm⟩
    · exact ⟨⟨fun _ => rfl, rfl, rfl, rfl, fun _ => rfl⟩, fun m hm => List.mem_append_left _ hm⟩
  | recordSent device now =>
    refine ⟨⟨fun i => ?_, rfl, rfl, rfl, fun _ => rfl⟩, fun _ hm => hm⟩
    simp only [Query.run, Database.updateDevice]
    rw [find?_map_of_id, Option.map_map]
    · congr 1
      funext d
      dsimp only [Function.comp_apply]
      split_ifs <;> rfl
    · intro d
      split_ifs <;> rfl
  | incrementUsage a date =>
    obtain rfl : a = owner := hq
    simp only [Query.run]
    refine ⟨⟨fun _ => ?_, ?_, ?_, ?_, fun day => (db.find?_countUsage hne day date).symm⟩,
      fun m hm => ?_⟩
    · rw [db.countUsage_devices]
    · rw [db.countUsage_apiKeys]
    · rw [db.countUsage_registry]
    · rw [db.countUsage_subscriptions]
    · rwa [db.countUsage_messages]
  | deviceByID device => exact ⟨.refl db, fun _ hm => hm⟩
  | usageCounter a date => exact ⟨.refl db, fun _ hm => hm⟩
  | subscription a => exact ⟨.refl db, fun _ hm => hm⟩
  | _ => exact hq.elim

/-- What the requests of other accounts leave as it was before them, the keys apart. -/
structure Unseen (accountID : String) (before w : World) : Prop where
  alone : Alone w
  db : Alike accountID before.db w.db
  messages : ∀ m ∈ before.db.messages, m ∈ w.db.messages

theorem Unseen.step {keys : Prop} {owner : String} (hne : accountID ≠ owner) {β : Type}
    {e : ServerCmd β} (he : Own keys owner e) {before w : World} (h : Unseen accountID before w) :
    Unseen accountID before ((server svc.cfg).step e w).2 := by
  have htables : Alike accountID w.db (e.tables w) ∧
      ∀ m ∈ w.db.messages, m ∈ (e.tables w).messages := by
    have htick : w.tick.db = w.db := congrArg Shared.db h.alone.tick
    cases e with
    | db q =>
      rcases Fault.apply_snd w.next.fault id id (fun db => q.run db) w.tick.db with hrun | hrun
      · rw [ServerCmd.tables, hrun, htick]
        exact ⟨.refl _, fun _ hm => hm⟩
      · rw [ServerCmd.tables, hrun, htick]
        exact run_alike hne he w.db
    | _ => exact htick ▸ ⟨.refl _, fun _ hm => hm⟩
  refine ⟨h.alone.step e, ?_, fun m hm => ?_⟩
  · rw [step_db]
    exact h.db.trans htables.1
  · rw [step_db]
    exact htables.2 m (h.messages m hm)

/-- A key is as it was, or it has expired and at most the empty text is under it. -/
def Kept (key : String) (before w : World) : Prop :=
  w.redis (redisKey key) = before.redis (redisKey key) ∨
    before.redis.live w.clock (redisKey key) = none ∧ Blank key w

variable {key : String} {before w : World}

/-- A command that does not touch a key leaves it as it was. -/
theorem Kept.of_eq (h : Kept key before w) {β : Type} {e : ServerCmd β}
    (heq : ((server svc.cfg).step e w).2.redis (redisKey key) = w.redis (redisKey key)) :
    Kept key before ((server svc.cfg).step e w).2 := by
  rcases h with hkey | ⟨hdead, hblank⟩
  · exact .inl (heq.trans hkey)
  · refine .inr ⟨?_, ?_⟩
    · rw [step_clock]
      exact Keyspace.live_eq_none_of_le (by omega) hdead
    · unfold Blank
      rw [heq]
      exact hblank

variable (svc) in
/-- A command on one key leaves the others as they were. -/
theorem Kept.of_frame (hw : Alone w) (h : Kept key before w) {β : Type} (e : RedisCmd β)
    (hne : redisKey key ≠ e.key) : Kept key before ((server svc.cfg).step (.redis e) w).2 := by
  have htick : w.tick.redis = w.redis := hw.tick_redis
  refine h.of_eq ?_
  rw [step_redis, ServerCmd.keys, htick]
  rcases Fault.apply_snd w.next.fault RedisErr.refused RedisErr.lost (e.run w.tick.clock)
    w.redis with hrun | hrun
  · rw [hrun]
  · rw [hrun]
    exact RedisCmd.run_frame _ e _ hne

variable (svc) in
/-- Once a key has expired, what is stored under it is the empty text. -/
theorem dead_step (hu : Undisturbed w) {owner : String} {β : Type} {e : ServerCmd β}
    (he : Own True owner e) (hdead : before.redis.live w.clock (redisKey key) = none)
    (hblank : Blank key w) :
    before.redis.live ((server svc.cfg).step e w).2.clock (redisKey key) = none ∧
      Blank key ((server svc.cfg).step e w).2 := by
  refine ⟨?_, hblank.step he hu⟩
  rw [step_clock]
  exact Keyspace.live_eq_none_of_le (by omega) hdead

variable (svc) in
/-- A lookup keeps a key; if it finds nothing under the key itself, the key has expired. -/
theorem Kept.get (hw : Alone w) (h : Kept key before w) (key' : String) :
    Kept key before (getKey svc key' w).2 ∧
      ((getKey svc key' w).1 = .error .nil → redisKey key' = redisKey key →
        before.redis.live (getKey svc key' w).2.clock (redisKey key) = none ∧
          Blank key (getKey svc key' w).2) := by
  have htick : w.tick.redis = w.redis := hw.tick_redis
  have hown : Own True "" (.redis (.get (redisKey key'))) := trivial
  have h' := h
  by_cases hkey : redisKey key = redisKey key'
  · rcases h with hsame | ⟨hdead, hblank⟩
    · -- where the lookup is executed, it leaves what the key holds at that time
      have hexec (hrun : (getKey svc key' w).2.redis (redisKey key) =
          w.redis.live w.tick.clock (redisKey key)) :
          Kept key before (getKey svc key' w).2 ∧ (w.redis.live w.tick.clock (redisKey key) = none →
            before.redis.live (getKey svc key' w).2.clock (redisKey key) = none ∧
              Blank key (getKey svc key' w).2) := by
        rw [Keyspace.live_congr hsame] at hrun ⊢
        cases hlive : before.redis.live w.tick.clock (redisKey key) with
        | none =>
          have hdead : before.redis.live (getKey svc key' w).2.clock (redisKey key) = none := hlive
          have hblank : Blank key (getKey svc key' w).2 := by
            intro entry hentry
            cases (hrun.trans hlive).symm.trans hentry
          exact ⟨.inr ⟨hdead, hblank⟩, fun _ => ⟨hdead, hblank⟩⟩
        | some entry =>
          refine ⟨.inl ?_, nofun⟩
          rw [hrun, hlive]
          exact (Option.filter_eq_some_iff.1 hlive).1.symm
      have hself : ((RedisCmd.get (redisKey key')).run w.tick.clock w.redis).2 (redisKey key) =
          w.redis.live w.tick.clock (redisKey key) := by
        rw [hkey]
        exact (RedisCmd.run_self _ (.get (redisKey key')) _).trans (RedisCmd.reply_get _ _ _).1
      have hval : (getKey svc key' w).1 = (w.next.fault.apply RedisErr.refused RedisErr.lost
          ((RedisCmd.get (redisKey key')).run w.tick.clock) w.tick.redis).1 := rfl
      have hstate : (getKey svc key' w).2.redis = (w.next.fault.apply RedisErr.refused RedisErr.lost
          ((RedisCmd.get (redisKey key')).run w.tick.clock) w.tick.redis).2 := rfl
      rw [htick] at hval hstate
      cases hfault : w.next.fault with
      | none =>
        rw [hfault, Fault.apply] at hval hstate
        obtain ⟨hkept, hdead⟩ := hexec ((congrFun hstate _).trans hself)
        refine ⟨hkept, fun hnil _ => hdead ?_⟩
        rw [hkey]
        exact (RedisCmd.reply_get _ _ (redisKey key')).2.1 (hval.symm.trans hnil)
      | refused text =>
        rw [hfault, Fault.apply] at hval hstate
        refine ⟨h'.of_eq (congrFun hstate _), fun hnil => ?_⟩
        cases hval.symm.trans hnil
      | lost text =>
        rw [hfault, Fault.apply] at hval hstate
        refine ⟨(hexec ((congrFun hstate _).trans hself)).1, fun hnil => ?_⟩
        cases hval.symm.trans hnil
    · have hdead' := dead_step svc (undisturbed_of_alone hw) hown hdead hblank
      exact ⟨.inr hdead', fun _ _ => hdead'⟩
  · exact ⟨h.of_frame svc hw (.get (redisKey key')) hkey, fun _ h' => absurd h'.symm hkey⟩

/-- What a request of another account leaves as it was. -/
structure Apart (accountID key : String) (before w : World) : Prop where
  unseen : Unseen accountID before w
  kept : Kept key before w

variable {owner : String}

/-- A routine that has nothing to do with keys. -/
theorem preserves_of_own (hne : accountID ≠ owner) {α : Type} {p : ServerProg α}
    (hp : p.Only (Own False owner)) :
    p.Preserves (server svc.cfg) (Apart accountID key before) := by
  intro w h
  refine hp.exec_inv (fun e w he h => ⟨h.unseen.step hne he, h.kept.of_eq ?_⟩) h
  have htick : w.tick.redis = w.redis := congrArg Shared.redis h.unseen.alone.tick
  rw [step_redis, ← htick]
  cases e with
  | redis e => exact (not_own_redis owner he).elim
  | _ => rfl

/-- The check of a key stores it only if it was not there. -/
theorem preserves_checkDuplicate (hne : accountID ≠ owner) (key' : String) :
    (checkDuplicate svc key').Preserves (server svc.cfg) (Apart accountID key before) := by
  intro w h
  have hcheck : (checkDuplicate svc key').Only (Own True owner) := checkDuplicate_own key'
  refine ⟨hcheck.exec_inv (fun e w he h => Unseen.step hne he h) h.unseen, ?_⟩
  have hw := h.unseen.alone
  obtain ⟨hget, hdead⟩ := h.kept.get svc hw key'
  have hown : Own True "" (.redis (.expire (redisKey key') svc.cfg.app.idempotencyTTL)) := trivial
  -- after the lookup found nothing, the key is stored and its time to live is set
  let ttl := if 0 < svc.cfg.app.idempotencyTTL then some svc.cfg.app.idempotencyTTL else none
  have hstored (hnil : (getKey svc key' w).1 = .error .nil) :
      Kept key before (expireKey svc key' (setKey svc key' (getKey svc key' w).2).2).2 := by
    have hu₁ : Alone (getKey svc key' w).2 := hw.step _
    have hu₂ : Alone (setKey svc key' (getKey svc key' w).2).2 := hu₁.step _
    by_cases hkey : redisKey key' = redisKey key
    · obtain ⟨hdead₁, hblank₁⟩ := hdead hnil hkey
      have hset : Own True "" (.redis (.set (redisKey key') [] ttl)) := ⟨trivial, rfl⟩
      obtain ⟨hdead₂, hblank₂⟩ := dead_step svc (undisturbed_of_alone hu₁) hset hdead₁ hblank₁
      exact .inr (dead_step svc (undisturbed_of_alone hu₂) hown hdead₂ hblank₂)
    · have hne' : redisKey key ≠ redisKey key' := fun h => hkey h.symm
      have hset := hget.of_frame svc hu₁ (.set (redisKey key') [] ttl) hne'
      exact hset.of_frame svc hu₂
        (.expire (redisKey key') svc.cfg.app.idempotencyTTL) hne'
  cases checked svc key' w with
  | found cs hfinds hval hstate => rw [hstate]; exact hget
  | stored hnil hset hexpire hval hstate => rw [hstate]; exact hstored hnil
  | notStored hnil hnot hval hstate => rw [hstate]; exact hstored hnil
  | failed hnil hfinds hval hstate => rw [hstate]; exact hget

theorem preserves_orReturn {I : World → Prop} {α : Type} {p : ServerProg (Except Response α)}
    {rest : α → ServerProg Response} (hp : p.Preserves (server svc.cfg) I)
    (hrest : ∀ a, (rest a).Preserves (server svc.cfg) I) :
    (orReturn p rest).Preserves (server svc.cfg) I := by
  refine hp.bind fun r => ?_
  cases r with
  | error e => exact Prog.preserves_ret e
  | ok a => exact hrest a

/-- **The requests of other accounts leave alone what a request sees**, except that they can store
a key that had expired. -/
theorem preserves_handle {caller : Caller} (hne : accountID ≠ caller.accountID) (r : Request) :
    (r.handle svc caller).Preserves (server svc.cfg) (Apart accountID key before) := by
  cases r with
  | bulkSend body => exact preserves_of_own hne (bulkSend_own caller body)
  | scheduleSend body => exact preserves_of_own hne (scheduleSend_own caller body)
  | send body =>
    refine Prog.Preserves.bind (f := fun startTime => _) (preserves_of_own hne
      (p := Prog.call .now) ⟨trivial, fun _ => trivial⟩) fun startTime => ?_
    cases SendSMSRequest.validate svc body with
    | error r => exact Prog.preserves_ret r
    | ok d =>
      refine preserves_orReturn (preserves_of_own hne (checkOptionalDevice_own _ _)) fun _ => ?_
      refine preserves_orReturn (preserves_checkDuplicate hne _) fun _ => ?_
      exact preserves_of_own hne (sendFresh_own caller startTime d)
  | memberSend body =>
    refine Prog.Preserves.bind (f := fun startTime => _) (preserves_of_own hne
      (p := Prog.call .now) ⟨trivial, fun _ => trivial⟩) fun startTime => ?_
    cases SendSMSRequest.validateMember svc body with
    | error r => exact Prog.preserves_ret r
    | ok d =>
      refine preserves_orReturn (preserves_of_own hne (checkDevice_own _ _ _)) fun device => ?_
      cases deviceSender svc device with
      | error r => exact Prog.preserves_ret r
      | ok sender =>
        refine Prog.Preserves.bind (f := fun key => _) (preserves_of_own hne
          (p := Prog.call .uuid) ⟨trivial, fun _ => trivial⟩) fun key => ?_
        refine preserves_orReturn (preserves_checkDuplicate hne _) fun _ => ?_
        exact preserves_of_own hne (memberFresh_own caller.accountID startTime _)

/-- After any requests of other accounts, a request sees what it would have seen before them,
except for a key that was stored in between. -/
theorem apart_after {calls : Calls} (hne : ∀ x ∈ calls, accountID ≠ x.1.accountID)
    (hw : Alone w) : Apart accountID key w (afterCalls svc calls w) :=
  Prog.after_inv (fun x hx => preserves_handle (hne x hx) x.2)
    ⟨⟨hw, .refl w.db, fun _ hm => hm⟩, .inl rfl⟩

/-! ## The request itself -/

/-- Two worlds in which a request whose key is new fares the same. The ids are those that it may
draw. -/
structure Mirror (ids : Set String) (w w' : World) : Prop where
  clock : w.clock = w'.clock
  env : w.env = w'.env
  alone : Alone w
  drawn : ∀ t ∈ Tick.quiet :: w.env, t.uuid.text ∈ ids
  refers : ∀ msg, w.db.refersToRows msg = w'.db.refersToRows msg
  messages : ∀ id ∈ ids, w.db.messages.any (·.id = id) = w'.db.messages.any (·.id = id)

variable {ids : Set String} {w' w₁ : World}

theorem Mirror.next (h : Mirror ids w w') : w.next = w'.next := congrArg (·.headD Tick.quiet) h.env

theorem Mirror.alone' (h : Mirror ids w w') : Alone w' := fun t ht => h.alone t (h.env ▸ ht)

theorem Mirror.tick_clock (h : Mirror ids w w') : w.tick.clock = w'.tick.clock := by
  change w.clock + w.next.elapsed = w'.clock + w'.next.elapsed
  rw [h.clock, h.next]

/-- A command leaves the worlds alike if it does so with the database. -/
theorem Mirror.step_of (h : Mirror ids w w') {β : Type} {e : ServerCmd β}
    (hrefers : ∀ msg, (e.tables w).refersToRows msg = (e.tables w').refersToRows msg)
    (hmessages : ∀ id ∈ ids,
      (e.tables w).messages.any (·.id = id) = (e.tables w').messages.any (·.id = id)) :
    Mirror ids ((server svc.cfg).step e w).2 ((server svc.cfg).step e w').2 where
  clock := by rw [step_clock, step_clock, h.clock, h.next]
  env := by rw [step_env, step_env, h.env]
  alone := h.alone.step e
  drawn t ht := by
    rw [step_env] at ht
    refine h.drawn t ?_
    rcases List.mem_cons.1 ht with rfl | ht
    · exact List.mem_cons_self
    · exact List.mem_cons_of_mem _ (List.mem_of_mem_tail ht)
  refers msg := by rw [step_db, step_db, hrefers]
  messages id hid := by rw [step_db, step_db, hmessages id hid]

theorem Mirror.tick_db (h : Mirror ids w w') : w.tick.db = w.db :=
  congrArg Shared.db h.alone.tick

theorem Mirror.tick_db' (h : Mirror ids w w') : w'.tick.db = w'.db :=
  congrArg Shared.db h.alone'.tick

variable (svc) in
/-- A command that writes nothing leaves the worlds as alike as they were. -/
theorem Mirror.keep (h : Mirror ids w w') (ha : Alike accountID w.db w'.db) {β : Type}
    {e : ServerCmd β} (htables : e.tables w = w.db) (htables' : e.tables w' = w'.db) :
    Mirror ids ((server svc.cfg).step e w).2 ((server svc.cfg).step e w').2 ∧
      Alike accountID ((server svc.cfg).step e w).2.db ((server svc.cfg).step e w').2.db := by
  refine ⟨h.step_of ?_ ?_, ?_⟩
  · rw [htables, htables']
    exact h.refers
  · rw [htables, htables']
    exact h.messages
  · rw [step_db, step_db, htables, htables']
    exact ha

variable (svc) in
/-- A statement that does the same to both databases does so under the same fault. -/
theorem Mirror.statement (h : Mirror ids w w') {R : Database → Database → Prop}
    (hR : R w.db w'.db) {β : Type} {q : Query β}
    (hrun : (q.run w.db).1 = (q.run w'.db).1 ∧ R (q.run w.db).2 (q.run w'.db).2) :
    ((server svc.cfg).step (.db q) w).1 = ((server svc.cfg).step (.db q) w').1 ∧
      R ((ServerCmd.db q).tables w) ((ServerCmd.db q).tables w') := by
  change (w.next.fault.apply id id (fun db => q.run db) w.tick.db).1 =
    (w'.next.fault.apply id id (fun db => q.run db) w'.tick.db).1 ∧
      R (w.next.fault.apply id id (fun db => q.run db) w.tick.db).2
        (w'.next.fault.apply id id (fun db => q.run db) w'.tick.db).2
  rw [h.tick_db, h.tick_db', ← h.next]
  exact @Fault.apply_agrees _ _ _ R w.next.fault id id (fun db => q.run db) (fun db => q.run db)
    _ _ hR hrun

/-- What a request asks for before its key is looked up and until it has passed the check of the
quota. -/
def Reads (accountID : String) : {β : Type} → ServerCmd β → Prop
  | _, .now => True
  | _, .db (.usageCounter owner _) => owner = accountID
  | _, .db (.subscription _) => True
  | _, _ => False

/-- What a request asks for from then on, apart from putting the message on the queue. -/
def Writes (ids : Set String) : {β : Type} → ServerCmd β → Prop
  | _, .now | _, .uuid | _, .nonce | _, .queue .now => True
  | _, .db (.createMessage row) => row.id ∈ ids
  | _, .db (.incrementUsage _ _) => True
  | _, _ => False

variable (svc) in
theorem reads_agree {β : Type} {e : ServerCmd β} (he : Reads accountID e)
    (h : Mirror ids w w' ∧ Alike accountID w.db w'.db) :
    ((server svc.cfg).step e w).1 = ((server svc.cfg).step e w').1 ∧
      Mirror ids ((server svc.cfg).step e w).2 ((server svc.cfg).step e w').2 ∧
        Alike accountID ((server svc.cfg).step e w).2.db ((server svc.cfg).step e w').2.db := by
  obtain ⟨hm, ha⟩ := h
  cases e with
  | now => exact ⟨hm.tick_clock, hm.keep svc ha hm.tick_db hm.tick_db'⟩
  | db q =>
    have hrun : (q.run w.db).1 = (q.run w'.db).1 ∧
        (q.run w.db).2 = w.db ∧ (q.run w'.db).2 = w'.db := by
      cases q with
      | usageCounter owner date =>
        obtain rfl : owner = accountID := he
        exact ⟨congrArg Except.ok (ha.usage date), rfl, rfl⟩
      | subscription owner =>
        refine ⟨?_, rfl, rfl⟩
        simp only [Query.run, ha.subscriptions]
      | _ => exact he.elim
    obtain ⟨hval, htables, htables'⟩ := hm.statement svc
      (R := fun d d' => d = w.db ∧ d' = w'.db) ⟨rfl, rfl⟩ hrun
    exact ⟨hval, hm.keep svc ha htables htables'⟩
  | _ => exact he.elim

variable (svc) in
theorem writes_agree {β : Type} {e : ServerCmd β} (he : Writes ids e) (h : Mirror ids w w') :
    ((server svc.cfg).step e w).1 = ((server svc.cfg).step e w').1 ∧
      Mirror ids ((server svc.cfg).step e w).2 ((server svc.cfg).step e w').2 := by
  have htick := h.tick_db
  have htick' := h.tick_db'
  have hkeep (htables : e.tables w = w.db) (htables' : e.tables w' = w'.db) :
      Mirror ids ((server svc.cfg).step e w).2 ((server svc.cfg).step e w').2 := by
    refine h.step_of ?_ ?_
    · rw [htables, htables']
      exact h.refers
    · rw [htables, htables']
      exact h.messages
  cases e with
  | now => exact ⟨h.tick_clock, hkeep htick htick'⟩
  | uuid => exact ⟨congrArg Tick.uuid h.next, hkeep htick htick'⟩
  | nonce => exact ⟨congrArg Tick.nonce h.next, hkeep htick htick'⟩
  | queue e =>
    cases e with
    | now => exact ⟨h.tick_clock, hkeep htick htick'⟩
    | _ => exact he.elim
  | db q =>
    have hrun : (q.run w.db).1 = (q.run w'.db).1 ∧
        (∀ msg, (q.run w.db).2.refersToRows msg = (q.run w'.db).2.refersToRows msg) ∧
          ∀ id ∈ ids, (q.run w.db).2.messages.any (·.id = id) =
            (q.run w'.db).2.messages.any (·.id = id) := by
      cases q with
      | createMessage row =>
        have hrow : row.id ∈ ids := he
        simp only [Query.run, Database.insertMessage, h.messages row.id hrow, h.refers]
        split_ifs
        · exact ⟨rfl, h.refers, h.messages⟩
        · exact ⟨rfl, h.refers, h.messages⟩
        · refine ⟨rfl, h.refers, fun id hid => ?_⟩
          rw [List.any_append, List.any_append, h.messages id hid]
      | incrementUsage owner date =>
        simp only [Query.run, Database.countUsage_refersToRows, Database.countUsage_messages]
        exact ⟨trivial, h.refers, h.messages⟩
      | _ => exact he.elim
    obtain ⟨hval, hrefers, hmessages⟩ := h.statement svc
      (R := fun d d' : Database => (∀ msg, d.refersToRows msg = d'.refersToRows msg) ∧
        ∀ id ∈ ids, d.messages.any (·.id = id) = d'.messages.any (·.id = id))
      ⟨h.refers, h.messages⟩ hrun
    exact ⟨hval, h.step_of hrefers hmessages⟩
  | _ => exact he.elim

variable (svc) in
/-- The stream entry may have another number, but it is added in both worlds or in none. -/
theorem xAdd_agrees (stream : String) (values : Worker.Fields) (maxLen : ℤ)
    (h : Mirror ids w w') :
    ((server svc.cfg).step (.queue (.xAdd stream values maxLen)) w).1.map (fun _ => ()) =
      ((server svc.cfg).step (.queue (.xAdd stream values maxLen)) w').1.map (fun _ => ()) ∧
    Mirror ids ((server svc.cfg).step (.queue (.xAdd stream values maxLen)) w).2
      ((server svc.cfg).step (.queue (.xAdd stream values maxLen)) w').2 := by
  refine ⟨?_, h.step_of ?_ ?_⟩
  · simp only [server, serve, Worker.effect, Worker.redis, ← h.next]
    cases w.next.fault <;> rfl
  · simp only [ServerCmd.tables, h.tick_db, h.tick_db']
    exact h.refers
  · simp only [ServerCmd.tables, h.tick_db, h.tick_db']
    exact h.messages

theorem enqueue_relates (lane : PriorityLane) (msg : QueueMessage) :
    Prog.Relates (server svc.cfg) (Mirror ids) (enqueue svc lane msg) (enqueue svc lane msg)
      fun r w r' w' => r.map (fun _ => ()) = r'.map (fun _ => ()) ∧ Mirror ids w w' := by
  intro w w' h
  unfold enqueue Worker.enqueue
  cases svc.cfg.queue.stream? lane with
  | none => exact ⟨rfl, h⟩
  | some stream =>
    cases msg.marshal with
    | none => exact ⟨rfl, h⟩
    | some data =>
      obtain ⟨hnow, h₁⟩ := writes_agree svc (e := .queue .now) trivial h
      simp only [Prog.call_bind, Prog.embed, Prog.exec_act, hnow]
      generalize hadd : Worker.WorkerCmd.xAdd stream _ svc.cfg.queue.maxQueueDepth = add
      obtain ⟨hreply, h₂⟩ := hadd ▸ xAdd_agrees svc stream _ svc.cfg.queue.maxQueueDepth h₁
      generalize (server svc.cfg).step (.queue add)
        ((server svc.cfg).step (.queue .now) w).2 = r at hreply h₂ ⊢
      generalize (server svc.cfg).step (.queue add)
        ((server svc.cfg).step (.queue .now) w').2 = r' at hreply h₂ ⊢
      obtain ⟨e | id, w₂⟩ := r <;> obtain ⟨e' | id', w₂'⟩ := r'
      · obtain rfl : e = e' := Except.error.inj hreply
        exact ⟨rfl, h₂⟩
      · cases hreply
      · cases hreply
      · exact ⟨rfl, h₂⟩

theorem storeAndEnqueue_agrees (d : Draft) (caller : Caller) {msgID : String} (hid : msgID ∈ ids)
    (encrypted : String) (now : ℤ) :
    (storeAndEnqueue svc d caller msgID encrypted now).Agrees (server svc.cfg) (Mirror ids) := by
  have hcreate : Writes ids (.db (.createMessage (d.row svc caller msgID encrypted now))) := hid
  refine Prog.Agrees.bind (f := fun created => _) (Prog.Only.agrees (P := Writes ids)
    (p := Prog.call _) ⟨hcreate, fun _ => trivial⟩ fun e w w' he h => writes_agree _ he h)
    fun created => ?_
  rcases created with e | ⟨⟩
  · exact Prog.agrees_ret _
  · refine Prog.Agrees.bind (f := fun counted => _)
      (Prog.Only.agrees (P := Writes ids) (p := incrementUsage caller.accountID)
        ⟨trivial, fun _ => ⟨trivial, fun _ => trivial⟩⟩ fun e w w' he h => writes_agree _ he h)
      fun counted => ?_
    refine (enqueue_relates _ _).bind fun r r' => ?_
    rintro w w' ⟨hr, h⟩
    cases r <;> cases r'
    · exact ⟨rfl, h⟩
    · cases hr
    · cases hr
    · exact ⟨rfl, h⟩

theorem orReturn_agrees {R : World → World → Prop} {α : Type} {p : ServerProg (Except Response α)}
    {rest : α → ServerProg Response} (hp : p.Agrees (server svc.cfg) R)
    (hrest : ∀ a, (rest a).Agrees (server svc.cfg) R) :
    (orReturn p rest).Agrees (server svc.cfg) R := by
  refine hp.bind fun r => ?_
  cases r with
  | error e => exact Prog.agrees_ret e
  | ok a => exact hrest a

theorem encrypt_agrees (message : String) :
    (encrypt svc message).Agrees (server svc.cfg) (Mirror ids) := by
  refine Prog.Only.agrees (P := Writes ids) ?_ fun e w w' he h => writes_agree _ he h
  unfold encrypt
  cases svc.cipher with
  | none => trivial
  | some cipher =>
    refine ⟨trivial, fun nonce => ?_⟩
    cases nonce <;> trivial

theorem Mirror.drawn_next (h : Mirror ids w w') : w.next.uuid.text ∈ ids := by
  refine h.drawn w.next ?_
  unfold World.next
  cases w.env with
  | nil => exact List.mem_cons_self
  | cons t ts => exact List.mem_cons_of_mem _ List.mem_cons_self

/-- What becomes of a message once the quota is checked. -/
theorem agrees_accepted (caller : Caller) (startTime : ℤ) (d : Draft) :
    Prog.Agrees (server svc.cfg) (Mirror ids) (do
      let msgID ← Prog.call .uuid
      let now ← Prog.call .now
      orReturn (encrypt svc d.message) fun encrypted =>
        orReturn (storeAndEnqueue svc d caller msgID.text encrypted now) fun _ => do
          let done ← Prog.call .now
          return .queued msgID.text (laneOf d.messageType).1 (some d.idempotencyKey) now
            ((done - startTime) / 1000000)) := by
  have hnow : (Prog.call ServerCmd.now).Agrees (server svc.cfg) (Mirror ids) :=
    Prog.Only.agrees (P := Writes ids) ⟨trivial, fun _ => trivial⟩
      fun e w w' he h => writes_agree _ he h
  refine Prog.Relates.bind (Q := fun u w u' w' => (u = u' ∧ u.text ∈ ids) ∧ Mirror ids w w') ?_ ?_
  · intro w w' h
    obtain ⟨hval, h₁⟩ := writes_agree svc (e := .uuid) trivial h
    exact ⟨⟨hval, h.drawn_next⟩, h₁⟩
  · rintro msgID _ w w' ⟨⟨rfl, hid⟩, h⟩
    refine Prog.Agrees.bind (f := fun now => _) hnow (fun now => ?_) w w' h
    refine orReturn_agrees (encrypt_agrees _) fun encrypted => ?_
    refine orReturn_agrees (storeAndEnqueue_agrees d caller hid encrypted now) fun _ => ?_
    exact hnow.bind fun done => Prog.agrees_ret _

/-- What becomes of a message whose key is new does not depend on the other accounts. -/
theorem agrees_sendFresh (caller : Caller) (startTime : ℤ) (d : Draft) (h : Mirror ids w w')
    (ha : Alike caller.accountID w.db w'.db) :
    ((sendFresh svc caller startTime d).exec (server svc.cfg) w).val =
      ((sendFresh svc caller startTime d).exec (server svc.cfg) w').val := by
  have hquota := Prog.Only.agrees (M := server svc.cfg) (P := Reads caller.accountID)
    (p := requireQuota caller.accountID)
    (R := fun w w' => Mirror ids w w' ∧ Alike caller.accountID w.db w'.db) ?_
    (fun e w w' he h => reads_agree _ he h) w w' ⟨h, ha⟩
  · obtain ⟨hval, hm, -⟩ := hquota
    unfold sendFresh
    rw [exec_orReturn, exec_orReturn]
    generalize (requireQuota caller.accountID).exec (server svc.cfg) w = o at hval hm ⊢
    generalize (requireQuota caller.accountID).exec (server svc.cfg) w' = o' at hval hm ⊢
    obtain ⟨r, w₁, evs⟩ := o
    obtain ⟨r', w₁', evs'⟩ := o'
    obtain rfl : r = r' := hval
    cases r with
    | error e => rfl
    | ok => exact (agrees_accepted caller startTime d w₁ w₁' hm).1
  · refine Prog.Only.bind (p := checkQuota caller.accountID) ?_ fun reply => ?_
    · refine ⟨trivial, fun now => ⟨rfl, fun usage => ?_⟩⟩
      rcases usage with e | (_ | usage)
      · trivial
      · trivial
      · refine ⟨trivial, fun sub => ?_⟩
        rcases sub with e | (_ | sub) <;> trivial
    · rcases reply with e | (_ | _) <;> trivial

variable (svc) in
/-- The check of a device has the same result in both worlds. -/
theorem checkOptionalDevice_agrees (deviceID : String) :
    (checkOptionalDevice accountID deviceID).Agrees (server svc.cfg)
      fun w w' => Mirror ids w w' ∧ Alike accountID w.db w'.db := by
  intro w w' h
  unfold checkOptionalDevice checkDevice
  split_ifs
  · exact ⟨rfl, h⟩
  · obtain ⟨hm, ha⟩ := h
    have htables (v : World) : (ServerCmd.db (.deviceByID deviceID)).tables v = v.tick.db := by
      rcases Fault.apply_snd v.next.fault id id (fun db => Query.run db (.deviceByID deviceID))
        v.tick.db with hrun | hrun <;> exact hrun
    have hstate := hm.keep svc ha (e := .db (.deviceByID deviceID))
      ((htables w).trans hm.tick_db) ((htables w').trans hm.tick_db')
    have hreply : ((server svc.cfg).step (.db (.deviceByID deviceID)) w).1.map (·.map standing) =
        ((server svc.cfg).step (.db (.deviceByID deviceID)) w').1.map (·.map standing) := by
      change (w.next.fault.apply id id (fun db => Query.run db _) w.tick.db).1.map _ =
        (w'.next.fault.apply id id (fun db => Query.run db _) w'.tick.db).1.map _
      rw [hm.tick_db, hm.tick_db', ← hm.next]
      cases w.next.fault with
      | none => exact congrArg Except.ok (ha.devices deviceID)
      | refused text => rfl
      | lost text => rfl
    rw [bind_assoc, Prog.call_bind, Prog.exec_act, Prog.exec_act]
    generalize (server svc.cfg).step (.db (.deviceByID deviceID)) w = r at hreply hstate ⊢
    generalize (server svc.cfg).step (.db (.deviceByID deviceID)) w' = r' at hreply hstate ⊢
    obtain ⟨e | (_ | device), w₁⟩ := r <;> obtain ⟨e' | (_ | device'), w₁'⟩ := r' <;>
      simp only [Except.map, Option.map_none, Option.map_some, reduceCtorEq, Except.error.injEq,
        Except.ok.injEq, Option.some.injEq] at hreply
    · exact ⟨rfl, hstate⟩
    · exact ⟨rfl, hstate⟩
    · obtain ⟨howner, hstatus⟩ := Prod.mk.inj hreply
      by_cases hmine : device.accountID = accountID
      · have hmine' : device'.accountID = accountID := howner ▸ hmine
        by_cases honline : device.status = .online
        · have honline' : device'.status = .online := hstatus ▸ honline
          simp only [hmine, hmine', honline, honline', ne_eq, not_true_eq_false, if_false]
          exact ⟨rfl, hstate⟩
        · have honline' : device'.status ≠ .online := hstatus ▸ honline
          simp only [hmine, hmine', honline, honline', ne_eq, not_true_eq_false, if_false,
            not_false_eq_true, if_true]
          exact ⟨rfl, hstate⟩
      · have hmine' : device'.accountID ≠ accountID := howner ▸ hmine
        simp only [hmine, hmine', ne_eq, not_false_eq_true, if_true]
        exact ⟨rfl, hstate⟩

variable (svc) in
/-- A routine that has nothing to do with keys leaves them all as they were, while time passes. -/
theorem redis_exec_of_own {α : Type} {p : ServerProg α} (hp : p.Only (Own False owner))
    (hw : Alone w) : (p.exec (server svc.cfg) w).state.redis = w.redis ∧
      w.clock ≤ (p.exec (server svc.cfg) w).state.clock := by
  have hinv := hp.exec_inv (M := server svc.cfg)
    (I := fun v => Alone v ∧ v.redis = w.redis ∧ w.clock ≤ v.clock) (s := w)
    (fun e v he hv => ⟨hv.1.step e, ?_, ?_⟩) ⟨hw, rfl, le_refl _⟩
  · exact hinv.2
  · have htick : v.tick.redis = v.redis := congrArg Shared.redis hv.1.tick
    rw [step_redis, ← hv.2.1, ← htick]
    cases e with
    | redis e => exact (not_own_redis owner he).elim
    | _ => rfl
  · have hle := hv.2.2
    rw [step_clock]
    omega

variable (svc) in
/-- Storing a key and setting its time to live fail in both worlds or in none. -/
theorem setKey_agrees (key' : String) (h : Mirror ids w w') :
    (setKey svc key' w).1 = (setKey svc key' w').1 ∧
      (expireKey svc key' w).1 = (expireKey svc key' w').1 := by
  have hreply (e : RedisCmd Unit) (he : ∀ now K, (e.run now K).1 = .ok ()) :
      ((server svc.cfg).step (.redis e) w).1 = ((server svc.cfg).step (.redis e) w').1 := by
    change (w.next.fault.apply RedisErr.refused RedisErr.lost (e.run w.tick.clock) w.tick.redis).1 =
      (w'.next.fault.apply RedisErr.refused RedisErr.lost (e.run w'.tick.clock) w'.tick.redis).1
    rw [← h.next]
    refine (Fault.apply_agrees (R := fun _ _ => True) w.next.fault _ _ trivial ⟨?_, trivial⟩).1
    rw [he, he]
  exact ⟨hreply (.set _ _ _) fun _ _ => rfl, hreply (.expire _ _) fun _ _ => rfl⟩

/-- A key that is found in neither world is treated alike in both if the lookups are. -/
theorem checkDuplicate_agrees (key' : String) (h : Mirror ids w w')
    (ha : Alike accountID w.db w'.db) (hget : (getKey svc key' w).1 = (getKey svc key' w').1)
    (hnot : ∀ cs, ¬ Finds w key' cs) :
    let o := (checkDuplicate svc key').exec (server svc.cfg) w
    let o' := (checkDuplicate svc key').exec (server svc.cfg) w'
    o.val = o'.val ∧ Mirror ids o.state o'.state ∧ Alike accountID o.state.db o'.state.db := by
  intro o o'
  have h₁ := h.keep svc ha (e := .redis (.get (redisKey key'))) h.tick_db h.tick_db'
  have h₂ := h₁.1.keep svc h₁.2 (e := .redis (.set (redisKey key') []
    (if 0 < svc.cfg.app.idempotencyTTL then some svc.cfg.app.idempotencyTTL else none)))
    h₁.1.tick_db h₁.1.tick_db'
  have h₃ := h₂.1.keep svc h₂.2
    (e := .redis (.expire (redisKey key') svc.cfg.app.idempotencyTTL)) h₂.1.tick_db h₂.1.tick_db'
  have hset := (setKey_agrees svc key' h₁.1).1
  have hexpire := (setKey_agrees svc key' h₂.1).2
  have hnot' : ∀ cs, ¬ Finds w' key' cs := by
    intro cs hfinds
    exact hnot cs (get_ok_iff.1 (hget.trans (get_ok_iff.2 hfinds)))
  cases checked svc key' w with
  | found cs hfinds => exact absurd hfinds (hnot cs)
  | failed hnil hnone hval hstate =>
    cases checked svc key' w' with
    | found cs hfinds => exact absurd hfinds (hnot' cs)
    | failed hnil' hnone' hval' hstate' =>
      exact ⟨hval.trans hval'.symm, hstate ▸ hstate' ▸ h₁⟩
    | stored hnil' => exact absurd (hget.trans hnil') hnil
    | notStored hnil' => exact absurd (hget.trans hnil') hnil
  | stored hnil hset₁ hexpire₁ hval hstate =>
    cases checked svc key' w' with
    | found cs hfinds => exact absurd hfinds (hnot' cs)
    | failed hnil' => exact absurd (hget.symm.trans hnil) hnil'
    | stored hnil' hset' hexpire' hval' hstate' =>
      exact ⟨hval.trans hval'.symm, hstate ▸ hstate' ▸ h₃⟩
    | notStored hnil' hnot₁ =>
      exact absurd (hexpire.symm.trans hexpire₁) (hnot₁ (hset.symm.trans hset₁))
  | notStored hnil hnot₁ hval hstate =>
    cases checked svc key' w' with
    | found cs hfinds => exact absurd hfinds (hnot' cs)
    | failed hnil' => exact absurd (hget.symm.trans hnil) hnil'
    | stored hnil' hset' hexpire' =>
      exact absurd (hexpire.trans hexpire') (hnot₁ (hset.trans hset'))
    | notStored hnil' hnot₂ hval' hstate' =>
      exact ⟨hval.trans hval'.symm, hstate ▸ hstate' ▸ h₃⟩

/-- What can be found under a key that was kept: the same as before, or the empty text where there
was nothing. -/
theorem Kept.live (h : Kept key before w) {now : ℤ} (hle : w.clock ≤ now) :
    w.redis.live now (redisKey key) = before.redis.live now (redisKey key) ∨
      before.redis.live now (redisKey key) = none ∧
        ∃ expires, w.redis.live now (redisKey key) = some ⟨.text [], expires⟩ := by
  rcases h with hsame | ⟨hdead, hblank⟩
  · exact .inl (Keyspace.live_congr hsame now)
  · have hdead' := Keyspace.live_eq_none_of_le hle hdead
    cases hlive : w.redis.live now (redisKey key) with
    | none => exact .inl hdead'.symm
    | some entry =>
      obtain ⟨value, expires⟩ := entry
      obtain rfl : value = .text [] := hblank _ (Option.filter_eq_some_iff.1 hlive).1
      exact .inr ⟨hdead', expires, rfl⟩

/-- The lookup of a key depends on nothing but what is under the key. -/
theorem getKey_agrees (h : Mirror ids w w')
    (hlive : w.redis.live w.tick.clock (redisKey key) =
      w'.redis.live w.tick.clock (redisKey key)) :
    (getKey svc key w).1 = (getKey svc key w').1 := by
  have hredis : w.tick.redis = w.redis := congrArg Shared.redis h.alone.tick
  have hredis' : w'.tick.redis = w'.redis := congrArg Shared.redis h.alone'.tick
  change (w.next.fault.apply RedisErr.refused RedisErr.lost
      ((RedisCmd.get (redisKey key)).run w.tick.clock) w.tick.redis).1 =
    (w'.next.fault.apply RedisErr.refused RedisErr.lost
      ((RedisCmd.get (redisKey key)).run w'.tick.clock) w'.tick.redis).1
  rw [← h.next, ← h.tick_clock, hredis, hredis']
  refine (Fault.apply_agrees (R := fun _ _ => True) w.next.fault _ _ trivial ⟨?_, trivial⟩).1
  simp only [RedisCmd.run, RedisCmd.key, hlive]

variable (svc) in
/-- **The two lookups of a request.** Either they have the same reply, or only the one after the
requests of the others finds the key. -/
theorem lookups_agree (h : Mirror ids w w') (hkept : Kept key before w₁)
    (hredis : w.redis = w₁.redis) (hredis' : w'.redis = before.redis) (hle : w₁.clock ≤ w.clock) :
    (getKey svc key w).1 = (getKey svc key w').1 ∨
      Finds w key [] ∧ ∀ cs, ¬ Finds w' key cs := by
  have htick : w.tick.redis = w.redis := congrArg Shared.redis h.alone.tick
  have htick' : w'.tick.redis = w'.redis := congrArg Shared.redis h.alone'.tick
  have hle' : w₁.clock ≤ w.tick.clock := by
    change w₁.clock ≤ w.clock + w.next.elapsed
    omega
  rcases hkept.live hle' with hlive | ⟨hnone, expires, hlive⟩
  · exact .inl (getKey_agrees h (by rw [hredis, hredis', hlive]))
  · rw [← hredis'] at hnone
    rw [← hredis] at hlive
    cases hfault : w.next.fault with
    | none =>
      refine .inr ⟨⟨hfault, expires, htick ▸ hlive⟩, ?_⟩
      rintro cs ⟨-, expires', hlive'⟩
      rw [htick', ← h.tick_clock, hnone] at hlive'
      cases hlive'
    | refused text =>
      refine .inl ?_
      simp only [getKey, server, serve, ← h.next, hfault, Fault.apply]
    | lost text =>
      refine .inl ?_
      simp only [getKey, server, serve, ← h.next, hfault, Fault.apply]

/-- The ids that the commands to come may draw. -/
def toDraw (w : World) : Set String := {id | ∃ t ∈ Tick.quiet :: w.env, t.uuid.text = id}

/-- The world after the requests of other accounts, and the world without them. -/
theorem mirror_without {w₁ : World} (h : Unseen accountID w w₁) (hunused : Unused w₁) :
    Mirror (toDraw w₁) w₁ (without w w₁) ∧ Alike accountID w₁.db (without w w₁).db := by
  refine ⟨⟨rfl, rfl, h.alone, fun t ht => ⟨t, ht, rfl⟩, h.db.symm.refers, ?_⟩, h.db.symm⟩
  rintro id ⟨t, ht, rfl⟩
  have hnone : w₁.db.messages.any (fun m => decide (m.id = t.uuid.text)) = false := by
    simpa using hunused t ht
  have hnone' : (without w w₁).db.messages.any (fun m => decide (m.id = t.uuid.text)) = false := by
    refine List.any_eq_false.2 fun m hm => ?_
    simpa using hunused t ht m (h.messages m hm)
  rw [hnone, hnone']

/-- A request that passes the checks of its body goes on with its device and its key. -/
theorem run_val {c : SendCall} {d : Draft} (hv : SendSMSRequest.validate svc c.body = .ok d)
    (w : World) :
    (SendCall.run svc (c, w)).val =
      ((orReturn (checkOptionalDevice c.caller.accountID d.deviceID) fun _ =>
        orReturn (checkDuplicate svc d.idempotencyKey) fun _ =>
          sendFresh svc c.caller w.tick.clock d).exec (server svc.cfg)
            ((server svc.cfg).step .now w).2).val := by
  unfold SendCall.run SendCall.prog send
  rw [Prog.call_bind, Prog.exec_act]
  simp only [hv]
  rfl

/-- Where a request looks its key up, the keys are as they were when it came. -/
theorem redis_of_lookup {c : SendCall} {u : World} {d : Draft} (hw : Alone w)
    (h : c.lookup svc w = some (d, u)) : u.redis = w.redis ∧ w.clock ≤ u.clock := by
  obtain ⟨-, -, rfl⟩ := lookup_eq_some.1 h
  have hcheck : (checkOptionalDevice c.caller.accountID d.deviceID).Only (Own False "") :=
    checkOptionalDevice_own _ _
  obtain ⟨hredis, hclock⟩ := redis_exec_of_own svc hcheck (hw.step .now)
  have htick : ServerCmd.now.keys w = w.redis := hw.tick_redis
  rw [step_redis, htick] at hredis
  rw [step_clock] at hclock
  exact ⟨hredis, by omega⟩

/-- What becomes of a request after the lookup of its key, where the lookups have the same reply
and the key is not found. -/
theorem agrees_checked {c : SendCall} {d : Draft} (startTime : ℤ) (h : Mirror ids w w')
    (ha : Alike c.caller.accountID w.db w'.db)
    (hget : (getKey svc d.idempotencyKey w).1 = (getKey svc d.idempotencyKey w').1)
    (hnot : ∀ cs, ¬ Finds w d.idempotencyKey cs) :
    ((orReturn (checkDuplicate svc d.idempotencyKey) fun _ =>
        sendFresh svc c.caller startTime d).exec (server svc.cfg) w).val =
      ((orReturn (checkDuplicate svc d.idempotencyKey) fun _ =>
        sendFresh svc c.caller startTime d).exec (server svc.cfg) w').val := by
  obtain ⟨hval, hm, hdb⟩ := checkDuplicate_agrees d.idempotencyKey h ha hget hnot
  rw [exec_orReturn, exec_orReturn]
  generalize (checkDuplicate svc d.idempotencyKey).exec (server svc.cfg) w = o at hval hm hdb ⊢
  generalize (checkDuplicate svc d.idempotencyKey).exec (server svc.cfg) w' = o' at hval hm hdb ⊢
  obtain ⟨r, v, evs⟩ := o
  obtain ⟨r', v', evs'⟩ := o'
  obtain rfl : r = r' := hval
  cases r with
  | error e => rfl
  | ok a => exact agrees_sendFresh c.caller startTime d hm hdb

/-- **The requests of other accounts do not change the response to a request, exactly if they do
not make it find its key.** The two runs compared are the one after the requests of the others,
and the one in which these have not been made; no message has an id that is still to be drawn. -/
theorem send_isolated_iff (svc : Services) (c : SendCall) (calls : Calls) (w : World)
    (hw : Alone w) (hne : ∀ x ∈ calls, c.caller.accountID ≠ x.1.accountID)
    (hunused : Unused (afterCalls svc calls w)) :
    (SendCall.run svc (c, afterCalls svc calls w)).val =
        (SendCall.run svc (c, without w (afterCalls svc calls w))).val ↔
      (FindsKey svc (c, afterCalls svc calls w) →
        FindsKey svc (c, without w (afterCalls svc calls w))) := by
  have hapart (key : String) : Apart c.caller.accountID key w (afterCalls svc calls w) :=
    apart_after hne hw
  obtain ⟨hm, ha⟩ := mirror_without (hapart "").unseen hunused
  generalize afterCalls svc calls w = w₁ at hapart hm ha ⊢
  cases hv : SendSMSRequest.validate svc c.body with
  | error r =>
    have hval (v : World) : (SendCall.run svc (c, v)).val = r := by
      unfold SendCall.run SendCall.prog send
      rw [Prog.call_bind, Prog.exec_act]
      simp only [hv]
      rfl
    refine iff_of_true ((hval _).trans (hval _).symm) ?_
    rintro ⟨d, v, cs, hlookup, -⟩
    cases hv.symm.trans (lookup_eq_some.1 hlookup).1
  | ok d =>
    obtain ⟨-, hnow⟩ := reads_agree svc (e := .now) trivial ⟨hm, ha⟩
    obtain ⟨hcheck, hm₁, ha₁⟩ := checkOptionalDevice_agrees svc d.deviceID _ _ hnow
    cases hval : ((checkOptionalDevice c.caller.accountID d.deviceID).exec (server svc.cfg)
        ((server svc.cfg).step .now w₁).2).val with
    | error e =>
      have hval' := hcheck.symm.trans hval
      refine iff_of_true ?_ ?_
      · rw [run_val hv, run_val hv, exec_orReturn, exec_orReturn]
        generalize (checkOptionalDevice c.caller.accountID d.deviceID).exec (server svc.cfg)
          ((server svc.cfg).step .now w₁).2 = o at hval
        generalize (checkOptionalDevice c.caller.accountID d.deviceID).exec (server svc.cfg)
          ((server svc.cfg).step .now (without w w₁)).2 = o' at hval'
        obtain ⟨r, v, evs⟩ := o
        obtain ⟨r', v', evs'⟩ := o'
        obtain rfl : r = _ := hval
        obtain rfl : r' = _ := hval'
        rfl
      · rintro ⟨d', u, cs, hlookup, -⟩
        obtain ⟨hv', hval', -⟩ := lookup_eq_some.1 hlookup
        obtain rfl := Except.ok.inj (hv.symm.trans hv')
        cases hval.symm.trans hval'
    | ok =>
      have hu := lookup_eq_some.2 ⟨hv, hval, rfl⟩
      have hu' := lookup_eq_some.2 ⟨hv, hcheck.symm.trans hval, rfl⟩
      obtain ⟨hredis, hle⟩ := redis_of_lookup hm.alone hu
      obtain ⟨hredis', -⟩ := redis_of_lookup hm.alone' hu'
      obtain ⟨evs, -, hrun⟩ := run_of_lookup hu
      obtain ⟨evs', -, hrun'⟩ := run_of_lookup hu'
      generalize ((checkOptionalDevice c.caller.accountID d.deviceID).exec (server svc.cfg)
        ((server svc.cfg).step .now w₁).2).state = u at *
      generalize ((checkOptionalDevice c.caller.accountID d.deviceID).exec (server svc.cfg)
        ((server svc.cfg).step .now (without w w₁)).2).state = u' at *
      rcases lookups_agree svc hm₁ (hapart d.idempotencyKey).kept hredis hredis' hle with
        hget | ⟨hfinds, hnot⟩
      · by_cases hfinds : ∃ cs, Finds u d.idempotencyKey cs
        · obtain ⟨cs, hfinds⟩ := hfinds
          have hfinds' := get_ok_iff.1 (hget.symm.trans (get_ok_iff.2 hfinds))
          have hdup := (answer_duplicate_iff (x := (c, w₁))).2 ⟨d, u, cs, hu, hfinds, rfl⟩
          have hdup' := (answer_duplicate_iff (x := (c, without w w₁))).2 ⟨d, u', cs, hu', hfinds', rfl⟩
          exact iff_of_true (hdup.trans hdup'.symm) fun _ => ⟨d, u', cs, hu', hfinds'⟩
        · refine iff_of_true ?_ ?_
          · rw [hrun, hrun', hm.tick_clock]
            exact agrees_checked _ hm₁ ha₁ hget fun cs h => hfinds ⟨cs, h⟩
          · rintro ⟨d', v, cs, hlookup, h⟩
            obtain ⟨rfl, rfl⟩ := Prod.mk.inj (Option.some.inj (hu.symm.trans hlookup))
            exact absurd ⟨cs, h⟩ hfinds
      · have hdup := (answer_duplicate_iff (x := (c, w₁))).2 ⟨d, u, [], hu, hfinds, rfl⟩
        have hnone : ¬ FindsKey svc (c, without w w₁) := by
          rintro ⟨d', v, cs, hlookup, h⟩
          obtain ⟨rfl, rfl⟩ := Prod.mk.inj (Option.some.inj (hu'.symm.trans hlookup))
          exact hnot cs h
        refine iff_of_false (fun heq => hnone ?_) fun h => hnone (h ⟨d, u, [], hu, hfinds⟩)
        obtain ⟨d', v, cs, hlookup, h, -⟩ := answer_duplicate_iff.1 (heq.symm.trans hdup)
        exact ⟨d', v, cs, hlookup, h⟩

/-! ## A key that two accounts choose -/

/-- The request of another account, with a key of its choice. -/
def theirs (key : String) : Caller × Request :=
  (⟨"account-2", "key-2"⟩, .send (order.body.map fun req => { req with idempotencyKey := key }))

/-- A server with an API key for each of two accounts. The first message gets an id of its own. -/
def twoAccounts : World :=
  let w := onePhone (List.replicate 14
    { Tick.quiet with uuid := ⟨"00000000-0000-4000-8000-000000000001", secondID_ne_empty⟩ })
  { w with db := { w.db with apiKeys := [⟨"key-1", "account-1", "hash-1", none, none⟩,
    ⟨"key-2", "account-2", "hash-2", none, none⟩] } }

theorem twoAccounts_alone : Alone twoAccounts := by
  intro t ht
  rw [List.eq_of_mem_replicate ht]
  rfl

/-- The same key makes a request be answered as the duplicate of another account's request. -/
theorem shared_key_seen :
    (SendCall.run plainServices
        (order, afterCalls plainServices [theirs "order-17"] twoAccounts)).val ≠
      (SendCall.run plainServices (order, without twoAccounts
        (afterCalls plainServices [theirs "order-17"] twoAccounts))).val := by
  have hafter : (SendCall.run plainServices
      (order, afterCalls plainServices [theirs "order-17"] twoAccounts)).val = .duplicate "" := by
    decide
  have hwithout : (SendCall.run plainServices (order, without twoAccounts
      (afterCalls plainServices [theirs "order-17"] twoAccounts))).val =
        .queued "00000000-0000-4000-8000-000000000000" .transactional (some "order-17") 0 0 := by
    decide
  rw [hafter, hwithout]
  exact nofun

/-- With keys that differ the other account's request makes no difference. -/
theorem send_isolated_otherKey :
    (SendCall.run plainServices
        (order, afterCalls plainServices [theirs "order-18"] twoAccounts)).val =
      (SendCall.run plainServices (order, without twoAccounts
        (afterCalls plainServices [theirs "order-18"] twoAccounts))).val := by
  have hval : (SendCall.run plainServices
      (order, afterCalls plainServices [theirs "order-18"] twoAccounts)).val =
        .queued "00000000-0000-4000-8000-000000000000" .transactional (some "order-17") 0 0 := by
    decide
  have hunused : Unused (afterCalls plainServices [theirs "order-18"] twoAccounts) := by
    unfold Unused
    decide
  refine (send_isolated_iff plainServices order [theirs "order-18"] twoAccounts twoAccounts_alone
    (by decide) hunused).2 fun hfinds => absurd hfinds (not_findsKey ?_)
  intro msgID hdup
  cases hval.symm.trans hdup

end AeroxeBee.Api
