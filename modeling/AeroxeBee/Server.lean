import AeroxeBee.Dispatch.CircuitBreaker
import AeroxeBee.Dispatch.SimHealth
import AeroxeBee.Worker.Queue
import Mathlib.Algebra.Order.BigOperators.Group.List

/-!
# The server process

What the routines of the server share: the database, the keys in Redis, the streams of the queue,
and the circuit breakers and delivery outcomes that are kept in memory. `ServerCmd` lists what a
routine can ask for, and `server` says what becomes of it. Every command takes the next `Tick` of
the environment, which also says what everything else that runs on the server did in the
meantime.
-/

namespace AeroxeBee

open Foundations Dispatch Worker

/-! ## Configuration -/

/-- The limits of one device. -/
structure RateLimitConfig where
  deviceMaxPerMinute : ℤ
  deviceMaxPerHour : ℤ

/-- The weights of the delivery confidence. -/
structure DeliveryConfig where
  deliveryReportWeight : ℚ
  historicalPatternWeight : ℚ
  carrierReliabilityWeight : ℚ

/-- The settings of the application. -/
structure AppConfig where
  idempotencyTTL : ℤ
  messageRetention : ℤ

/-- The configuration of the server. -/
structure Config where
  queue : QueueConfig
  rateLimit : RateLimitConfig
  simHealth : SIMHealthConfig
  delivery : DeliveryConfig
  circuitBreaker : CircuitBreakerConfig
  app : AppConfig

/-- The default configuration. -/
def Config.default : Config where
  queue := .default
  rateLimit := ⟨10, 100⟩
  simHealth := .default
  delivery := ⟨1 / 2, 3 / 10, 1 / 5⟩
  circuitBreaker := .default
  app := ⟨300000000000, 7776000000000000⟩

/-! ## Commands -/

/-- A random number of the unit interval. -/
structure UnitFloat where
  val : ℚ
  nonneg : 0 ≤ val
  lt_one : val < 1

/-- A random identifier. -/
structure UUID where
  text : String
  ne_empty : text ≠ ""

/-- A suspicion raised by the fraud detector. -/
structure FraudFlag where
  id : String
  accountID : String
  flagType : String
  description : String
  severity : String
  weight : ℚ
  createdAt : ℤ

/-- What a device is told to send. -/
structure SMSCommand where
  action : String
  id : String
  accountID : String
  recipient : String
  message : String
  priority : String
  timestamp : ℤ
deriving DecidableEq

/-- What the webhooks of an account are told about a message. -/
structure WebhookPayload where
  event : String
  messageID : String
  recipient : String
  sender : String
  messageType : MessageType
  deliveryStatus : DeliveryStatus
  confidenceScore : ℚ
deriving DecidableEq

/-- What the routines of the server ask of their environment. -/
inductive ServerCmd : Type → Type 1
  /-- The time in nanoseconds. -/
  | now : ServerCmd ℤ
  | uuid : ServerCmd UUID
  | rand : ServerCmd UnitFloat
  /-- A random nonce for a cipher. -/
  | nonce : ServerCmd (Except String String)
  | redis {β : Type} (e : RedisCmd β) : ServerCmd (Except RedisErr β)
  | db {β : Type} (q : Query β) : ServerCmd (Except String β)
  | queue {β : Type} (e : WorkerCmd β) : ServerCmd β
  | isOpen (scope : CircuitBreakerScope) (scopeValue : String) : ServerCmd Bool
  | recordFailure (scope : CircuitBreakerScope) (scopeValue : String) : ServerCmd Unit
  | recordSuccess (scope : CircuitBreakerScope) (scopeValue : String) : ServerCmd Unit
  | reset (scope : CircuitBreakerScope) (scopeValue : String) : ServerCmd (Except String Unit)
  | evaluateDevice (deviceID : String) (currentStatus : SIMHealthStatus) :
      ServerCmd (SIMHealthStatus × ℚ)
  | recordDelivery (deviceID : String) (success : Bool) : ServerCmd Unit
  | addFraudFlag (flag : FraudFlag) : ServerCmd Unit
  /-- Whether the connection to the MQTT broker is up. -/
  | isConnected : ServerCmd Bool
  | publish (topic : String) (payload : SMSCommand) : ServerCmd (Except String Unit)
  /-- Tell the webhooks of an account, in the background. -/
  | dispatchWebhooks (accountID : String) (payload : WebhookPayload) : ServerCmd Unit

/-- A routine of the server. -/
abbrev ServerProg := Prog ServerCmd

/-! ## The world of the server -/

/-- The state that the routines of the server share. -/
structure Shared where
  db : Database
  redis : Keyspace
  streams : String → Stream Fields
  antiStarvationCnt : ℤ
  breakers : StateManager
  history : DeliveryHistory
  flags : List FraudFlag

/-- What the environment contributes to one command. Before the command is executed, the other
routines of the server have changed the shared state by `others`. -/
structure Tick extends Worker.Tick where
  uuid : UUID
  rand : UnitFloat
  nonce : Except String String
  connected : Bool
  others : Shared → Shared

/-- The tick at which nothing happens. -/
def Tick.quiet : Tick where
  toTick := .quiet
  uuid := ⟨"00000000-0000-4000-8000-000000000000", by decide⟩
  rand := ⟨0, by decide, by decide⟩
  nonce := .ok ""
  connected := true
  others := id

/-- A second id is an id too. -/
theorem secondID_ne_empty : "00000000-0000-4000-8000-000000000001" ≠ "" := by decide

/-- The state around a routine of the server: the shared state, the time, and the ticks to
come. -/
structure World extends Shared where
  clock : ℤ
  env : List Tick

namespace World

/-- The tick that the next command takes. -/
def next (w : World) : Tick := w.env.headD .quiet

/-- The tick that the command after `n` others takes. -/
def later (w : World) (n : ℕ) : Tick := (w.env.drop n).headD .quiet

/-- The world in which the next tick has begun. -/
def tick (w : World) : World where
  toShared := w.next.others w.toShared
  clock := w.clock + w.next.elapsed
  env := w.env.tail

/-- The part of the world that the queue sees. -/
def worker (w : World) : Worker.World := ⟨w.streams, w.antiStarvationCnt, w.clock, []⟩

end World

/-- What a command does, the tick it takes being given. -/
def serve (cfg : Config) (t : Tick) (w : World) : {β : Type} → ServerCmd β → β × World
  | _, .now => (w.clock, w)
  | _, .uuid => (t.uuid, w)
  | _, .rand => (t.rand, w)
  | _, .nonce => (t.nonce, w)
  | _, .redis e =>
    let r := t.fault.apply .refused .lost (e.run w.clock) w.redis
    (r.1, { w with redis := r.2 })
  | _, .db q =>
    let r := t.fault.apply id id (fun db => q.run db) w.db
    (r.1, { w with db := r.2 })
  | _, .queue e =>
    let r := Worker.effect t.toTick w.worker e
    (r.1, { w with streams := r.2.streams, antiStarvationCnt := r.2.antiStarvationCnt })
  | _, .isOpen scope scopeValue =>
    let r := w.breakers.isOpen w.clock scope scopeValue
    (r.1, { w with breakers := r.2 })
  | _, .recordFailure scope scopeValue =>
    ((), { w with
      breakers := w.breakers.recordFailure cfg.circuitBreaker w.clock scope scopeValue })
  | _, .recordSuccess scope scopeValue =>
    ((), { w with breakers := w.breakers.recordSuccess cfg.circuitBreaker scope scopeValue })
  | _, .reset scope scopeValue =>
    -- the breaker is forgotten even if its copy in Redis is not
    (match t.fault with
      | .none => .ok ()
      | .refused text => .error text
      | .lost text => .error text,
      { w with breakers := w.breakers.reset scope scopeValue })
  | _, .evaluateDevice deviceID currentStatus =>
    (SimHealth.evaluateDevice cfg.simHealth w.clock (w.history deviceID) currentStatus, w)
  | _, .recordDelivery deviceID success =>
    ((), { w with history := SimHealth.recordDelivery w.clock w.history deviceID success })
  | _, .addFraudFlag flag => ((), { w with flags := w.flags ++ [flag] })
  | _, .isConnected => (t.connected, w)
  | _, .publish topic _ =>
    match t.fault with
    | .none => (.ok (), w)
    | .refused text => (.error text, w)
    | .lost _ => (.error ("publish timeout on topic " ++ topic), w)
  | _, .dispatchWebhooks _ _ => ((), w)

/-- The meaning of the commands. -/
def server (cfg : Config) : Sem ServerCmd World where
  step e w := serve cfg w.next w.tick e

section Step

/-! A command takes one tick, and leaves alone what it is not about. -/

variable (cfg : Config) {β : Type} (w : World)

@[simp] theorem step_env (e : ServerCmd β) : ((server cfg).step e w).2.env = w.env.tail := by
  cases e with
  | publish topic payload => cases h : w.next.fault <;> simp [server, serve, h, World.tick]
  | _ => rfl

/-- After a command the ticks to come are one nearer. -/
theorem step_later (e : ServerCmd β) (n : ℕ) :
    ((server cfg).step e w).2.later n = w.later (n + 1) := by
  rw [World.later, World.later, step_env, List.drop_tail]

theorem next_eq_later : w.next = w.later 0 := rfl

@[simp] theorem step_clock (e : ServerCmd β) :
    ((server cfg).step e w).2.clock = w.clock + w.next.elapsed := by
  cases e with
  | publish topic payload => cases h : w.next.fault <;> simp [server, serve, h, World.tick]
  | _ => rfl

/-- The keys after a command: those of the Redis command if it is one. -/
def ServerCmd.keys : {β : Type} → ServerCmd β → World → Keyspace
  | _, .redis e, w => (w.next.fault.apply .refused .lost (e.run w.tick.clock) w.tick.redis).2
  | _, _, w => w.tick.redis

theorem step_redis (e : ServerCmd β) : ((server cfg).step e w).2.redis = e.keys w := by
  cases e with
  | publish topic payload => cases h : w.next.fault <;> simp [server, serve, h, ServerCmd.keys]
  | _ => rfl

/-- The database after a command: as the statement leaves it if the command is one. -/
def ServerCmd.tables : {β : Type} → ServerCmd β → World → Database
  | _, .db q, w => (w.next.fault.apply id id (fun db => q.run db) w.tick.db).2
  | _, _, w => w.tick.db

theorem step_db (e : ServerCmd β) : ((server cfg).step e w).2.db = e.tables w := by
  cases e with
  | publish topic payload => cases h : w.next.fault <;> simp [server, serve, h, ServerCmd.tables]
  | _ => rfl

/-- A statement is refused, or it is executed. -/
theorem step_statement (q : Query β) :
    ((server cfg).step (.db q) w).2.db =
      if w.next.fault.isRefused then w.tick.db else (q.run w.tick.db).2 := by
  rw [step_db, ServerCmd.tables]
  cases w.next.fault <;> rfl

/-- **What a statement can come to**: it is executed, refused, or executed without a reply. -/
theorem statement_cases (q : Query β) :
    let r := (server cfg).step (.db q) w
    (w.next.fault = .none ∧ r.1 = (q.run w.tick.db).1 ∧ r.2.db = (q.run w.tick.db).2) ∨
      (∃ e, w.next.fault = .refused e ∧ r.1 = .error e ∧ r.2.db = w.tick.db) ∨
      (∃ e, w.next.fault = .lost e ∧ r.1 = .error e ∧ r.2.db = (q.run w.tick.db).2) := by
  intro r
  have hr : (r.1, r.2.db) = w.next.fault.apply id id (fun db => q.run db) w.tick.db := rfl
  cases hfault : w.next.fault with
  | none =>
    rw [hfault, Fault.apply, Prod.ext_iff] at hr
    exact .inl ⟨rfl, hr⟩
  | refused e =>
    rw [hfault, Fault.apply, Prod.mk.injEq] at hr
    exact .inr (.inl ⟨e, rfl, hr⟩)
  | lost e =>
    rw [hfault, Fault.apply, Prod.mk.injEq] at hr
    exact .inr (.inr ⟨e, rfl, hr⟩)

variable {cfg w} in
/-- A statement whose reply is a value was executed. -/
theorem run_of_ok {q : Query β} {b : β} (h : ((server cfg).step (.db q) w).1 = .ok b) :
    q.run w.tick.db = (.ok b, (q.run w.tick.db).2) := by
  rcases statement_cases cfg w q with ⟨-, hval, -⟩ | ⟨e, -, hval, -⟩ | ⟨e, -, hval, -⟩
  · exact Prod.ext (hval.symm.trans h) rfl
  · cases hval.symm.trans h
  · cases hval.symm.trans h

/-- The streams after a command: as the command of the queue leaves them if it is one. -/
def ServerCmd.lanes : {β : Type} → ServerCmd β → World → String → Stream Fields
  | _, .queue e, w => (Worker.effect w.next.toTick w.tick.worker e).2.streams
  | _, _, w => w.tick.streams

theorem step_streams (e : ServerCmd β) : ((server cfg).step e w).2.streams = e.lanes w := by
  cases e with
  | publish topic payload => cases h : w.next.fault <;> simp [server, serve, h, ServerCmd.lanes]
  | _ => rfl

end Step

/-! ## Keys that nothing else touches -/

/-- Nothing else that runs on the server touches some keys. -/
def Spares (keys : Set String) (w : World) : Prop :=
  ∀ t ∈ w.env, ∀ (s : Shared), ∀ key ∈ keys, (t.others s).redis key = s.redis key

namespace Spares

variable {keys : Set String} {w : World} {key : String}

theorem tick (h : Spares keys w) (hkey : key ∈ keys) : w.tick.redis key = w.redis key := by
  unfold World.tick World.next
  cases henv : w.env with
  | nil => rfl
  | cons t ts => exact h t (henv ▸ List.mem_cons_self) w.toShared key hkey

theorem step {cfg : Config} {β : Type} (h : Spares keys w) (e : ServerCmd β) :
    Spares keys ((server cfg).step e w).2 := by
  intro t ht
  rw [step_env] at ht
  exact h t (List.mem_of_mem_tail ht)

theorem exec {cfg : Config} {α : Type} (h : Spares keys w) (p : ServerProg α) :
    Spares keys (p.exec (server cfg) w).state :=
  (Prog.only_of_forall (P := fun _ => True) (fun _ => trivial) p).exec_inv
    (fun e _ _ hw => hw.step e) h

end Spares

/-- A command leaves alone every key but its own. -/
theorem step_key_of_ne (cfg : Config) {β : Type} (e : RedisCmd β) (w : World) {key : String}
    (h : key ≠ e.key) : ((server cfg).step (.redis e) w).2.redis key = w.tick.redis key := by
  rw [step_redis, ServerCmd.keys]
  rcases Fault.apply_snd w.next.fault .refused .lost (e.run w.tick.clock) w.tick.redis with hr | hr
  · rw [hr]
  · rw [hr, e.run_frame w.tick.clock w.tick.redis h]

namespace Spares

variable {cfg : Config} {keys : Set String} {w : World} {key : String}

/-- What is found under a key from now on, when nothing is executed on it. -/
theorem live_tick (h : Spares keys w) (hkey : key ∈ keys) (t : ℤ) :
    w.tick.redis.live t key = w.redis.live t key :=
  Keyspace.live_congr (h.tick hkey) t

theorem redis_of_ne (h : Spares keys w) (hkey : key ∈ keys) {β : Type} {e : RedisCmd β}
    (hne : key ≠ e.key) : ((server cfg).step (.redis e) w).2.redis key = w.redis key :=
  (step_key_of_ne cfg e w hne).trans (h.tick hkey)

theorem redis_of_refused (h : Spares keys w) (hkey : key ∈ keys) {β : Type} (e : RedisCmd β)
    (hrefused : w.next.fault.isRefused = true) :
    ((server cfg).step (.redis e) w).2.redis key = w.redis key := by
  refine Eq.trans ?_ (h.tick hkey)
  rw [step_redis, ServerCmd.keys]
  cases hfault : w.next.fault with
  | refused text => rfl
  | none | lost =>
    rw [hfault] at hrefused
    cases hrefused

theorem live_of_reads (h : Spares keys w) (hkey : key ∈ keys) {β : Type} {e : RedisCmd β}
    (hreads : e.reads = true) {t : ℤ} (ht : w.tick.clock ≤ t) :
    ((server cfg).step (.redis e) w).2.redis.live t key = w.redis.live t key := by
  by_cases hne : key = e.key
  · subst hne
    rw [step_redis, ServerCmd.keys]
    rcases Fault.apply_snd w.next.fault .refused .lost (e.run w.tick.clock) w.tick.redis with
      hr | hr
    · rw [hr, h.live_tick hkey]
    · rw [hr, Keyspace.live, e.run_self, RedisCmd.reply_of_reads hreads, Keyspace.filter_live ht,
        h.live_tick hkey]
  · exact Keyspace.live_congr (h.redis_of_ne hkey hne) t

end Spares

/-- **What a command on a key can come to**: it is refused, or it is executed on what the key holds,
whether or not its reply arrives. -/
theorem step_key (cfg : Config) {β : Type} (e : RedisCmd β) (w : World) :
    let r := (server cfg).step (.redis e) w
    let reply := e.reply w.tick.clock (w.tick.redis.live w.tick.clock e.key)
    (∃ text, w.next.fault = .refused text ∧ r.1 = .error (.refused text) ∧
        r.2.redis e.key = w.tick.redis e.key) ∨
      (w.next.fault.isRefused = false ∧ r.2.redis e.key = reply.2 ∧
        (r.1 = reply.1 ∨ ∃ text, r.1 = .error (.lost text))) := by
  intro r reply
  have hr : (r.1, r.2.redis) =
      w.next.fault.apply .refused .lost (e.run w.tick.clock) w.tick.redis := rfl
  have hself := e.run_self w.tick.clock w.tick.redis
  cases hfault : w.next.fault with
  | none =>
    rw [hfault, Fault.apply, Prod.ext_iff] at hr
    exact .inr ⟨rfl, (congrFun hr.2 e.key).trans hself, .inl hr.1⟩
  | refused text =>
    rw [hfault, Fault.apply, Prod.mk.injEq] at hr
    exact .inl ⟨text, rfl, hr.1, congrFun hr.2 e.key⟩
  | lost text =>
    rw [hfault, Fault.apply, Prod.mk.injEq] at hr
    exact .inr ⟨rfl, (congrFun hr.2 e.key).trans hself, .inr ⟨text, hr.1⟩⟩

/-- A command that does not fail replies what it finds. -/
theorem step_redis_val {cfg : Config} {w : World} (hfault : w.next.fault = .none) {β : Type}
    (e : RedisCmd β) : ((server cfg).step (.redis e) w).1 =
      (e.reply w.tick.clock (w.tick.redis.live w.tick.clock e.key)).1 := by
  change (w.next.fault.apply RedisErr.refused RedisErr.lost (e.run w.tick.clock) w.tick.redis).1 = _
  rw [hfault]
  rfl

/-- The reply of a command arrives only if the command does not fail. -/
theorem step_redis_ok (cfg : Config) {β : Type} (e : RedisCmd β) (w : World) (b : β) :
    ((server cfg).step (.redis e) w).1 = .ok b ↔ w.next.fault = .none ∧
      (e.reply w.tick.clock (w.tick.redis.live w.tick.clock e.key)).1 = .ok b := by
  cases hfault : w.next.fault with
  | none => rw [step_redis_val hfault, and_iff_right rfl]
  | refused | lost =>
    change (w.next.fault.apply .refused .lost (e.run w.tick.clock) w.tick.redis).1 = _ ↔ _
    rw [hfault]
    exact iff_of_false nofun nofun

/-- A command that is not refused is executed on what the key holds. -/
theorem Spares.redis_of_executed {cfg : Config} {keys : Set String} {w : World} (h : Spares keys w)
    {β : Type} {e : RedisCmd β} (hkey : e.key ∈ keys) (hexecuted : w.next.fault.isRefused ≠ true) :
    ((server cfg).step (.redis e) w).2.redis e.key =
      (e.reply w.tick.clock (w.redis.live w.tick.clock e.key)).2 := by
  rcases step_key cfg e w with ⟨text, hfault, -, -⟩ | ⟨-, hreply, -⟩
  · rw [hfault] at hexecuted
    exact absurd rfl hexecuted
  · rw [hreply, h.live_tick hkey]

/-! ## A routine that runs alone -/

/-- Nothing else runs on the server. -/
def Alone (w : World) : Prop := ∀ t ∈ w.env, t.others = id

namespace Alone

variable {w : World}

theorem tick (h : Alone w) : w.tick.toShared = w.toShared := by
  unfold World.tick World.next
  cases henv : w.env with
  | nil => rfl
  | cons t ts => exact congrFun (h t (henv ▸ List.mem_cons_self)) w.toShared

theorem step {cfg : Config} {β : Type} (h : Alone w) (e : ServerCmd β) :
    Alone ((server cfg).step e w).2 := by
  intro t ht
  rw [step_env] at ht
  exact h t (List.mem_of_mem_tail ht)

theorem exec {cfg : Config} {α : Type} (h : Alone w) (p : ServerProg α) :
    Alone (p.exec (server cfg) w).state :=
  (Prog.only_of_forall (P := fun _ => True) (fun _ => trivial) p).exec_inv
    (fun e _ _ hw => hw.step e) h

/-- Then nothing else touches any key. -/
theorem spares (h : Alone w) (keys : Set String) : Spares keys w := by
  intro t ht s key _
  rw [h t ht]
  rfl

theorem tick_db (h : Alone w) : w.tick.db = w.db := congrArg Shared.db h.tick

theorem tick_redis (h : Alone w) : w.tick.redis = w.redis := congrArg Shared.redis h.tick

theorem tick_streams (h : Alone w) : w.tick.streams = w.streams := congrArg Shared.streams h.tick

/-- What a statement can come to when nothing else runs. -/
theorem step_query (cfg : Config) {β : Type} (h : Alone w) (q : Query β) :
    let r := (server cfg).step (.db q) w
    (w.next.fault = .none ∧ r.1 = (q.run w.db).1 ∧ r.2.db = (q.run w.db).2) ∨
      (∃ e, w.next.fault = .refused e ∧ r.1 = .error e ∧ r.2.db = w.db) ∨
      (∃ e, w.next.fault = .lost e ∧ r.1 = .error e ∧ r.2.db = (q.run w.db).2) := by
  have hcases := statement_cases cfg w q
  rwa [h.tick_db] at hcases

/-- What a lookup comes to. -/
theorem step_lookup (cfg : Config) {β : Type} (h : Alone w) (q : Query β)
    (hread : (q.run w.db).2 = w.db) :
    (w.next.fault = .none ∧ ((server cfg).step (.db q) w).1 = (q.run w.db).1 ∨
      w.next.fault ≠ .none ∧ ∃ e, ((server cfg).step (.db q) w).1 = .error e) ∧
      ((server cfg).step (.db q) w).2.db = w.db := by
  rcases h.step_query cfg q with
    ⟨hfault, hval, hdb⟩ | ⟨e, hfault, hval, hdb⟩ | ⟨e, hfault, hval, hdb⟩
  · exact ⟨.inl ⟨hfault, hval⟩, hdb.trans hread⟩
  · exact ⟨.inr ⟨by simp [hfault], e, hval⟩, hdb⟩
  · exact ⟨.inr ⟨by simp [hfault], e, hval⟩, hdb.trans hread⟩

end Alone

/-- Nothing else runs on the server, and nothing fails. -/
def Calm (w : World) : Prop := ∀ t ∈ w.env, t.others = id ∧ t.fault = .none

namespace Calm

variable {w : World}

theorem alone (h : Calm w) : Alone w := fun t ht => (h t ht).1

theorem fault_later (h : Calm w) (n : ℕ) : (w.later n).fault = .none := by
  unfold World.later
  cases hdrop : w.env.drop n with
  | nil => rfl
  | cons t ts =>
    have ht : t ∈ w.env.drop n := hdrop ▸ List.mem_cons_self
    exact (h t (List.mem_of_mem_drop ht)).2

theorem fault (h : Calm w) : w.next.fault = .none := h.fault_later 0

theorem step {cfg : Config} {β : Type} (h : Calm w) (e : ServerCmd β) :
    Calm ((server cfg).step e w).2 := by
  intro t ht
  rw [step_env] at ht
  exact h t (List.mem_of_mem_tail ht)

/-- A statement is executed, and its reply arrives. -/
theorem step_query (cfg : Config) {β : Type} (h : Calm w) (q : Query β) :
    ((server cfg).step (.db q) w).1 = (q.run w.db).1 ∧
      ((server cfg).step (.db q) w).2.db = (q.run w.db).2 := by
  rcases h.alone.step_query cfg q with
    ⟨-, hval, hdb⟩ | ⟨e, hfault, -, -⟩ | ⟨e, hfault, -, -⟩
  · exact ⟨hval, hdb⟩
  · cases h.fault.symm.trans hfault
  · cases h.fault.symm.trans hfault

end Calm

/-- Nothing else runs on the server, and nothing fails, while the next `n` commands are
executed. -/
def CalmFor (n : ℕ) (w : World) : Prop :=
  ∀ k < n, (w.later k).others = id ∧ (w.later k).fault = .none

namespace CalmFor

variable {w : World} {n : ℕ}

theorem step {cfg : Config} {β : Type} (h : CalmFor (n + 1) w) (e : ServerCmd β) :
    CalmFor n ((server cfg).step e w).2 := by
  intro k hk
  rw [step_later]
  exact h (k + 1) (by omega)

theorem tick (h : CalmFor (n + 1) w) : w.tick.toShared = w.toShared := by
  change w.next.others w.toShared = w.toShared
  rw [next_eq_later, (h 0 (by omega)).1]
  rfl

/-- A statement is executed, and its reply arrives. -/
theorem step_query (cfg : Config) {β : Type} (h : CalmFor (n + 1) w) (q : Query β) :
    ((server cfg).step (.db q) w).1 = (q.run w.db).1 ∧
      ((server cfg).step (.db q) w).2.db = (q.run w.db).2 := by
  have hr : (((server cfg).step (.db q) w).1, ((server cfg).step (.db q) w).2.db) =
      w.next.fault.apply id id (fun db => q.run db) w.tick.db := rfl
  rw [next_eq_later, (h 0 (by omega)).2, congrArg Shared.db h.tick] at hr
  exact Prod.mk.inj hr

/-- A look at the clock leaves the tables alone. -/
theorem step_now_db (cfg : Config) (h : CalmFor (n + 1) w) :
    ((server cfg).step .now w).2.db = w.db :=
  congrArg Shared.db h.tick

end CalmFor

/-- The time at which the command after `n` others is executed. -/
def World.clockAt (w : World) (n : ℕ) : ℤ :=
  w.clock + ((List.range (n + 1)).map fun k => ((w.later k).elapsed : ℤ)).sum

theorem step_clockAt (cfg : Config) {β : Type} (w : World) (e : ServerCmd β) (n : ℕ) :
    ((server cfg).step e w).2.clockAt n = w.clockAt (n + 1) := by
  have hlater : (List.range (n + 1)).map (fun k =>
      ((((server cfg).step e w).2.later k).elapsed : ℤ)) =
        (List.range (n + 1)).map ((fun k => ((w.later k).elapsed : ℤ)) ∘ Nat.succ) := by
    refine List.map_congr_left fun k _ => ?_
    rw [step_later, Function.comp_apply]
  unfold World.clockAt
  rw [hlater, step_clock, next_eq_later, List.range_succ_eq_map (n := n + 1), List.map_cons,
    List.map_map, List.sum_cons, add_assoc]

/-- The time of the next command. -/
theorem World.tick_clock (w : World) : w.tick.clock = w.clockAt 0 := by
  change w.clock + w.next.elapsed = w.clock + _
  rw [next_eq_later]
  simp

theorem World.clock_le_clockAt (w : World) (n : ℕ) : w.clock ≤ w.clockAt n := by
  have hnonneg : 0 ≤ ((List.range (n + 1)).map fun k => ((w.later k).elapsed : ℤ)).sum :=
    List.sum_nonneg (by simp)
  unfold World.clockAt
  omega

theorem World.clock_le_tick (w : World) : w.clock ≤ w.tick.clock := by
  rw [w.tick_clock]
  exact w.clock_le_clockAt 0

/-- The times of the commands to come are told from the number of those that were executed. -/
theorem clockAt_concat (cfg : Config) {X : Type*} {w w' : World} {log : List X}
    (h : ∀ n, w'.clockAt n = w.clockAt (log.length + n)) {γ : Type} (e : ServerCmd γ) (x : X) (n : ℕ) :
    ((server cfg).step e w').2.clockAt n = w.clockAt ((log ++ [x]).length + n) := by
  rw [step_clockAt, h, List.length_append, List.length_singleton, Nat.add_right_comm, Nat.add_assoc]

/-- The time after a command. -/
theorem step_clockAt_zero (cfg : Config) {β : Type} (e : ServerCmd β) (w : World) :
    ((server cfg).step e w).2.clock = w.clockAt 0 := by
  rw [step_clock, World.clockAt]
  simp [next_eq_later]

/-- The time after all ticks to come. -/
def World.horizon (w : World) : ℤ := w.clock + (w.env.map fun t => (t.elapsed : ℤ)).sum

theorem World.tick_clock_le_horizon (w : World) : w.tick.clock ≤ w.horizon := by
  have hnonneg : ∀ env : List Tick, 0 ≤ (env.map fun t => (t.elapsed : ℤ)).sum := fun env =>
    List.sum_nonneg (by simp)
  unfold World.horizon
  change w.clock + w.next.elapsed ≤ _
  unfold World.next
  cases w.env with
  | nil => simp [Tick.quiet, Worker.Tick.quiet]
  | cons t ts =>
    have hts := hnonneg ts
    simp only [List.headD_cons, List.map_cons, List.sum_cons]
    omega

theorem horizon_step (cfg : Config) {β : Type} (e : ServerCmd β) (w : World) :
    ((server cfg).step e w).2.horizon = w.horizon := by
  unfold World.horizon
  rw [step_clock, step_env]
  unfold World.next
  cases w.env with
  | nil => simp [Tick.quiet, Worker.Tick.quiet]
  | cons t ts =>
    simp only [List.headD_cons, List.tail_cons, List.map_cons, List.sum_cons]
    omega

/-- The reply of a look at the clock. -/
theorem step_now_val (cfg : Config) (w : World) : ((server cfg).step .now w).1 = w.clockAt 0 :=
  w.tick_clock

/-! ## Responses -/

/-- A response that reports an error. -/
structure HttpError where
  status : ℕ
  text : String
deriving DecidableEq

end AeroxeBee
