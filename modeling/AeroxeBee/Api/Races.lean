import AeroxeBee.Api.Duplicates
import AeroxeBee.Foundations.History

/-!
# Requests with one idempotency key at the same time

Any number of requests to `send` proceed at the same time. Each of them looks its idempotency key up
and, if it is new, stores it with a command of its own. So two requests that both look before either
of them stores have both found the key new, and both post their message.

* `send_checking`: a request posts a message only after it has looked its key up without finding it,
  and has stored it;
* `Racing.step`: what a step of a request preserves;
* `postsOnce_run`: of the requests with a key at most one posts a message within the time to live of
  the key, in any run in which no request stores the key while it is there.
-/

namespace AeroxeBee.Api

open Foundations Dispatch

/-! ## Posting once -/

/-- Requests in the middle of their work. -/
abbrev Senders := Pool ServerCmd World Response

/-- The requests, none of which has begun. -/
def sending (svc : Services) (calls : List SendCall) (w : World) : Senders :=
  .start (calls.map (SendCall.prog svc)) w

/-- The event stores a message or puts one on the queue, or tries to. -/
def posts : Event ServerCmd → Bool
  | ⟨.db (.createMessage _), _⟩ => true
  | ⟨.queue (.xAdd _ _ _), _⟩ => true
  | _ => false

/-- Thread `i` is a request with the key. -/
def HasKey (calls : List SendCall) (key : String) (i : ℕ) : Prop :=
  calls[i]?.bind SendCall.key = some key

/-- The key that the event has stored. -/
def acquires : Event ServerCmd → Option String
  | ⟨.redis (.set k _ _), .ok ()⟩ => some k
  | _ => none

/-- **At most one of the requests with the key** stores a message or puts one on the queue. -/
def PostsOnce (calls : List SendCall) (key : String) (P : Senders) : Prop :=
  ∀ x ∈ P.log, ∀ y ∈ P.log, HasKey calls key x.1 → HasKey calls key y.1 → posts x.2 = true →
    posts y.2 = true → x.1 = y.1

/-- The next command of a request stores the key, and the key is there. -/
def overwrites (key : String) (w : World) : {β : Type} → ServerCmd β → Bool
  | _, .redis (.set k _ _) =>
    k = redisKey key && w.next.fault = .none && (w.tick.redis.live w.tick.clock k).isSome
  | _, _ => false

/-- The next command of a request does not store the key while it is there. -/
def InTurn (key : String) : Senders → ℕ → Prop :=
  Pool.Meets fun P _ {_} e => overwrites key P.state e = false

instance (key : String) (P : Senders) (i : ℕ) : Decidable (InTurn key P i) :=
  inferInstanceAs (Decidable (Pool.Meets _ _ _))

/-! ## What a request does -/

/-- How far a request has come with its key: it has not looked it up, it has looked it up and not found
it, it has stored it, it may go on, or it may not. -/
inductive Stage where
  | fresh
  | missed
  | stored
  | passed
  | ended
deriving DecidableEq

/-- Take account of an event. -/
def Stage.next (s : Stage) : Event ServerCmd → Stage
  | ⟨.redis (.get _), .error .nil⟩ => missed
  | ⟨.redis (.get _), _⟩ => ended
  | ⟨.redis (.set _ _ _), .ok ()⟩ => stored
  | ⟨.redis (.set _ _ _), .error _⟩ => ended
  | ⟨.redis (.expire _ _), .ok ()⟩ => if s = stored then passed else s
  | ⟨.redis (.expire _ _), .error _⟩ => ended
  | _ => s

/-- The protocol of a request with a key: it looks the key up, stores it if it was not found, and posts
a message only if both have succeeded. -/
def checking (ttl : ℤ) (key : Option String) : Protocol ServerCmd Stage where
  allows s := fun e =>
    match e with
    | .redis (.get k) => key.map redisKey = some k ∧ s = .fresh
    | .redis (.set k _ life) =>
      key.map redisKey = some k ∧ life = RedisCmd.expiration ttl ∧ s = .missed
    | .redis (.expire k life) =>
      key.map redisKey = some k ∧ life = ttl ∧ (s = .stored ∨ s = .ended)
    | .redis _ => False
    | .db (.createMessage _) => s = .passed
    | .queue (.xAdd _ _ _) => s = .passed
    | _ => True
  expects _ := True
  next := Stage.next

section Checking

variable {svc : Services} {ttl : ℤ} {key : Option String} {s : Stage}

theorem Plain.keeps_checking {α : Type} {p : ServerProg α} (hp : p.Only (Plain False)) :
    p.Keeps (checking ttl key) (fun s' _ => s' = s) s := by
  refine Prog.Keeps.of_only hp (fun e he => ?_) fun e b he => ?_
  · cases e with
    | redis e => exact (not_own_redis "" he.checks.own).elim
    | db q =>
      cases q with
      | deviceByID _ => trivial
      | _ => exact he.elim
    | uuid | nonce => trivial
    | _ => exact he.elim
  · cases e with
    | redis e => exact (not_own_redis "" he.checks.own).elim
    | _ => rfl

/-- What a request does once its key has passed. -/
theorem Own.keeps_passed {accountID : String} {α : Type} {p : ServerProg α}
    (hp : p.Only (Own False accountID)) :
    p.Keeps (checking ttl key) (fun _ _ => True) .passed := by
  refine (Prog.Keeps.of_only hp (fun e he => ?_) fun e b he => ?_).mono fun _ _ _ => trivial
  · cases e with
    | redis e => exact (not_own_redis accountID he).elim
    | db q =>
      cases q with
      | createMessage row => rfl
      | _ => trivial
    | queue e =>
      cases e with
      | xAdd stream values cap => rfl
      | _ => trivial
    | _ => trivial
  · cases e with
    | redis e => exact (not_own_redis accountID he).elim
    | _ => rfl

/-- **The check of a key** lets a request go on only if the key was new and has been stored. -/
theorem checkDuplicate_checking (k : String) :
    (checkDuplicate svc k).Keeps (checking svc.cfg.app.idempotencyTTL (some k))
      (fun s' r => r = .ok () → s' = .passed) .fresh := by
  refine ⟨⟨rfl, rfl⟩, fun reply _ => ?_⟩
  rcases reply with (_ | text | text) | cs
  · refine ⟨⟨rfl, rfl, rfl⟩, fun set _ => ?_⟩
    rcases set with e | ⟨⟩
    · refine ⟨⟨rfl, rfl, .inr rfl⟩, fun expire _ => ?_⟩
      exact nofun
    · refine ⟨⟨rfl, rfl, .inl rfl⟩, fun expire _ => ?_⟩
      rcases expire with e | ⟨⟩
      · exact nofun
      · exact fun _ => rfl
  · exact nofun
  · exact nofun
  · exact nofun

variable (svc) in
/-- **A request posts a message only after it has looked its key up without finding it**, and has
stored it. -/
theorem send_checking (c : SendCall) :
    (c.prog svc).Keeps (checking svc.cfg.app.idempotencyTTL c.key) (fun _ _ => True) .fresh := by
  unfold SendCall.prog send
  refine ⟨trivial, fun startTime _ => ?_⟩
  dsimp only
  cases hbody : SendSMSRequest.validate svc c.body with
  | error r => trivial
  | ok d =>
    have hkey : c.key = some d.idempotencyKey := key_of_validate hbody
    rw [hkey]
    refine (Plain.keeps_checking (checkOptionalDevice_plain _ _)).bind fun s₁ checked hs₁ => ?_
    change s₁ = .fresh at hs₁
    subst hs₁
    cases checked with
    | error r => trivial
    | ok =>
      refine (checkDuplicate_checking d.idempotencyKey).bind fun s₂ duplicate hs₂ => ?_
      rcases duplicate with r | ⟨⟩
      · trivial
      · rw [hs₂ rfl]
        exact Own.keeps_passed (sendFresh_own c.caller startTime d)

end Checking

/-! ## A key that stays -/

/-- The key is there, until a time at least. -/
def StaysUntil (t : ℤ) (K : Keyspace) (key : String) : Prop :=
  ∃ entry, K key = some entry ∧ ∀ expires, entry.expires = some expires → t ≤ expires

theorem StaysUntil.live {t now : ℤ} {K : Keyspace} {key : String} (h : StaysUntil t K key)
    (hnow : now ≤ t) : ∃ entry, K.live now key = some entry ∧
      ∀ expires, entry.expires = some expires → t ≤ expires := by
  obtain ⟨entry, hentry, hexpires⟩ := h
  refine ⟨entry, ?_, hexpires⟩
  rw [Keyspace.live, hentry, Option.filter_eq_some_iff]
  refine ⟨rfl, ?_⟩
  unfold Keyspace.fresh
  cases hexp : entry.expires with
  | none => rfl
  | some expires => exact decide_eq_true (hnow.trans (hexpires expires hexp))

section Stays

variable {cfg : Config} {w : World} {t ttl : ℤ} {k : String} {key : Option String} {s : Stage}

theorem StaysUntil.of_expires {now : ℤ} {K : Keyspace} {value : RedisValue} (ht : t ≤ now + ttl)
    (h : K k = some ⟨value, (RedisCmd.expiration ttl).map (now + ·)⟩) : StaysUntil t K k := by
  refine ⟨_, h, fun expires hexpires => ?_⟩
  obtain ⟨life, hlife, rfl⟩ := Option.map_eq_some_iff.1 hexpires
  unfold RedisCmd.expiration at hlife
  split_ifs at hlife
  obtain rfl := Option.some.inj hlife
  exact ht

/-- **A key that is there stays**, whatever the requests do, until the time to live has passed since the
time it is now. -/
theorem StaysUntil.step (h : StaysUntil t w.redis (redisKey k)) (hspares : Spares {redisKey k} w)
    (hnow : w.tick.clock ≤ t) (ht : t ≤ w.tick.clock + ttl) (hpos : 0 < ttl) {β : Type}
    {e : ServerCmd β} (hallows : (checking ttl key).allows s e) :
    StaysUntil t ((server cfg).step e w).2.redis (redisKey k) := by
  have htick : StaysUntil t w.tick.redis (redisKey k) := by
    unfold StaysUntil
    rw [hspares.tick rfl]
    exact h
  cases e with
  | redis e =>
    by_cases hkey : redisKey k = e.key
    · obtain ⟨entry, hlive, hexpires⟩ := htick.live hnow
      rw [hkey] at htick hlive ⊢
      rcases step_key cfg e w with ⟨text, -, -, hsame⟩ | ⟨-, hreply, -⟩
      · unfold StaysUntil
        rw [hsame]
        exact htick
      · rw [hlive] at hreply
        cases e with
        | get k' =>
          refine ⟨entry, ?_, hexpires⟩
          rw [hreply]
          exact (RedisCmd.reply_get _ _ _).1
        | set k' value life =>
          obtain ⟨-, rfl, -⟩ := hallows
          exact .of_expires ht hreply
        | expire k' life =>
          obtain ⟨-, rfl, -⟩ := hallows
          have hentry : (RedisCmd.reply w.tick.clock (some entry) (.expire k' life)).2 =
              some ⟨entry.value, (RedisCmd.expiration life).map (w.tick.clock + ·)⟩ := by
            simp [RedisCmd.reply, RedisCmd.expiration, hpos, not_le.2 hpos]
          exact .of_expires ht (hreply.trans hentry)
        | _ => exact hallows.elim
    · unfold StaysUntil
      rw [step_key_of_ne cfg e w hkey]
      exact htick
  | _ =>
    rw [step_redis]
    exact htick

end Stays

/-! ## What the steps preserve -/

/-- The request has stored the key with success. -/
def Stage.Holds : Stage → Prop
  | stored | passed => True
  | _ => False

/-- What holds while requests with a key are handled, none of which stores the key while it is there: at
most one of them has stored it, and then the key is there. -/
structure Racing (calls : List SendCall) (key : String) (t : ℤ) (P : Senders) : Prop where
  spares : Spares {redisKey key} P.state
  one : ∀ i j, HasKey calls key i → HasKey calls key j → (P.phase Stage.next .fresh i).Holds →
    (P.phase Stage.next .fresh j).Holds → i = j
  there : ∀ i, HasKey calls key i → (P.phase Stage.next .fresh i).Holds →
    StaysUntil t P.state.redis (redisKey key)
  posted : ∀ x ∈ P.log, posts x.2 = true → P.phase Stage.next .fresh x.1 = .passed

section Step

variable {cfg : Config} {calls : List SendCall} {key : String} {t : ℤ} {P : Senders} {i : ℕ}
  {c : SendCall} {β : Type} {e : ServerCmd β} {k : β → ServerProg Response}

/-- A request that holds its key held it before, or has just stored it. -/
theorem holds_of_next {s : Stage} {b : β} (hallows : (checking cfg.app.idempotencyTTL c.key).allows s e)
    (h : (s.next ⟨e, b⟩).Holds) :
    s.Holds ∨ ∃ k, c.key.map redisKey = some k ∧ acquires ⟨e, b⟩ = some k := by
  cases e with
  | redis e =>
    cases e with
    | get k' =>
      rcases b with (_ | _ | _) | cs <;> exact h.elim
    | set k' value life =>
      rcases b with e | ⟨⟩
      · exact h.elim
      · exact .inr ⟨k', hallows.1, rfl⟩
    | expire k' life =>
      rcases b with e | ⟨⟩
      · exact h.elim
      · rcases hallows.2.2 with rfl | rfl
        · exact .inl trivial
        · exact h.elim
    | _ => exact hallows.elim
  | _ => exact .inl h

/-- A request that has passed remains so. -/
theorem next_passed {b : β} (hallows : (checking cfg.app.idempotencyTTL c.key).allows .passed e) :
    Stage.passed.next ⟨e, b⟩ = .passed := by
  cases e with
  | redis e =>
    cases e with
    | get k' => cases hallows.2
    | set k' value life => cases hallows.2.2
    | expire k' life => rcases hallows.2.2 with h | h <;> cases h
    | _ => exact hallows.elim
  | _ => rfl

/-- A request that posts has passed. -/
theorem passed_of_posts {s : Stage} {b : β}
    (hallows : (checking cfg.app.idempotencyTTL c.key).allows s e)
    (hposts : posts ⟨e, b⟩ = true) : s = .passed := by
  cases e with
  | db q =>
    cases q with
    | createMessage row => exact hallows
    | _ => cases hposts
  | queue e =>
    cases e with
    | xAdd stream values cap => exact hallows
    | _ => cases hposts
  | _ => cases hposts

/-- While no request holds the key, one that stores it becomes the only one. -/
theorem Racing.none_holds (h : Racing calls key t P) (hnow : P.state.tick.clock ≤ t)
    (hlive : P.state.tick.redis.live P.state.tick.clock (redisKey key) = none) {j : ℕ}
    (hj : HasKey calls key j) : ¬ (P.phase Stage.next .fresh j).Holds := by
  intro hholds
  obtain ⟨entry, hentry, -⟩ := (h.there j hj hholds).live hnow
  rw [← h.spares.live_tick rfl, hlive] at hentry
  cases hentry

/-- A store that succeeds is executed. -/
theorem fault_of_ok {k' : String} {value : List Char} {life : Option ℤ} {w : World}
    (h : ((server cfg).step (.redis (.set k' value life)) w).1 = .ok ()) : w.next.fault = .none := by
  change (w.next.fault.apply RedisErr.refused RedisErr.lost
    ((RedisCmd.set k' value life).run w.tick.clock) w.tick.redis).1 = .ok () at h
  cases hfault : w.next.fault with
  | none => rfl
  | refused text =>
    rw [hfault] at h
    cases h
  | lost text =>
    rw [hfault] at h
    cases h

/-- A request that stores a key in its turn has not found it there, and leaves it there. -/
theorem acquired {s : Stage} {w : World}
    (hallows : (checking cfg.app.idempotencyTTL c.key).allows s e)
    (hacquires : acquires ⟨e, ((server cfg).step e w).1⟩ = some (redisKey key))
    (ht : t ≤ w.tick.clock + cfg.app.idempotencyTTL) (hturn : overwrites key w e = false) :
    w.tick.redis.live w.tick.clock (redisKey key) = none ∧
      StaysUntil t ((server cfg).step e w).2.redis (redisKey key) := by
  cases e with
  | redis e =>
    cases e with
    | set k' value life =>
      generalize hreply : ((server cfg).step (.redis (.set k' value life)) w).1 = reply at hacquires
      rcases reply with e | ⟨⟩
      · cases hacquires
      · obtain rfl : k' = redisKey key := Option.some.inj hacquires
        obtain ⟨-, rfl, -⟩ := hallows
        rcases step_key cfg (.set (redisKey key) value (RedisCmd.expiration cfg.app.idempotencyTTL)) w
          with ⟨text, -, hfailed, -⟩ | ⟨-, hstored, -⟩
        · cases hfailed.symm.trans hreply
        · refine ⟨?_, .of_expires ht hstored⟩
          have hfault : w.next.fault = .none := fault_of_ok hreply
          simpa [overwrites, hfault] using hturn
    | _ => cases hacquires
  | _ => cases hacquires

/-- **What a step of a request preserves**, if it does not store the key while it is there. -/
theorem Racing.step (h : Racing calls key t P) (hi : calls[i]? = some c)
    (hallows : (checking cfg.app.idempotencyTTL c.key).allows (P.phase Stage.next .fresh i) e)
    (hnow : P.state.tick.clock ≤ t) (ht : t ≤ P.state.tick.clock + cfg.app.idempotencyTTL)
    (hpos : 0 < cfg.app.idempotencyTTL) (hturn : overwrites key P.state e = false) :
    Racing calls key t (P.advance (server cfg) i e k) := by
  have hstays (hkey : StaysUntil t P.state.redis (redisKey key)) :
      StaysUntil t ((server cfg).step e P.state).2.redis (redisKey key) :=
    hkey.step h.spares hnow ht hpos hallows
  have hphase (j : ℕ) (hj : j ≠ i) :
      (P.advance (server cfg) i e k).phase Stage.next .fresh j = P.phase Stage.next .fresh j := by
    rw [Pool.phase_advance, Function.update_of_ne hj]
  have hself : (P.advance (server cfg) i e k).phase Stage.next .fresh i =
      (P.phase Stage.next .fresh i).next ⟨e, ((server cfg).step e P.state).1⟩ := by
    rw [Pool.phase_advance, Function.update_self]
  have hposted : ∀ x ∈ P.log ++ [(i, ⟨e, ((server cfg).step e P.state).1⟩)], posts x.2 = true →
      (P.advance (server cfg) i e k).phase Stage.next .fresh x.1 = .passed := by
    intro x hx hposts
    have hpassed : P.phase Stage.next .fresh x.1 = .passed := by
      rcases List.mem_append.1 hx with hx | hx
      · exact h.posted x hx hposts
      · obtain rfl := List.mem_singleton.1 hx
        exact passed_of_posts hallows hposts
    by_cases hself' : x.1 = i
    · rw [hself', hself, ← hself', hpassed]
      rw [← hself', hpassed] at hallows
      exact next_passed hallows
    · rw [hphase x.1 hself', hpassed]
  by_cases hacquires : acquires ⟨e, ((server cfg).step e P.state).1⟩ = some (redisKey key)
  · obtain ⟨hlive, hthere⟩ := acquired hallows hacquires ht hturn
    have honly (j : ℕ) (hj : HasKey calls key j)
        (hholds : ((P.advance (server cfg) i e k).phase Stage.next .fresh j).Holds) : j = i := by
      by_contra hne
      rw [hphase j hne] at hholds
      exact h.none_holds hnow hlive hj hholds
    refine ⟨h.spares.step e, fun j j' hj hj' hholds hholds' => ?_, fun _ _ _ => hthere, hposted⟩
    rw [honly j hj hholds, honly j' hj' hholds']
  · -- whoever holds the key now held it before
    have hheld (j : ℕ) (hj : HasKey calls key j)
        (hholds : ((P.advance (server cfg) i e k).phase Stage.next .fresh j).Holds) :
        (P.phase Stage.next .fresh j).Holds := by
      by_cases hji : j = i
      · subst hji
        rw [hself] at hholds
        rcases holds_of_next hallows hholds with hbefore | ⟨k', hkey, hk'⟩
        · exact hbefore
        · have hc : c.key = some key := by rwa [HasKey, hi, Option.bind_some] at hj
          rw [hc, Option.map_some] at hkey
          exact absurd (hk'.trans hkey.symm) hacquires
      · rwa [hphase j hji] at hholds
    refine ⟨h.spares.step e, fun j j' hj hj' hholds hholds' => ?_, fun j hj hholds => ?_, hposted⟩
    · exact h.one j j' hj hj' (hheld j hj hholds) (hheld j' hj' hholds')
    · exact hstays (h.there j hj (hheld j hj hholds))

end Step

/-- **Of the requests with one key at most one posts a message**, in every state of every run of any number
of requests, however they interleave and whatever fails, as long as the run takes no longer than the
key is kept and no request stores the key while it is there. -/
theorem postsOnce_run (svc : Services) (calls : List SendCall) (key : String) (w : World)
    (hspares : Spares {redisKey key} w) (sched : List ℕ)
    (hwithin : ((sending svc calls w).run (server svc.cfg) sched).state.clock <
      w.clock + svc.cfg.app.idempotencyTTL)
    (h : Pool.EachStep (server svc.cfg) (InTurn key) (sending svc calls w) sched) :
    PostsOnce calls key ((sending svc calls w).run (server svc.cfg) sched) := by
  have hphased : Pool.Phased (SendCall.prog svc)
      (fun c => checking svc.cfg.app.idempotencyTTL c.key) (fun _ _ _ => True) Stage.next .fresh :=
    ⟨fun _ => rfl, fun _ _ => trivial, send_checking svc⟩
  have hmono {β : Type} (e : ServerCmd β) (w : World) :
      w.clock ≤ ((server svc.cfg).step e w).2.clock := by
    rw [step_clock]
    exact Int.le_add_of_nonneg_right (Int.natCast_nonneg _)
  have hclock : Pool.EachStep (server svc.cfg) (fun Q i => (Q.step (server svc.cfg) i).state.clock ≤
      ((sending svc calls w).run (server svc.cfg) sched).state.clock) (sending svc calls w) sched :=
    Pool.eachStep_le_run hmono
  have hracing := Pool.run_phases_inv hphased
    (I := fun P => Racing calls key (w.clock + svc.cfg.app.idempotencyTTL) P ∧
      w.clock ≤ P.state.clock) ⟨⟨hspares, ?_, ?_, ?_⟩, le_refl _⟩ (h.and hclock)
    fun P i c β e k hi hact hallows _ hP hG => ?_
  · intro x hx y hy hx' hy' hpx hpy
    refine hracing.1.one x.1 y.1 hx' hy' ?_ ?_
    · rw [hracing.1.posted x hx hpx]
      trivial
    · rw [hracing.1.posted y hy hpy]
      trivial
  · exact fun _ _ _ _ hholds => hholds.elim
  · exact fun _ _ hholds => hholds.elim
  · exact fun _ hx => absurd hx List.not_mem_nil
  · have hlater : P.state.tick.clock = ((server svc.cfg).step e P.state).2.clock :=
      (step_clock _ _ _).symm
    have hfinal := hG.2
    rw [Pool.step_of_act hact] at hfinal
    refine ⟨hP.1.step hi hallows ?_ ?_ ?_ (Pool.meets_of_act hG.1 hact), ?_⟩
    · rw [hlater]
      exact hfinal.trans hwithin.le
    · have := hP.2.trans (hmono e P.state)
      omega
    · have := hP.2.trans ((hmono e P.state).trans hfinal)
      omega
    · exact hP.2.trans (hmono e P.state)

/-- The second of two requests with one key that are handled one after the other posts nothing. -/
theorem postsOnce_run_orders :
    PostsOnce [order, order] "order-17" ((sending plainServices [order, order] (onePhone [])).run
      (server plainServices.cfg) (List.replicate 20 0 ++ List.replicate 20 1)) :=
  postsOnce_run plainServices [order, order] "order-17" (onePhone [])
    (fun _ ht => absurd ht List.not_mem_nil) _ (by decide +kernel) (by decide +kernel)

/-- A tick that draws another id. -/
def otherID : Tick :=
  { Tick.quiet with uuid := ⟨"00000000-0000-4000-8000-000000000001", secondID_ne_empty⟩ }

/-- Two requests with one key, which take turns. -/
def takingTurns : Senders :=
  (sending plainServices [order, order]
    (onePhone (List.replicate 13 .quiet ++ [otherID]))).run (server plainServices.cfg)
      ((List.replicate 20 [0, 1]).flatten)

/-- Both of them are accepted, and two messages are stored and put on the queue. -/
theorem takingTurns_posts_twice :
    takingTurns.done.map Prod.snd =
      [.queued "00000000-0000-4000-8000-000000000000" .transactional (some "order-17") 0 0,
        .queued "00000000-0000-4000-8000-000000000001" .transactional (some "order-17") 0 0] ∧
    takingTurns.state.db.messages.length = 2 ∧
    (takingTurns.state.streams (plainServices.cfg.queue.stream .transactional)).added.length = 2 ∧
    takingTurns.state.clock < plainServices.cfg.app.idempotencyTTL ∧
    ¬ PostsOnce [order, order] "order-17" takingTurns := by
  refine ⟨by decide +kernel, by decide +kernel, by decide +kernel, by decide +kernel, fun h => ?_⟩
  have hthreads : (takingTurns.log.filter fun x => posts x.2).map Prod.fst = [0, 1, 0, 1] := by
    decide +kernel
  have hposted (i : ℕ) (hi : i ∈ (takingTurns.log.filter fun x => posts x.2).map Prod.fst) :
      ∃ x ∈ takingTurns.log, posts x.2 = true ∧ x.1 = i := by
    obtain ⟨x, hx, rfl⟩ := List.mem_map.1 hi
    obtain ⟨hx, hposts⟩ := List.mem_filter.1 hx
    exact ⟨x, hx, hposts, rfl⟩
  obtain ⟨x, hx, hpx, hx0⟩ := hposted 0 (by simp [hthreads])
  obtain ⟨y, hy, hpy, hy1⟩ := hposted 1 (by simp [hthreads])
  have hsame := h x hx y hy (by rw [hx0]; rfl) (by rw [hy1]; rfl) hpx hpy
  rw [hx0, hy1] at hsame
  cases hsame

end AeroxeBee.Api
