import AeroxeBee.Foundations.Windows
import AeroxeBee.Otp.Verify

/-!
# Guessing one-time passwords

The limit on wrong guesses. Its counter, the password and the lockout of a number are three keys with
expiries of their own: a new password resets the counter, and a guess is counted only after it has
been compared.

* `Limited`: what the limit promises, as a property of the commands and their times;
* `limited_run`: it keeps its promise in every run in which a wrong guess finds room beside those that
  are not counted yet, a number is not locked out between a call's look and its guess, and no counter
  is taken away, or password stored, while wrong guesses are recent.
-/

namespace AeroxeBee.Otp

open Foundations Api

variable (otp : OTPServices) (phone : String) (calls : List OTPCall)

/-! ## Guesses and lockouts -/

/-- The hash that a call has read is not that of its own password. -/
def OTPCall.misses (storedHash : List Char) : OTPCall → Bool
  | store _ _ => false
  | verify code => (otp.hashCode code).toList ≠ storedHash

/-- A call compares a wrong guess. -/
def isMiss : ℕ × Event ServerCmd → Bool
  | (i, ⟨.redis (.get _), .ok storedHash⟩) => calls[i]?.any fun c => c.misses otp storedHash
  | _ => false

/-- A call compares a right guess. -/
def isMatch : ℕ × Event ServerCmd → Bool
  | (i, ⟨.redis (.get _), .ok storedHash⟩) => calls[i]?.any fun c => c.guesses otp storedHash
  | _ => false

/-- The number is locked out. -/
def isLockout : ℕ × Event ServerCmd → Bool
  | (_, ⟨.redis (.set key _ _), reply⟩) => key = lockoutKey phone && executed reply
  | _ => false

/-- A call looks whether the number is locked out. -/
def isLook (i : ℕ) : ℕ × Event ServerCmd → Bool
  | (j, ⟨.redis (.keyExists _), _⟩) => j = i
  | _ => false

/-- A log with the times at which its commands were executed. -/
def timed (w : World) (log : List (ℕ × Event ServerCmd)) : List (ℤ × ℕ × Event ServerCmd) :=
  log.zipIdx.map fun x => (w.clockAt x.2, x.1)

/-- What was set with a time to live has expired. -/
def Lifted (ttl start now : ℤ) : Prop := ∃ d, RedisCmd.expiration ttl = some d ∧ start + d < now

/-- **What the limit promises**: in no period as long as a password is good for are there more wrong
guesses than the limit without a lockout, and nothing is guessed right before a lockout is over. -/
structure Limited (w : World) (log : List (ℕ × Event ServerCmd)) : Prop where
  bounded : WindowBound otp.ttl (max 0 otp.maxAttempts) (isLockout phone) (isMiss otp calls)
    (timed w log)
  lockedOut : (timed w log).Pairwise fun x y => isLockout phone x.2 = true →
    isMatch otp calls y.2 = true → Lifted otp.lockoutTTL x.1 y.1

/-! ## Careful runs -/

/-- How many entries of a kind are recent at a time. -/
def recentCount (w : World) (kind : ℕ × Event ServerCmd → Bool) (log : List (ℕ × Event ServerCmd))
    (t : ℤ) : ℕ :=
  (recent (isLockout phone) (t - otp.ttl) (timed w log)).countP fun x => kind x.2

/-- The number that a key counts to. -/
def countOf : Option RedisEntry → ℤ
  | some ⟨.text cs, _⟩ => (Json.parseInt cs).getD 0
  | _ => 0

/-- A counter that exists does not expire before the password. -/
def outlasts (counter code : Option RedisEntry) : Bool :=
  match counter.bind RedisEntry.expires with
  | none => true
  | some t => code.any fun entry => entry.expires.any (· ≤ t)

/-- Whether a wrong guess was counted. -/
def isCounted (P : Calls) (x : ℕ × Event ServerCmd) : Bool := (progress phone P x.1).counted

/-- The next command of a call respects the limit. A wrong guess finds room beside the recent ones that
are not counted yet, on a counter that does not expire before the password; a right guess is made
without a lockout since the call has looked for one; and a password is stored, or its counter taken
away, only when no wrong guess is recent. -/
def Careful (w : World) (P : Calls) (i : ℕ) : {β : Type} → ServerCmd β → Prop
  | _, .redis (.get key) => ∀ storedHash,
    ((server otp.cfg).step (.redis (.get key)) P.state).1 = .ok storedHash →
      let held key := P.state.tick.redis.live P.state.tick.clock key
      ((calls[i]?.any fun c => c.misses otp storedHash) = true →
        countOf (held (attemptsKey phone)) + recentCount otp phone w
            (fun x => isMiss otp calls x && !isCounted phone P x) P.log P.state.tick.clock <
          otp.maxAttempts ∧ outlasts (held (attemptsKey phone)) (held (codeKey phone)) = true) ∧
      ((calls[i]?.any fun c => c.guesses otp storedHash) = true →
        ((P.log.reverse.takeWhile fun x => !isLook i x).any (isLockout phone)) = false)
  | _, .redis (.set key _ _) => key ≠ lockoutKey phone → P.state.next.fault.isRefused = false →
    recentCount otp phone w (isMiss otp calls) P.log P.state.tick.clock = 0
  | _, .redis (.del key) => key = attemptsKey phone → P.state.next.fault.isRefused = false →
    (P.state.tick.redis.live P.state.tick.clock (codeKey phone)).isSome = true →
      recentCount otp phone w (isMiss otp calls) P.log P.state.tick.clock = 0
  | _, _ => True

section Run

variable {otp : OTPServices} {phone : String} {calls : List OTPCall} {w : World} {P : Calls}
  {i j : ℕ} {c : OTPCall} {β : Type} {e : ServerCmd β} {k : β → ServerProg OTPReply}
  {log : List (ℕ × Event ServerCmd)} {x : ℕ × Event ServerCmd} {t : ℤ}
  {kind kind' : ℕ × Event ServerCmd → Bool}

/-! ## Counting recent entries -/

theorem timed_concat : timed w (log ++ [x]) = timed w log ++ [(w.clockAt log.length, x)] := by
  simp [timed, List.zipIdx_append]

/-- Nothing of a log is later than its last entry, if nothing before is. -/
theorem timed_concat_le {s now : ℤ} (h : ∀ y ∈ timed w log, y.1 ≤ s) (hle : s ≤ now)
    (hnow : w.clockAt log.length ≤ now) : ∀ y ∈ timed w (log ++ [x]), y.1 ≤ now := by
  rw [timed_concat]
  intro y hy
  rcases List.mem_append.1 hy with hold | hnew
  · exact (h y hold).trans hle
  · rwa [List.mem_singleton.1 hnew]

theorem timed_map_snd : (timed w log).map Prod.snd = log := by
  rw [timed, List.map_map]
  exact List.zipIdx_map_fst 0 log

theorem recentCount_antitone {t' : ℤ} (h : t ≤ t') :
    recentCount otp phone w kind log t' ≤ recentCount otp phone w kind log t :=
  (recent_antitone (by omega)).countP_le

theorem recentCount_concat : recentCount otp phone w kind (log ++ [x]) t =
    if (decide (t - otp.ttl ≤ w.clockAt log.length) && !isLockout phone x) = true then
      recentCount otp phone w kind log t + (if kind x = true then 1 else 0) else 0 := by
  rw [recentCount, timed_concat, recent_concat]
  split_ifs with h hkind
  · rw [List.countP_cons, if_pos hkind]
    rfl
  · rw [List.countP_cons, if_neg hkind]
    rfl
  · rfl

/-- An entry of another kind adds nothing. -/
theorem recentCount_concat_le (h : kind x = false) :
    recentCount otp phone w kind (log ++ [x]) t ≤ recentCount otp phone w kind log t := by
  rw [recentCount_concat, h, if_neg Bool.false_ne_true]
  split
  · exact le_rfl
  · exact Nat.zero_le _

theorem recentCount_mono (h : ∀ x, kind x = true → kind' x = true) :
    recentCount otp phone w kind log t ≤ recentCount otp phone w kind' log t :=
  List.countP_mono_left fun x _ hx => h x.2 hx

/-- The recent entries of a kind are those that have a property and those that do not. -/
theorem recentCount_add (p : ℕ × Event ServerCmd → Bool) :
    recentCount otp phone w kind log t =
      recentCount otp phone w (fun x => kind x && p x) log t +
        recentCount otp phone w (fun x => kind x && !p x) log t := by
  unfold recentCount
  induction recent (isLockout phone) (t - otp.ttl) (timed w log) with
  | nil => rfl
  | cons x l ih =>
    simp only [List.countP_cons, ih]
    cases kind x.2 <;> cases p x.2 <;> simp <;> omega

theorem recentCount_or_le :
    recentCount otp phone w (fun x => kind x || kind' x) log t ≤
      recentCount otp phone w kind log t + recentCount otp phone w kind' log t := by
  unfold recentCount
  induction recent (isLockout phone) (t - otp.ttl) (timed w log) with
  | nil => exact le_rfl
  | cons x l ih =>
    dsimp only at ih
    simp only [List.countP_cons]
    cases kind x.2 <;> cases kind' x.2 <;> simp <;> omega

/-- There are no more recent entries of a kind than entries. -/
theorem recentCount_le : recentCount otp phone w kind log t ≤ log.countP kind := by
  have hrecent : (recent (isLockout phone) (t - otp.ttl) (timed w log)).Sublist
      (timed w log).reverse := recent_sublist
  have hsub := hrecent.countP_le (p := fun x => kind x.2)
  rw [List.countP_reverse] at hsub
  have hall : (timed w log).countP (fun x => kind x.2) = log.countP kind := by
    have hmap : (timed w log).map Prod.snd = log := timed_map_snd
    conv_rhs => rw [← hmap, List.countP_map]
    rfl
  exact hsub.trans hall.le


/-! ## What every careful run keeps -/

/-- The wrong guesses that were counted, of calls that have come so far. -/
def countedMiss (otp : OTPServices) (calls : List OTPCall) (s : ℕ → Progress)
    (x : ℕ × Event ServerCmd) : Bool :=
  isMiss otp calls x && (s x.1).counted

/-- The entry of a counter: a number that is not negative. -/
def IsCount (entry : Option RedisEntry) : Prop :=
  ∀ found, entry = some found → ∃ n : ℕ, found.value = .text (Json.intLit n)

variable (otp phone calls w) in
/-- The counter is no lower than the number of recent wrong guesses that were counted. -/
def Covered (K : Keyspace) (now : ℤ) (s : ℕ → Progress) (log : List (ℕ × Event ServerCmd)) : Prop :=
  ∀ t, now ≤ t → (K.live t (codeKey phone)).isSome = true →
    0 < recentCount otp phone w (isMiss otp calls) log t →
      (recentCount otp phone w (countedMiss otp calls s) log t : ℤ) ≤
          countOf (K.live t (attemptsKey phone)) ∧
        ((K.live now (attemptsKey phone)).isSome = true →
          (K.live t (attemptsKey phone)).isSome = true)

variable (otp phone calls w) in
/-- **The state of the limit.** As long as a password is stored, its counter is no lower than the
number of recent wrong guesses that were counted. A call that found no lockout can rely on that
unless there has been one since, and a lockout is found until it is lifted. -/
structure Guarded (P : Calls) : Prop where
  spared : Spares (keysOf phone) P.state
  clockAt : ∀ n, P.state.clockAt n = w.clockAt (P.log.length + n)
  past : ∀ x ∈ timed w P.log, x.1 ≤ P.state.clock
  isCount : IsCount (P.state.redis (attemptsKey phone))
  once : ∀ i, P.log.countP (fun x => x.1 = i && isMiss otp calls x) ≤
    if (progress phone P i).found.isSome = true then 1 else 0
  counted : Covered otp phone calls w P.state.redis P.state.clock (progress phone P) P.log
  unlocked : ∀ i, (progress phone P i).admitted = true →
    ((P.log.reverse.takeWhile fun x => !isLook i x).any (isLockout phone)) = false →
      ∀ t, P.state.clock ≤ t → P.state.redis.live t (lockoutKey phone) = none
  locked : ∀ x ∈ timed w P.log, isLockout phone x.2 = true → ∀ t, P.state.clock ≤ t →
    P.state.redis.live t (lockoutKey phone) = none → Lifted otp.lockoutTTL x.1 t
  limited : Limited otp phone calls w P.log

/-- The time of a step. -/
theorem Guarded.time (h : Guarded otp phone calls w P) :
    P.state.tick.clock = w.clockAt P.log.length :=
  P.state.tick_clock.trans (h.clockAt 0)

theorem Guarded.past_step (h : Guarded otp phone calls w P) (e : ServerCmd β) :
    ∀ y ∈ timed w (P.log ++ [x]), y.1 ≤ ((server otp.cfg).step e P.state).2.clock := by
  have hclock : ((server otp.cfg).step e P.state).2.clock = P.state.tick.clock :=
    step_clock otp.cfg P.state e
  rw [hclock]
  exact timed_concat_le h.past P.state.clock_le_tick h.time.ge

theorem isLook_of_ne {ev : Event ServerCmd} (hji : j ≠ i) : isLook j (i, ev) = false := by
  obtain ⟨e, reply⟩ := ev
  cases e with
  | redis e =>
    cases e with
    | keyExists key => exact decide_eq_false hji.symm
    | _ => rfl
  | _ => rfl

/-- No lockout is found by the calls that were admitted. -/
theorem Guarded.unlocked_step (h : Guarded otp phone calls w P) {t : Progress}
    {ev : Event ServerCmd} {K : Keyspace}
    (hlive : isLockout phone (i, ev) = true ∨ ∀ t, P.state.tick.clock ≤ t →
      K.live t (lockoutKey phone) = P.state.redis.live t (lockoutKey phone))
    (hself : isLook i (i, ev) = false ∧ t.admitted = (progress phone P i).admitted ∨
      (t.admitted = true → ∀ t, P.state.tick.clock ≤ t → K.live t (lockoutKey phone) = none)) :
    ∀ j, (Function.update (progress phone P) i t j).admitted = true →
      (((P.log ++ [(i, ev)]).reverse.takeWhile fun x => !isLook j x).any (isLockout phone)) =
        false → ∀ t, P.state.tick.clock ≤ t → K.live t (lockoutKey phone) = none := by
  intro j hadmitted hno t' ht'
  rw [List.reverse_append, List.reverse_singleton, List.singleton_append] at hno
  have hold (hlook : isLook j (i, ev) = false) (hj : (progress phone P j).admitted = true) :
      K.live t' (lockoutKey phone) = none := by
    rw [List.takeWhile_cons_of_pos (by simp [hlook]), List.any_cons, Bool.or_eq_false_iff] at hno
    rcases hlive with hlock | hlive
    · cases hno.1.symm.trans hlock
    · rw [hlive t' ht']
      exact h.unlocked j hj hno.2 t' (P.state.clock_le_tick.trans ht')
  by_cases hji : j = i
  · subst hji
    rw [Function.update_self] at hadmitted
    rcases hself with ⟨hlook, hsame⟩ | hself
    · exact hold hlook (hsame.symm.trans hadmitted)
    · exact hself hadmitted t' ht'
  · rw [Function.update_of_ne hji] at hadmitted
    exact hold (isLook_of_ne hji) hadmitted

theorem Lifted.of_le {ttl s s' now : ℤ} (hle : s ≤ s') (h : Lifted ttl s' now) :
    Lifted ttl s now := by
  obtain ⟨d, hd, hlt⟩ := h
  exact ⟨d, hd, by omega⟩

/-- What was set with a time to live is found until it is lifted. -/
theorem Lifted.of_gone {K : Keyspace} {key : String} {value : RedisValue} {ttl start now : ℤ}
    (hset : K key = some ⟨value, (RedisCmd.expiration ttl).map (start + ·)⟩)
    (hgone : K.live now key = none) : Lifted ttl start now := by
  have hfresh := (Option.filter_eq_none_iff.1 hgone) _ hset
  unfold Keyspace.fresh at hfresh
  cases hexp : RedisCmd.expiration ttl with
  | none =>
    rw [hexp] at hfresh
    exact absurd rfl hfresh
  | some d =>
    rw [hexp] at hfresh
    simp only [Option.map_some, decide_eq_true_eq] at hfresh
    exact ⟨d, hexp, by omega⟩

/-- The entries of a kind are in force until they are lifted, after one more entry. -/
theorem lifted_concat {K K' : Keyspace} {key : String} {ttl now now' : ℤ}
    (h : ∀ y ∈ timed w log, kind y.2 = true → ∀ t, now ≤ t → K.live t key = none →
      Lifted ttl y.1 t)
    (hle : now ≤ now') (hpast : ∀ y ∈ timed w log, y.1 ≤ now')
    (htime : now' = w.clockAt log.length)
    (hlive : kind x = false ∧ (∀ t, now' ≤ t → K'.live t key = K.live t key) ∨
      ∀ t, now' ≤ t → K'.live t key = none → Lifted ttl now' t) :
    ∀ y ∈ timed w (log ++ [x]), kind y.2 = true → ∀ t, now' ≤ t → K'.live t key = none →
      Lifted ttl y.1 t := by
  intro y hy hkind t ht hnone
  rw [timed_concat] at hy
  rcases List.mem_append.1 hy with hold | hnew
  · rcases hlive with ⟨-, hlive⟩ | hlive
    · rw [hlive t ht] at hnone
      exact h y hold hkind t (hle.trans ht) hnone
    · exact (hlive t ht hnone).of_le (hpast y hold)
  · obtain rfl := List.mem_singleton.1 hnew
    rcases hlive with ⟨hno, -⟩ | hlive
    · cases hno.symm.trans hkind
    · rw [← htime]
      exact hlive t ht hnone

/-- Lockouts are found until they are lifted. -/
theorem Guarded.locked_step (h : Guarded otp phone calls w P) {K : Keyspace}
    (hlive : isLockout phone x = false ∧ (∀ t, P.state.tick.clock ≤ t →
        K.live t (lockoutKey phone) = P.state.redis.live t (lockoutKey phone)) ∨
      ∀ t, P.state.tick.clock ≤ t → K.live t (lockoutKey phone) = none →
        Lifted otp.lockoutTTL P.state.tick.clock t) :
    ∀ y ∈ timed w (P.log ++ [x]), isLockout phone y.2 = true → ∀ t, P.state.tick.clock ≤ t →
      K.live t (lockoutKey phone) = none → Lifted otp.lockoutTTL y.1 t :=
  lifted_concat h.locked P.state.clock_le_tick
    (fun y hy => (h.past y hy).trans P.state.clock_le_tick) h.time hlive

/-- The promise is kept by a step that makes a wrong guess only if there is room, and a right one only
if the number is not locked out. -/
theorem Guarded.limited_step (h : Guarded otp phone calls w P)
    (hmiss : isMiss otp calls x = true → (recentCount otp phone w (isMiss otp calls) P.log
      P.state.tick.clock : ℤ) < max 0 otp.maxAttempts)
    (hmatch : isMatch otp calls x = true →
      P.state.redis.live P.state.tick.clock (lockoutKey phone) = none) :
    Limited otp phone calls w (P.log ++ [x]) := by
  refine ⟨?_, ?_⟩
  · rw [timed_concat, ← h.time]
    exact h.limited.bounded.concat hmiss
  · rw [timed_concat, List.pairwise_append]
    refine ⟨h.limited.lockedOut, List.pairwise_singleton _ _, fun y hy z hz hlock hright => ?_⟩
    obtain rfl := List.mem_singleton.1 hz
    rw [← h.time]
    exact h.locked y hy hlock _ P.state.clock_le_tick (hmatch hright)

/-! ## The counter -/

theorem IsCount.countOf_nonneg {entry : Option RedisEntry} (h : IsCount entry) :
    0 ≤ countOf entry := by
  cases entry with
  | none => exact le_rfl
  | some found =>
    obtain ⟨value, expires⟩ := found
    obtain ⟨n, hn⟩ := h _ rfl
    dsimp only at hn
    subst hn
    simp [countOf, Json.parseInt_intLit]

theorem IsCount.live {K : Keyspace} {key : String} (h : IsCount (K key)) (t : ℤ) :
    IsCount (K.live t key) :=
  fun found hfound => h found (Option.filter_eq_some_iff.1 hfound).1

/-- A new expiry makes no difference to what a counter counts. -/
theorem countOf_withExpiry (entry : Option RedisEntry) (t : ℤ) :
    countOf (entry.map fun found => { found with expires := some t }) = countOf entry := by
  rcases entry with _ | ⟨cs | members, expires⟩ <;> rfl

theorem IsCount.withExpiry {entry : Option RedisEntry} (h : IsCount entry) (t : ℤ) :
    IsCount (entry.map fun found => { found with expires := some t }) := by
  intro found hfound
  obtain ⟨old, hold, rfl⟩ := Option.map_eq_some_iff.1 hfound
  exact h old hold

/-- **What counting does to a counter**: it goes up by one, and keeps its expiry if it has one. -/
theorem reply_incr {entry : Option RedisEntry} (h : IsCount entry) (now : ℤ) (key : String) :
    ∃ n : ℕ, countOf entry = n ∧
      ((RedisCmd.incr key).reply now entry).2 =
        some ⟨.text (Json.intLit (n + 1)), entry.bind RedisEntry.expires⟩ := by
  cases entry with
  | none => exact ⟨0, rfl, rfl⟩
  | some found =>
    obtain ⟨value, expires⟩ := found
    obtain ⟨n, hn⟩ := h _ rfl
    dsimp only at hn
    subst hn
    refine ⟨n, by simp [countOf, Json.parseInt_intLit], ?_⟩
    simp [RedisCmd.reply, Json.parseInt_intLit]

theorem reply_incr_val {entry : Option RedisEntry} (h : IsCount entry) (now : ℤ) (key : String) :
    ((RedisCmd.incr key).reply now entry).1 = .ok (countOf entry + 1) := by
  cases entry with
  | none => rfl
  | some found =>
    obtain ⟨value, expires⟩ := found
    obtain ⟨n, hn⟩ := h _ rfl
    dsimp only at hn
    subst hn
    simp [RedisCmd.reply, countOf, Json.parseInt_intLit]

/-- A counter that does not expire before the password exists as long as that. -/
theorem isSome_of_outlasts {K : Keyspace} {counter code : String} {now t : ℤ} (hle : now ≤ t)
    (h : outlasts (K.live now counter) (K.live now code) = true)
    (hcode : (K.live t code).isSome = true) (hnow : (K.live now counter).isSome = true) :
    (K.live t counter).isSome = true := by
  rw [← Keyspace.filter_live hle] at hcode ⊢
  obtain ⟨c, hc⟩ := Option.isSome_iff_exists.1 hnow
  obtain ⟨found, hfound⟩ := Option.isSome_iff_exists.1 hcode
  obtain ⟨hlive, hfresh⟩ := Option.filter_eq_some_iff.1 hfound
  rw [hc, hlive] at h
  rw [hc, Option.isSome_iff_exists]
  refine ⟨c, Option.filter_eq_some_iff.2 ⟨rfl, ?_⟩⟩
  unfold Keyspace.fresh at hfresh ⊢
  cases hexp : c.expires with
  | none => rfl
  | some e =>
    simp only [outlasts, Option.bind_some, hexp, Option.any_some] at h
    cases hexp' : found.expires with
    | none =>
      rw [hexp'] at h
      cases h
    | some e' =>
      simp only [hexp', Option.any_some, decide_eq_true_eq] at h hfresh ⊢
      omega

theorem live_isSome_of_le {K : Keyspace} {key : String} {now t : ℤ} (hle : now ≤ t)
    (h : (K.live t key).isSome = true) : (K.live now key).isSome = true := by
  by_contra hnot
  rw [Option.not_isSome_iff_eq_none] at hnot
  rw [Keyspace.live_eq_none_of_le hle hnot] at h
  cases h

/-- Each call makes one guess. -/
theorem Guarded.once_step (h : Guarded otp phone calls w P) {t : Progress} {ev : Event ServerCmd}
    (hself : isMiss otp calls (i, ev) = false ∧ t.found = (progress phone P i).found ∨
      (progress phone P i).found = none ∧ t.found.isSome = true) (j : ℕ) :
    (P.log ++ [(i, ev)]).countP (fun x => x.1 = j && isMiss otp calls x) ≤
      if (Function.update (progress phone P) i t j).found.isSome = true then 1 else 0 := by
  have hold := h.once j
  rw [List.countP_append, List.countP_singleton]
  by_cases hji : j = i
  · subst hji
    rw [Function.update_self]
    rcases hself with ⟨hmiss, hfound⟩ | ⟨hnone, hfound⟩
    · rw [hfound, hmiss, Bool.and_false, if_neg Bool.false_ne_true]
      exact hold
    · rw [hnone] at hold
      rw [if_pos hfound]
      have hone : (if (decide (j = j) && isMiss otp calls (j, ev)) = true then 1 else 0) ≤ 1 := by
        split <;> omega
      exact Nat.add_le_add hold hone
  · rw [Function.update_of_ne hji]
    simpa [Ne.symm hji] using hold

section Counted

variable {K K' : Keyspace} {s s' : ℕ → Progress} {now : ℤ}

theorem Covered.later (h : Covered otp phone calls w K now s log) (hle : now ≤ t) :
    Covered otp phone calls w K t s log := by
  intro t' ht' hcode hmiss
  obtain ⟨hcount, hlives⟩ := h t' (hle.trans ht') hcode hmiss
  exact ⟨hcount, fun hnow => hlives (live_isSome_of_le hle hnow)⟩

theorem recent_of_concat (hmiss : isMiss otp calls x = false)
    (h : 0 < recentCount otp phone w (isMiss otp calls) (log ++ [x]) t) :
    0 < recentCount otp phone w (isMiss otp calls) log t :=
  h.trans_le (recentCount_concat_le hmiss)

/-- Nothing is said about a password that is not stored, or without recent wrong guesses. -/
theorem covered_of_forall (h : ∀ t, now ≤ t → K.live t (codeKey phone) = none ∨
    recentCount otp phone w (isMiss otp calls) log t = 0) :
    Covered otp phone calls w K now s log := by
  intro t ht hcode hmiss
  rcases h t ht with hnone | hzero
  · rw [hnone] at hcode
    cases hcode
  · rw [hzero] at hmiss
    cases hmiss

/-- A step that leaves the password and its counter alone, and neither makes nor counts a wrong
guess. -/
theorem Covered.idle (h : Covered otp phone calls w K now s log)
    (hcode : ∀ t, now ≤ t → K'.live t (codeKey phone) = K.live t (codeKey phone))
    (hattempts : ∀ t, now ≤ t → K'.live t (attemptsKey phone) = K.live t (attemptsKey phone))
    (hmiss : isMiss otp calls x = false) (hcounted : ∀ j, (s' j).counted = (s j).counted) :
    Covered otp phone calls w K' now s' (log ++ [x]) := by
  have hkind : countedMiss otp calls s' = countedMiss otp calls s :=
    funext fun y => by rw [countedMiss, countedMiss, hcounted]
  intro t ht hstored hrecent
  rw [hcode t ht] at hstored
  obtain ⟨hcount, hlives⟩ := h t ht hstored (recent_of_concat hmiss hrecent)
  rw [hattempts t ht, hattempts now le_rfl, hkind]
  have hle : recentCount otp phone w (countedMiss otp calls s) (log ++ [x]) t ≤
      recentCount otp phone w (countedMiss otp calls s) log t :=
    recentCount_concat_le (by rw [countedMiss, hmiss, Bool.false_and])
  exact ⟨by omega, hlives⟩

/-- A wrong guess is made on a counter that does not expire before the password. -/
theorem Covered.miss (h : Covered otp phone calls w K now s log)
    (hcode : ∀ t, now ≤ t → K'.live t (codeKey phone) = K.live t (codeKey phone))
    (hattempts : ∀ t, now ≤ t → K'.live t (attemptsKey phone) = K.live t (attemptsKey phone))
    (hcount : IsCount (K (attemptsKey phone)))
    (hout : outlasts (K.live now (attemptsKey phone)) (K.live now (codeKey phone)) = true)
    (hcounted : ∀ j, (s' j).counted = (s j).counted) (hself : (s x.1).counted = false) :
    Covered otp phone calls w K' now s' (log ++ [x]) := by
  have hkind : countedMiss otp calls s' = countedMiss otp calls s :=
    funext fun y => by rw [countedMiss, countedMiss, hcounted]
  intro t ht hstored _
  rw [hcode t ht] at hstored
  rw [hattempts t ht, hattempts now le_rfl, hkind]
  have hle : recentCount otp phone w (countedMiss otp calls s) (log ++ [x]) t ≤
      recentCount otp phone w (countedMiss otp calls s) log t :=
    recentCount_concat_le (by rw [countedMiss, hself, Bool.and_false])
  refine ⟨?_, isSome_of_outlasts ht hout hstored⟩
  by_cases hrecent : 0 < recentCount otp phone w (isMiss otp calls) log t
  · have hold := (h t ht hstored hrecent).1
    omega
  · have hall : recentCount otp phone w (countedMiss otp calls s) log t ≤
        recentCount otp phone w (isMiss otp calls) log t :=
      recentCount_mono fun y hy => (Bool.and_eq_true_iff.1 hy).1
    have hnonneg := (hcount.live t).countOf_nonneg
    omega

/-- A wrong guess is counted. -/
theorem Covered.incr (h : Covered otp phone calls w K now s log)
    (hcode : ∀ t, now ≤ t → K'.live t (codeKey phone) = K.live t (codeKey phone))
    (hcount : IsCount (K (attemptsKey phone)))
    (hattempts : K' (attemptsKey phone) = ((RedisCmd.incr (attemptsKey phone)).reply now
      (K.live now (attemptsKey phone))).2)
    (hmiss : isMiss otp calls x = false) (hcounted : ∀ j, j ≠ x.1 → (s' j).counted = (s j).counted)
    (honce : log.countP (fun y => y.1 = x.1 && isMiss otp calls y) ≤ 1) :
    Covered otp phone calls w K' now s' (log ++ [x]) := by
  obtain ⟨n, hn, hreply⟩ := reply_incr (hcount.live now) now (attemptsKey phone)
  rw [hreply] at hattempts
  intro t ht hstored hrecent
  rw [hcode t ht] at hstored
  have hrecent := recent_of_concat hmiss hrecent
  obtain ⟨hold, hlives⟩ := h t ht hstored hrecent
  -- at most one more of the recent wrong guesses is counted
  have hmore : recentCount otp phone w (countedMiss otp calls s') (log ++ [x]) t ≤
      recentCount otp phone w (countedMiss otp calls s) log t + 1 := by
    have hnew : recentCount otp phone w (countedMiss otp calls s') (log ++ [x]) t ≤
        recentCount otp phone w (countedMiss otp calls s') log t :=
      recentCount_concat_le (by rw [countedMiss, hmiss, Bool.false_and])
    have hsplit : recentCount otp phone w (countedMiss otp calls s') log t ≤
        recentCount otp phone w (fun y => countedMiss otp calls s y ||
          (y.1 = x.1 && isMiss otp calls y)) log t := by
      refine recentCount_mono fun y hy => ?_
      obtain ⟨hy, hc⟩ := Bool.and_eq_true_iff.1 hy
      by_cases hyx : y.1 = x.1
      · simp [hyx, hy]
      · rw [hcounted y.1 hyx] at hc
        simp [countedMiss, hy, hc]
    have hor : recentCount otp phone w (fun y => countedMiss otp calls s y ||
          (y.1 = x.1 && isMiss otp calls y)) log t ≤
        recentCount otp phone w (countedMiss otp calls s) log t +
          recentCount otp phone w (fun y => y.1 = x.1 && isMiss otp calls y) log t :=
      recentCount_or_le
    have hown : recentCount otp phone w (fun y => y.1 = x.1 && isMiss otp calls y) log t ≤
        log.countP fun y => y.1 = x.1 && isMiss otp calls y :=
      recentCount_le
    omega
  have hlive (hfresh : Keyspace.fresh t ⟨.text (Json.intLit (n + 1)),
      (K.live now (attemptsKey phone)).bind RedisEntry.expires⟩ = true) :
      K'.live t (attemptsKey phone) = some ⟨.text (Json.intLit (n + 1)),
        (K.live now (attemptsKey phone)).bind RedisEntry.expires⟩ := by
    rw [Keyspace.live, hattempts]
    exact Option.filter_eq_some_iff.2 ⟨rfl, hfresh⟩
  have hcountOf : countOf (some ⟨.text (Json.intLit (n + 1)),
      (K.live now (attemptsKey phone)).bind RedisEntry.expires⟩) = n + 1 := by
    simp [countOf, Json.parseInt_intLit]
  cases hentry : K.live now (attemptsKey phone) with
  | none =>
    have hgone : K.live t (attemptsKey phone) = none := Keyspace.live_eq_none_of_le ht hentry
    have hlive := hlive (by rw [hentry]; rfl)
    rw [hgone] at hold
    rw [hlive, hcountOf]
    change _ ≤ (0 : ℤ) at hold
    exact ⟨by omega, fun _ => rfl⟩
  | some found =>
    obtain ⟨found', hfound⟩ := Option.isSome_iff_exists.1 (hlives (by rw [hentry]; rfl))
    have hfilter := Keyspace.filter_live ht K (attemptsKey phone)
    rw [hentry, hfound] at hfilter
    obtain ⟨hsame, hfresh⟩ := Option.filter_eq_some_iff.1 hfilter
    obtain rfl := Option.some.inj hsame
    have hlive := hlive (by rw [hentry]; exact hfresh)
    rw [hfound, ← hentry, hn] at hold
    rw [hlive, hcountOf]
    exact ⟨by omega, fun _ => rfl⟩

end Counted

/-! ## A step of a call -/

section Step

variable {t : Progress}

/-- What has to be said of a step. -/
theorem Guarded.advance (h : Guarded otp phone calls w P)
    (ht : (progress phone P i).next phone ⟨e, ((server otp.cfg).step e P.state).1⟩ = t)
    (hcount : IsCount (((server otp.cfg).step e P.state).2.redis (attemptsKey phone)))
    (honce : isMiss otp calls (i, ⟨e, ((server otp.cfg).step e P.state).1⟩) = false ∧
        t.found = (progress phone P i).found ∨
      (progress phone P i).found = none ∧ t.found.isSome = true)
    (hcovered : Covered otp phone calls w ((server otp.cfg).step e P.state).2.redis
      P.state.tick.clock (Function.update (progress phone P) i t)
      (P.log ++ [(i, ⟨e, ((server otp.cfg).step e P.state).1⟩)]))
    (hunlocked : isLockout phone (i, ⟨e, ((server otp.cfg).step e P.state).1⟩) = true ∨
      ∀ t, P.state.tick.clock ≤ t → ((server otp.cfg).step e P.state).2.redis.live t
        (lockoutKey phone) = P.state.redis.live t (lockoutKey phone))
    (hadmitted : isLook i (i, ⟨e, ((server otp.cfg).step e P.state).1⟩) = false ∧
        t.admitted = (progress phone P i).admitted ∨
      (t.admitted = true → ∀ t, P.state.tick.clock ≤ t →
        ((server otp.cfg).step e P.state).2.redis.live t (lockoutKey phone) = none))
    (hlocked : isLockout phone (i, ⟨e, ((server otp.cfg).step e P.state).1⟩) = false ∧
        (∀ t, P.state.tick.clock ≤ t → ((server otp.cfg).step e P.state).2.redis.live t
          (lockoutKey phone) = P.state.redis.live t (lockoutKey phone)) ∨
      ∀ t, P.state.tick.clock ≤ t →
        ((server otp.cfg).step e P.state).2.redis.live t (lockoutKey phone) = none →
          Lifted otp.lockoutTTL P.state.tick.clock t)
    (hlimited : Limited otp phone calls w
      (P.log ++ [(i, ⟨e, ((server otp.cfg).step e P.state).1⟩)])) :
    Guarded otp phone calls w (P.advance (server otp.cfg) i e k) := by
  have hphase : progress phone (P.advance (server otp.cfg) i e k) =
      Function.update (progress phone P) i t := by rw [progress_advance, ht]
  have hclock : (P.advance (server otp.cfg) i e k).state.clock = P.state.tick.clock :=
    step_clock otp.cfg P.state e
  refine ⟨h.spared.step e, clockAt_concat otp.cfg h.clockAt e _, h.past_step e, hcount, ?_, ?_, ?_, ?_, hlimited⟩
  · rw [hphase]
    exact h.once_step honce
  · rw [hphase, hclock]
    exact hcovered
  · rw [hphase, hclock]
    exact h.unlocked_step hunlocked hadmitted
  · rw [hclock]
    exact h.locked_step hlocked

/-- What has to be said of a step that leaves the keys alone and guesses nothing. -/
theorem Guarded.quiet (h : Guarded otp phone calls w P)
    (ht : (progress phone P i).next phone ⟨e, ((server otp.cfg).step e P.state).1⟩ = t)
    (hraw : ((server otp.cfg).step e P.state).2.redis (attemptsKey phone) =
      P.state.redis (attemptsKey phone))
    (hlive : ∀ key ∈ keysOf phone, ∀ t, P.state.tick.clock ≤ t →
      ((server otp.cfg).step e P.state).2.redis.live t key = P.state.redis.live t key)
    (hmiss : isMiss otp calls (i, ⟨e, ((server otp.cfg).step e P.state).1⟩) = false)
    (hmatch : isMatch otp calls (i, ⟨e, ((server otp.cfg).step e P.state).1⟩) = false)
    (hlockout : isLockout phone (i, ⟨e, ((server otp.cfg).step e P.state).1⟩) = false)
    (hfound : t.found = (progress phone P i).found)
    (hcounted : t.counted = (progress phone P i).counted)
    (hadmitted : isLook i (i, ⟨e, ((server otp.cfg).step e P.state).1⟩) = false ∧
        t.admitted = (progress phone P i).admitted ∨
      (t.admitted = true → ∀ t, P.state.tick.clock ≤ t →
        ((server otp.cfg).step e P.state).2.redis.live t (lockoutKey phone) = none)) :
    Guarded otp phone calls w (P.advance (server otp.cfg) i e k) := by
  have hsame (j : ℕ) : (Function.update (progress phone P) i t j).counted =
      (progress phone P j).counted := by
    by_cases hji : j = i
    · rw [hji, Function.update_self, hcounted]
    · rw [Function.update_of_ne hji]
  refine h.advance ht (hraw ▸ h.isCount) (.inl ⟨hmiss, hfound⟩) ?_ (.inr (hlive _ lockoutKey_mem))
    hadmitted (.inl ⟨hlockout, hlive _ lockoutKey_mem⟩) (h.limited_step ?_ ?_)
  · exact (h.counted.later P.state.clock_le_tick).idle (hlive _ codeKey_mem)
      (hlive _ attemptsKey_mem) hmiss
      hsame
  · rw [hmiss]
    nofun
  · rw [hmatch]
    nofun

/-- A command on a key that is refused. -/
theorem Guarded.refused (h : Guarded otp phone calls w P) {e : RedisCmd β}
    {k : Except RedisErr β → ServerProg OTPReply}
    (hrefused : P.state.next.fault.isRefused = true)
    (ht : (progress phone P i).next phone ⟨.redis e, ((server otp.cfg).step (.redis e) P.state).1⟩ = t)
    (hmiss : isMiss otp calls (i, ⟨.redis e, ((server otp.cfg).step (.redis e) P.state).1⟩) = false)
    (hmatch : isMatch otp calls (i, ⟨.redis e, ((server otp.cfg).step (.redis e) P.state).1⟩) = false)
    (hlockout : isLockout phone (i, ⟨.redis e, ((server otp.cfg).step (.redis e) P.state).1⟩) = false)
    (hlook : isLook i (i, ⟨.redis e, ((server otp.cfg).step (.redis e) P.state).1⟩) = false)
    (hfound : t.found = (progress phone P i).found)
    (hcounted : t.counted = (progress phone P i).counted)
    (hadmitted : t.admitted = (progress phone P i).admitted) :
    Guarded otp phone calls w (P.advance (server otp.cfg) i (.redis e) k) :=
  h.quiet ht (h.spared.redis_of_refused attemptsKey_mem e hrefused)
    (fun _ hkey _ _ => Keyspace.live_congr (h.spared.redis_of_refused hkey e hrefused) _) hmiss hmatch
    hlockout hfound hcounted (.inl ⟨hlook, hadmitted⟩)

/-- A call looks for a lockout. -/
theorem Guarded.look (h : Guarded otp phone calls w P) {k : Except RedisErr ℕ → ServerProg OTPReply}
    (hadmitted : (progress phone P i).admitted = false) :
    Guarded otp phone calls w
      (P.advance (server otp.cfg) i (.redis (.keyExists (lockoutKey phone))) k) := by
  obtain ⟨hfound, -⟩ := next_keyExists phone (progress phone P i) (lockoutKey phone)
    ((server otp.cfg).step (.redis (.keyExists (lockoutKey phone))) P.state).1
  have hlive (key : String) (hkey : key ∈ keysOf phone) (t : ℤ) (ht : P.state.tick.clock ≤ t) :
      ((server otp.cfg).step (.redis (.keyExists (lockoutKey phone))) P.state).2.redis.live t key =
        P.state.redis.live t key := h.spared.live_of_reads hkey rfl ht
  refine h.quiet rfl (h.spared.redis_of_ne attemptsKey_mem (attemptsKey_ne_lockoutKey phone)) hlive
    rfl rfl rfl hfound ?_ (.inr fun hyes t ht => ?_)
  · rcases ((server otp.cfg).step (.redis (.keyExists (lockoutKey phone))) P.state).1 with
      err | (_ | n) <;> rfl
  · rw [hlive _ lockoutKey_mem t ht]
    refine Keyspace.live_eq_none_of_le ht ?_
    have hkey := step_key otp.cfg (.keyExists (lockoutKey phone)) P.state
    dsimp only [RedisCmd.key, RedisCmd.reply] at hkey
    rw [h.spared.live_tick lockoutKey_mem] at hkey
    cases hval : ((server otp.cfg).step (.redis (.keyExists (lockoutKey phone))) P.state).1 with
    | error err =>
      rw [hval] at hyes
      cases hadmitted.symm.trans hyes
    | ok n =>
      cases n with
      | succ n =>
        rw [hval] at hyes
        cases hadmitted.symm.trans hyes
      | zero =>
        rw [hval] at hkey
        rcases hkey with ⟨text, -, hreply, -⟩ | ⟨-, -, hreply | ⟨text, hreply⟩⟩
        · cases hreply
        · cases hentry : P.state.redis.live P.state.tick.clock (lockoutKey phone) with
          | none => rfl
          | some found =>
            rw [hentry] at hreply
            cases hreply
        · cases hreply

/-- A call compares its guess. -/
theorem Guarded.guess (h : Guarded otp phone calls w P)
    {k : Except RedisErr (List Char) → ServerProg OTPReply}
    (hadmitted : (progress phone P i).admitted = true) (hfound : (progress phone P i).found = none)
    (hcounted : (progress phone P i).counted = false)
    (hcareful : Careful otp phone calls w P i (.redis (.get (codeKey phone)))) :
    Guarded otp phone calls w
      (P.advance (server otp.cfg) i (.redis (.get (codeKey phone))) k) := by
  have hlive (key : String) (hkey : key ∈ keysOf phone) (t : ℤ) (ht : P.state.tick.clock ≤ t) :
      ((server otp.cfg).step (.redis (.get (codeKey phone))) P.state).2.redis.live t key =
        P.state.redis.live t key := h.spared.live_of_reads hkey rfl ht
  have hraw : ((server otp.cfg).step (.redis (.get (codeKey phone))) P.state).2.redis
      (attemptsKey phone) = P.state.redis (attemptsKey phone) :=
    h.spared.redis_of_ne attemptsKey_mem (codeKey_ne_attemptsKey phone).symm
  cases hval : ((server otp.cfg).step (.redis (.get (codeKey phone))) P.state).1 with
  | error err =>
    refine h.quiet (t := progress phone P i) (by rw [hval]; rfl) hraw hlive ?_ ?_ rfl rfl rfl
      (.inl ⟨rfl, rfl⟩)
    · rw [hval]
      rfl
    · rw [hval]
      rfl
  | ok storedHash =>
    obtain ⟨hwrong, hright⟩ := hcareful storedHash hval
    dsimp only at hwrong
    rw [h.spared.live_tick attemptsKey_mem, h.spared.live_tick codeKey_mem] at hwrong
    have hcovered := h.counted.later P.state.clock_le_tick
    have hstored : (P.state.redis.live P.state.tick.clock (codeKey phone)).isSome = true := by
      have hkey := step_key otp.cfg (.get (codeKey phone)) P.state
      dsimp only [RedisCmd.key] at hkey
      rw [h.spared.live_tick codeKey_mem, hval] at hkey
      rw [Option.isSome_iff_ne_none]
      intro hnone
      have hnil := (RedisCmd.reply_get P.state.tick.clock _ (codeKey phone)).2.2 hnone
      rcases hkey with ⟨text, -, hreply, -⟩ | ⟨-, -, hreply | ⟨text, hreply⟩⟩
      · cases hreply
      · cases hreply.trans hnil
      · cases hreply
    have hsame (j : ℕ) : (Function.update (progress phone P) i
        { progress phone P i with found := some storedHash } j).counted =
          (progress phone P j).counted := by
      by_cases hji : j = i
      · rw [hji, Function.update_self]
      · rw [Function.update_of_ne hji]
    refine h.advance (t := { progress phone P i with found := some storedHash })
      (by rw [hval]; rfl) (hraw ▸ h.isCount) (.inr ⟨hfound, rfl⟩) ?_ (.inr (hlive _ lockoutKey_mem))
      (.inl ⟨rfl, rfl⟩) (.inl ⟨rfl, hlive _ lockoutKey_mem⟩) (h.limited_step ?_ ?_)
    · rw [hval]
      by_cases hmiss : isMiss otp calls (i, ⟨.redis (.get (codeKey phone)), .ok storedHash⟩) = true
      · exact hcovered.miss (hlive _ codeKey_mem) (hlive _ attemptsKey_mem) h.isCount
          (hwrong hmiss).2 hsame hcounted
      · exact hcovered.idle (hlive _ codeKey_mem) (hlive _ attemptsKey_mem)
          (Bool.eq_false_of_not_eq_true hmiss) hsame
    · rw [hval]
      intro hmiss
      obtain ⟨hroom, -⟩ := hwrong hmiss
      rw [recentCount_add (isCounted phone P)]
      refine lt_max_of_lt_right ?_
      push_cast
      by_cases hrecent : 0 < recentCount otp phone w (isMiss otp calls) P.log P.state.tick.clock
      · have hcount := (hcovered _ le_rfl hstored hrecent).1
        change (recentCount otp phone w (fun x => isMiss otp calls x && isCounted phone P x) P.log
          P.state.tick.clock : ℤ) ≤ _ at hcount
        omega
      · have hsplit : recentCount otp phone w (isMiss otp calls) P.log P.state.tick.clock =
            recentCount otp phone w (fun x => isMiss otp calls x && isCounted phone P x) P.log
                P.state.tick.clock +
              recentCount otp phone w (fun x => isMiss otp calls x && !isCounted phone P x) P.log
                P.state.tick.clock :=
          recentCount_add (isCounted phone P)
        have hnonneg := (h.isCount.live P.state.tick.clock).countOf_nonneg
        omega
    · rw [hval]
      intro hmatch
      exact h.unlocked i hadmitted (hright hmatch) _ P.state.clock_le_tick

/-- A wrong guess is counted. -/
theorem Guarded.count (h : Guarded otp phone calls w P) {k : Except RedisErr ℤ → ServerProg OTPReply} :
    Guarded otp phone calls w (P.advance (server otp.cfg) i (.redis (.incr (attemptsKey phone))) k) := by
  by_cases hrefused : P.state.next.fault.isRefused = true
  · have hreply : ∃ text, ((server otp.cfg).step (.redis (.incr (attemptsKey phone))) P.state).1 =
        .error (.refused text) := by
      rcases step_key otp.cfg (.incr (attemptsKey phone)) P.state with
        ⟨text, -, hreply, -⟩ | ⟨hexecuted, -⟩
      · exact ⟨text, hreply⟩
      · cases hexecuted.symm.trans hrefused
    obtain ⟨text, hreply⟩ := hreply
    exact h.refused hrefused rfl rfl rfl rfl rfl rfl (by rw [hreply]; exact Bool.or_false _) rfl
  · have hlive (key : String) (hkey : key ∈ keysOf phone) (hne : key ≠ attemptsKey phone) (t : ℤ) :
        ((server otp.cfg).step (.redis (.incr (attemptsKey phone))) P.state).2.redis.live t key =
          P.state.redis.live t key :=
      Keyspace.live_congr (h.spared.redis_of_ne (e := .incr (attemptsKey phone)) hkey hne) t
    have hreply : ((server otp.cfg).step (.redis (.incr (attemptsKey phone))) P.state).2.redis
        (attemptsKey phone) = ((RedisCmd.incr (attemptsKey phone)).reply P.state.tick.clock
          (P.state.redis.live P.state.tick.clock (attemptsKey phone))).2 :=
      h.spared.redis_of_executed (e := .incr (attemptsKey phone)) attemptsKey_mem hrefused
    have hlockout := hlive _ lockoutKey_mem (attemptsKey_ne_lockoutKey phone).symm
    refine h.advance rfl ?_ (.inl ⟨rfl, rfl⟩) ?_ (.inr fun t _ => hlockout t) (.inl ⟨rfl, rfl⟩)
      (.inl ⟨rfl, fun t _ => hlockout t⟩) (h.limited_step nofun nofun)
    · obtain ⟨n, -, hentry⟩ := reply_incr (h.isCount.live P.state.tick.clock) P.state.tick.clock
        (attemptsKey phone)
      rw [hreply, hentry]
      intro found hfound
      exact ⟨n + 1, by rw [← Option.some.inj hfound]; rfl⟩
    · refine (h.counted.later P.state.clock_le_tick).incr
        (fun t _ => hlive _ codeKey_mem (codeKey_ne_attemptsKey phone) t) h.isCount hreply rfl
        (fun j hj => by rw [Function.update_of_ne hj]) ?_
      refine (h.once i).trans ?_
      split <;> omega

/-- A password is stored, or the counter reset for it. -/
theorem Guarded.store (h : Guarded otp phone calls w P) {key : String} {value : List Char}
    {ttl : Option ℤ} {k : Except RedisErr Unit → ServerProg OTPReply}
    (hkey : key = codeKey phone ∨ key = attemptsKey phone ∧ value = "0".toList)
    (hcareful : Careful otp phone calls w P i (.redis (.set key value ttl))) :
    Guarded otp phone calls w (P.advance (server otp.cfg) i (.redis (.set key value ttl)) k) := by
  have hne : lockoutKey phone ≠ key := by
    rcases hkey with rfl | ⟨rfl, -⟩
    · exact (codeKey_ne_lockoutKey phone).symm
    · exact (attemptsKey_ne_lockoutKey phone).symm
  have hno : isLockout phone (i, ⟨.redis (.set key value ttl),
      ((server otp.cfg).step (.redis (.set key value ttl)) P.state).1⟩) = false := by
    simp [isLockout, hne.symm]
  by_cases hrefused : P.state.next.fault.isRefused = true
  · exact h.refused hrefused rfl rfl rfl hno rfl rfl rfl rfl
  · have hnone := hcareful hne.symm (Bool.eq_false_of_not_eq_true hrefused)
    have hlockout (t : ℤ) : ((server otp.cfg).step (.redis (.set key value ttl)) P.state).2.redis.live t
        (lockoutKey phone) = P.state.redis.live t (lockoutKey phone) :=
      Keyspace.live_congr (h.spared.redis_of_ne (e := .set key value ttl) lockoutKey_mem hne) t
    refine h.advance rfl ?_ (.inl ⟨rfl, rfl⟩) (covered_of_forall fun t ht => .inr ?_)
      (.inr fun t _ => hlockout t) (.inl ⟨rfl, rfl⟩) (.inl ⟨hno, fun t _ => hlockout t⟩)
      (h.limited_step nofun nofun)
    · rcases hkey with rfl | ⟨rfl, rfl⟩
      · rw [h.spared.redis_of_ne (e := .set (codeKey phone) value ttl) attemptsKey_mem
          (codeKey_ne_attemptsKey phone).symm]
        exact h.isCount
      · have hreply := @Spares.redis_of_executed otp.cfg _ _ h.spared _
          (.set (attemptsKey phone) "0".toList ttl) attemptsKey_mem hrefused
        intro found hfound
        refine ⟨0, ?_⟩
        rw [← Option.some.inj (hreply.symm.trans hfound)]
        rfl
    · refine Nat.le_zero.1 ((recentCount_concat_le rfl).trans ?_)
      exact (recentCount_antitone ht).trans hnone.le

/-- The number is locked out. -/
theorem Guarded.lockOut (h : Guarded otp phone calls w P) {value : List Char}
    {k : Except RedisErr Unit → ServerProg OTPReply} :
    Guarded otp phone calls w (P.advance (server otp.cfg) i (.redis (.set (lockoutKey phone) value
      (RedisCmd.expiration otp.lockoutTTL))) k) := by
  have hkey := step_key otp.cfg
    (.set (lockoutKey phone) value (RedisCmd.expiration otp.lockoutTTL)) P.state
  by_cases hrefused : P.state.next.fault.isRefused = true
  · refine h.refused hrefused rfl rfl rfl ?_ rfl rfl rfl rfl
    rcases hkey with ⟨text, -, hreply, -⟩ | ⟨hexecuted, -⟩
    · rw [hreply]
      exact Bool.and_false _
    · cases hexecuted.symm.trans hrefused
  · have hlockout : isLockout phone (i, ⟨.redis (.set (lockoutKey phone) value
        (RedisCmd.expiration otp.lockoutTTL)), ((server otp.cfg).step (.redis (.set (lockoutKey phone)
          value (RedisCmd.expiration otp.lockoutTTL))) P.state).1⟩) = true := by
      rcases hkey with ⟨text, hfault, -, -⟩ | ⟨-, -, hreply | ⟨text, hreply⟩⟩
      · rw [hfault] at hrefused
        exact absurd rfl hrefused
      · rw [hreply]
        simp [isLockout, RedisCmd.reply, executed]
      · rw [hreply]
        simp [isLockout, executed]
    refine h.advance rfl ?_ (.inl ⟨rfl, rfl⟩) (covered_of_forall fun t ht => .inr ?_)
      (.inl hlockout) (.inl ⟨rfl, rfl⟩) (.inr fun t ht hnone => ?_)
      (h.limited_step (fun hc => by cases hc) fun hc => by cases hc)
    · rw [h.spared.redis_of_ne (e := .set (lockoutKey phone) value
        (RedisCmd.expiration otp.lockoutTTL)) attemptsKey_mem (attemptsKey_ne_lockoutKey phone)]
      exact h.isCount
    · rw [recentCount_concat, hlockout, Bool.not_true, Bool.and_false, if_neg Bool.false_ne_true]
    · -- the entry is gone when its time to live is over
      have hreply := @Spares.redis_of_executed otp.cfg _ _ h.spared _ (.set (lockoutKey phone) value
        (RedisCmd.expiration otp.lockoutTTL)) lockoutKey_mem hrefused
      exact .of_gone hreply hnone

/-- The password or its counter is removed. -/
theorem Guarded.remove (h : Guarded otp phone calls w P) {key : String}
    {k : Except RedisErr Unit → ServerProg OTPReply} (hkey : key = codeKey phone ∨ key = attemptsKey phone)
    (hcareful : Careful otp phone calls w P i (.redis (.del key))) :
    Guarded otp phone calls w (P.advance (server otp.cfg) i (.redis (.del key)) k) := by
  have hne : lockoutKey phone ≠ key := by
    rcases hkey with rfl | rfl
    · exact (codeKey_ne_lockoutKey phone).symm
    · exact (attemptsKey_ne_lockoutKey phone).symm
  by_cases hrefused : P.state.next.fault.isRefused = true
  · exact h.refused hrefused rfl rfl rfl rfl rfl rfl rfl rfl
  · have hlockout (t : ℤ) : ((server otp.cfg).step (.redis (.del key)) P.state).2.redis.live t
        (lockoutKey phone) = P.state.redis.live t (lockoutKey phone) :=
      Keyspace.live_congr (h.spared.redis_of_ne (e := .del key) lockoutKey_mem hne) t
    have hgone (hmem : key ∈ keysOf phone) :
        ((server otp.cfg).step (.redis (.del key)) P.state).2.redis key = none :=
      h.spared.redis_of_executed (e := .del key) hmem hrefused
    refine h.advance rfl ?_ (.inl ⟨rfl, rfl⟩) (covered_of_forall fun t ht => ?_)
      (.inr fun t _ => hlockout t) (.inl ⟨rfl, rfl⟩) (.inl ⟨rfl, fun t _ => hlockout t⟩)
      (h.limited_step nofun nofun)
    · rcases hkey with rfl | rfl
      · rw [h.spared.redis_of_ne (e := .del (codeKey phone)) attemptsKey_mem
          (codeKey_ne_attemptsKey phone).symm]
        exact h.isCount
      · rw [hgone attemptsKey_mem]
        nofun
    · rcases hkey with rfl | rfl
      · left
        rw [Keyspace.live, hgone codeKey_mem]
        rfl
      · rw [Keyspace.live_congr (h.spared.redis_of_ne (e := .del (attemptsKey phone)) codeKey_mem
          (codeKey_ne_attemptsKey phone))]
        by_cases hcode : (P.state.redis.live P.state.tick.clock (codeKey phone)).isSome = true
        · have hnone := hcareful rfl (Bool.eq_false_of_not_eq_true hrefused)
            (by rwa [h.spared.live_tick codeKey_mem])
          refine .inr (Nat.le_zero.1 ((recentCount_concat_le rfl).trans ?_))
          exact (recentCount_antitone ht).trans hnone.le
        · rw [Option.not_isSome_iff_eq_none] at hcode
          exact .inl (Keyspace.live_eq_none_of_le ht hcode)

/-- **A step of a call** keeps the state of the limit. -/
theorem Guarded.step (h : Guarded otp phone calls w P)
    (hallows : (progress phone P i).Allows otp phone c e)
    (hcareful : Careful otp phone calls w P i e) :
    Guarded otp phone calls w (P.advance (server otp.cfg) i e k) := by
  cases e with
  | redis e =>
    cases e with
    | set key value ttl =>
      cases c with
      | store code messageID => exact h.store hallows hcareful
      | verify code =>
        obtain ⟨rfl, rfl⟩ := hallows
        exact h.lockOut
    | keyExists key =>
      obtain ⟨code, -, rfl, hadmitted⟩ := hallows
      exact h.look hadmitted
    | get key =>
      obtain ⟨code, -, rfl, hadmitted, hfound, hcounted, -⟩ := hallows
      exact h.guess hadmitted hfound hcounted hcareful
    | incr key =>
      obtain ⟨code, -, rfl, -⟩ := hallows
      exact h.count
    | del key =>
      obtain ⟨code, -, hkey⟩ := hallows
      exact h.remove hkey hcareful
    | _ =>
      obtain ⟨code, -, hfalse⟩ := hallows
      exact hfalse.elim
  | now | db =>
    exact h.quiet rfl (h.spared.tick attemptsKey_mem) (fun _ hkey t _ => h.spared.live_tick hkey t)
      rfl rfl rfl rfl rfl (.inl ⟨rfl, rfl⟩)
  | _ => exact hallows.elim

end Step

/-! ## Runs -/

variable (otp phone) in
/-- **Guessing is bounded**, in runs in which every step is careful. -/
theorem limited_run (calls : List OTPCall) (w : World) (sched : List ℕ) (hw : Spares (keysOf phone) w)
    (hcount : IsCount (w.redis (attemptsKey phone)))
    (hsched : Pool.EachStep (server otp.cfg) (Pool.Meets fun P i => Careful otp phone calls w P i)
      (service otp phone calls w) sched) :
    Limited otp phone calls w ((service otp phone calls w).run (server otp.cfg) sched).log := by
  have hstart : Guarded otp phone calls w (service otp phone calls w) := by
    refine ⟨hw, fun n => by simp [service, Pool.start], by simp [service, Pool.start, timed], hcount,
      fun i => by simp [service, Pool.start], ?_, fun i => nofun, by simp [service, Pool.start, timed], ?_⟩
    · exact covered_of_forall fun t _ => .inr rfl
    · exact ⟨WindowBound.nil (le_max_left _ _), List.Pairwise.nil⟩
  have hrun := Pool.run_phases_inv (phased_calls otp phone) hstart hsched
    fun P i c β e k _ hi hallows _ hP hG => hP.step hallows (Pool.meets_of_act hG hi)
  exact hrun.limited

end Run

/-! ## A password that is requested again -/

section Decidable

variable {otp phone calls}

/-- The condition on a command as a test. -/
def careful (otp : OTPServices) (phone : String) (calls : List OTPCall) (w : World) (P : Calls)
    (i : ℕ) : {β : Type} → ServerCmd β → Bool
  | _, .redis (.get key) =>
    match ((server otp.cfg).step (.redis (.get key)) P.state).1 with
    | .error _ => true
    | .ok storedHash =>
      let held key := P.state.tick.redis.live P.state.tick.clock key
      decide ((calls[i]?.any fun c => c.misses otp storedHash) = true →
        countOf (held (attemptsKey phone)) + recentCount otp phone w
            (fun x => isMiss otp calls x && !isCounted phone P x) P.log P.state.tick.clock <
          otp.maxAttempts ∧ outlasts (held (attemptsKey phone)) (held (codeKey phone)) = true) &&
      decide ((calls[i]?.any fun c => c.guesses otp storedHash) = true →
        ((P.log.reverse.takeWhile fun x => !isLook i x).any (isLockout phone)) = false)
  | _, .redis (.set key _ _) =>
    decide (key ≠ lockoutKey phone → P.state.next.fault.isRefused = false →
      recentCount otp phone w (isMiss otp calls) P.log P.state.tick.clock = 0)
  | _, .redis (.del key) =>
    decide (key = attemptsKey phone → P.state.next.fault.isRefused = false →
      (P.state.tick.redis.live P.state.tick.clock (codeKey phone)).isSome = true →
        recentCount otp phone w (isMiss otp calls) P.log P.state.tick.clock = 0)
  | _, _ => true

instance decidableCareful (w : World) (P : Calls) (i : ℕ) {β : Type} (e : ServerCmd β) :
    Decidable (Careful otp phone calls w P i e) :=
  decidable_of_iff (careful otp phone calls w P i e = true) (by
    cases e with
    | redis e =>
      cases e with
      | get key =>
        simp only [careful, Careful]
        generalize ((server otp.cfg).step (.redis (.get key)) P.state).1 = reply
        cases reply with
        | error err => exact iff_of_true rfl fun _ => nofun
        | ok storedHash =>
          rw [Bool.and_eq_true, decide_eq_true_iff, decide_eq_true_iff]
          exact ⟨fun h _ heq => Except.ok.inj heq ▸ h, fun h => h storedHash rfl⟩
      | set | del => exact decide_eq_true_iff
      | _ => exact iff_of_true rfl trivial
    | _ => exact iff_of_true rfl trivial)

end Decidable

/-- The server after a message was ordered. -/
def afterOrder : World :=
  ((send plainServices order.caller order.body).exec (server .default) (Dispatch.onePhone [])).state

/-- A password is requested, and three wrong ones are tried. -/
def threeGuesses : List OTPCall :=
  [.store "123456" "00000000-0000-4000-8000-000000000000", .verify "000001", .verify "000002",
    .verify "000003"]

/-- The calls one after the other. -/
def oneByOne : List ℕ := [0, 0, 0, 0, 1, 1, 1, 2, 2, 2, 3, 3, 3]

/-- The guesses of a run. -/
def guessed (calls : List OTPCall) (sched : List ℕ) : List (ℕ × Event ServerCmd) :=
  ((service plainOTP "+919999999999" calls afterOrder).run (server .default) sched).log

/-- After the password is requested again there are three more guesses: six, of five allowed. -/
theorem requestedAgain_unlimited : ¬ Limited plainOTP "+919999999999" (threeGuesses ++ threeGuesses)
    afterOrder (guessed (threeGuesses ++ threeGuesses) (oneByOne ++ oneByOne.map (· + 4))) := by
  intro h
  have hsix := h.bounded _ List.infix_rfl (by decide) (by decide)
  revert hsix
  decide

theorem afterOrder_isCount : IsCount (afterOrder.redis (attemptsKey "+919999999999")) := by
  have hnone : afterOrder.redis (attemptsKey "+919999999999") = none := by decide
  rw [hnone]
  nofun

/-- Three wrong guesses and a right one are within the limit. -/
theorem limited_run_threeGuesses : Limited plainOTP "+919999999999" (threeGuesses ++ [.verify "123456"])
    afterOrder (guessed (threeGuesses ++ [.verify "123456"]) (oneByOne ++ [4, 4, 4, 4, 4])) :=
  limited_run plainOTP "+919999999999" (threeGuesses ++ [.verify "123456"]) afterOrder
    (oneByOne ++ [4, 4, 4, 4, 4])
    (Spares.exec (fun _ ht => absurd ht List.not_mem_nil) _) afterOrder_isCount (by decide)

end AeroxeBee.Otp
