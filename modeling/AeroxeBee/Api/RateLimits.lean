import AeroxeBee.Accounts.Tokens
import AeroxeBee.Otp.Guesses
import AeroxeBee.Tenants.Writes

/-!
# The rate of an API key

The routes that send messages count the requests of each API key in each minute before they look the
key up. The limiter takes the key from one header if that is there, and the lookup always takes it from
another one.

* `phased_admission`: the protocol that a request keeps to until it reaches the handler;
* `withinRate_run`: the requests that are authenticated by a key keep to its rate, in every run in which
  each of them is counted under that key before its minute is long over.
-/

namespace AeroxeBee.Api

open Foundations Accounts Tenants Otp

/-! ## The limiter -/

/-- The headers that can carry an API key. -/
structure KeyHeaders where
  xAPIKey : String
  authorization : String

/-- The text after the word that introduces a token. -/
def KeyHeaders.bearer (h : KeyHeaders) : Option String :=
  if "Bearer ".toList.isPrefixOf h.authorization.toList then
    some (trimPrefix h.authorization "Bearer ")
  else none

/-- The key that the limiter counts a request under. A token with a dot is none. -/
def extractAPIKey (h : KeyHeaders) : String :=
  if h.xAPIKey ≠ "" then h.xAPIKey
  else
    match h.bearer with
    | some token => if '.' ∉ token.toList then token else ""
    | none => ""

/-- The minute of a time. -/
def clockMinute (now : ℤ) : ℤ := unix now / 60

/-- The counter of a key in a minute. -/
def windowKey (apiKey : String) (minute : ℤ) : String :=
  "rl:apikey:" ++ apiKey ++ ":" ++ String.ofList (Json.intLit minute)

/-- What a client is told about its limit. -/
structure RateLimitHeaders where
  limit : ℤ
  remaining : ℤ
  retryAfter : Option ℤ

/-- What a request comes to before it reaches the handler: an error, or the key that authenticates
it. -/
structure Admission where
  headers : Option RateLimitHeaders
  outcome : Except Response APIKey

/-- Count a request, and refuse it if there are too many. When Redis fails it is not refused. -/
def limit (maxPerMin : ℤ) (h : KeyHeaders) (next : ServerProg (Except Response APIKey)) :
    ServerProg Admission := do
  let apiKey := extractAPIKey h
  if apiKey = "" then return ⟨none, ← next⟩
  else do
    let now ← Prog.call .now
    let key := windowKey apiKey (clockMinute now)
    match ← Prog.call (.redis (.incr key)) with
    | .error _ => return ⟨none, ← next⟩
    | .ok count =>
      if count = 1 then
        let _ ← Prog.call (.redis (.expire key 120000000000))
      let headers : RateLimitHeaders := ⟨maxPerMin, max 0 (maxPerMin - count), none⟩
      if maxPerMin < count then do
        let now ← Prog.call .now
        return ⟨some { headers with retryAfter := some (60 - unix now % 60) },
          .error (.error 429 "rate limit exceeded, try again later")⟩
      else return ⟨some headers, ← next⟩

/-- Look the key of a request up. -/
def apiKeyAuth (svc : DeviceServices) (h : KeyHeaders) : ServerProg (Except Response APIKey) := do
  if h.authorization = "" then return .error (.error 401 "missing authorization header")
  else
    let apiKey := trimPrefix h.authorization "Bearer "
    if apiKey = h.authorization then return .error (.error 401 "invalid authorization format")
    else
      match ← validate svc apiKey with
      | .ok (some key) => return .ok key
      | _ => return .error (.error 401 "invalid or revoked API key")

/-- What stands in front of the handlers that send messages. -/
def admission (svc : DeviceServices) (maxPerMin : ℤ) (h : KeyHeaders) : ServerProg Admission :=
  limit maxPerMin h (apiKeyAuth svc h)

/-- Admissions that are served concurrently. -/
abbrev Admissions := Pool ServerCmd World Admission

/-- The requests before any of them has moved. -/
def received (svc : DeviceServices) (maxPerMin : ℤ) (requests : List KeyHeaders) (w : World) :
    Admissions :=
  .start (requests.map (admission svc maxPerMin)) w

/-! ## The law -/

/-- The minute in which a request arrived: that of its first command. -/
def arrivalMinute (w : World) (log : List (ℕ × Event ServerCmd)) (i : ℕ) : Option ℤ :=
  ((timed w log).find? (·.2.1 = i)).map fun x => clockMinute x.1

/-- The request has passed and was authenticated by a key. -/
def authenticated (requests : List KeyHeaders) (P : Admissions) (apiKey : String) (i : ℕ) : Bool :=
  match P.threads[i]?, requests[i]? with
  | some (.ret ⟨_, .ok _⟩), some h => h.bearer = some apiKey
  | _, _ => false

/-- **The rate of a key**: of the requests that arrived in a minute and were authenticated by the key,
no more have passed than the limit. -/
def WithinRate (maxPerMin : ℤ) (requests : List KeyHeaders) (w : World) (apiKey : String)
    (minute : ℤ) (P : Admissions) : Prop :=
  (((Finset.range requests.length).filter fun i => authenticated requests P apiKey i &&
    decide (arrivalMinute w P.log i = some minute)).card : ℤ) ≤ max 0 maxPerMin

instance decidableWithinRate (maxPerMin : ℤ) (requests : List KeyHeaders) (w : World)
    (apiKey : String) (minute : ℤ) (P : Admissions) :
    Decidable (WithinRate maxPerMin requests w apiKey minute P) :=
  inferInstanceAs (Decidable (_ ≤ _))

/-! ## The protocol of a request -/

/-- What a request has done: whether it has done anything, the time it read first, and how it was
counted. -/
structure Passage where
  begun : Bool
  readAt : Option ℤ
  count : Option (Except RedisErr ℤ)

namespace Passage

/-- A request that has not done anything. -/
def start : Passage := ⟨false, none, none⟩

/-- What a request makes of an event. -/
def next (s : Passage) : Event ServerCmd → Passage
  | ⟨.now, t⟩ => if s.begun then s else { s with begun := true, readAt := some t }
  | ⟨.redis (.incr _), reply⟩ => { s with begun := true, count := some reply }
  | _ => { s with begun := true }

/-- The key under which a request is counted. -/
def CountsOn (h : KeyHeaders) (s : Passage) (key : String) : Prop :=
  ∃ t, s.readAt = some t ∧ key = windowKey (extractAPIKey h) (clockMinute t)

/-- What a request may do next. -/
def Allows (h : KeyHeaders) (s : Passage) : {β : Type} → ServerCmd β → Prop
  | _, .now | _, .db _ => True
  | _, .redis (.incr key) => s.CountsOn h key
  | _, .redis (.expire key ttl) => s.CountsOn h key ∧ ttl = 120000000000
  | _, _ => False

/-- A request with a key for the limiter passes only if it was counted, and found room. -/
def Ends (maxPerMin : ℤ) (h : KeyHeaders) (s : Passage) (r : Admission) : Prop :=
  ∀ key, r.outcome = .ok key → extractAPIKey h ≠ "" →
    (∃ t, s.readAt = some t) ∧ ∃ reply, s.count = some reply ∧ ∀ n, reply = .ok n → n ≤ maxPerMin

end Passage

/-- The protocol of a request. -/
def counting (h : KeyHeaders) : Protocol ServerCmd Passage where
  allows s := s.Allows h
  expects _ := True
  next := Passage.next

section Protocol

variable (svc : DeviceServices) (maxPerMin : ℤ) (h : KeyHeaders)

/-- The command is a look at the clock or a statement. -/
def Looks : {β : Type} → ServerCmd β → Prop
  | _, .now | _, .db _ => True
  | _, _ => False

theorem apiKeyAuth_looks : (apiKeyAuth svc h).Only Looks := by
  unfold apiKeyAuth
  dsimp only
  split_ifs
  · trivial
  · trivial
  · have hvalidate : (validate svc (trimPrefix h.authorization "Bearer ")).Only Looks :=
      validate_only svc trivial trivial
    refine hvalidate.bind fun reply => ?_
    rcases reply with e | _ | key <;> trivial

/-- The lookup of a request that has begun changes nothing about what it has done. -/
theorem apiKeyAuth_keeps {s : Passage} (hs : s.begun = true) :
    (apiKeyAuth svc h).Keeps (counting h) (fun s' _ => s' = s) s := by
  refine Prog.Keeps.of_only (apiKeyAuth_looks svc h) (fun e he => ?_) fun e b he => ?_
  · cases e with
    | now | db => trivial
    | _ => exact he.elim
  · cases e with
    | now => exact if_pos hs
    | db q =>
      obtain ⟨begun, readAt, count⟩ := s
      obtain rfl : begun = true := hs
      rfl
    | _ => exact he.elim

theorem phased_admission : Pool.Phased (admission svc maxPerMin) counting (Passage.Ends maxPerMin)
    Passage.next .start where
  next_eq _ := rfl
  expects _ _ := trivial
  keeps h := by
    unfold admission limit
    dsimp only
    split
    · -- the limiter finds no key
      rename_i hnone
      have hlook : (apiKeyAuth svc h).Keeps (counting h) (fun _ _ => True) .start :=
        Prog.keeps_of_only_forall (apiKeyAuth_looks svc h) (fun s β e he => by
          cases e with
          | now | db => trivial
          | _ => exact he.elim) fun _ _ => trivial
      exact hlook.bind fun s r _ key _ hkey => absurd hnone hkey
    · refine ⟨trivial, fun now _ => ⟨⟨now, rfl, rfl⟩, fun reply _ => ?_⟩⟩
      -- what has been done when the request comes to the lookup
      have hpass (hroom : ∀ n, reply = .ok n → n ≤ maxPerMin) (headers : Option RateLimitHeaders) :
          (apiKeyAuth svc h >>= fun r => pure (Admission.mk headers r)).Keeps (counting h)
            (Passage.Ends maxPerMin h) ⟨true, some now, some reply⟩ := by
        refine (apiKeyAuth_keeps svc h rfl).bind fun s r hs => ?_
        subst hs
        exact fun _ _ _ => ⟨⟨now, rfl⟩, reply, rfl, hroom⟩
      cases reply with
      | error e => exact hpass nofun none
      | ok count =>
        have hrest : (ite (maxPerMin < count)
            (Prog.call .now >>= fun now => pure ⟨some ⟨maxPerMin, max 0 (maxPerMin - count),
              some (60 - unix now % 60)⟩,
              .error (.error 429 "rate limit exceeded, try again later")⟩)
            (apiKeyAuth svc h >>= fun r => pure (Admission.mk
              (some ⟨maxPerMin, max 0 (maxPerMin - count), none⟩) r)) : ServerProg Admission).Keeps
                (counting h) (Passage.Ends maxPerMin h) ⟨true, some now, some (.ok count)⟩ := by
          split
          · exact ⟨trivial, fun _ _ => nofun⟩
          · rename_i hroom
            exact hpass (fun n hn => by cases hn; exact not_lt.1 hroom) _
        change Prog.Keeps _ _ (ite _ _ _) _
        split
        · exact ⟨⟨⟨now, rfl, rfl⟩, rfl⟩, fun _ _ => hrest⟩
        · exact hrest

end Protocol

/-! ## Admissions that are counted -/

/-- What a request among others has done. -/
abbrev passage (P : Admissions) (i : ℕ) : Passage := P.phase Passage.next .start i

/-- The time until which the counter of a minute exists at least: two minutes after it began. -/
def windowEnd (minute : ℤ) : ℤ := (minute + 2) * 60000000000

/-- The counter of a minute: a number, which does not expire before its time. -/
def IsWindow (minute : ℤ) (entry : Option RedisEntry) : Prop :=
  ∀ found, entry = some found → (∃ n : ℕ, found.value = .text (Json.intLit n)) ∧
    ∀ t ∈ found.expires, windowEnd minute ≤ t

/-- Redis is there when a request is counted under a key, and the request is counted within two minutes
of the beginning of the minute that it has read. -/
def Prompt (key : String) (P : Admissions) (i : ℕ) : {β : Type} → ServerCmd β → Prop
  | _, .redis (.incr key') => key' = key → P.state.next.fault = .none ∧
    ∀ t ∈ (passage P i).readAt, P.state.tick.clock ≤ windowEnd (clockMinute t)
  | _, _ => True

/-- The condition on a command as a test. -/
def prompt (key : String) (P : Admissions) (i : ℕ) : {β : Type} → ServerCmd β → Bool
  | _, .redis (.incr key') => decide (key' = key → P.state.next.fault = .none ∧
    ∀ t ∈ (passage P i).readAt, P.state.tick.clock ≤ windowEnd (clockMinute t))
  | _, _ => true

instance decidablePrompt (key : String) (P : Admissions) (i : ℕ) {β : Type} (e : ServerCmd β) :
    Decidable (Prompt key P i e) :=
  decidable_of_iff (prompt key P i e = true) (by
    cases e with
    | redis e =>
      cases e with
      | incr key' => exact decide_eq_true_iff
      | _ => exact iff_of_true rfl trivial
    | _ => exact iff_of_true rfl trivial)

/-- The request is to be counted under a key in a minute. -/
def belongs (requests : List KeyHeaders) (apiKey : String) (minute : ℤ) (i : ℕ) (s : Passage) : Bool :=
  (requests[i]?.any fun h => extractAPIKey h = apiKey) && s.readAt.any (clockMinute · = minute)

/-- The request was counted under a key in a minute, and found room. -/
def admitted (maxPerMin : ℤ) (requests : List KeyHeaders) (apiKey : String) (minute : ℤ)
    (i : ℕ) (s : Passage) : Bool :=
  belongs requests apiKey minute i s &&
    match s.count with
    | some (.ok n) => decide (n ≤ maxPerMin)
    | _ => false

section Keys

variable {apiKey apiKey' : String} {minute minute' : ℤ}

theorem colon_notMem_intLit (n : ℤ) : ':' ∉ Json.intLit n := by
  intro h
  have hdigit : ∀ c ∈ Nat.toDigits 10 n.natAbs, c.isDigit := fun c hc =>
    Nat.isDigit_of_mem_toDigits (by decide) (by decide) hc
  unfold Json.intLit at h
  split at h
  · rcases List.mem_cons.1 h with h | h
    · exact absurd h (by decide)
    · exact absurd (hdigit _ h) (by decide)
  · exact absurd (hdigit _ h) (by decide)

/-- A text is split at its last colon in one way. -/
theorem append_colon_inj {xs xs' ds ds' : List Char} (hds : ':' ∉ ds) (hds' : ':' ∉ ds')
    (h : xs ++ ':' :: ds = xs' ++ ':' :: ds') : xs = xs' ∧ ds = ds' := by
  have hrev : ds.reverse ++ ':' :: xs.reverse = ds'.reverse ++ ':' :: xs'.reverse := by
    simpa using congrArg List.reverse h
  have htake : ∀ {ds xs : List Char}, ':' ∉ ds →
      (ds.reverse ++ ':' :: xs.reverse).takeWhile (· ≠ ':') = ds.reverse := by
    intro ds xs hno
    rw [List.takeWhile_append_of_pos fun c hc => ?_]
    · simp
    · exact decide_eq_true fun heq => hno (heq ▸ List.mem_reverse.1 hc)
  obtain rfl : ds = ds' := by
    refine List.reverse_injective ?_
    rw [← @htake ds xs hds, hrev, htake hds']
  exact ⟨List.append_cancel_right h, rfl⟩

/-- **Different keys and minutes have different counters.** -/
theorem windowKey_inj (h : windowKey apiKey minute = windowKey apiKey' minute') :
    apiKey = apiKey' ∧ minute = minute' := by
  have hlist : apiKey.toList ++ ':' :: Json.intLit minute =
      apiKey'.toList ++ ':' :: Json.intLit minute' := by
    simpa [windowKey] using congrArg String.toList h
  obtain ⟨hkey, hminute⟩ :=
    append_colon_inj (colon_notMem_intLit _) (colon_notMem_intLit _) hlist
  refine ⟨String.toList_inj.1 hkey, Option.some.inj ?_⟩
  rw [← Json.parseInt_intLit minute, hminute, Json.parseInt_intLit]

end Keys

section Run

variable {svc : DeviceServices} {maxPerMin : ℤ} {requests : List KeyHeaders} {apiKey : String}
  {minute : ℤ} {w : World} {P : Admissions} {i j : ℕ} {h : KeyHeaders} {β : Type} {e : ServerCmd β}
  {k : β → ServerProg Admission}

/-! ## Arrivals -/

theorem arrivalMinute_concat (log : List (ℕ × Event ServerCmd)) (ev : Event ServerCmd) :
    arrivalMinute w (log ++ [(i, ev)]) j =
      (arrivalMinute w log j).or
        (if i = j then some (clockMinute (w.clockAt log.length)) else none) := by
  unfold arrivalMinute
  rw [timed_concat, List.find?_append]
  cases (timed w log).find? (·.2.1 = j) with
  | some x => rfl
  | none => by_cases hij : i = j <;> simp [hij]

/-! ## The invariant -/

theorem IsWindow.isCount {entry : Option RedisEntry} (h : IsWindow minute entry) : IsCount entry :=
  fun found hfound => (h found hfound).1

/-- A counter exists until its time. -/
theorem IsWindow.live {K : Keyspace} {key : String} (h : IsWindow minute (K key)) {t : ℤ}
    (ht : t ≤ windowEnd minute) : K.live t key = K key := by
  unfold Keyspace.live
  cases hentry : K key with
  | none => rfl
  | some found =>
    refine Option.filter_eq_some_iff.2 ⟨rfl, ?_⟩
    unfold Keyspace.fresh
    cases hexpires : found.expires with
    | none => rfl
    | some t' => exact decide_eq_true (ht.trans ((h found hentry).2 t' (by simp [hexpires])))

theorem IsWindow.live_isWindow {K : Keyspace} {key : String} (h : IsWindow minute (K key)) (t : ℤ) :
    IsWindow minute (K.live t key) :=
  fun found hfound => h found (Option.filter_eq_some_iff.1 hfound).1

/-- Two minutes after it was read, a minute is over for at least one. -/
theorem windowEnd_le (t : ℤ) : windowEnd (clockMinute t) ≤ t + 120000000000 := by
  unfold windowEnd clockMinute unix
  omega

/-- What a counter holds after it was given a new time to live. -/
theorem IsWindow.expire {entry : Option RedisEntry} (h : IsWindow minute entry) {t : ℤ}
    (hend : windowEnd minute ≤ t) :
    IsWindow minute (entry.map fun found => { found with expires := some t }) := by
  intro found hfound
  refine ⟨h.isCount.withExpiry t found hfound, fun t' ht' => ?_⟩
  obtain ⟨old, -, rfl⟩ := Option.map_eq_some_iff.1 hfound
  obtain rfl := Option.some.inj ht'
  exact hend

/-- What a counter holds after it has counted. -/
theorem IsWindow.incr {entry : Option RedisEntry} (h : IsWindow minute entry) (now : ℤ)
    (key : String) :
    IsWindow minute ((RedisCmd.incr key).reply now entry).2 ∧
      countOf ((RedisCmd.incr key).reply now entry).2 = countOf entry + 1 := by
  obtain ⟨n, hn, hreply⟩ := reply_incr h.isCount now key
  rw [hreply, hn]
  refine ⟨fun found hfound => ?_, by simp [countOf, Json.parseInt_intLit]⟩
  obtain rfl := Option.some.inj hfound
  refine ⟨⟨n + 1, rfl⟩, fun t ht => ?_⟩
  cases entry with
  | none => cases ht
  | some found => exact (h found rfl).2 t ht

variable (maxPerMin requests apiKey minute) in
/-- How many requests have found room on the counter. -/
def room (s : ℕ → Passage) : ℕ :=
  ((Finset.range requests.length).filter fun i =>
    admitted maxPerMin requests apiKey minute i (s i)).card

variable (maxPerMin requests apiKey minute w) in
/-- **The state of a counter.** It is no lower than the number of requests that found room on it. -/
structure Counting (P : Admissions) : Prop where
  spared : Spares {windowKey apiKey minute} P.state
  clockAt : ∀ n, P.state.clockAt n = w.clockAt (P.log.length + n)
  unbegun : ∀ i, (passage P i).begun = false →
    arrivalMinute w P.log i = none ∧ (passage P i).count = none
  read : ∀ i t, (passage P i).readAt = some t →
    t ≤ P.state.clock ∧ arrivalMinute w P.log i = some (clockMinute t)
  replied : ∀ i err, belongs requests apiKey minute i (passage P i) = true →
    (passage P i).count ≠ some (.error err)
  window : IsWindow minute (P.state.redis (windowKey apiKey minute))
  bounded : (room maxPerMin requests apiKey minute (passage P) : ℤ) ≤ max 0 maxPerMin
  counted : P.state.clock ≤ windowEnd minute →
    (room maxPerMin requests apiKey minute (passage P) : ℤ) ≤
      countOf (P.state.redis (windowKey apiKey minute))

theorem Counting.time (h : Counting maxPerMin requests apiKey minute w P) :
    P.state.tick.clock = w.clockAt P.log.length :=
  P.state.tick_clock.trans (h.clockAt 0)

theorem passage_advance : passage (P.advance (server svc.cfg) i e k) =
    Function.update (passage P) i
      ((passage P i).next ⟨e, ((server svc.cfg).step e P.state).1⟩) :=
  funext fun _ => by rw [passage, Pool.phase_advance]

/-- No more requests find room than the one that takes the step. -/
theorem room_update_le (s : ℕ → Passage) (t : Passage) :
    room maxPerMin requests apiKey minute (Function.update s i t) ≤
      room maxPerMin requests apiKey minute s + 1 := by
  refine (Finset.card_le_card fun j hj => ?_).trans (Finset.card_insert_le i _)
  obtain ⟨hlt, hadmitted⟩ := Finset.mem_filter.1 hj
  by_cases hji : j = i
  · exact hji ▸ Finset.mem_insert_self j _
  · rw [Function.update_of_ne hji] at hadmitted
    exact Finset.mem_insert_of_mem (Finset.mem_filter.2 ⟨hlt, hadmitted⟩)

/-- If that one does not find room, no more requests do. -/
theorem room_update_le_of {s : ℕ → Passage} {t : Passage}
    (h : admitted maxPerMin requests apiKey minute i t = true →
      admitted maxPerMin requests apiKey minute i (s i) = true) :
    room maxPerMin requests apiKey minute (Function.update s i t) ≤
      room maxPerMin requests apiKey minute s := by
  refine Finset.card_le_card fun j hj => ?_
  obtain ⟨hlt, hadmitted⟩ := Finset.mem_filter.1 hj
  refine Finset.mem_filter.2 ⟨hlt, ?_⟩
  by_cases hji : j = i
  · subst hji
    rw [Function.update_self] at hadmitted
    exact h hadmitted
  · rwa [Function.update_of_ne hji] at hadmitted

/-! ## A step of a request -/

section Step

variable {t : Passage}

/-- What has to be said of a step. -/
theorem Counting.advance (hP : Counting maxPerMin requests apiKey minute w P)
    (ht : (passage P i).next ⟨e, ((server svc.cfg).step e P.state).1⟩ = t) (hbegun : t.begun = true)
    (hread : t.readAt = (passage P i).readAt ∨
      (passage P i).begun = false ∧ t.readAt = some P.state.tick.clock)
    (hreplied : ∀ err, belongs requests apiKey minute i t = true → t.count ≠ some (.error err))
    (hwindow : IsWindow minute
      (((server svc.cfg).step e P.state).2.redis (windowKey apiKey minute)))
    (hbounded : (room maxPerMin requests apiKey minute (Function.update (passage P) i t) : ℤ) ≤
      max 0 maxPerMin)
    (hcounted : P.state.tick.clock ≤ windowEnd minute →
      (room maxPerMin requests apiKey minute (Function.update (passage P) i t) : ℤ) ≤
        countOf (((server svc.cfg).step e P.state).2.redis (windowKey apiKey minute))) :
    Counting maxPerMin requests apiKey minute w (P.advance (server svc.cfg) i e k) := by
  have hclock : ((server svc.cfg).step e P.state).2.clock = P.state.tick.clock :=
    step_clock svc.cfg P.state e
  have hphase : passage (P.advance (server svc.cfg) i e k) = Function.update (passage P) i t :=
    ht ▸ passage_advance
  refine ⟨hP.spared.step e, clockAt_concat svc.cfg hP.clockAt e _, fun j hj => ?_,
    fun j read hj => ?_, fun j err hj => ?_, hwindow, hphase ▸ hbounded,
    fun hle => hphase ▸ hcounted (hclock ▸ hle)⟩
  · rw [hphase] at hj ⊢
    by_cases hji : j = i
    · rw [hji, Function.update_self, hbegun] at hj
      cases hj
    · rw [Function.update_of_ne hji] at hj ⊢
      obtain ⟨harrival, hcount⟩ := hP.unbegun j hj
      refine ⟨?_, hcount⟩
      change arrivalMinute w (P.log ++ [(i, _)]) j = none
      rw [arrivalMinute_concat, harrival, if_neg (Ne.symm hji)]
      rfl
  · change read ≤ ((server svc.cfg).step e P.state).2.clock ∧
      arrivalMinute w (P.log ++ [(i, _)]) j = some (clockMinute read)
    rw [hclock, arrivalMinute_concat]
    have hold (hsame : (passage P j).readAt = some read) : read ≤ P.state.tick.clock ∧
        (arrivalMinute w P.log j).or
          (if i = j then some (clockMinute (w.clockAt P.log.length)) else none) =
            some (clockMinute read) := by
      obtain ⟨hle, harrival⟩ := hP.read j read hsame
      rw [harrival]
      exact ⟨hle.trans P.state.clock_le_tick, rfl⟩
    rw [hphase] at hj
    by_cases hji : j = i
    · subst hji
      rw [Function.update_self] at hj
      rcases hread with hsame | ⟨hnot, hnew⟩
      · exact hold (hsame.symm.trans hj)
      · obtain rfl : P.state.tick.clock = read := Option.some.inj (hnew.symm.trans hj)
        rw [(hP.unbegun j hnot).1, if_pos rfl, hP.time]
        exact ⟨le_rfl, rfl⟩
    · rw [Function.update_of_ne hji] at hj
      exact hold hj
  · rw [hphase] at hj ⊢
    by_cases hji : j = i
    · subst hji
      rw [Function.update_self] at hj ⊢
      exact hreplied err hj
    · rw [Function.update_of_ne hji] at hj ⊢
      exact hP.replied j err hj

/-- A step that does not count the request, and leaves the counter alone. -/
theorem Counting.quiet (hP : Counting maxPerMin requests apiKey minute w P)
    (ht : (passage P i).next ⟨e, ((server svc.cfg).step e P.state).1⟩ = t) (hbegun : t.begun = true)
    (hread : t.readAt = (passage P i).readAt ∨
      (passage P i).begun = false ∧ t.readAt = some P.state.tick.clock)
    (hcount : t.count = (passage P i).count)
    (hwindow : IsWindow minute
      (((server svc.cfg).step e P.state).2.redis (windowKey apiKey minute)))
    (hredis : P.state.tick.clock ≤ windowEnd minute →
      countOf (((server svc.cfg).step e P.state).2.redis (windowKey apiKey minute)) =
        countOf (P.state.redis (windowKey apiKey minute))) :
    Counting maxPerMin requests apiKey minute w (P.advance (server svc.cfg) i e k) := by
  -- either the request has not been counted, or it belongs to the same minute as before
  have hsame : (passage P i).count = none ∨
      belongs requests apiKey minute i t = belongs requests apiKey minute i (passage P i) := by
    rcases hread with hread | ⟨hnot, -⟩
    · exact .inr (by rw [belongs, belongs, hread])
    · exact .inl (hP.unbegun i hnot).2
  have hroom : room maxPerMin requests apiKey minute (Function.update (passage P) i t) ≤
      room maxPerMin requests apiKey minute (passage P) := by
    refine room_update_le_of fun hadmitted => ?_
    rw [admitted, hcount] at hadmitted
    rcases hsame with hnone | hsame
    · rw [hnone, Bool.and_false] at hadmitted
      cases hadmitted
    · rwa [hsame] at hadmitted
  refine hP.advance ht hbegun hread (fun err hbelongs => ?_) hwindow
    ((Int.ofNat_le.2 hroom).trans hP.bounded) fun hle => ?_
  · rw [hcount]
    rcases hsame with hnone | hsame
    · rw [hnone]
      nofun
    · exact hP.replied i err (hsame.symm.trans hbelongs)
  · rw [hredis hle]
    exact (Int.ofNat_le.2 hroom).trans (hP.counted (P.state.clock_le_tick.trans hle))

/-- The counter is given its time to live. -/
theorem Counting.expire (hP : Counting maxPerMin requests apiKey minute w P) {key : String}
    {k : Except RedisErr Unit → ServerProg Admission} (hcounts : (passage P i).CountsOn h key) :
    Counting maxPerMin requests apiKey minute w
      (P.advance (server svc.cfg) i (.redis (.expire key 120000000000)) k) := by
  obtain ⟨read, hread, hkey⟩ := hcounts
  by_cases hsame : windowKey apiKey minute = key
  · subst hsame
    obtain ⟨-, rfl⟩ := windowKey_inj hkey
    by_cases hrefused : P.state.next.fault.isRefused = true
    · have hredis := @Spares.redis_of_refused svc.cfg _ _ _ hP.spared rfl _
        (.expire (windowKey apiKey (clockMinute read)) 120000000000) hrefused
      exact hP.quiet rfl rfl (.inl rfl) rfl (hredis ▸ hP.window) fun _ => by rw [hredis]
    · have hredis : ((server svc.cfg).step
          (.redis (.expire (windowKey apiKey (clockMinute read)) 120000000000)) P.state).2.redis
            (windowKey apiKey (clockMinute read)) =
          (P.state.redis.live P.state.tick.clock (windowKey apiKey (clockMinute read))).map
            fun found => { found with expires := some (P.state.tick.clock + 120000000000) } :=
        @Spares.redis_of_executed svc.cfg _ _ hP.spared _
          (.expire (windowKey apiKey (clockMinute read)) 120000000000) rfl hrefused
      have hend : windowEnd (clockMinute read) ≤ P.state.tick.clock + 120000000000 :=
        (windowEnd_le read).trans (Int.add_le_add_right
          ((hP.read i read hread).1.trans P.state.clock_le_tick) _)
      refine hP.quiet rfl rfl (.inl rfl) rfl ?_ fun hle => ?_
      · rw [hredis]
        exact (hP.window.live_isWindow _).expire hend
      · rw [hredis, countOf_withExpiry, hP.window.live hle]
  · have hredis := @Spares.redis_of_ne svc.cfg _ _ _ hP.spared rfl _
      (.expire key 120000000000) hsame
    exact hP.quiet rfl rfl (.inl rfl) rfl (hredis ▸ hP.window) fun _ => by rw [hredis]

/-- A request is counted. -/
theorem Counting.incr (hP : Counting maxPerMin requests apiKey minute w P) {key : String}
    {k : Except RedisErr ℤ → ServerProg Admission} (hi : requests[i]? = some h)
    (hcounts : (passage P i).CountsOn h key)
    (hprompt : Prompt (windowKey apiKey minute) P i (.redis (.incr key))) :
    Counting maxPerMin requests apiKey minute w
      (P.advance (server svc.cfg) i (.redis (.incr key)) k) := by
  obtain ⟨read, hread, hkey⟩ := hcounts
  by_cases hsame : windowKey apiKey minute = key
  · subst hsame
    obtain ⟨-, rfl⟩ := windowKey_inj hkey
    obtain ⟨hfault, hle⟩ := hprompt rfl
    have hle := hle read hread
    have hexecuted : P.state.next.fault.isRefused ≠ true := by
      rw [hfault]
      exact Bool.false_ne_true
    have hredis : ((server svc.cfg).step
        (.redis (.incr (windowKey apiKey (clockMinute read)))) P.state).2.redis
          (windowKey apiKey (clockMinute read)) =
        ((RedisCmd.incr (windowKey apiKey (clockMinute read))).reply P.state.tick.clock
          (P.state.redis (windowKey apiKey (clockMinute read)))).2 := by
      have hkept := @Spares.redis_of_executed svc.cfg _ _ hP.spared _
        (.incr (windowKey apiKey (clockMinute read))) rfl hexecuted
      rwa [RedisCmd.key, hP.window.live hle] at hkept
    have hreply : ((server svc.cfg).step
        (.redis (.incr (windowKey apiKey (clockMinute read)))) P.state).1 =
          .ok (countOf (P.state.redis (windowKey apiKey (clockMinute read))) + 1) := by
      rw [← reply_incr_val hP.window.isCount P.state.tick.clock
        (windowKey apiKey (clockMinute read)), ← hP.window.live hle, ← hP.spared.live_tick rfl]
      exact step_redis_val hfault _
    obtain ⟨hwindow, hcount⟩ := hP.window.incr P.state.tick.clock
      (windowKey apiKey (clockMinute read))
    have hroom := hP.counted (P.state.clock_le_tick.trans hle)
    refine hP.advance (t := ⟨true, (passage P i).readAt,
      some (.ok (countOf (P.state.redis (windowKey apiKey (clockMinute read))) + 1))⟩)
      (by rw [hreply]; rfl) rfl (.inl rfl) (fun _ _ hc => by cases hc) (hredis ▸ hwindow) ?_ fun _ => ?_
    · by_cases hfull : countOf (P.state.redis (windowKey apiKey (clockMinute read))) + 1 ≤ maxPerMin
      · have hmore := @room_update_le maxPerMin requests apiKey (clockMinute read) i (passage P)
          ⟨true, (passage P i).readAt,
            some (.ok (countOf (P.state.redis (windowKey apiKey (clockMinute read))) + 1))⟩
        refine le_max_of_le_right ?_
        omega
      · have hsame := @room_update_le_of maxPerMin requests apiKey (clockMinute read) i (passage P)
          ⟨true, (passage P i).readAt,
            some (.ok (countOf (P.state.redis (windowKey apiKey (clockMinute read))) + 1))⟩
          (by simp [admitted, hfull])
        exact (Int.ofNat_le.2 hsame).trans hP.bounded
    · have hmore := @room_update_le maxPerMin requests apiKey (clockMinute read) i (passage P)
        ⟨true, (passage P i).readAt,
          some (.ok (countOf (P.state.redis (windowKey apiKey (clockMinute read))) + 1))⟩
      rw [hredis, hcount]
      omega
  · have hredis := @Spares.redis_of_ne svc.cfg _ _ _ hP.spared rfl _ (.incr key) hsame
    -- the request belongs to another counter
    have hother (count : Option (Except RedisErr ℤ)) :
        belongs requests apiKey minute i ⟨true, (passage P i).readAt, count⟩ = false := by
      by_contra hbelongs
      simp only [belongs, hi, hread, Bool.not_eq_false, Bool.and_eq_true, Option.any_some,
        decide_eq_true_eq] at hbelongs
      rw [hbelongs.1, hbelongs.2] at hkey
      exact hsame hkey.symm
    have hroom := @room_update_le_of maxPerMin requests apiKey minute i (passage P)
      ⟨true, (passage P i).readAt, some ((server svc.cfg).step (.redis (.incr key)) P.state).1⟩
      (by rw [admitted, hother, Bool.false_and]; exact fun hc => by cases hc)
    refine hP.advance rfl rfl (.inl rfl) (fun err hbelongs => ?_) (hredis ▸ hP.window)
      ((Int.ofNat_le.2 hroom).trans hP.bounded) fun hle => ?_
    · cases (hother _).symm.trans hbelongs
    · rw [hredis]
      exact (Int.ofNat_le.2 hroom).trans (hP.counted (P.state.clock_le_tick.trans hle))

/-- **A step of a request** keeps the state of the counter. -/
theorem Counting.step (hP : Counting maxPerMin requests apiKey minute w P)
    (hi : requests[i]? = some h) (hallows : (passage P i).Allows h e)
    (hprompt : Prompt (windowKey apiKey minute) P i e) :
    Counting maxPerMin requests apiKey minute w (P.advance (server svc.cfg) i e k) := by
  cases e with
  | now =>
    have hredis : ((server svc.cfg).step .now P.state).2.redis (windowKey apiKey minute) =
        P.state.redis (windowKey apiKey minute) := hP.spared.tick rfl
    cases hbegun : (passage P i).begun with
    | true =>
      exact hP.quiet (t := passage P i) (if_pos hbegun) hbegun (.inl rfl) rfl
        (hredis ▸ hP.window) fun _ => by rw [hredis]
    | false =>
      refine hP.quiet (t := ⟨true, some P.state.tick.clock, (passage P i).count⟩) ?_ rfl
        (.inr ⟨hbegun, rfl⟩) rfl (hredis ▸ hP.window) fun _ => by rw [hredis]
      exact if_neg (by rw [hbegun]; nofun)
  | db q =>
    have hredis : ((server svc.cfg).step (.db q) P.state).2.redis (windowKey apiKey minute) =
        P.state.redis (windowKey apiKey minute) := hP.spared.tick rfl
    exact hP.quiet rfl rfl (.inl rfl) rfl (hredis ▸ hP.window) fun _ => by rw [hredis]
  | redis e =>
    cases e with
    | incr key => exact hP.incr hi hallows hprompt
    | expire key ttl =>
      obtain ⟨hcounts, rfl⟩ := hallows
      exact hP.expire hcounts
    | _ => exact hallows.elim
  | _ => exact hallows.elim

end Step

/-- What the counter says of the requests that have passed. -/
theorem Counting.withinRate (hP : Counting maxPerMin requests apiKey minute w P)
    (hkey : apiKey ≠ "")
    (hheaders : ∀ h ∈ requests, h.bearer = some apiKey → extractAPIKey h = apiKey)
    (hends : ∀ i h r, requests[i]? = some h → P.threads[i]? = some (.ret r) →
      Passage.Ends maxPerMin h (passage P i) r) :
    WithinRate maxPerMin requests w apiKey minute P := by
  refine le_trans (Int.ofNat_le.2 (Finset.card_le_card fun i hi => ?_)) hP.bounded
  obtain ⟨hlt, hpassed⟩ := Finset.mem_filter.1 hi
  refine Finset.mem_filter.2 ⟨hlt, ?_⟩
  obtain ⟨hauth, harrival⟩ := Bool.and_eq_true_iff.1 hpassed
  unfold authenticated at hauth
  split at hauth
  · rename_i headers key h hret hi
    have hh := hheaders h (List.mem_of_getElem? hi) (of_decide_eq_true hauth)
    obtain ⟨⟨t, hread⟩, reply, hcount, hfits⟩ := hends i h _ hi hret key rfl (hh ▸ hkey)
    have hminute : clockMinute t = minute :=
      Option.some.inj ((hP.read i t hread).2.symm.trans (of_decide_eq_true harrival))
    have hbelongs : belongs requests apiKey minute i (passage P i) = true := by
      simp [belongs, hi, hh, hread, hminute]
    cases reply with
    | error err => exact absurd hcount (hP.replied i err hbelongs)
    | ok n => simp [admitted, hbelongs, hcount, hfits n rfl]
  · cases hauth

end Run

/-! ## Runs -/

/-- **A key keeps to its rate**, in runs in which every request that it authenticates is to be counted
under it, and is counted promptly. -/
theorem withinRate_run (svc : DeviceServices) (maxPerMin : ℤ) (requests : List KeyHeaders)
    (apiKey : String) (minute : ℤ) (w : World) (sched : List ℕ) (hkey : apiKey ≠ "")
    (hheaders : ∀ h ∈ requests, h.bearer = some apiKey → extractAPIKey h = apiKey)
    (hw : Spares {windowKey apiKey minute} w)
    (hwindow : IsWindow minute (w.redis (windowKey apiKey minute)))
    (hsched : Pool.EachStep (server svc.cfg) (Pool.Meets (Prompt (windowKey apiKey minute)))
      (received svc maxPerMin requests w) sched) :
    WithinRate maxPerMin requests w apiKey minute
      ((received svc maxPerMin requests w).run (server svc.cfg) sched) := by
  have hstart : Counting maxPerMin requests apiKey minute w (received svc maxPerMin requests w) := by
    have hnone (i : ℕ) : passage (received svc maxPerMin requests w) i = .start := rfl
    have hroom : room maxPerMin requests apiKey minute
        (passage (received svc maxPerMin requests w)) = 0 := by
      refine Finset.card_eq_zero.2 (Finset.filter_eq_empty_iff.2 fun i _ => ?_)
      simp [hnone, admitted, Passage.start]
    refine ⟨hw, fun n => by simp [received, Pool.start], fun i _ => ⟨rfl, rfl⟩, fun i t => nofun,
      fun i err _ => nofun, hwindow, hroom ▸ le_max_left _ _, fun _ => ?_⟩
    rw [hroom]
    exact hwindow.isCount.countOf_nonneg
  have hrun := Pool.run_phases_inv (phased_admission svc maxPerMin) hstart hsched
    fun P i h β e k hi hthread hallows _ hP hG => hP.step hi hallows (Pool.meets_of_act hG hthread)
  exact hrun.withinRate hkey hheaders fun i h r hi hret =>
    (phased_admission svc maxPerMin).returned hi hret

/-! ## A client with two headers -/

/-- A request with the key of the only phone. -/
def plainRequest : KeyHeaders := ⟨"", "Bearer hash-1"⟩

/-- The same with something else in the other header. -/
def disguised (xAPIKey : String) : KeyHeaders := ⟨xAPIKey, "Bearer hash-1"⟩

/-- Two requests of one client, who is allowed one a minute. -/
theorem disguised_unlimited : ¬ WithinRate 1 [disguised "a", disguised "b"] (Dispatch.onePhone [])
    "hash-1" 0 ((received plainDeviceServices 1 [disguised "a", disguised "b"]
      (Dispatch.onePhone [])).run (server .default) [0, 0, 0, 0, 1, 1, 1, 1]) := by
  decide

/-- Of two plain requests one passes. -/
theorem plainRequest_withinRate : WithinRate 1 [plainRequest, plainRequest] (Dispatch.onePhone [])
    "hash-1" 0 ((received plainDeviceServices 1 [plainRequest, plainRequest]
      (Dispatch.onePhone [])).run (server .default) [0, 1, 0, 1, 0, 0, 1, 1]) :=
  withinRate_run plainDeviceServices 1 [plainRequest, plainRequest] "hash-1" 0
    (Dispatch.onePhone []) [0, 1, 0, 1, 0, 0, 1, 1] (by decide) (by decide)
    (fun _ ht => absurd ht List.not_mem_nil) nofun (by decide)

end AeroxeBee.Api
