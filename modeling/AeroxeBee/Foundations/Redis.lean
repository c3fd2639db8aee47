import AeroxeBee.Foundations.Json
import Mathlib.Logic.Function.Basic

/-!
# A store of keys that expire

The part of Redis that holds strings and sets under keys with a time to live, and the ways in
which a command sent to a remote server can fail.

* `Fault.apply`: a command that is executed, refused, or executed without its reply arriving;
* `RedisCmd.run`: what a command does to the keys, and its reply;
* `RedisCmd.run_frame`: a command changes no key but its own;
* `RedisCmd.run_congr`: what a command does depends on no key but its own.
-/

namespace Foundations

/-! ## Commands that can fail -/

/-- Why a Redis command has no result: there is nothing to return, the command was not executed,
or it was executed and its reply did not arrive. The code tells only the first from the others. -/
inductive RedisErr where
  | nil
  | refused (text : String)
  | lost (text : String)
deriving DecidableEq

/-- The text of the error. -/
def RedisErr.text : RedisErr → String
  | nil => "redis: nil"
  | refused text => text
  | lost text => text

/-- The command was executed, for all that its reply says. -/
def executed {α : Type} : Except RedisErr α → Bool
  | .error (.refused _) => false
  | _ => true

/-- Whether a command to a remote server fails, and before or after its execution. -/
inductive Fault where
  | none
  | refused (text : String)
  | lost (text : String)
deriving DecidableEq

/-- The command is not executed. -/
def Fault.isRefused : Fault → Bool
  | refused _ => true
  | _ => false

/-- Execute a command that is subject to a fault. -/
def Fault.apply {ε α σ : Type} (fault : Fault) (refused lost : String → ε)
    (run : σ → Except ε α × σ) (s : σ) : Except ε α × σ :=
  match fault with
  | .none => run s
  | .refused text => (.error (refused text), s)
  | .lost text => (.error (lost text), (run s).2)

/-- A faulty command leaves the state as it was or as its execution leaves it. -/
theorem Fault.apply_snd {ε α σ : Type} (fault : Fault) (refused lost : String → ε)
    (run : σ → Except ε α × σ) (s : σ) :
    (fault.apply refused lost run s).2 = s ∨ (fault.apply refused lost run s).2 = (run s).2 := by
  cases fault with
  | none => exact .inr rfl
  | refused text => exact .inl rfl
  | lost text => exact .inr rfl

/-- Two executions that agree still agree under the same fault. -/
theorem Fault.apply_agrees {ε α σ : Type} {R : σ → σ → Prop} (fault : Fault)
    (refused lost : String → ε) {run run' : σ → Except ε α × σ} {s s' : σ} (hs : R s s')
    (hrun : (run s).1 = (run' s').1 ∧ R (run s).2 (run' s').2) :
    (fault.apply refused lost run s).1 = (fault.apply refused lost run' s').1 ∧
      R (fault.apply refused lost run s).2 (fault.apply refused lost run' s').2 := by
  cases fault with
  | none => exact hrun
  | refused text => exact ⟨rfl, hs⟩
  | lost text => exact ⟨rfl, hrun.2⟩

/-! ## Keys -/

/-- What a key holds. -/
inductive RedisValue where
  | text (cs : List Char)
  | set (members : List String)
deriving DecidableEq

/-- What is stored under a key: a value, and the time until which it exists if there is one. -/
structure RedisEntry where
  value : RedisValue
  expires : Option ℤ
deriving DecidableEq

/-- The keys of a server. -/
abbrev Keyspace := String → Option RedisEntry

namespace Keyspace

/-- The entry exists at the given time. -/
def fresh (now : ℤ) (entry : RedisEntry) : Bool :=
  match entry.expires with
  | none => true
  | some t => now ≤ t

/-- What a key holds at the given time. -/
def live (K : Keyspace) (now : ℤ) (key : String) : Option RedisEntry := (K key).filter (fresh now)

/-- Store an entry under a key, or remove the key. -/
def put (K : Keyspace) (key : String) (entry : Option RedisEntry) : Keyspace :=
  Function.update K key entry

@[simp] theorem put_self (K : Keyspace) (key : String) (entry : Option RedisEntry) :
    K.put key entry key = entry := by
  simp [put]

theorem put_of_ne (K : Keyspace) {key key' : String} (h : key' ≠ key)
    (entry : Option RedisEntry) : K.put key entry key' = K key' := by
  simp [put, h]

/-- What still exists later exists now. -/
theorem fresh_of_le {entry : RedisEntry} {now later : ℤ} (hle : now ≤ later)
    (h : fresh later entry = true) : fresh now entry = true := by
  unfold fresh at h ⊢
  cases hexp : entry.expires with
  | none => rfl
  | some t =>
    simp only [hexp, decide_eq_true_eq] at h ⊢
    omega

/-- What has expired does not come back. -/
theorem live_eq_none_of_le {K : Keyspace} {key : String} {now later : ℤ} (hle : now ≤ later)
    (h : K.live now key = none) : K.live later key = none := by
  unfold live at h ⊢
  rw [Option.filter_eq_none_iff] at h ⊢
  exact fun entry hentry hfresh => h entry hentry (fresh_of_le hle hfresh)

/-- What is found now is found later as long as it exists. -/
theorem filter_live {now later : ℤ} (hle : now ≤ later) (K : Keyspace) (key : String) :
    (K.live now key).filter (fresh later) = K.live later key := by
  unfold live
  cases hentry : K key with
  | none => rfl
  | some entry =>
    by_cases hlater : fresh later entry = true
    · simp [Option.filter, fresh_of_le hle hlater]
    · by_cases hnow : fresh now entry = true <;> simp [Option.filter, hnow, hlater]

theorem live_congr {K K' : Keyspace} {key : String} (h : K key = K' key) (now : ℤ) :
    K.live now key = K'.live now key := by
  rw [live, live, h]

end Keyspace

/-! ## Commands -/

/-- Commands on one key. A time to live is in nanoseconds. -/
inductive RedisCmd : Type → Type
  | get (key : String) : RedisCmd (List Char)
  /-- Without a time to live the key stays until it is removed. -/
  | set (key : String) (value : List Char) (ttl : Option ℤ) : RedisCmd Unit
  | del (key : String) : RedisCmd Unit
  /-- How many of the keys exist, of the one given. -/
  | keyExists (key : String) : RedisCmd ℕ
  | incr (key : String) : RedisCmd ℤ
  /-- A key whose time to live is not positive is removed. -/
  | expire (key : String) (ttl : ℤ) : RedisCmd Unit
  | sAdd (key member : String) : RedisCmd Unit
  | sCard (key : String) : RedisCmd ℕ
  | sIsMember (key member : String) : RedisCmd Bool

namespace RedisCmd

variable {β : Type}

/-- The time to live that a client asks for; one that is not positive stands for none. -/
def expiration (ttl : ℤ) : Option ℤ := if 0 < ttl then some ttl else none

/-- The key of a command. -/
def key : RedisCmd β → String
  | get key | set key _ _ | del key | keyExists key | incr key | expire key _ => key
  | sAdd key _ | sCard key | sIsMember key _ => key

/-- The error of a command on a key that holds a value of another type. -/
def wrongType : RedisErr :=
  .refused "WRONGTYPE Operation against a key holding the wrong kind of value"

/-- The error of a command that counts with a text that is no integer. -/
def notInteger : RedisErr := .refused "ERR value is not an integer or out of range"

/-- The reply of a command and what it leaves under its key, given what the key holds. -/
def reply (now : ℤ) (entry : Option RedisEntry) :
    {β : Type} → RedisCmd β → Except RedisErr β × Option RedisEntry
  | _, get _ =>
    match entry with
    | none => (.error .nil, entry)
    | some ⟨.text cs, _⟩ => (.ok cs, entry)
    | some _ => (.error wrongType, entry)
  | _, set _ value ttl => (.ok (), some ⟨.text value, ttl.map (now + ·)⟩)
  | _, del _ => (.ok (), none)
  | _, keyExists _ => (.ok (if entry.isSome then 1 else 0), entry)
  | _, incr _ =>
    match entry with
    | none => (.ok 1, some ⟨.text (Json.intLit 1), none⟩)
    | some ⟨.text cs, expires⟩ =>
      match Json.parseInt cs with
      | none => (.error notInteger, entry)
      | some n => (.ok (n + 1), some ⟨.text (Json.intLit (n + 1)), expires⟩)
    | some _ => (.error wrongType, entry)
  | _, expire _ ttl =>
    (.ok (), if ttl ≤ 0 then none else entry.map fun e => { e with expires := some (now + ttl) })
  | _, sAdd _ member =>
    match entry with
    | none => (.ok (), some ⟨.set [member], none⟩)
    | some ⟨.set members, expires⟩ => (.ok (), some ⟨.set (members.insert member), expires⟩)
    | some _ => (.error wrongType, entry)
  | _, sCard _ =>
    match entry with
    | none => (.ok 0, entry)
    | some ⟨.set members, _⟩ => (.ok members.length, entry)
    | some _ => (.error wrongType, entry)
  | _, sIsMember _ member =>
    match entry with
    | none => (.ok false, entry)
    | some ⟨.set members, _⟩ => (.ok (members.contains member), entry)
    | some _ => (.error wrongType, entry)

/-- What a command does to the keys. -/
def run (now : ℤ) (e : RedisCmd β) (K : Keyspace) : Except RedisErr β × Keyspace :=
  let r := e.reply now (K.live now e.key)
  (r.1, K.put e.key r.2)

/-- What a command leaves under its key. -/
theorem run_self (now : ℤ) (e : RedisCmd β) (K : Keyspace) :
    (e.run now K).2 e.key = (e.reply now (K.live now e.key)).2 :=
  K.put_self e.key _

/-- A lookup leaves what it found, and finds nothing exactly when there is nothing. -/
theorem reply_get (now : ℤ) (entry : Option RedisEntry) (key : String) :
    ((get key).reply now entry).2 = entry ∧
      (((get key).reply now entry).1 = .error .nil ↔ entry = none) := by
  unfold reply
  rcases entry with _ | ⟨cs | members, expires⟩
  · exact ⟨rfl, iff_of_true rfl rfl⟩
  · exact ⟨rfl, iff_of_false nofun nofun⟩
  · exact ⟨rfl, iff_of_false nofun nofun⟩

/-- The command only looks. -/
def reads : RedisCmd β → Bool
  | get _ | keyExists _ | sCard _ | sIsMember _ _ => true
  | _ => false

/-- A command that only looks leaves what it found. -/
theorem reply_of_reads {e : RedisCmd β} (h : e.reads = true) (now : ℤ)
    (entry : Option RedisEntry) : (e.reply now entry).2 = entry := by
  cases e with
  | get | sCard | sIsMember =>
    unfold reply
    rcases entry with _ | ⟨cs | members, expires⟩ <;> rfl
  | keyExists => rfl
  | _ => cases h

/-- **A command changes no key but its own.** -/
theorem run_frame (now : ℤ) (e : RedisCmd β) (K : Keyspace) {key' : String} (h : key' ≠ e.key) :
    (e.run now K).2 key' = K key' :=
  K.put_of_ne h _

/-- **A command depends on no key but its own.** -/
theorem run_congr (now : ℤ) (e : RedisCmd β) {K K' : Keyspace} (h : K e.key = K' e.key) :
    (e.run now K).1 = (e.run now K').1 ∧ (e.run now K).2 e.key = (e.run now K').2 e.key := by
  simp only [run, Keyspace.live_congr h, Keyspace.put_self, and_self]

end RedisCmd

end Foundations
