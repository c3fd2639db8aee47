import AeroxeBee.Worker.Queue

/-!
# What one pass of `dequeue` does

`Passed` describes the commands by which a pass goes over lanes without returning anything.
`follows_dequeue` is the inversion lemma of `dequeue`: a pass that ended has passed the lanes
before the one at which it stopped, and its last command was the read of that lane. Nothing is
assumed about the replies, so the lemma holds whatever other routines do between the commands.
-/

namespace AeroxeBee.Worker

open Foundations

variable (cfg : QueueConfig) (group consumer : String)

/-- The commands before the read of a lane that is not skipped. -/
def Opening (lane : PriorityLane) (evs : List (Event WorkerCmd)) : Prop :=
  if lane = .marketing then
    ∃ cnt : ℤ, cfg.antiStarvationRatio ≤ cnt ∧ evs = [⟨.getCnt, cnt⟩, ⟨.setCnt 0, ()⟩]
  else if lane = .otp then evs = []
  else evs = [⟨.setCnt 0, ()⟩]

/-- The pass went over these lanes and returned nothing: each was skipped, or read and found
empty, or read and found to hold an entry that is not a message, which was acknowledged. -/
inductive Passed : List PriorityLane → List (Event WorkerCmd) → Prop
  | nil : Passed [] []
  | skip {lanes : List PriorityLane} {evs : List (Event WorkerCmd)} {cnt : ℤ} (cnt' : ℤ)
      (h : cnt < cfg.antiStarvationRatio) (rest : Passed lanes evs) :
      Passed (.marketing :: lanes)
        (⟨.getCnt, cnt⟩ :: ⟨.getCnt, cnt'⟩ :: ⟨.setCnt (cnt' + 1), ()⟩ :: evs)
  | empty {lane : PriorityLane} {lanes : List PriorityLane} {op evs : List (Event WorkerCmd)}
      {reply : Except RedisErr (List (ℕ × Fields))} (hop : Opening cfg lane op)
      (h : reply = .error .nil ∨ reply = .ok []) (rest : Passed lanes evs) :
      Passed (lane :: lanes)
        (op ++ ⟨.xReadGroup group consumer (cfg.stream lane), reply⟩ :: evs)
  | foreign {lane : PriorityLane} {lanes : List PriorityLane} {op evs : List (Event WorkerCmd)}
      {id : ℕ} {values : Fields} {more : List (ℕ × Fields)} (acked : Except RedisErr Unit)
      (hop : Opening cfg lane op) (h : decode values = none) (rest : Passed lanes evs) :
      Passed (lane :: lanes)
        (op ++ ⟨.xReadGroup group consumer (cfg.stream lane), .ok ((id, values) :: more)⟩ ::
          ⟨.xAck (cfg.stream lane) group id, acked⟩ :: evs)

/-- The reply of an event that is a read. -/
def readReply : Event WorkerCmd → Option (Except RedisErr (List (ℕ × Fields)))
  | ⟨.xReadGroup _ _ _, reply⟩ => some reply
  | _ => none

/-- How a pass can end: over all lanes, at the failure of a read, or with a message. -/
inductive Ended (lanes : List PriorityLane) (evs : List (Event WorkerCmd)) :
    Except String (Option Delivery) → Prop
  | nothing (h : Passed cfg group consumer lanes evs) : Ended lanes evs (.ok none)
  | failed {pre post : List PriorityLane} {lane : PriorityLane}
      {before op : List (Event WorkerCmd)} {e : RedisErr} (hlanes : lanes = pre ++ lane :: post)
      (hpre : Passed cfg group consumer pre before) (hop : Opening cfg lane op) (he : e ≠ .nil)
      (hevs : evs = before ++ (op ++
        [⟨.xReadGroup group consumer (cfg.stream lane), .error e⟩])) :
      Ended lanes evs (.error ("xreadgroup " ++ cfg.stream lane ++ ": " ++ e.text))
  | found {pre post : List PriorityLane} {d : Delivery} {before op : List (Event WorkerCmd)}
      {values : Fields} {more : List (ℕ × Fields)} (hlanes : lanes = pre ++ d.lane :: post)
      (hpre : Passed cfg group consumer pre before) (hop : Opening cfg d.lane op)
      (hmsg : decode values = some d.msg)
      (hevs : evs = before ++ (op ++
        [⟨.xReadGroup group consumer (cfg.stream d.lane), .ok ((d.id, values) :: more)⟩])) :
      Ended lanes evs (.ok (some d))

variable {cfg group consumer}

theorem Opening.reads {lane : PriorityLane} {op : List (Event WorkerCmd)}
    (h : Opening cfg lane op) : op.filterMap readReply = [] := by
  unfold Opening at h
  split_ifs at h
  · obtain ⟨cnt, -, rfl⟩ := h
    rfl
  · subst h
    rfl
  · subst h
    rfl

/-- A pass in which no entry was foreign found nothing in the lanes it read. -/
theorem Passed.found_nothing {lanes : List PriorityLane} {evs : List (Event WorkerCmd)}
    (h : Passed cfg group consumer lanes evs)
    (hdec : ∀ name id values more,
      ⟨.xReadGroup group consumer name, .ok ((id, values) :: more)⟩ ∈ evs → decode values ≠ none) :
    ∀ reply ∈ evs.filterMap readReply, reply = .error .nil ∨ reply = .ok [] := by
  induction h with
  | nil => simp
  | skip cnt' hcnt _ ih =>
    have := ih fun name id values more hmem => hdec name id values more (by simp [hmem])
    simpa [readReply] using this
  | @empty lane lanes op evs reply hop hreply _ ih =>
    have := ih fun name id values more hmem => hdec name id values more (by simp [hmem])
    simpa [hop.reads, readReply, hreply] using this
  | foreign acked hop hnone _ _ =>
    exact absurd hnone (hdec _ _ _ _ (List.mem_append_right _ List.mem_cons_self))

/-- A pass that goes over one more lane first ends in the same way. -/
theorem Ended.prepend {lane : PriorityLane} {lanes : List PriorityLane}
    {f evs : List (Event WorkerCmd)} {r : Except String (Option Delivery)}
    (hf : ∀ {pre : List PriorityLane} {evs : List (Event WorkerCmd)},
      Passed cfg group consumer pre evs → Passed cfg group consumer (lane :: pre) (f ++ evs))
    (h : Ended cfg group consumer lanes evs r) :
    Ended cfg group consumer (lane :: lanes) (f ++ evs) r := by
  cases h with
  | nothing h => exact .nothing (hf h)
  | failed hlanes hpre hop he hevs =>
    subst hlanes hevs
    exact .failed (List.cons_append ..).symm (hf hpre) hop he (List.append_assoc ..).symm
  | found hlanes hpre hop hmsg hevs =>
    subst hlanes hevs
    exact .found (List.cons_append ..).symm (hf hpre) hop hmsg (List.append_assoc ..).symm

/-- The read of a lane and what the pass makes of the reply. -/
theorem follows_readLane {lane : PriorityLane} {lanes : List PriorityLane}
    (ih : ∀ {evs : List (Event WorkerCmd)} {r : Except String (Option Delivery)},
      (dequeue cfg group consumer lanes).Follows evs (.ret r) →
        Ended cfg group consumer lanes evs r)
    {op evs : List (Event WorkerCmd)} {r : Except String (Option Delivery)}
    (hop : Opening cfg lane op)
    (h : (readLane cfg group consumer lane (dequeue cfg group consumer lanes)).Follows evs
      (.ret r)) :
    Ended cfg group consumer (lane :: lanes) (op ++ evs) r := by
  simp only [readLane, Prog.call_bind, Prog.pure_eq] at h
  obtain ⟨reply, rest, rfl, hk⟩ := Prog.follows_act.1 h
  have hempty : ∀ {reply : Except RedisErr (List (ℕ × Fields))},
      reply = .error .nil ∨ reply = .ok [] →
        (dequeue cfg group consumer lanes).Follows rest (.ret r) →
          Ended cfg group consumer (lane :: lanes)
            (op ++ ⟨.xReadGroup group consumer (cfg.stream lane), reply⟩ :: rest) r := by
    intro reply hreply hrest
    rw [List.append_cons]
    refine (ih hrest).prepend fun hpre => ?_
    rw [← List.append_cons]
    exact .empty hop hreply hpre
  rcases reply with e | (_ | ⟨⟨id, values⟩, more⟩)
  · cases e with
    | nil => exact hempty (.inl rfl) hk
    | refused text =>
      obtain ⟨rfl, hr⟩ := Prog.follows_ret.1 hk
      cases hr
      exact .failed (List.nil_append _).symm .nil hop (by simp) rfl
    | lost text =>
      obtain ⟨rfl, hr⟩ := Prog.follows_ret.1 hk
      cases hr
      exact .failed (List.nil_append _).symm .nil hop (by simp) rfl
  · exact hempty (.inr rfl) hk
  · cases hmsg : decode values with
    | none =>
      simp only [hmsg] at hk
      obtain ⟨acked, rest, rfl, hrest⟩ := Prog.follows_act.1 hk
      rw [List.append_cons, List.append_cons]
      refine (ih hrest).prepend fun hpre => ?_
      rw [← List.append_cons, ← List.append_cons]
      exact .foreign acked hop hmsg hpre
    | some msg =>
      simp only [hmsg] at hk
      obtain ⟨rfl, hr⟩ := Prog.follows_ret.1 hk
      cases hr
      exact .found (List.nil_append _).symm .nil hop hmsg rfl

theorem dequeue_marketing (lanes : List PriorityLane) :
    dequeue cfg group consumer (.marketing :: lanes) =
      .act .getCnt fun cnt =>
        if cnt < cfg.antiStarvationRatio then
          .act .getCnt fun cnt => .act (.setCnt (cnt + 1)) fun _ =>
            dequeue cfg group consumer lanes
        else .act (.setCnt 0) fun _ =>
          readLane cfg group consumer .marketing (dequeue cfg group consumer lanes) := by
  have hne : PriorityLane.marketing ≠ PriorityLane.otp := by decide
  simp only [dequeue, if_true, Prog.call_bind, pure_bind, decide_eq_true_eq, hne, ne_eq,
    not_false_eq_true]

theorem dequeue_other {lane : PriorityLane} (hm : lane ≠ .marketing)
    (lanes : List PriorityLane) :
    dequeue cfg group consumer (lane :: lanes) =
      if lane = .otp then readLane cfg group consumer lane (dequeue cfg group consumer lanes)
      else .act (.setCnt 0) fun _ =>
        readLane cfg group consumer lane (dequeue cfg group consumer lanes) := by
  by_cases ho : lane = .otp
  · subst ho
    simp only [dequeue, hm, if_false, pure_bind, Bool.false_eq_true, if_true, ne_eq,
      not_true_eq_false]
  · simp only [dequeue, hm, if_false, pure_bind, ho, Bool.false_eq_true, if_true, ne_eq,
      not_false_eq_true, Prog.call_bind]

/-- **Inversion of `dequeue`**: a pass that returned did so in one of the three ways. -/
theorem follows_dequeue {lanes : List PriorityLane} {evs : List (Event WorkerCmd)}
    {r : Except String (Option Delivery)}
    (h : (dequeue cfg group consumer lanes).Follows evs (.ret r)) :
    Ended cfg group consumer lanes evs r := by
  induction lanes generalizing evs r with
  | nil =>
    obtain ⟨rfl, hr⟩ := Prog.follows_ret.1 h
    cases hr
    exact .nothing .nil
  | cons lane lanes ih =>
    by_cases hm : lane = .marketing
    · subst hm
      rw [dequeue_marketing] at h
      obtain ⟨cnt, rest, rfl, hk⟩ := Prog.follows_act.1 h
      by_cases hcnt : cnt < cfg.antiStarvationRatio
      · rw [if_pos hcnt] at hk
        obtain ⟨cnt', rest, rfl, hset⟩ := Prog.follows_act.1 hk
        obtain ⟨_, rest, rfl, hrest⟩ := Prog.follows_act.1 hset
        exact (ih hrest).prepend (f := [_, _, _]) fun hpre => .skip cnt' hcnt hpre
      · rw [if_neg hcnt] at hk
        obtain ⟨_, rest, rfl, hread⟩ := Prog.follows_act.1 hk
        have hop : Opening cfg .marketing [⟨.getCnt, cnt⟩, ⟨.setCnt 0, ()⟩] := by
          rw [Opening, if_pos rfl]
          exact ⟨cnt, not_lt.1 hcnt, rfl⟩
        exact follows_readLane ih hop hread
    · rw [dequeue_other hm] at h
      by_cases ho : lane = .otp
      · rw [if_pos ho] at h
        have hop : Opening cfg lane [] := by rw [Opening, if_neg hm, if_pos ho]
        exact follows_readLane ih hop h
      · rw [if_neg ho] at h
        obtain ⟨_, rest, rfl, hread⟩ := Prog.follows_act.1 h
        have hop : Opening cfg lane [⟨.setCnt 0, ()⟩] := by rw [Opening, if_neg hm, if_neg ho]
        exact follows_readLane ih hop hread

end AeroxeBee.Worker
