import AeroxeBee.Worker.Moves
import AeroxeBee.Worker.Pass

/-!
# Safety of the queue

Any number of calls of `enqueue` and `dequeue` run concurrently, interleaved command by command
in any way, with faults and trimming. Every stream starts empty, so all entries come from
`enqueue`.

The main result is `queue_safety`: the messages returned from a stream are a subsequence of those
appended to it, so that no entry is returned twice, none out of order and none changed; and a pass
returns an entry of a lane only after every read of an earlier lane found nothing.
-/

namespace AeroxeBee.Worker

open Foundations

/-- A call of one of the two operations. -/
inductive Call where
  | enqueue (lane : PriorityLane) (msg : QueueMessage)
  | dequeue (consumer : String) (lanes : List PriorityLane)

/-- What a call returns. -/
inductive Result where
  | enqueued (r : Except String ℕ)
  | dequeued (r : Except String (Option Delivery))

/-- The program of a call. -/
def Call.prog (cfg : QueueConfig) (group : String) : Call → WorkerProg Result
  | .enqueue lane msg => Result.enqueued <$> Worker.enqueue cfg lane msg
  | .dequeue consumer lanes => Result.dequeued <$> Worker.dequeue cfg group consumer lanes

/-- The calls in progress. -/
abbrev Calls := Pool WorkerCmd World Result

/-! ## What is read off a run -/

/-- The messages that `enqueue` appended to a stream, in the order in which they were appended. -/
def enqueuedOn (calls : List Call) (name : String) (log : List (ℕ × Event WorkerCmd)) :
    List QueueMessage :=
  log.filterMap fun (i, ev) =>
    match (calls[i]? : Option Call) with
    | some (.enqueue _ msg) => if (appendedOn name ev).isSome then some msg else none
    | _ => none

/-- The messages that `dequeue` returned from a stream with the numbers of their entries, in the
order in which they were returned. -/
def returnedFrom (cfg : QueueConfig) (name : String) (done : List (ℕ × Result)) :
    List (QueueMessage × ℕ) :=
  done.filterMap fun (_, r) =>
    match r with
    | .dequeued (.ok (some d)) => if cfg.stream d.lane = name then some (d.msg, d.id) else none
    | _ => none

/-- The entries that the group delivered from a stream. -/
def deliveries (group name : String) (log : List (ℕ × Event WorkerCmd)) : List (Fields × ℕ) :=
  log.filterMap fun (_, ev) => deliveredFrom group name ev

theorem deliveries_concat (group name : String) (log : List (ℕ × Event WorkerCmd)) (i : ℕ)
    (ev : Event WorkerCmd) :
    deliveries group name (log ++ [(i, ev)]) =
      deliveries group name log ++ (deliveredFrom group name ev).toList := by
  cases h : deliveredFrom group name ev <;> simp [deliveries, h]

theorem enqueuedOn_append (calls : List Call) (name : String)
    (l₁ l₂ : List (ℕ × Event WorkerCmd)) :
    enqueuedOn calls name (l₁ ++ l₂) = enqueuedOn calls name l₁ ++ enqueuedOn calls name l₂ :=
  List.filterMap_append

theorem returnedFrom_append (cfg : QueueConfig) (name : String) (l₁ l₂ : List (ℕ × Result)) :
    returnedFrom cfg name (l₁ ++ l₂) = returnedFrom cfg name l₁ ++ returnedFrom cfg name l₂ :=
  List.filterMap_append

/-! ## The commands of a call -/

variable {cfg : QueueConfig} {group : String}

/-- The commands that a call can issue. -/
def Call.Issues (cfg : QueueConfig) (group : String) : Call → ∀ {β : Type}, WorkerCmd β → Prop
  | .enqueue lane msg, _, .xAdd name values _ =>
    cfg.stream lane = name ∧ decode values = some msg
  | .enqueue _ _, _, .now => True
  | .dequeue _ _, _, .getCnt => True
  | .dequeue _ _, _, .setCnt _ => True
  | .dequeue _ _, _, .xReadGroup group' _ _ => group' = group
  | .dequeue _ _, _, .xAck _ _ _ => True
  | _, _, _ => False

theorem enqueue_only (lane : PriorityLane) (msg : QueueMessage) :
    (enqueue cfg lane msg).Only ((Call.enqueue lane msg).Issues cfg group) := by
  unfold enqueue
  cases hs : cfg.stream? lane with
  | none => trivial
  | some name =>
    cases hm : msg.marshal with
    | none => trivial
    | some data =>
      refine ⟨trivial, fun now => ⟨⟨by simp [QueueConfig.stream, hs], ?_⟩, fun reply => ?_⟩⟩
      · simpa [decode] using QueueMessage.unmarshal_marshal hm
      · cases reply <;> trivial

theorem dequeue_only (consumer : String) (all lanes : List PriorityLane) :
    (dequeue cfg group consumer lanes).Only ((Call.dequeue consumer all).Issues cfg group) := by
  induction lanes with
  | nil => trivial
  | cons lane lanes ih =>
    have hread : (readLane cfg group consumer lane (dequeue cfg group consumer lanes)).Only
        ((Call.dequeue consumer all).Issues cfg group) := by
      simp only [readLane, Prog.call_bind, Prog.pure_eq]
      refine ⟨rfl, fun reply => ?_⟩
      rcases reply with (_ | _ | _) | (_ | ⟨⟨id, values⟩, more⟩)
      · exact ih
      · trivial
      · trivial
      · exact ih
      · cases hd : decode values with
        | none =>
          simp only [hd]
          exact ⟨trivial, fun _ => ih⟩
        | some msg =>
          simp only [hd]
          trivial
    by_cases hm : lane = .marketing
    · subst hm
      rw [dequeue_marketing]
      refine ⟨trivial, fun cnt => ?_⟩
      by_cases hcnt : cnt < cfg.antiStarvationRatio
      · simp only [if_pos hcnt]
        exact ⟨trivial, fun _ => ⟨trivial, fun _ => ih⟩⟩
      · simp only [if_neg hcnt]
        exact ⟨trivial, fun _ => hread⟩
    · rw [dequeue_other hm]
      by_cases ho : lane = .otp
      · rw [if_pos ho]
        exact hread
      · rw [if_neg ho]
        exact ⟨trivial, fun _ => hread⟩

/-- The commands of a call are those it can issue. -/
theorem Call.only (call : Call) : (call.prog cfg group).Only (call.Issues cfg group) := by
  cases call with
  | enqueue lane msg => exact (enqueue_only lane msg).bind fun _ => trivial
  | dequeue consumer lanes => exact (dequeue_only consumer lanes lanes).bind fun _ => trivial

/-! ## The invariants of a run -/

/-- The calls, each as a program, about to start. -/
abbrev Calls.start (cfg : QueueConfig) (group : String) (calls : List Call) (w : World) : Calls :=
  Pool.start (calls.map (Call.prog cfg group)) w

variable {calls : List Call}

/-- What has been delivered was appended before, and what has been appended was enqueued. -/
structure Sound (cfg : QueueConfig) (group : String) (calls : List Call) (P : Calls) : Prop where
  served : ∀ name, Stream.Served group (deliveries group name P.log) (P.state.streams name)
  appended : ∀ name, (P.state.streams name).added.map decode =
    (enqueuedOn calls name P.log).map some

/-- An event of a call appended the message of the call, or nothing. -/
theorem appended_decode {call : Call} {β : Type} {e : WorkerCmd β} (h : call.Issues cfg group e)
    (r : β) (name : String) {i : ℕ} (hi : calls[i]? = some call) :
    (appendedOn name ⟨e, r⟩).toList.map decode =
      (enqueuedOn calls name [(i, ⟨e, r⟩)]).map some := by
  cases call with
  | dequeue consumer lanes =>
    cases e with
    | xAdd name' values maxLen => exact h.elim
    | _ => simp [appendedOn, enqueuedOn, hi]
  | enqueue lane msg =>
    cases e with
    | xAdd name' values maxLen =>
      by_cases hex : name' = name ∧ executed r
      · simp [appendedOn, enqueuedOn, hi, hex, h.2]
      · simp [appendedOn, enqueuedOn, hi, hex]
    | _ => simp [appendedOn, enqueuedOn, hi]

/-- **The run of any calls is sound.** -/
theorem sound_run (cfg : QueueConfig) (group : String) (calls : List Call) (cnt clock : ℤ) (env : List Tick) (sched : List ℕ) :
    Sound cfg group calls
      ((Calls.start cfg group calls (World.fresh cnt clock env)).run worker sched) := by
  refine Pool.run_labelled_inv _ _ _ _ ?_ fun P i call β e k hi hf hP => ?_
  · exact ⟨fun _ => Stream.served_empty, fun _ => by simp [Pool.start, World.fresh, Stream.empty,
      enqueuedOn]⟩
  · have hissues := (hf.only call.only).1
    have hmove := step_moved P.state e
    refine ⟨fun name => ?_, fun name => ?_⟩
    · rw [Pool.advance, deliveries_concat]
      exact (hmove name).served (hP.served name)
    · have hnew := appended_decode hissues (worker.step e P.state).1 name hi
      simp only [Pool.advance]
      rw [enqueuedOn_append, (hmove name).added, List.map_append, hP.appended name, hnew,
        List.map_append]

/-! ## What is returned -/

/-- A `dequeue` that returned a message ended with the read that delivered it. -/
theorem follows_call {call : Call} {evs : List (Event WorkerCmd)} {d : Delivery}
    (h : (call.prog cfg group).Follows evs (.ret (.dequeued (.ok (some d))))) :
    ∃ consumer lanes, call = .dequeue consumer lanes ∧
      Ended cfg group consumer lanes evs (.ok (some d)) := by
  cases call with
  | enqueue lane msg =>
    obtain ⟨a, ha, -⟩ := Prog.Follows.of_map h
    cases ha
  | dequeue consumer lanes =>
    obtain ⟨a, ha, hf⟩ := Prog.Follows.of_map h
    cases ha
    exact ⟨consumer, lanes, rfl, follows_dequeue hf⟩

/-- The last command of a `dequeue` that returned a message delivered it. -/
theorem delivered_of_ended {consumer : String} {lanes : List PriorityLane} {d : Delivery}
    {evs : List (Event WorkerCmd)} {ev : Event WorkerCmd}
    (h : Ended cfg group consumer lanes (evs ++ [ev]) (.ok (some d))) :
    ∃ values, decode values = some d.msg ∧
      ∀ name, deliveredFrom group name ev =
        if cfg.stream d.lane = name then some (values, d.id) else none := by
  cases h with
  | @found pre post _ before op values more hlanes hpre hop hmsg hevs =>
    have hlast := congrArg List.getLast? hevs
    rw [List.getLast?_concat, List.getLast?_append_of_ne_nil _ (by simp), List.getLast?_concat] at hlast
    obtain rfl := Option.some.inj hlast
    exact ⟨values, hmsg, fun name => by simp [deliveredFrom]⟩

/-- What is returned is, in the same order, part of what is delivered. -/
theorem returned_sublist_deliveries (cfg : QueueConfig) (group : String) (calls : List Call)
    (cnt clock : ℤ) (env : List Tick) (sched : List ℕ) (name : String) :
    let P := (Calls.start cfg group calls (World.fresh cnt clock env)).run worker sched
    ((returnedFrom cfg name P.done).map (Prod.map some id)).Sublist
      ((deliveries group name P.log).map (Prod.map decode id)) := by
  refine Pool.run_labelled_inv (I := fun P : Calls =>
    ((returnedFrom cfg name P.done).map (Prod.map some id)).Sublist
      ((deliveries group name P.log).map (Prod.map decode id))) _ _ _ _ (List.Sublist.refl _)
    fun P i call β e k hi hf hP => ?_
  simp only [Pool.advance, returnedFrom_append, deliveries_concat, List.map_append]
  refine hP.append ?_
  cases hk : k (worker.step e P.state).1 with
  | act e' k' => simp [Pool.returned, returnedFrom]
  | ret r =>
    rcases r with r | (e' | (_ | d))
    · simp [Pool.returned, returnedFrom]
    · simp [Pool.returned, returnedFrom]
    · simp [Pool.returned, returnedFrom]
    · have hret := hf.snoc (worker.step e P.state).1
      rw [hk] at hret
      obtain ⟨consumer, lanes, -, hended⟩ := follows_call hret
      obtain ⟨values, hmsg, hdel⟩ := delivered_of_ended hended
      by_cases hname : cfg.stream d.lane = name
      · simp [Pool.returned, returnedFrom, hdel, hname, hmsg]
      · simp [Pool.returned, returnedFrom, hname]

/-- Every message delivered by a read of the group can be decoded. -/
theorem decode_of_read (cfg : QueueConfig) (group : String) (calls : List Call) (cnt clock : ℤ)
    (env : List Tick) (sched : List ℕ) {i : ℕ} {consumer name : String} {id : ℕ} {values : Fields} {more : List (ℕ × Fields)}
    (h : ⟨.xReadGroup group consumer name, .ok ((id, values) :: more)⟩ ∈ Pool.eventsOf i
      ((Calls.start cfg group calls (World.fresh cnt clock env)).run worker sched).log) :
    decode values ≠ none := by
  have hsound := sound_run cfg group calls cnt clock env sched
  generalize (Calls.start cfg group calls (World.fresh cnt clock env)).run worker sched = P at h hsound
  have hdel : (values, id) ∈ deliveries group name P.log :=
    List.mem_filterMap.2 ⟨_, Pool.mem_eventsOf.1 h, by simp [deliveredFrom]⟩
  have hadded : values ∈ (P.state.streams name).added :=
    List.mem_of_getElem? (List.mem_zipIdx_iff_getElem?.1
      ((hsound.served name).sublist_added.subset hdel))
  have hdecoded := List.mem_map_of_mem (f := decode) hadded
  rw [hsound.appended name] at hdecoded
  obtain ⟨msg, -, hmsg⟩ := List.mem_map.1 hdecoded
  simp [← hmsg]

/-- **Safety of the queue.** The messages returned from a stream are, in their order, part of
those enqueued on it, and no entry is returned twice. A message of a lane is returned only by a
pass whose reads of the earlier lanes, except where it skipped one, found nothing. -/
theorem queue_safety (cfg : QueueConfig) (group : String) (calls : List Call) (cnt clock : ℤ)
    (env : List Tick) (sched : List ℕ) :
    let P := (Calls.start cfg group calls (World.fresh cnt clock env)).run worker sched
    (∀ name, (returnedFrom cfg name P.done).Sublist (enqueuedOn calls name P.log).zipIdx) ∧
    (∀ name, ((returnedFrom cfg name P.done).map Prod.snd).Nodup) ∧
    ∀ i d, (i, Result.dequeued (.ok (some d))) ∈ P.done →
      ∃ consumer pre post, calls[i]? = some (.dequeue consumer (pre ++ d.lane :: post)) ∧
        ∃ before op values more, Passed cfg group consumer pre before ∧ Opening cfg d.lane op ∧
          Pool.eventsOf i P.log = before ++ (op ++ [⟨.xReadGroup group consumer
            (cfg.stream d.lane), .ok ((d.id, values) :: more)⟩]) ∧
          ∀ reply ∈ before.filterMap readReply, reply = .error .nil ∨ reply = .ok [] := by
  intro P
  have hsub : ∀ name,
      (returnedFrom cfg name P.done).Sublist (enqueuedOn calls name P.log).zipIdx := by
    intro name
    have hsound := sound_run cfg group calls cnt clock env sched
    have hret := returned_sublist_deliveries cfg group calls cnt clock env sched name
    have hdel := ((hsound.served name).sublist_added.map (Prod.map decode id))
    have hall := hret.trans hdel
    rw [List.map_zipIdx, hsound.appended name, List.zipIdx_map] at hall
    obtain ⟨l, hl, heq⟩ := List.sublist_map_iff.1 hall
    have hinj : Function.Injective (Prod.map (some : QueueMessage → _) (id : ℕ → ℕ)) :=
      (Option.some_injective _).prodMap Function.injective_id
    obtain rfl := List.map_injective_iff.2 hinj heq
    exact hl
  refine ⟨hsub, fun name => ?_, fun i d hd => ?_⟩
  · have hnum := (hsub name).map Prod.snd
    rw [List.zipIdx_map_snd] at hnum
    exact hnum.nodup List.nodup_range'
  · obtain ⟨call, hcall, hf⟩ := Pool.follows (Call.prog cfg group) calls _ sched
      (Pool.done_threads _ _ sched hd)
    obtain ⟨consumer, lanes, rfl, hended⟩ := follows_call hf
    cases hended with
    | @found pre post _ before op values more hlanes hpre hop hmsg hevs =>
      subst hlanes
      refine ⟨consumer, pre, post, hcall, before, op, values, more, hpre, hop, hevs, ?_⟩
      refine hpre.found_nothing fun name id values' more' hmem => ?_
      exact decode_of_read cfg group calls cnt clock env sched (i := i)
        (by rw [hevs]; exact List.mem_append_left _ hmem)

end AeroxeBee.Worker
