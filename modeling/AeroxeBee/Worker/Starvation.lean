import AeroxeBee.Worker.Pass

/-!
# Starvation of the marketing lane

Consecutive passes of `dequeue` over the three lanes, with anything happening to the streams
between them: `passes` gives each pass its own world and carries over only the counter that all
passes share. Every pass that comes to the marketing lane has set the counter to zero on the way,
for the transactional lane, and skips the marketing lane because zero is below the ratio.

* `not_reads_marketing`: no pass ever reads the marketing stream;
* `fair_iff`: a window of passes serves the marketing lane, or has no occasion to, only if every
  pass of it found a message in an earlier lane.
-/

namespace AeroxeBee.Worker

open Foundations

variable (cfg : QueueConfig) (group consumer : String)

/-- The end of one pass. -/
abbrev PassEnd := Outcome WorkerCmd World (Except String (Option Delivery))

/-- Passes that follow one another. Between them only the counter is preserved; the streams, the
time and the environment of each pass are given. -/
def passes : ℤ → List World → List PassEnd
  | _, [] => []
  | cnt, w :: ws =>
    let o := (dequeue cfg group consumer lanes).exec worker { w with antiStarvationCnt := cnt }
    o :: passes o.state.antiStarvationCnt ws

/-- The stream an event read. -/
def readName : Event WorkerCmd → Option String
  | ⟨.xReadGroup _ _ name, _⟩ => some name
  | _ => none

/-- The pass returned a message of a lane before the marketing lane. -/
def servedEarlier (o : PassEnd) : Bool :=
  match o.val with
  | .ok (some d) => d.lane = .otp || d.lane = .transactional
  | _ => false

/-- The pass read the marketing stream. -/
def readsMarketing (o : PassEnd) : Bool :=
  (o.trace.filterMap readName).contains cfg.marketingStream

/-- What is asked of a window of passes: each returned a message of an earlier lane, or one of
them read the marketing stream. -/
def Fair (outs : List PassEnd) : Prop :=
  (∀ o ∈ outs, servedEarlier o = true) ∨ ∃ o ∈ outs, readsMarketing cfg o = true

instance (outs : List PassEnd) : Decidable (Fair cfg outs) := inferInstanceAs (Decidable (_ ∨ _))

/-! ## What the streams hold -/

/-- What a pass finds in one lane. -/
inductive Found where
  | message
  | nothing
  | failure
deriving DecidableEq

/-- What the read of a stream finds, and the world after it. An entry that is not a message is
dropped and counts as nothing. -/
def find (name : String) (w : World) : Found × World :=
  match worker.step (.xReadGroup group consumer name) w with
  | (.error .nil, w) => (.nothing, w)
  | (.error _, w) => (.failure, w)
  | (.ok [], w) => (.nothing, w)
  | (.ok ((id, values) :: _), w) =>
    if (decode values).isSome then (.message, w)
    else (.nothing, (worker.step (.xAck name group id) w).2)

/-- A message waits in one of the first two lanes and nothing prevents its delivery. -/
def EarlierReady (w : World) : Prop :=
  let (first, w) := find group consumer cfg.otpStream w
  first = .message ∨ first = .nothing ∧
    (find group consumer cfg.transactionalStream (worker.step (.setCnt 0) w).2).1 = .message

/-- The names of the three streams are different. -/
def QueueConfig.StreamsDiffer (cfg : QueueConfig) : Prop :=
  cfg.marketingStream ≠ cfg.otpStream ∧ cfg.marketingStream ≠ cfg.transactionalStream

/-! ## One pass -/

/-- The counter has no part in a read, which leaves it as it is. -/
theorem step_xReadGroup_cnt (name : String) (w : World) (cnt : ℤ) :
    worker.step (.xReadGroup group consumer name) { w with antiStarvationCnt := cnt } =
      ((worker.step (.xReadGroup group consumer name) w).1,
        { (worker.step (.xReadGroup group consumer name) w).2 with antiStarvationCnt := cnt }) := by
  simp only [worker, effect, World.tick]
  cases hf : (w.env.headD .quiet).fault <;> simp only [redis, hf, Fault.apply] <;>
    cases (w.streams name).read group consumer (w.clock + (w.env.headD .quiet).elapsed) with
    | mk entry s => cases entry <;> rfl

theorem step_xAck_cnt (name : String) (id : ℕ) (w : World) (cnt : ℤ) :
    worker.step (.xAck name group id) { w with antiStarvationCnt := cnt } =
      ((worker.step (.xAck name group id) w).1,
        { (worker.step (.xAck name group id) w).2 with antiStarvationCnt := cnt }) := by
  simp only [worker, effect, World.tick]
  cases hf : (w.env.headD .quiet).fault <;> simp only [redis, hf, Fault.apply] <;> rfl

theorem find_cnt (name : String) (w : World) (cnt : ℤ) :
    find group consumer name { w with antiStarvationCnt := cnt } =
      ((find group consumer name w).1,
        { (find group consumer name w).2 with antiStarvationCnt := cnt }) := by
  simp only [find, step_xReadGroup_cnt]
  rcases worker.step (.xReadGroup group consumer name) w with
    ⟨(_ | _ | _) | (_ | ⟨⟨id, values⟩, more⟩), w'⟩ <;> try rfl
  by_cases h : (decode values).isSome
  · simp [h]
  · simp [h, step_xAck_cnt]

/-- The read of a lane ends the pass, or leaves the rest of it to do. -/
theorem exec_readLane (lane : PriorityLane)
    (rest : WorkerProg (Except String (Option Delivery))) (w : World) :
    let o := (readLane cfg group consumer lane rest).exec worker w
    let f := find group consumer (cfg.stream lane) w
    (f.1 = .message ∧ (∃ d : Delivery, d.lane = lane ∧ o.val = .ok (some d)) ∧
        o.trace.filterMap readName = [cfg.stream lane]) ∨
      (f.1 = .failure ∧ (∃ e, o.val = .error e) ∧
        o.trace.filterMap readName = [cfg.stream lane]) ∨
      (f.1 = .nothing ∧ o.val = (rest.exec worker f.2).val ∧
        o.state = (rest.exec worker f.2).state ∧
        o.trace.filterMap readName =
          cfg.stream lane :: (rest.exec worker f.2).trace.filterMap readName) := by
  intro o f
  simp only [o, f, readLane, Prog.call_bind, Prog.pure_eq, Prog.exec_act, find]
  rcases worker.step (.xReadGroup group consumer (cfg.stream lane)) w with
    ⟨(_ | _ | _) | (_ | ⟨⟨id, values⟩, more⟩), w'⟩
  · exact .inr (.inr ⟨rfl, rfl, rfl, rfl⟩)
  · exact .inr (.inl ⟨rfl, ⟨_, rfl⟩, rfl⟩)
  · exact .inr (.inl ⟨rfl, ⟨_, rfl⟩, rfl⟩)
  · exact .inr (.inr ⟨rfl, rfl, rfl, rfl⟩)
  · cases h : decode values with
    | none =>
      simp only [h, Option.isSome_none, Bool.false_eq_true, if_false]
      exact .inr (.inr ⟨trivial, rfl, rfl, rfl⟩)
    | some msg =>
      simp only [h, Option.isSome_some, if_true]
      exact .inl ⟨trivial, ⟨⟨lane, msg, id⟩, rfl, rfl⟩, rfl⟩

/-- The last part of a pass: the marketing lane is skipped, because the counter is below the
ratio. -/
theorem exec_marketing (h : 1 ≤ cfg.antiStarvationRatio) {w : World}
    (hcnt : w.antiStarvationCnt = 0) :
    let o := (dequeue cfg group consumer [.marketing]).exec worker w
    o.val = .ok none ∧ o.trace.filterMap readName = [] := by
  have hlt : (worker.step .getCnt w).1 < cfg.antiStarvationRatio := by
    have : (worker.step .getCnt w).1 = w.antiStarvationCnt := rfl
    omega
  simp only [dequeue, if_true, Prog.call_bind, pure_bind, Prog.exec_act, hlt, decide_true]
  exact ⟨rfl, rfl⟩

theorem find_keeps_cnt (name : String) (w : World) :
    (find group consumer name w).2.antiStarvationCnt = w.antiStarvationCnt :=
  congrArg (fun f => f.2.antiStarvationCnt) (find_cnt group consumer name w w.antiStarvationCnt)

/-- The part of a pass after the `otp` lane. -/
theorem exec_after_otp (h : 1 ≤ cfg.antiStarvationRatio) (w : World) :
    let o := (dequeue cfg group consumer [.transactional, .marketing]).exec worker w
    let f := find group consumer cfg.transactionalStream (worker.step (.setCnt 0) w).2
    (servedEarlier o = true ↔ f.1 = .message) ∧
      o.trace.filterMap readName = [cfg.transactionalStream] := by
  have ht : cfg.stream .transactional = cfg.transactionalStream := rfl
  have hne : PriorityLane.transactional ≠ PriorityLane.marketing := by decide
  have hno : PriorityLane.transactional ≠ PriorityLane.otp := by decide
  intro o f
  have hcnt : f.2.antiStarvationCnt = 0 := find_keeps_cnt _ _ _ _
  obtain ⟨hval, hreads⟩ := exec_marketing cfg group consumer h hcnt
  have hread := exec_readLane cfg group consumer .transactional
    (dequeue cfg group consumer [.marketing]) (worker.step (.setCnt 0) w).2
  rw [ht] at hread
  simp only [o, dequeue_other hne, if_neg hno, Prog.exec_act]
  rcases hread with ⟨hf, ⟨d, hd, hv⟩, hr⟩ | ⟨hf, ⟨e, hv⟩, hr⟩ | ⟨hf, hv, -, hr⟩
  · exact ⟨by simp [servedEarlier, hv, hd, f, hf], hr⟩
  · exact ⟨by simp [servedEarlier, hv, f, hf], hr⟩
  · rw [hval] at hv
    rw [hreads] at hr
    exact ⟨by simp [servedEarlier, hv, f, hf], hr⟩

/-- **What a pass over the three lanes does**: it returns a message of one of the first two lanes
if one is ready there, and it never reads the marketing stream. -/
theorem exec_pass (h : 1 ≤ cfg.antiStarvationRatio) (hcfg : cfg.StreamsDiffer) (w : World)
    (cnt : ℤ) :
    let o := (dequeue cfg group consumer lanes).exec worker { w with antiStarvationCnt := cnt }
    (servedEarlier o = true ↔ EarlierReady cfg group consumer w) ∧
      readsMarketing cfg o = false := by
  obtain ⟨hmo, hmt⟩ := hcfg
  have ho : cfg.stream .otp = cfg.otpStream := rfl
  have hne : PriorityLane.otp ≠ PriorityLane.marketing := by decide
  intro o
  have hread := exec_readLane cfg group consumer .otp
    (dequeue cfg group consumer [.transactional, .marketing])
    { w with antiStarvationCnt := cnt }
  simp only [ho, find_cnt] at hread
  simp only [o, lanes, dequeue_other hne, if_true, readsMarketing]
  rcases hread with ⟨hf, ⟨d, hd, hv⟩, hr⟩ | ⟨hf, ⟨e, hv⟩, hr⟩ | ⟨hf, hv, -, hr⟩
  · exact ⟨by simp [servedEarlier, hv, hd, EarlierReady, hf], by simp [hr, hmo]⟩
  · exact ⟨by simp [servedEarlier, hv, EarlierReady, hf], by simp [hr, hmo]⟩
  · obtain ⟨hserved, hreads⟩ := exec_after_otp cfg group consumer h
      { (find group consumer cfg.otpStream w).2 with antiStarvationCnt := cnt }
    refine ⟨?_, by simp [hr, hreads, hmo, hmt]⟩
    rw [servedEarlier, ← hv] at hserved
    rw [servedEarlier]
    exact hserved.trans (by simp [EarlierReady, hf]; rfl)

/-! ## Runs of passes -/

/-- **The marketing stream is never read**, in any number of passes. -/
theorem not_reads_marketing (h : 1 ≤ cfg.antiStarvationRatio) (hcfg : cfg.StreamsDiffer)
    (cnt : ℤ) (ws : List World) :
    ∀ o ∈ passes cfg group consumer cnt ws, readsMarketing cfg o = false := by
  induction ws generalizing cnt with
  | nil => simp [passes]
  | cons w ws ih =>
    intro o ho
    rcases List.mem_cons.1 ho with rfl | ho
    · exact (exec_pass cfg group consumer h hcfg w cnt).2
    · exact ih _ o ho

/-- Every pass finds a message in an earlier lane if one is ready at each of them. -/
theorem all_served_iff (h : 1 ≤ cfg.antiStarvationRatio) (hcfg : cfg.StreamsDiffer) (cnt : ℤ)
    (ws : List World) :
    (∀ o ∈ passes cfg group consumer cnt ws, servedEarlier o = true) ↔
      ∀ w ∈ ws, EarlierReady cfg group consumer w := by
  induction ws generalizing cnt with
  | nil => simp [passes]
  | cons w ws ih =>
    simp only [passes, List.forall_mem_cons, (exec_pass cfg group consumer h hcfg w cnt).1, ih]

/-- **When the marketing lane is not starved.** A window of passes is fair if and only if each of
its passes found a message ready in an earlier lane, so never because the marketing stream was
read. -/
theorem fair_iff (h : 1 ≤ cfg.antiStarvationRatio) (hcfg : cfg.StreamsDiffer) (cnt : ℤ)
    (ws : List World) :
    Fair cfg (passes cfg group consumer cnt ws) ↔ ∀ w ∈ ws, EarlierReady cfg group consumer w := by
  constructor
  · rintro (hall | ⟨o, ho, hreads⟩)
    · exact (all_served_iff cfg group consumer h hcfg cnt ws).1 hall
    · exact absurd hreads (by simp [not_reads_marketing cfg group consumer h hcfg cnt ws o ho])
  · exact fun hall => .inl ((all_served_iff cfg group consumer h hcfg cnt ws).2 hall)

/-- A world in which the marketing stream holds an entry and the other streams are empty. -/
def starved : World where
  streams name := if name = "marketing_queue" then ⟨[[("payload", [])]], 0, fun _ => ⟨0, []⟩⟩
    else Stream.empty
  antiStarvationCnt := 0
  clock := 0
  env := []

/-- Eleven passes leave the marketing entry where it is, although the ratio is ten. -/
theorem starved_not_fair : ¬ Fair .default
    (passes .default "aeroxebee-workers" "worker-1" 0 (List.replicate (10 + 1) starved)) := by
  decide

/-- A pass that finds nothing anywhere is not fair. -/
theorem fair_iff_starved : Fair .default
    (passes .default "aeroxebee-workers" "worker-1" 0 (List.replicate (10 + 1) starved)) ↔
      ∀ w ∈ List.replicate (10 + 1) starved,
        EarlierReady .default "aeroxebee-workers" "worker-1" w :=
  fair_iff .default "aeroxebee-workers" "worker-1" (by decide) (by unfold QueueConfig.StreamsDiffer; decide) 0 _

end AeroxeBee.Worker
