import AeroxeBee.Foundations.Prog
import AeroxeBee.Foundations.Redis
import AeroxeBee.Foundations.Streams
import AeroxeBee.Models

/-!
# The priority queue

The queue over three Redis streams, one for each priority lane, and the consumers that serve it.
`WorkerCmd` lists what the code asks of Redis, of the clock, of the counter that all consumers
share and of the handler; `World` is their state, and `worker` says what each command does to it.
Every command takes the next `Tick` of the environment: how long it takes, whether it fails, how
much the server trims, and what the handler answers.

The programs keep the names of the source: `enqueue`, `dequeue`, `acknowledge`, `deadLetter`,
`claimStale`, and `start` for the loop of a consumer.
-/

namespace AeroxeBee.Worker

open Foundations

/-! ## Configuration -/

/-- The configuration of the queue. -/
structure QueueConfig where
  otpStream : String
  transactionalStream : String
  marketingStream : String
  deadLetterStream : String
  antiStarvationRatio : ℤ
  maxQueueDepth : ℤ
  consumerGroupName : String
  idleRetryThreshold : ℤ
  maxDeliveryAttempts : ℤ

namespace QueueConfig

/-- The default configuration. -/
def default : QueueConfig where
  otpStream := "otp_queue"
  transactionalStream := "transactional_queue"
  marketingStream := "marketing_queue"
  deadLetterStream := "dead_letter_queue"
  antiStarvationRatio := 10
  maxQueueDepth := 10000
  consumerGroupName := "aeroxebee-workers"
  idleRetryThreshold := 60000000000
  maxDeliveryAttempts := 3

/-- The stream of a lane, for the three lanes that have one. -/
def stream? (cfg : QueueConfig) (lane : PriorityLane) : Option String :=
  if lane = .otp then some cfg.otpStream
  else if lane = .transactional then some cfg.transactionalStream
  else if lane = .marketing then some cfg.marketingStream
  else none

/-- The stream of a lane; the map of the source has the empty name for a lane it lacks. -/
def stream (cfg : QueueConfig) (lane : PriorityLane) : String := (cfg.stream? lane).getD ""

end QueueConfig

/-! ## Commands -/

/-- The fields of a stream entry, each value given by its characters. -/
abbrev Fields := List (String × List Char)

/-- A delivery: the lane, the message and the number of its stream entry. -/
structure Delivery where
  lane : PriorityLane
  msg : QueueMessage
  id : ℕ
deriving DecidableEq

/-- What the queue and its consumers ask of their environment. -/
inductive WorkerCmd : Type → Type
  /-- The time in nanoseconds. -/
  | now : WorkerCmd ℤ
  | getCnt : WorkerCmd ℤ
  | setCnt (n : ℤ) : WorkerCmd Unit
  | xAdd (stream : String) (values : Fields) (maxLen : ℤ) : WorkerCmd (Except RedisErr ℕ)
  /-- The next new entry of one stream. -/
  | xReadGroup (group consumer stream : String) :
      WorkerCmd (Except RedisErr (List (ℕ × Fields)))
  | xAck (stream group : String) (id : ℕ) : WorkerCmd (Except RedisErr Unit)
  /-- The numbers of pending entries, with their idle times. -/
  | xPendingExt (stream group : String) (count : ℕ) :
      WorkerCmd (Except RedisErr (List (ℕ × ℤ)))
  | xClaim (stream group consumer : String) (minIdle : ℤ) (id : ℕ) :
      WorkerCmd (Except RedisErr (List (ℕ × Fields)))
  /-- The handler of the consumers. -/
  | handle (lane : PriorityLane) (msg : QueueMessage) : WorkerCmd (Except String Unit)
  /-- Whether the consumer was told to stop. -/
  | stopRequested : WorkerCmd Bool

/-- A routine of the worker package. -/
abbrev WorkerProg := Prog WorkerCmd

/-! ## The world of the worker -/

/-- What the environment contributes to one command. -/
structure Tick where
  elapsed : ℕ
  fault : Fault
  trim : ℕ
  handled : Except String Unit
  stop : Bool

/-- The tick at which nothing happens. -/
def Tick.quiet : Tick := ⟨0, .none, 0, .ok (), false⟩

/-- The state around the worker: the streams, the shared counter, the time, and the ticks to
come. -/
structure World where
  streams : String → Stream Fields
  antiStarvationCnt : ℤ
  clock : ℤ
  env : List Tick

namespace World

/-- A world in which no stream has had an entry yet. -/
def fresh (cnt clock : ℤ) (env : List Tick) : World := ⟨fun _ => Stream.empty, cnt, clock, env⟩

/-- Replace one stream. -/
def setStream (w : World) (name : String) (s : Stream Fields) : World :=
  { w with streams := Function.update w.streams name s }

/-- The world in which the next tick has begun. -/
def tick (w : World) : World :=
  { w with
    env := w.env.tail
    clock := w.clock + (w.env.headD .quiet).elapsed }

end World

/-- Execute a Redis command that is subject to the fault of a tick. -/
def redis {α : Type} (t : Tick) (w : World) (run : World → Except RedisErr α × World) :
    Except RedisErr α × World :=
  t.fault.apply .refused .lost run w

/-- What a command does, the tick it takes being given. -/
def effect (t : Tick) (w : World) : {β : Type} → WorkerCmd β → β × World
  | _, .now => (w.clock, w)
  | _, .getCnt => (w.antiStarvationCnt, w)
  | _, .setCnt n => ((), { w with antiStarvationCnt := n })
  | _, .xAdd name values maxLen => redis t w fun w =>
    let limit := if 0 < maxLen then some maxLen.toNat else none
    let (id, s) := (w.streams name).add values limit t.trim
    (.ok id, w.setStream name s)
  | _, .xReadGroup group consumer name => redis t w fun w =>
    match (w.streams name).read group consumer w.clock with
    | (some entry, s) => (.ok [entry], w.setStream name s)
    | (none, _) => (.error .nil, w)
  | _, .xAck name group id => redis t w fun w =>
    (.ok (), w.setStream name ((w.streams name).ack group id))
  | _, .xPendingExt name group count => redis t w fun w =>
    (.ok ((w.streams name).pendingRange group count w.clock), w)
  | _, .xClaim name group consumer minIdle id => redis t w fun w =>
    let (entry, s) := (w.streams name).claim group consumer minIdle w.clock id
    (.ok entry.toList, w.setStream name s)
  | _, .handle _ _ => (t.handled, w)
  | _, .stopRequested => (t.stop, w)

/-- The meaning of the commands. -/
def worker : Sem WorkerCmd World where
  step e w := effect (w.env.headD .quiet) w.tick e

/-! ## The queue -/

variable (cfg : QueueConfig)

/-- Append a message to the stream of a lane and return the number of its entry. -/
def enqueue (lane : PriorityLane) (msg : QueueMessage) : WorkerProg (Except String ℕ) :=
  match cfg.stream? lane with
  | none => return .error ("unknown lane: " ++ lane.name)
  | some stream =>
    match msg.marshal with
    | none => return .error ("marshal message: " ++ QueueMessage.marshalError)
    | some data => do
      let now ← Prog.call .now
      let values : Fields :=
        [("payload", data), ("created_at", Json.intLit (now / 1000000000)),
          ("max_age", Json.intLit (msg.maxAge.toInt.tdiv 1000000))]
      match ← Prog.call (.xAdd stream values cfg.maxQueueDepth) with
      | .error e => return .error ("xadd to " ++ stream ++ ": " ++ e.text)
      | .ok id => return .ok id

/-- The payload of a stream entry, read back. -/
def decode (values : Fields) : Option QueueMessage :=
  (values.lookup "payload").bind QueueMessage.unmarshal

/-- The read of one lane in a pass, and the rest of the pass where it yields no message. An entry
that is not a message is acknowledged and dropped. -/
def readLane (group consumer : String) (lane : PriorityLane)
    (rest : WorkerProg (Except String (Option Delivery))) :
    WorkerProg (Except String (Option Delivery)) := do
  match ← Prog.call (.xReadGroup group consumer (cfg.stream lane)) with
  | .error .nil => rest
  | .error e => return .error ("xreadgroup " ++ cfg.stream lane ++ ": " ++ e.text)
  | .ok [] => rest
  | .ok ((id, values) :: _) =>
    match decode values with
    | none =>
      let _ ← Prog.call (.xAck (cfg.stream lane) group id)
      rest
    | some msg => return .ok (some ⟨lane, msg, id⟩)

/-- One pass over the lanes: the first message found, the lane it came from and the number of its
entry. The marketing lane is skipped until the counter has reached the ratio; every lane but
`otp` that is not skipped sets the counter to zero before it is read. -/
def dequeue (group consumer : String) : List PriorityLane →
    WorkerProg (Except String (Option Delivery))
  | [] => return .ok none
  | lane :: lanes => do
    let skip ← if lane = .marketing then do
        let cnt ← Prog.call .getCnt
        pure (decide (cnt < cfg.antiStarvationRatio))
      else pure false
    if skip then
      let cnt ← Prog.call .getCnt
      Prog.call (.setCnt (cnt + 1))
      dequeue group consumer lanes
    else
      if lane ≠ .otp then Prog.call (.setCnt 0)
      readLane cfg group consumer lane (dequeue group consumer lanes)

/-- Take an entry off the pending list of its lane. -/
def acknowledge (lane : PriorityLane) (id : ℕ) : WorkerProg (Except RedisErr Unit) :=
  Prog.call (.xAck (cfg.stream lane) cfg.consumerGroupName id)

/-- Append a message to the dead-letter stream. -/
def deadLetter (lane : PriorityLane) (msg : QueueMessage) (reason : String) :
    WorkerProg (Except String Unit) :=
  match msg.marshal with
  | none => return .error ("marshal dead letter: " ++ QueueMessage.marshalError)
  | some data => do
    let now ← Prog.call .now
    let values : Fields :=
      [("payload", data), ("reason", reason.toList),
        ("original_stream", (cfg.stream lane).toList), ("failed_at", Json.intLit (now / 1000000000))]
    match ← Prog.call (.xAdd cfg.deadLetterStream values 0) with
    | .error e => return .error e.text
    | .ok _ => return .ok ()

/-- Claim the entries of one stream that the pending list reports as idle. The entries that Redis
returns are only counted for the log. -/
def claimIdle (stream consumer : String) : List (ℕ × ℤ) → WorkerProg Unit
  | [] => return
  | (id, idle) :: rest => do
    let now ← Prog.call .now
    if cfg.idleRetryThreshold < now - idle then
      let _ ← Prog.call
        (.xClaim stream cfg.consumerGroupName consumer cfg.idleRetryThreshold id)
    claimIdle stream consumer rest

/-- Claim stale entries of the streams, which are visited in an arbitrary order. -/
def claimStale (consumer : String) : List PriorityLane → WorkerProg Unit
  | [] => return
  | lane :: lanes => do
    match ← Prog.call (.xPendingExt (cfg.stream lane) cfg.consumerGroupName 10) with
    | .error _ => claimStale consumer lanes
    | .ok pending => do
      claimIdle cfg (cfg.stream lane) consumer pending
      claimStale consumer lanes

/-! ## Consumers -/

/-- The lanes a consumer serves, in order. -/
def lanes : List PriorityLane := [.otp, .transactional, .marketing]

/-- Handle one delivery: acknowledge it if the handler succeeds; otherwise count the attempt, and
send the message to the dead-letter stream once the attempts are used up. -/
def process (d : Delivery) : WorkerProg Unit := do
  match ← Prog.call (.handle d.lane d.msg) with
  | .error e =>
    let msg := { d.msg with attempts := d.msg.attempts + 1 }
    if cfg.maxDeliveryAttempts ≤ msg.attempts.toInt then
      let _ ← deadLetter cfg d.lane msg e
    return
  | .ok () =>
    let _ ← acknowledge cfg d.lane d.id
    return

/-- The first `n` rounds of the loop of a consumer. -/
def start (consumer : String) : ℕ → WorkerProg Unit
  | 0 => return
  | n + 1 => do
    if ← Prog.call .stopRequested then return
    match ← dequeue cfg cfg.consumerGroupName consumer lanes with
    | .error _ => start consumer n
    | .ok none => start consumer n
    | .ok (some d) => do
      process cfg d
      start consumer n

end AeroxeBee.Worker
