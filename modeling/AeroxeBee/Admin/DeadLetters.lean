import AeroxeBee.Admin.Handlers

/-!
# Dead letters

What becomes of a message that a consumer has given up. The consumer appends it to a stream of its
own; the handlers of the administrators list and retry the rows of a table. Nothing moves a message
from the stream to the table, and a retry puts nothing on a stream.

* `retryDeadLetter_streams`: a retry leaves the streams alone;
* `not_handled`: no message is both listed and put back by a retry;
* `deadLetters_handled_iff`: in a run, all messages that were given up are if there are none.
-/

namespace AeroxeBee.Admin

open Foundations

/-! ## The listing -/

/-- The messages that could not be handled, and how many there are. -/
def getDeadLetters (offset limit : ℤ) (dateFrom dateTo : Option ℤ) :
    ServerProg (Except String (List QueueDeadLetter × ℕ)) := do
  match ← Prog.call (.db (.countDeadLetters dateFrom dateTo)) with
  | .error e => return .error e
  | .ok total =>
    match ← Prog.call (.db (.deadLetters dateFrom dateTo limit offset)) with
    | .error e => return .error e
    | .ok letters => return .ok (letters, total)

/-- A number of 64 bits. -/
def wrap64 (n : ℤ) : ℤ := Int.bmod n (2 ^ 64)

/-- The number that a text of digits stands for; another text, and zero, stand for the default. -/
def parseIntOrDefault (s : String) (defaultVal : ℤ) : ℤ :=
  if s = "" ∨ s.toList.any fun c => !c.isDigit then defaultVal
  else
    let val := s.toList.foldl (fun val c => wrap64 (val * 10 + (c.toNat - 48))) 0
    if val = 0 then defaultVal else val

/-- Which part of a list is asked for. -/
structure PaginationParams where
  page : ℤ
  pageSize : ℤ
  offset : ℤ

/-- The part of a list that the parameters of a request ask for. -/
def parsePagination (page pageSize : String) (defaultPageSize maxPageSize : ℤ) : PaginationParams :=
  let maxPageSize := if maxPageSize ≤ 0 then 100 else maxPageSize
  let page := parseIntOrDefault page 1
  let pageSize := parseIntOrDefault pageSize defaultPageSize
  let pageSize := if maxPageSize < pageSize then maxPageSize else pageSize
  ⟨page, pageSize, wrap64 ((page - 1) * pageSize)⟩

/-- The first moment of a day. -/
def startOfDay (t : ℤ) : ℤ := t / 86400000000000 * 86400000000000

/-- The parameters of a request for the listing. -/
structure ListingRequest where
  page : String
  pageSize : String
  dateFrom : Option ℤ
  dateTo : Option ℤ

/-- `GET /api/v1/admin/dead-letters`. A range of dates is handed on as days. -/
def AdminHandler.getDeadLetters (req : ListingRequest) :
    ServerProg (Except HttpError (List QueueDeadLetter × ℕ)) := do
  let pg := parsePagination req.page req.pageSize 20 100
  match ← Admin.getDeadLetters pg.offset pg.pageSize (req.dateFrom.map startOfDay)
      (req.dateTo.map startOfDay) with
  | .error _ => return .error ⟨500, "failed to get dead letters"⟩
  | .ok found => return .ok found

/-! ## What is asked of dead letters -/

/-- A request to the listing shows a row for a message, when nothing else runs and nothing fails. -/
def Listed (cfg : Config) (w : World) (messageID : String) : Prop :=
  ∃ (req : ListingRequest) (letters : List QueueDeadLetter) (total : ℕ) (l : QueueDeadLetter),
    ((AdminHandler.getDeadLetters req).exec (server cfg) { w with env := [] }).val =
      .ok (letters, total) ∧ l ∈ letters ∧ l.messageID = messageID

/-- A retry of a row that succeeds takes it out of the table, and puts a message that is equal but
for its attempts on the stream of its lane. Nothing else runs meanwhile. -/
def Requeued (cfg : Config) (w : World) (lane : PriorityLane) (msg : QueueMessage) : Prop :=
  ∀ l ∈ w.db.deadLetters, l.messageID = msg.id → ∀ env, Alone { w with env := env } →
    let o := (AdminHandler.retryDeadLetter l.id).exec (server cfg) { w with env := env }
    o.val.isOk = true → l ∉ o.state.db.deadLetters ∧
      ∃ values ∈ (o.state.streams (cfg.queue.stream lane)).added.drop
          (w.streams (cfg.queue.stream lane)).added.length,
        ∃ attempts, Worker.decode values = some { msg with attempts := attempts }

/-- **A message that was given up is handled**: it is listed, and a retry puts it back. -/
def Handled (cfg : Config) (w : World) (lane : PriorityLane) (msg : QueueMessage) : Prop :=
  Listed cfg w msg.id ∧ Requeued cfg w lane msg

/-! ## Runs -/

/-- A consumer gives a message of a lane up: its handler fails, and the attempts are used up. The
message is sent to the dead letters with the attempt counted. -/
def GivesUp (cfg : Config) (x : Event ServerCmd) (lane : PriorityLane) (msg : QueueMessage) :
    Prop :=
  match x with
  | ⟨.queue (.handle lane' msg'), .error _⟩ =>
    lane' = lane ∧ msg = { msg' with attempts := msg'.attempts + 1 } ∧
      cfg.queue.maxDeliveryAttempts ≤ msg.attempts.toInt
  | _ => False

/-- The consumers of the server, by their names and the rounds of their loops, and other routines. -/
def consuming (cfg : Config) (consumers : List (String × ℕ)) (others : List (ServerProg Unit))
    (w : World) : Pool ServerCmd World Unit :=
  .start ((consumers.map fun c => (Worker.start cfg.queue c.1 c.2).embed .queue) ++ others) w

/-- The routines after some steps. -/
def consumed (cfg : Config) (consumers : List (String × ℕ)) (others : List (ServerProg Unit))
    (w : World) (sched : List ℕ) : Pool ServerCmd World Unit :=
  (consuming cfg consumers others w).run (server cfg) sched

/-! ## What the handlers do -/

/-- The listing shows rows of the table. -/
theorem mem_deadLetters_of_mem {db : Database} {dateFrom dateTo : Option ℤ} {limit offset : ℤ}
    {letters : List QueueDeadLetter} {l : QueueDeadLetter}
    (h : (Query.run db (.deadLetters dateFrom dateTo limit offset)).1 = .ok letters)
    (hl : l ∈ letters) : l ∈ db.deadLetters := by
  simp only [Query.run] at h
  split_ifs at h with hlimit hoffset
  obtain rfl := Except.ok.inj h
  have hfound := List.mem_of_mem_drop (List.mem_of_mem_take hl)
  rw [List.mem_insertionSort] at hfound
  exact (List.mem_filter.1 hfound).1

/-- When nothing fails, the listing is what the table holds. -/
theorem getDeadLetters_val (cfg : Config) {v : World} (h : Calm v) (offset limit : ℤ)
    (dateFrom dateTo : Option ℤ) :
    ((getDeadLetters offset limit dateFrom dateTo).exec (server cfg) v).val =
      (Query.run v.db (.deadLetters dateFrom dateTo limit offset)).1.map
        (·, (v.db.deadLettersWithin dateFrom dateTo).length) := by
  let count : Query ℕ := .countDeadLetters dateFrom dateTo
  obtain ⟨hcount, hdb⟩ := h.step_query cfg count
  obtain ⟨hlist, -⟩ := (h.step (.db count)).step_query cfg (.deadLetters dateFrom dateTo limit offset)
  rw [hdb] at hlist
  unfold getDeadLetters
  rw [Prog.call_bind, Prog.exec_act, hcount]
  dsimp only [count, Query.run]
  rw [Prog.call_bind, Prog.exec_act, hlist]
  dsimp only [count, Query.run]
  split_ifs <;> rfl

/-- What is listed is a row of the table. -/
theorem Listed.exists_row {cfg : Config} {w : World} {messageID : String}
    (h : Listed cfg w messageID) : ∃ l ∈ w.db.deadLetters, l.messageID = messageID := by
  obtain ⟨req, letters, total, l, hval, hl, hid⟩ := h
  have hcalm : Calm { w with env := [] } := fun t ht => absurd ht List.not_mem_nil
  refine ⟨l, ?_, hid⟩
  unfold AdminHandler.getDeadLetters at hval
  dsimp only at hval
  rw [Prog.exec_bind, getDeadLetters_val cfg hcalm] at hval
  dsimp only at hval
  cases hquery : (Query.run w.db (.deadLetters (req.dateFrom.map startOfDay)
      (req.dateTo.map startOfDay) (parsePagination req.page req.pageSize 20 100).pageSize
      (parsePagination req.page req.pageSize 20 100).offset)).1 with
  | error e =>
    rw [hquery] at hval
    cases hval
  | ok letters' =>
    rw [hquery] at hval
    obtain ⟨rfl, -⟩ := Prod.mk.inj (Except.ok.inj hval)
    exact mem_deadLetters_of_mem hquery hl

/-- A retry asks only for statements. -/
theorem retryDeadLetter_only (id : String) : (AdminHandler.retryDeadLetter id).Only
    fun e => ∀ w : World, e.lanes w = w.tick.streams := by
  refine Prog.Only.bind ?_ fun r => ?_
  · refine ⟨fun _ => rfl, fun reply => ?_⟩
    rcases reply with e | _ | letter
    · trivial
    · trivial
    · refine ⟨fun _ => rfl, fun reply => ?_⟩
      cases reply with
      | error e => trivial
      | ok => exact ⟨fun _ => rfl, fun _ => trivial⟩
  · cases r <;> trivial

/-- **A retry leaves the streams alone.** -/
theorem retryDeadLetter_streams (cfg : Config) (id : String) {w : World} (h : Alone w) :
    ((AdminHandler.retryDeadLetter id).exec (server cfg) w).state.streams = w.streams := by
  have hinv := (retryDeadLetter_only id).exec_inv (M := server cfg)
    (I := fun v => Alone v ∧ v.streams = w.streams)
    (fun e v he hv => ⟨hv.1.step e, (step_streams cfg v e).trans
      ((he v).trans (hv.1.tick_streams.trans hv.2))⟩) (s := w) ⟨h, rfl⟩
  exact hinv.2

/-- A retry of a row of the table succeeds when nothing fails. -/
theorem retryDeadLetter_isOk (cfg : Config) {w : World} {l : QueueDeadLetter}
    (hl : l ∈ w.db.deadLetters) :
    ((AdminHandler.retryDeadLetter l.id).exec (server cfg) { w with env := [] }).val.isOk = true := by
  have hcalm : Calm { w with env := [] } := fun t ht => absurd ht List.not_mem_nil
  have hfound : (w.db.deadLetters.find? (·.id = l.id)).isSome = true := by
    rw [List.find?_isSome]
    exact ⟨l, hl, decide_eq_true rfl⟩
  obtain ⟨letter, hletter⟩ := Option.isSome_iff_exists.1 hfound
  let v : World := { w with env := [] }
  let v₁ := ((server cfg).step (.db (.deadLetterByID l.id)) v).2
  let v₂ := ((server cfg).step (.db (.retryMessage letter.messageID)) v₁).2
  have h₁ : Calm v₁ := hcalm.step _
  have h₂ : Calm v₂ := h₁.step _
  obtain ⟨hread, -⟩ := hcalm.step_query cfg (.deadLetterByID l.id)
  obtain ⟨hretry, -⟩ := h₁.step_query cfg (.retryMessage letter.messageID)
  obtain ⟨hdelete, -⟩ := h₂.step_query cfg (.deleteDeadLetter l.id)
  have hval : ((Status.retryDeadLetter l.id).exec (server cfg) v).val = .ok () := by
    unfold Status.retryDeadLetter
    rw [Prog.call_bind, Prog.exec_act, hread]
    dsimp only [Query.run]
    rw [hletter]
    dsimp only
    rw [Prog.call_bind, Prog.exec_act, hretry]
    dsimp only [Query.run]
    rw [Prog.exec_call]
    exact hdelete
  unfold AdminHandler.retryDeadLetter
  rw [Prog.exec_bind, hval]
  rfl

/-- **No message is handled.** -/
theorem not_handled (cfg : Config) (w : World) (lane : PriorityLane) (msg : QueueMessage) :
    ¬ Handled cfg w lane msg := by
  rintro ⟨hlisted, hrequeued⟩
  obtain ⟨l, hl, hid⟩ := hlisted.exists_row
  have halone : Alone { w with env := [] } := fun t ht => absurd ht List.not_mem_nil
  obtain ⟨-, values, hvalues, -⟩ := hrequeued l hl hid [] halone (retryDeadLetter_isOk cfg hl)
  rw [retryDeadLetter_streams cfg l.id halone, List.drop_length] at hvalues
  cases hvalues

/-- **The messages that were given up in a run are handled exactly if there are none**: whichever
steps the consumers took, no message is. -/
theorem deadLetters_handled_iff (cfg : Config) (consumers : List (String × ℕ))
    (others : List (ServerProg Unit)) (w : World) (sched : List ℕ) :
    let P := consumed cfg consumers others w sched
    ((∀ i < consumers.length, ∀ ev lane msg, (i, ev) ∈ P.log → GivesUp cfg ev lane msg →
        Handled cfg P.state lane msg) ↔
      ∀ i < consumers.length, ∀ ev lane msg, (i, ev) ∈ P.log → ¬ GivesUp cfg ev lane msg) ∧
    ∀ lane msg, ¬ Handled cfg P.state lane msg := by
  intro P
  have hnone : ∀ lane msg, ¬ Handled cfg P.state lane msg := fun lane msg =>
    not_handled cfg P.state lane msg
  refine ⟨⟨?_, ?_⟩, hnone⟩
  · intro h i hi ev lane msg hev hgives
    exact hnone lane msg (h i hi ev lane msg hev hgives)
  · intro h i hi ev lane msg hev hgives
    exact absurd hgives (h i hi ev lane msg hev)

/-! ## One message -/

/-- A message with one attempt left. -/
def lastAttempt : QueueMessage := { QueueMessage.zero with id := "message-1", attempts := 2 }

/-- The message is enqueued and delivered, and its handler fails. -/
def givenUp : Pool ServerCmd World Unit :=
  consumed .default [("worker-1", 1)]
    [do let _ ← (Worker.enqueue .default .otp lastAttempt).embed ServerCmd.queue]
    (Dispatch.onePhone
      [.quiet, .quiet, .quiet, .quiet, { Tick.quiet with handled := .error "no device" }])
    [1, 1, 0, 0, 0, 0, 0]

set_option maxRecDepth 4000 in
/-- It is on the dead-letter stream then, and not handled. -/
theorem givenUp_lost :
    (givenUp.state.streams "dead_letter_queue").added.length = 1 ∧
      ∃ ev, (0, ev) ∈ givenUp.log ∧
        GivesUp .default ev .otp { lastAttempt with attempts := 3 } ∧
        ¬ Handled .default givenUp.state .otp { lastAttempt with attempts := 3 } := by
  have hev : givenUp.log[4]? = some (0, ⟨.queue (.handle .otp lastAttempt), .error "no device"⟩) := by
    rfl
  refine ⟨by decide, _, List.mem_of_getElem? hev, ?_, not_handled _ _ _ _⟩
  exact ⟨rfl, rfl, by decide⟩

end AeroxeBee.Admin
