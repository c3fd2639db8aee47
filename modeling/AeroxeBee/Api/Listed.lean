import AeroxeBee.Columns
import AeroxeBee.Api.History

/-!
# The query for the history of an account

`ListByAccountFiltered` and `CountByAccountFiltered` collect the conditions of their queries with the
arguments, and join the messages with the API keys that they were sent with.

* `history_iff`: the text of the listing lists what the database may list of the account's messages;
* `historyCount_iff`: the text of the count counts them.
-/

namespace AeroxeBee.Api

open Foundations Foundations.Selecting
open Foundations.Statement (placeholder)

/-! ## The texts -/

/-- The conditions on the messages of an account, and the arguments. -/
def historyConditions (accountID statusFilter typeFilter : String) : Where Arg :=
  let d : Where Arg := ⟨["ak.account_id = $1"], [.text accountID], 2⟩
  let d := d.addIf (statusFilter ≠ "") (fun argIdx => "m.delivery_status = " ++ placeholder argIdx)
    (.text statusFilter)
  d.addIf (typeFilter ≠ "") (fun argIdx => "m.message_type = " ++ placeholder argIdx)
    (.text typeFilter)

/-- The columns that are selected, in the order in which they are read. -/
def messageColumns : List String :=
  ["id", "device_id", "api_key_id", "direction", "recipient", "sender", "encrypted_message", "message_type",
    "priority_lane", "template_id", "status", "delivery_status", "confidence_score", "error_reason",
    "scheduled_at", "created_at", "delivered_at", "purge_after", "idempotency_key", "routing_strategy_used"]

/-- The query before its conditions. -/
def selectMessages : String :=
  String.join [
    "SELECT m.id, m.device_id, m.api_key_id, m.direction, m.recipient, m.sender, m.encrypted_message,",
    "\n\t        m.message_type, m.priority_lane, m.template_id, m.status, m.delivery_status,",
    " m.confidence_score,",
    "\n\t        m.error_reason, m.scheduled_at, m.created_at, m.delivered_at, m.purge_after,",
    " m.idempotency_key, m.routing_strategy_used",
    "\n\t FROM messages m\n\t JOIN api_keys ak ON m.api_key_id = ak.id"]

/-- The text that `ListByAccountFiltered` sends, and the arguments. -/
def historyQuery (accountID : String) (offset limit : ℤ) (statusFilter typeFilter : String) :
    String × List Arg :=
  let d := historyConditions accountID statusFilter typeFilter
  let whereClause := " AND ".intercalate d.conditions
  (selectMessages ++ "\n\t WHERE " ++ whereClause ++ "\n\t ORDER BY m.created_at DESC LIMIT " ++
    placeholder d.argIdx ++ " OFFSET " ++ placeholder (d.argIdx + 1),
    d.args ++ [.int limit, .int offset])

/-- The text that `CountByAccountFiltered` sends, and the arguments. -/
def historyCount (accountID statusFilter typeFilter : String) : String × List Arg :=
  let d := historyConditions accountID statusFilter typeFilter
  let whereClause := " AND ".intercalate d.conditions
  ("SELECT COUNT(*) FROM messages m JOIN api_keys ak ON m.api_key_id = ak.id" ++ " WHERE " ++ whereClause,
    d.args)

/-! ## Rows -/

/-- The messages with the API keys that they were sent with. -/
def keyedMessages (db : Database) : List (Message × APIKey) :=
  db.messages.flatMap fun m => (db.apiKeys.filter (·.id = m.apiKeyID)).map (m, ·)

/-- What stands in the columns that conditions and the order are about. -/
def messageCell (column : String) (row : Message × APIKey) : Option Cell :=
  [("ak.account_id", .text row.2.accountID), ("m.delivery_status", .text row.1.deliveryStatus.name),
    ("m.message_type", .text row.1.messageType.name), ("m.created_at", Cell.time (createdAt row.1))].lookup
    column

/-- The tables of messages and of API keys, joined. -/
def messageRows : Source (Message × APIKey) Cell where
  words := [.word "messages", .word "m", .word "JOIN", .word "api_keys", .word "ak", .word "ON", .word "m",
    .sign '.', .word "api_key_id", .sign '=', .word "ak", .sign '.', .word "id"]
  columns := "ak.account_id" :: messageColumns.map ("m." ++ ·)
  cell := messageCell

/-- What is selected: some columns of the messages. -/
def messageTokens : List Statement.Token :=
  [Statement.Token.sign ','].intercalate (messageColumns.map fun c => [.word "m", .sign '.', .word c])

theorem isHead_selectMessages : IsHead selectMessages messageTokens messageRows.words [] where
  words := by
    rw [selectMessages]
    exact (lex_lines rfl (by repeat constructor) (by decide)).trans (by decide)
  what := by decide
  source := by decide

theorem isHead_countMessages :
    IsHead "SELECT COUNT(*) FROM messages m JOIN api_keys ak ON m.api_key_id = ak.id"
      countTokens messageRows.words [] where
  words := (lex_ofList _).trans (by decide)
  what := by decide
  source := by decide

theorem isOrder_newest : IsOrder "\n\t ORDER BY m.created_at DESC LIMIT " [("m.created_at", true)] where
  starts := by decide
  ends := by decide
  read := ⟨[.word "m", .sign '.', .word "created_at", .word "DESC"], by decide, by decide,
    by decide⟩

/-! ## What the conditions mean -/

section Meaning

variable (collate : String → String → Bool) (lower : String → String)

/-- A text stands in a column. -/
def textIn (column s : String) (row : Message × APIKey) : Bool := (messageCell column row).any (· = .text s)

/-- A column of texts is compared with an argument. -/
theorem means_textIn {t c pre : String}
    (hlex : lex pre = [.word t, .sign '.', .word c, .sign '=']) (hend : EndsApart pre)
    (hc : (t ≠ "1" ∧ t ≠ "AND" ∧ t ≠ "ORDER") ∧ c ≠ "AND" ∧ c ≠ "ORDER")
    (hcolumn : t ++ "." ++ c ∈ messageRows.columns) (htimes : holdsTimes (t ++ "." ++ c) = false)
    (s : String) :
    Means messageRows (values collate lower) (fun n => pre ++ placeholder n) (.text s)
      (textIn (t ++ "." ++ c) s) := by
  have hencode : (values collate lower).encode (t ++ "." ++ c) (.text s) = .ok (.text s) := by
    simp only [values, htimes]
    rfl
  have hpre : IsPrefix pre (t ++ "." ++ c) .eq := isPrefix_of hlex hend hc
  exact Means.arg hpre hcolumn hencode

/-- What the conditions ask of a message with its API key. -/
def historyTests (accountID statusFilter typeFilter : String) : List (Message × APIKey → Bool) :=
  [textIn "ak.account_id" accountID] ++
    (if statusFilter ≠ "" then [textIn "m.delivery_status" statusFilter] else []) ++
    (if typeFilter ≠ "" then [textIn "m.message_type" typeFilter] else [])

theorem historyConditions_selects (accountID statusFilter typeFilter : String) :
    (historyConditions accountID statusFilter typeFilter).Selects messageRows (values collate lower)
      (historyTests accountID statusFilter typeFilter) := by
  have haccount : Means messageRows (values collate lower) (fun n => "ak.account_id = " ++ placeholder n)
      (.text accountID) (textIn ("ak" ++ "." ++ "account_id") accountID) :=
    means_textIn collate lower (by decide) (by decide) (by decide) (by decide) (by decide) _
  have hstatus : Means messageRows (values collate lower)
      (fun n => "m.delivery_status = " ++ placeholder n) (.text statusFilter)
      (textIn ("m" ++ "." ++ "delivery_status") statusFilter) :=
    means_textIn collate lower (by decide) (by decide) (by decide) (by decide) (by decide) _
  have htype : Means messageRows (values collate lower) (fun n => "m.message_type = " ++ placeholder n)
      (.text typeFilter) (textIn ("m" ++ "." ++ "message_type") typeFilter) :=
    means_textIn collate lower (by decide) (by decide) (by decide) (by decide) (by decide) _
  have hbegin : (⟨["ak.account_id = $1"], [.text accountID], 2⟩ : Where Arg).Selects messageRows
      (values collate lower) [textIn "ak.account_id" accountID] := Where.Selects.nil.add haccount
  exact (hbegin.addIf fun _ => hstatus).addIf fun _ => htype

end Meaning

section Listed

variable {db : Database}

theorem textIn_text {column s t : String} {row : Message × APIKey}
    (h : messageCell column row = some (.text t)) : textIn column s row = decide (t = s) := by
  simp [textIn, h]

/-- What the conditions ask. -/
theorem all_historyTests (accountID statusFilter typeFilter : String) (row : Message × APIKey) :
    ((historyTests accountID statusFilter typeFilter).all fun f => f row) =
      (decide (row.2.accountID = accountID) &&
        ((statusFilter = "" || row.1.deliveryStatus.name = statusFilter) &&
          (typeFilter = "" || row.1.messageType.name = typeFilter))) := by
  have haccount : textIn "ak.account_id" accountID row = decide (row.2.accountID = accountID) :=
    textIn_text rfl
  have hstatus : textIn "m.delivery_status" statusFilter row =
      decide (row.1.deliveryStatus.name = statusFilter) := textIn_text rfl
  have htype : textIn "m.message_type" typeFilter row = decide (row.1.messageType.name = typeFilter) :=
    textIn_text rfl
  simp only [historyTests, List.all_append]
  by_cases hs : statusFilter = "" <;> by_cases ht : typeFilter = "" <;>
    simp [hs, ht, haccount, hstatus, htype, Bool.and_assoc]

/-- A message is shown once, if its API key passes. -/
theorem map_filter_keyed {keys : List APIKey} (hkeys : (keys.map APIKey.id).Nodup) (p : APIKey → Bool)
    (q : Message → Bool) (m : Message) :
    (((keys.filter (·.id = m.apiKeyID)).map (m, ·)).filter fun row => p row.2 && q row.1).map Prod.fst =
      if (keys.any fun k => k.id = m.apiKeyID && p k) && q m then [m] else [] := by
  have hfilter : (((keys.filter (·.id = m.apiKeyID)).map (m, ·)).filter fun row => p row.2 && q row.1) =
      ((keys.filter fun k => k.id = m.apiKeyID && p k).filter fun _ => q m).map (m, ·) := by
    simp only [List.filter_map, List.filter_filter]
    congr 2
    funext k
    simp only [Function.comp_apply]
    grind
  have hany : (keys.any fun k => k.id = m.apiKeyID && p k) =
      !(keys.filter fun k => k.id = m.apiKeyID && p k).isEmpty := by
    rw [Bool.eq_iff_iff]
    simp [List.any_eq_true]
  have hid : ∀ k : APIKey, (decide (k.id = m.apiKeyID) && p k) = true → k.id = m.apiKeyID := by
    intro k hk
    simp only [Bool.and_eq_true, decide_eq_true_eq] at hk
    exact hk.1
  rw [hfilter, hany]
  have hone := length_filter_key_le hkeys hid
  generalize keys.filter (fun k => k.id = m.apiKeyID && p k) = passing at hone
  rcases passing with _ | ⟨k, _ | ⟨_, _⟩⟩
  · simp
  · cases hq : q m <;> simp
  · simp at hone

theorem map_filter_joined {keys : List APIKey} (hkeys : (keys.map APIKey.id).Nodup) (p : APIKey → Bool)
    (q : Message → Bool) (messages : List Message) :
    ((messages.flatMap fun m => (keys.filter (·.id = m.apiKeyID)).map (m, ·)).filter fun row =>
      p row.2 && q row.1).map Prod.fst =
      (messages.filter fun m => keys.any fun k => k.id = m.apiKeyID && p k).filter q := by
  induction messages with
  | nil => rfl
  | cons m messages ih =>
    rw [List.flatMap_cons, List.filter_append, List.map_append, ih, map_filter_keyed hkeys,
      List.filter_cons]
    split_ifs <;> simp_all

/-- **The rows that pass all tests are the messages of the account** that the filters admit. -/
theorem map_filter_keyedMessages (hkeys : (db.apiKeys.map APIKey.id).Nodup)
    (accountID statusFilter typeFilter : String) :
    ((keyedMessages db).filter fun row =>
      (historyTests accountID statusFilter typeFilter).all fun f => f row).map Prod.fst =
      db.filteredMessages accountID statusFilter typeFilter := by
  simp only [all_historyTests]
  exact map_filter_joined hkeys (fun k => decide (k.accountID = accountID))
    (fun m => (statusFilter = "" || m.deliveryStatus.name = statusFilter) &&
      (typeFilter = "" || m.messageType.name = typeFilter)) db.messages

/-! ## What is listed and counted -/

/-- A message is not older than another one. -/
def newer (a b : Message) : Bool := createdAt b ≤ createdAt a

/-- The order of the query is that of the times of creation. -/
theorem before_newest (collate : String → String → Bool) (lower : String → String)
    (a b : Message × APIKey) :
    Before messageRows (values collate lower) [("m.created_at", true)] a b =
      newer a.1 b.1 := by
  have hcell : ∀ row, messageRows.cell "m.created_at" row = some (.time (createdAt row.1)) := fun _ => rfl
  simp [Before, hcell, cellLe, values, newer]

/-- What the database may list is a part of the account's messages. -/
theorem mayList_iff_part {accountID statusFilter typeFilter : String} {offset limit : ℤ}
    {listed : List Message} :
    MayList db accountID offset limit statusFilter typeFilter (.ok listed) ↔
      Selecting.Part (fun _ => true) newer limit (some offset)
        (db.filteredMessages accountID statusFilter typeFilter) listed := by
  simp only [MayList, Selecting.Part, newer, List.filter_true, decide_eq_true_eq, Option.mem_some_iff,
    forall_eq', Option.getD_some]
  constructor
  · rintro ⟨found, ⟨hperm, hsorted⟩, hlisted⟩
    split_ifs at hlisted with hlimit hoffset
    exact ⟨by omega, by omega, found, hperm, hsorted, Except.ok.inj hlisted⟩
  · rintro ⟨hlimit, hoffset, found, hperm, hsorted, rfl⟩
    exact ⟨found, ⟨hperm, hsorted⟩, by rw [if_neg (by omega), if_neg (by omega)]⟩

/-- The text of the listing lists the history of the account, if API keys are told apart by their ids. -/
theorem history_iff (collate : String → String → Bool) (lower : String → String)
    (hkeys : (db.apiKeys.map APIKey.id).Nodup) (accountID : String) (offset limit : ℤ)
    (statusFilter typeFilter : String) (listed : List Message) :
    let sent := historyQuery accountID offset limit statusFilter typeFilter
    (∃ rows, Selecting.MayList sent.1 messageTokens messageRows (values collate lower) sent.2
      (keyedMessages db) rows ∧ listed = rows.map Prod.fst) ↔
      MayList db accountID offset limit statusFilter typeFilter (.ok listed) := by
  intro sent
  have hrows : ∀ rows, Selecting.MayList sent.1 messageTokens messageRows (values collate lower) sent.2
      (keyedMessages db) rows ↔ _ := fun rows =>
    (historyConditions_selects collate lower accountID statusFilter typeFilter).mayList_page
      (isHead_selectMessages.where (.inl (by decide)) (by decide)) (EndsApart.append (by decide))
      (by simp [historyTests])
      isOrder_newest (by decide) rfl rfl
  rw [exists_congr fun rows => and_congr_left' (hrows rows),
    part_map_iff Prod.fst newer (before_newest collate lower), map_filter_keyedMessages hkeys,
    mayList_iff_part]

/-- The text of the count counts the history of the account. -/
theorem historyCount_iff (collate : String → String → Bool) (lower : String → String)
    (hkeys : (db.apiKeys.map APIKey.id).Nodup) (accountID statusFilter typeFilter : String) (n : ℕ) :
    let sent := historyCount accountID statusFilter typeFilter
    MayCount sent.1 messageRows (values collate lower) sent.2 (keyedMessages db) n ↔
      n = (db.filteredMessages accountID statusFilter typeFilter).length := by
  intro sent
  have hcount : MayCount sent.1 messageRows (values collate lower) sent.2 (keyedMessages db) n ↔ _ :=
    (historyConditions_selects collate lower accountID statusFilter typeFilter).mayCount
      (isHead_countMessages.where (.inl (by decide)) (by decide)) (EndsApart.append (by decide))
      (by simp [historyTests])
  rw [hcount, List.countP_eq_length_filter, ← map_filter_keyedMessages hkeys, List.length_map]

/-- **The texts list and count the history of an account**, if API keys are told apart by their ids. -/
theorem history_texts (collate : String → String → Bool) (lower : String → String)
    (hkeys : (db.apiKeys.map APIKey.id).Nodup) (accountID : String) (offset limit : ℤ)
    (statusFilter typeFilter : String) (listed : List Message) (n : ℕ) :
    let list := historyQuery accountID offset limit statusFilter typeFilter
    let count := historyCount accountID statusFilter typeFilter
    ((∃ rows, Selecting.MayList list.1 messageTokens messageRows (values collate lower) list.2
      (keyedMessages db) rows ∧ listed = rows.map Prod.fst) ↔
        MayList db accountID offset limit statusFilter typeFilter (.ok listed)) ∧
      (MayCount count.1 messageRows (values collate lower) count.2 (keyedMessages db) n ↔
        n = (db.filteredMessages accountID statusFilter typeFilter).length) :=
  ⟨history_iff collate lower hkeys accountID offset limit statusFilter typeFilter listed,
    historyCount_iff collate lower hkeys accountID statusFilter typeFilter n⟩

/-- Two messages that were sent in bulk are counted. -/
theorem history_texts_bulkSent :
    MayCount (historyCount "account-1" "" "").1 messageRows (values (fun _ _ => true) id)
      (historyCount "account-1" "" "").2 (keyedMessages bulkSent) 2 := by
  have hkeys : (bulkSent.apiKeys.map APIKey.id).Nodup := by decide
  have hlen : (bulkSent.filteredMessages "account-1" "" "").length = 2 := by decide
  exact (history_texts (fun _ _ => true) id hkeys "account-1" 0 10 "" "" [] 2).2.2 hlen.symm

end Listed

end AeroxeBee.Api
