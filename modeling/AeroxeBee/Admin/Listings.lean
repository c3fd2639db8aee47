import AeroxeBee.Columns
import AeroxeBee.Admin.DeadLetters

/-!
# The queries for lists of administrators

Dead letters and templates are listed between two days. The conditions on the days are collected with the
texts of the days as arguments, and the day after the last one is computed by the database.

* `Where.Selects.between`: what the conditions on the days ask of rows;
* `deadLetters_texts`: the texts list and count the dead letters between the days;
* `templates_texts`: the texts list and count the templates with a status between the days.
-/

namespace AeroxeBee.Admin

open Foundations Foundations.Selecting

/-! ## Between two days -/

/-- Conditions on a column that holds times. A day that is the empty text puts no condition. -/
def between (d : Where Arg) (column dateFrom dateTo : String) : Where Arg :=
  let d := d.addIf (dateFrom ≠ "") (fun argIdx => column ++ " >= " ++ Statement.placeholder argIdx)
    (.text dateFrom)
  d.addIf (dateTo ≠ "")
    (fun argIdx => column ++ " <= " ++ (Statement.placeholder argIdx ++ "::date + INTERVAL '1 day'"))
    (.text dateTo)

/-- The text of a day that may be given. -/
def dayOrEmpty (day : Option ℤ) : String := day.elim "" dayText

theorem dayText_ne_empty (t : ℤ) : dayText t ≠ "" := by
  intro h
  have hlist : (dayText t).toList = [] := by rw [h]; rfl
  rw [dayText, String.toList_ofList, Timestamp.formatDate] at hlist
  simp at hlist

theorem dayOrEmpty_ne_iff {day : Option ℤ} : dayOrEmpty day ≠ "" ↔ day.isSome := by
  cases day with
  | none => simp [dayOrEmpty]
  | some t => simp [dayOrEmpty, dayText_ne_empty]

section Between

variable {ρ : Type} {src : Source ρ Cell} {collate : String → String → Bool} {lower : String → String}
  {d : Where Arg} {tests : List (ρ → Bool)} {column : String} {time : ρ → ℤ} {dateFrom dateTo : Option ℤ}

/-- What the conditions on the days ask. -/
def betweenTests (time : ρ → ℤ) (dateFrom dateTo : Option ℤ) : List (ρ → Bool) :=
  (if dayOrEmpty dateFrom ≠ "" then [fun row => dateFrom.all (· ≤ time row)] else []) ++
    (if dayOrEmpty dateTo ≠ "" then [fun row => dateTo.all (time row ≤ · + dayNanos)] else [])

theorem all_betweenTests (row : ρ) : ((betweenTests time dateFrom dateTo).all fun f => f row) =
    (dateFrom.all (· ≤ time row) && dateTo.all (time row ≤ · + dayNanos)) := by
  simp only [betweenTests, dayOrEmpty_ne_iff]
  cases dateFrom <;> cases dateTo <;> simp

/-- **The conditions on the days.** -/
theorem selects_between (h : d.Selects src (values collate lower) tests)
    (hcell : ∀ row, src.cell column row = some (.time (time row)))
    (hfrom : IsPrefix (column ++ " >= ") column .ge) (hto : IsPrefix (column ++ " <= ") column .le)
    (hcolumn : column ∈ src.columns) (htimes : holdsTimes column = true)
    (hdays : (∀ t ∈ dateFrom, IsDay t) ∧ ∀ t ∈ dateTo, IsDay t) :
    (between d column (dayOrEmpty dateFrom) (dayOrEmpty dateTo)).Selects src (values collate lower)
      (tests ++ betweenTests time dateFrom dateTo) := by
  rw [betweenTests, ← List.append_assoc]
  refine (h.addIf fun hp => ?_).addIf fun hp => ?_
  · obtain ⟨t, rfl⟩ := Option.isSome_iff_exists.1 (dayOrEmpty_ne_iff.1 hp)
    have hencode : (values collate lower).encode column (.text (dayText t)) = .ok (.time t) := by
      simp only [values, htimes, if_true, timeOf_dayText (hdays.1 t rfl)]
      rfl
    have htest : (fun row => (src.cell column row).any
        (Relation.holds (values collate lower) .ge · (.time t))) =
        fun row => decide (t ≤ time row) := by
      funext row
      rw [hcell]
      rfl
    have hmeans := Means.arg hfrom hcolumn hencode
    rw [htest] at hmeans
    exact hmeans
  · obtain ⟨t, rfl⟩ := Option.isSome_iff_exists.1 (dayOrEmpty_ne_iff.1 hp)
    have hafter : (values collate lower).dayAfter column (.text (dayText t)) =
        .ok (.time (t + dayNanos)) := by
      simp only [values, timeOf_dayText (hdays.2 t rfl)]
      rfl
    have htest : (fun row => (src.cell column row).any
        (Relation.holds (values collate lower) .le · (.time (t + dayNanos)))) =
        fun row => decide (time row ≤ t + dayNanos) := by
      funext row
      rw [hcell]
      rfl
    have hmeans := Means.dayAfter hto hcolumn hafter
    rw [htest] at hmeans
    exact hmeans

end Between

/-! ## Dead letters -/

/-- The columns that are selected, in the order in which they are read. -/
def deadLetterColumns : List String :=
  ["id", "stream", "message_id", "payload", "fail_reason", "failed_at", "retry_count"]

/-- The text of the count that `GetDeadLetters` sends, and the arguments. -/
def deadLetterCount (dateFrom dateTo : String) : String × List Arg :=
  let d := between ⟨["1=1"], [], 1⟩ "failed_at" dateFrom dateTo
  let whereClause := " AND ".intercalate d.conditions
  ("SELECT COUNT(*) FROM queue_dead_letters" ++ " WHERE " ++ whereClause, d.args)

/-- The query before its conditions. -/
def selectDeadLetters : String :=
  String.join [
    "SELECT id, stream, message_id, payload, fail_reason, failed_at, retry_count",
    "\n\t FROM queue_dead_letters"]

/-- The text of the listing that `GetDeadLetters` sends, and the arguments. -/
def deadLetterQuery (offset limit : ℤ) (dateFrom dateTo : String) : String × List Arg :=
  let d := between ⟨["1=1"], [], 1⟩ "failed_at" dateFrom dateTo
  let whereClause := " AND ".intercalate d.conditions
  (selectDeadLetters ++ " WHERE " ++ whereClause ++ "\n\t ORDER BY failed_at DESC LIMIT " ++
    Statement.placeholder d.argIdx ++ " OFFSET " ++ Statement.placeholder (d.argIdx + 1),
    d.args ++ [.int limit, .int offset])

/-- The table of dead letters. -/
def deadLetterRows : Source QueueDeadLetter Cell where
  words := [.word "queue_dead_letters"]
  columns := deadLetterColumns
  cell column l := [("failed_at", Cell.time l.failedAt)].lookup column

theorem isHead_selectDeadLetters :
    IsHead selectDeadLetters (columnTokens deadLetterColumns) deadLetterRows.words [] where
  words := by
    rw [selectDeadLetters]
    exact (lex_lines rfl (by repeat constructor) (by decide)).trans (by decide)
  what := by decide
  source := by decide

theorem isHead_countDeadLetters : IsHead "SELECT COUNT(*) FROM queue_dead_letters" countTokens
    deadLetterRows.words [] where
  words := by decide
  what := by decide
  source := by decide

theorem isOrder_failedAt : IsOrder "\n\t ORDER BY failed_at DESC LIMIT " [("failed_at", true)] where
  starts := by decide
  ends := by decide
  read := ⟨[.word "failed_at", .word "DESC"], by decide, by decide, by decide⟩

section DeadLetters

variable (collate : String → String → Bool) (lower : String → String) {db : Database}
  {dateFrom dateTo : Option ℤ}

theorem deadLetters_selects (hdays : (∀ t ∈ dateFrom, IsDay t) ∧ ∀ t ∈ dateTo, IsDay t) :
    (between ⟨["1=1"], [], 1⟩ "failed_at" (dayOrEmpty dateFrom) (dayOrEmpty dateTo)).Selects deadLetterRows
      (values collate lower) ([fun _ => true] ++ betweenTests QueueDeadLetter.failedAt dateFrom dateTo) :=
  selects_between .always (fun _ => rfl) (isPrefix_plain (by decide) (by decide) (by decide))
    (isPrefix_plain (by decide) (by decide) (by decide)) (by decide) (by decide) hdays

/-- What the database may list of the dead letters between two days: some of them, the latest first. -/
def MayListLetters (db : Database) (dateFrom dateTo : Option ℤ) (offset limit : ℤ)
    (listed : List QueueDeadLetter) : Prop :=
  0 ≤ limit ∧ 0 ≤ offset ∧ ∃ found : List QueueDeadLetter,
    found.Perm (db.deadLettersWithin dateFrom dateTo) ∧
    found.Pairwise (fun a b => b.failedAt ≤ a.failedAt) ∧
    listed = (found.drop offset.toNat).take limit.toNat

/-- **The texts list and count the dead letters between two days.** -/
theorem deadLetters_texts (hdays : (∀ t ∈ dateFrom, IsDay t) ∧ ∀ t ∈ dateTo, IsDay t) (offset limit : ℤ)
    (listed : List QueueDeadLetter) (n : ℕ) :
    let list := deadLetterQuery offset limit (dayOrEmpty dateFrom) (dayOrEmpty dateTo)
    let count := deadLetterCount (dayOrEmpty dateFrom) (dayOrEmpty dateTo)
    (MayList list.1 (columnTokens deadLetterColumns) deadLetterRows (values collate lower) list.2
      db.deadLetters listed ↔ MayListLetters db dateFrom dateTo offset limit listed) ∧
      (MayCount count.1 deadLetterRows (values collate lower) count.2 db.deadLetters n ↔
        n = (db.deadLettersWithin dateFrom dateTo).length) := by
  intro list count
  have hselects := deadLetters_selects collate lower hdays
  have hlists : MayList list.1 (columnTokens deadLetterColumns) deadLetterRows (values collate lower) list.2
      db.deadLetters listed ↔ _ :=
    hselects.mayList_page (isHead_selectDeadLetters.where (.inl (by decide)) (by decide))
      (EndsApart.append (by decide)) (by simp) isOrder_failedAt (by decide) rfl rfl
  have hcounts : MayCount count.1 deadLetterRows (values collate lower) count.2 db.deadLetters n ↔ _ :=
    hselects.mayCount (isHead_countDeadLetters.where (.inl (by decide)) (by decide))
      (EndsApart.append (by decide)) (by simp)
  have htest : db.deadLetters.filter (fun l => ([fun _ => true] ++
      betweenTests QueueDeadLetter.failedAt dateFrom dateTo).all fun f => f l) =
      db.deadLettersWithin dateFrom dateTo := by
    simp only [List.all_append, List.all_cons, List.all_nil, Bool.true_and, Bool.and_true, all_betweenTests]
    rfl
  have hbefore : ∀ a b : QueueDeadLetter,
      Before deadLetterRows (values collate lower) [("failed_at", true)] a b =
        decide (b.failedAt ≤ a.failedAt) := by
    have hcell : ∀ l, deadLetterRows.cell "failed_at" l = some (.time l.failedAt) := fun _ => rfl
    simp [Before, hcell, cellLe, values]
  rw [hlists, hcounts, List.countP_eq_length_filter, htest]
  refine ⟨?_, Iff.rfl⟩
  rw [Selecting.Part, htest]
  simp only [MayListLetters, hbefore, decide_eq_true_eq, Option.mem_some_iff, forall_eq', Option.getD_some]

/-- A message that could not be handled on the first day. -/
def oneLetter : Database :=
  ⟨[], [], [], [], [], [], [⟨"1", "messages:otp", "message-1", "{}", "no devices", 5, 3⟩], [], [], [],
    Registry.empty⟩

/-- It is counted. -/
theorem deadLetters_texts_oneLetter :
    MayCount (deadLetterCount (dayOrEmpty (some 0)) "").1 deadLetterRows (values (fun _ _ => true) id)
      (deadLetterCount (dayOrEmpty (some 0)) "").2 oneLetter.deadLetters 1 := by
  have hday : IsDay 0 := ⟨by decide, by decide⟩
  have hdays : (∀ t ∈ some (0 : ℤ), IsDay t) ∧ ∀ t ∈ (none : Option ℤ), IsDay t := by
    simpa using hday
  exact (deadLetters_texts (fun _ _ => true) id hdays 0 10 [] 1).2.2 (by decide)

end DeadLetters

/-! ## Templates -/

/-- The text of a status. -/
def approvalText : TemplateApprovalStatus → String
  | .pending => "pending"
  | .approved => "approved"
  | .rejected => "rejected"

/-- The conditions of `ListAllTemplates`, and the arguments. -/
def templateConditions (status dateFrom dateTo : String) : Where Arg :=
  let d : Where Arg := ⟨["1=1"], [], 1⟩
  let d := d.addIf (status ≠ "") (fun argIdx => "t.approval_status = " ++ Statement.placeholder argIdx)
    (.text status)
  between d "t.created_at" dateFrom dateTo

/-- The text of the count that `ListAllTemplates` sends, and the arguments. -/
def templateCount (status dateFrom dateTo : String) : String × List Arg :=
  let d := templateConditions status dateFrom dateTo
  let whereClause := " AND ".intercalate d.conditions
  ("SELECT COUNT(*) FROM templates t" ++ " WHERE " ++ whereClause, d.args)

/-- The query before its conditions. -/
def selectTemplates : String :=
  String.join [
    "SELECT t.id, t.account_id, COALESCE(a.name, '') as account_name,",
    "\n\t\t        t.name, t.body, t.variables, t.approval_status, t.approved_at, t.created_at",
    "\n\t FROM templates t\n\t LEFT JOIN accounts a ON t.account_id = a.id"]

/-- The text of the listing that `ListAllTemplates` sends, and the arguments. -/
def templateQuery (status dateFrom dateTo : String) (offset limit : ℤ) : String × List Arg :=
  let d := templateConditions status dateFrom dateTo
  let whereClause := " AND ".intercalate d.conditions
  (selectTemplates ++ "\n\t WHERE " ++ whereClause ++ "\n\t ORDER BY t.created_at DESC LIMIT " ++
    Statement.placeholder d.argIdx ++ " OFFSET " ++ Statement.placeholder (d.argIdx + 1),
    d.args ++ [.int limit, .int offset])

/-- The columns of templates. -/
def templateColumns : List String :=
  ["t.id", "t.account_id", "t.name", "t.body", "t.variables", "t.approval_status", "t.approved_at",
    "t.created_at"]

/-- What stands in the columns of templates that conditions and the order are about. -/
def templateCell (column : String) (t : Template) : Option Cell :=
  [("t.approval_status", .text (approvalText t.approvalStatus)),
    ("t.created_at", Cell.time t.createdAt)].lookup column

/-- The table of templates. -/
def templateRows : Source Template Cell where
  words := [.word "templates", .word "t"]
  columns := templateColumns
  cell := templateCell

/-- The table of templates with that of accounts. -/
def templateAccountRows : Source (Template × Option Account) Cell where
  words := [.word "templates", .word "t", .word "LEFT", .word "JOIN", .word "accounts", .word "a",
    .word "ON", .word "t", .sign '.', .word "account_id", .sign '=', .word "a", .sign '.', .word "id"]
  columns := "a.id" :: "a.name" :: templateColumns
  cell column row := templateCell column row.1

/-- The templates with their accounts. -/
def templatesWithAccounts (db : Database) : List (Template × Option Account) :=
  leftJoin db.registry.templates db.registry.accounts fun t a => a.id = t.accountID

/-- What is selected of templates and accounts. -/
def templateTokens : List Statement.Token :=
  [.word "t", .sign '.', .word "id", .sign ',', .word "t", .sign '.', .word "account_id", .sign ',',
    .word "COALESCE", .sign '(', .word "a", .sign '.', .word "name", .sign ',', .sign quote, .sign quote,
    .sign ')', .word "as", .word "account_name"] ++
  ["name", "body", "variables", "approval_status", "approved_at", "created_at"].flatMap fun c =>
    [.sign ',', .word "t", .sign '.', .word c]

theorem isHead_selectTemplates : IsHead selectTemplates templateTokens templateAccountRows.words [] where
  words := by
    rw [selectTemplates]
    exact (lex_lines rfl (by repeat constructor) (by decide)).trans (by decide)
  what := by decide
  source := by decide

theorem isHead_countTemplates :
    IsHead "SELECT COUNT(*) FROM templates t" countTokens templateRows.words [] where
  words := by decide
  what := by decide
  source := by decide

theorem isOrder_createdAt : IsOrder "\n\t ORDER BY t.created_at DESC LIMIT " [("t.created_at", true)] where
  starts := by decide
  ends := by decide
  read := ⟨[.word "t", .sign '.', .word "created_at", .word "DESC"], by decide, by decide,
    by decide⟩

/-- The templates with a status that were created between two days. An empty status is any. -/
def templatesWithin (db : Database) (status : String) (dateFrom dateTo : Option ℤ) : List Template :=
  db.registry.templates.filter fun t => (status = "" || approvalText t.approvalStatus = status) &&
    (dateFrom.all (· ≤ t.createdAt) && dateTo.all (t.createdAt ≤ · + dayNanos))

/-- What the database may list of the templates with a status between two days: some of them, the latest
first. -/
def MayListTemplates (db : Database) (status : String) (dateFrom dateTo : Option ℤ) (offset limit : ℤ)
    (listed : List Template) : Prop :=
  0 ≤ limit ∧ 0 ≤ offset ∧ ∃ found : List Template,
    found.Perm (templatesWithin db status dateFrom dateTo) ∧
    found.Pairwise (fun a b => b.createdAt ≤ a.createdAt) ∧
    listed = (found.drop offset.toNat).take limit.toNat

/-- A template is not older than another one. -/
def latest (a b : Template) : Bool := b.createdAt ≤ a.createdAt

section Templates

variable (collate : String → String → Bool) (lower : String → String) {status : String}
  {dateFrom dateTo : Option ℤ} {ρ : Type} {src : Source ρ Cell} {view : ρ → Template}

/-- What the conditions ask of rows that show templates. -/
def templateTests (view : ρ → Template) (status : String) (dateFrom dateTo : Option ℤ) : List (ρ → Bool) :=
  [fun _ => true] ++
    (if status ≠ "" then [fun row => decide (approvalText (view row).approvalStatus = status)] else []) ++
    betweenTests (fun row => (view row).createdAt) dateFrom dateTo

theorem all_templateTests (row : ρ) : ((templateTests view status dateFrom dateTo).all fun f => f row) =
    ((status = "" || approvalText (view row).approvalStatus = status) &&
      (dateFrom.all (· ≤ (view row).createdAt) && dateTo.all ((view row).createdAt ≤ · + dayNanos))) := by
  simp only [templateTests, List.all_append, all_betweenTests]
  by_cases hs : status = "" <;> simp [hs]

theorem templateConditions_selects
    (hcell : ∀ column row, src.cell column row = templateCell column (view row))
    (hcolumns : ∀ c ∈ templateColumns, c ∈ src.columns)
    (hdays : (∀ t ∈ dateFrom, IsDay t) ∧ ∀ t ∈ dateTo, IsDay t) :
    (templateConditions status (dayOrEmpty dateFrom) (dayOrEmpty dateTo)).Selects src (values collate lower)
      (templateTests view status dateFrom dateTo) := by
  have hstatus : Means src (values collate lower) (fun n => "t.approval_status = " ++ Statement.placeholder n)
      (.text status) fun row => decide (approvalText (view row).approvalStatus = status) := by
    have hpre : IsPrefix "t.approval_status = " ("t" ++ "." ++ "approval_status") .eq :=
      isPrefix_of (by decide) (by decide) (by decide)
    have hencode : (values collate lower).encode ("t" ++ "." ++ "approval_status") (.text status) =
        .ok (.text status) := rfl
    have htest : (fun row => (src.cell ("t" ++ "." ++ "approval_status") row).any
        (Relation.holds (values collate lower) .eq · (.text status))) =
        fun row => decide (approvalText (view row).approvalStatus = status) := by
      funext row
      rw [hcell, Bool.eq_iff_iff]
      simp [templateCell, Relation.holds]
    have hcolumn : "t" ++ "." ++ "approval_status" ∈ src.columns := hcolumns _ (by decide)
    have hmeans := Means.arg hpre hcolumn hencode
    rw [htest] at hmeans
    exact hmeans
  have hfrom : IsPrefix ("t.created_at" ++ " >= ") ("t" ++ "." ++ "created_at") .ge :=
    isPrefix_of (by decide) (by decide) (by decide)
  have hto : IsPrefix ("t.created_at" ++ " <= ") ("t" ++ "." ++ "created_at") .le :=
    isPrefix_of (by decide) (by decide) (by decide)
  exact selects_between (Where.Selects.always.addIf fun _ => hstatus) (fun row => hcell _ row) hfrom hto
    (hcolumns _ (by decide)) (by decide) hdays

/-- **The texts list and count the templates with a status between two days**, if accounts are told apart by
their ids. -/
theorem templates_texts {db : Database} (haccounts : (db.registry.accounts.map Account.id).Nodup)
    (hdays : (∀ t ∈ dateFrom, IsDay t) ∧ ∀ t ∈ dateTo, IsDay t) (status : String) (offset limit : ℤ)
    (listed : List Template) (n : ℕ) :
    let list := templateQuery status (dayOrEmpty dateFrom) (dayOrEmpty dateTo) offset limit
    let count := templateCount status (dayOrEmpty dateFrom) (dayOrEmpty dateTo)
    ((∃ rows, MayList list.1 templateTokens templateAccountRows (values collate lower) list.2
      (templatesWithAccounts db) rows ∧ listed = rows.map Prod.fst) ↔
        MayListTemplates db status dateFrom dateTo offset limit listed) ∧
      (MayCount count.1 templateRows (values collate lower) count.2 db.registry.templates n ↔
        n = (templatesWithin db status dateFrom dateTo).length) := by
  intro list count
  have hshown : (templatesWithAccounts db).map Prod.fst = db.registry.templates :=
    map_fst_leftJoin fun t => length_filter_key_le haccounts fun a ha => of_decide_eq_true ha
  have hfilter : ((templatesWithAccounts db).filter fun row =>
      (templateTests Prod.fst status dateFrom dateTo).all fun f => f row).map Prod.fst =
      templatesWithin db status dateFrom dateTo := by
    simp only [all_templateTests, templatesWithin]
    rw [← hshown, List.filter_map]
    rfl
  have hbefore : ∀ a b : Template × Option Account,
      Before templateAccountRows (values collate lower) [("t.created_at", true)] a b =
        latest a.1 b.1 := by
    have hcell : ∀ row, templateAccountRows.cell "t.created_at" row = some (.time row.1.createdAt) :=
      fun _ => rfl
    simp [Before, hcell, cellLe, values, latest]
  have hrows : ∀ rows, MayList list.1 templateTokens templateAccountRows (values collate lower) list.2
      (templatesWithAccounts db) rows ↔ _ := fun rows =>
    (templateConditions_selects collate lower (fun _ _ => rfl) (by decide) hdays).mayList_page
      (isHead_selectTemplates.where (.inl (by decide)) (by decide)) (EndsApart.append (by decide))
      (by simp [templateTests]) isOrder_createdAt (by decide) rfl rfl
  have hselects : (templateConditions status (dayOrEmpty dateFrom) (dayOrEmpty dateTo)).Selects templateRows
      (values collate lower) (templateTests id status dateFrom dateTo) :=
    templateConditions_selects collate lower (fun _ _ => rfl) (by decide) hdays
  have hcounts : MayCount count.1 templateRows (values collate lower) count.2 db.registry.templates n ↔ _ :=
    hselects.mayCount (isHead_countTemplates.where (.inl (by decide)) (by decide))
      (EndsApart.append (by decide)) (by simp [templateTests])
  constructor
  · rw [exists_congr fun rows => and_congr_left' (hrows rows), part_map_iff Prod.fst latest hbefore,
      hfilter, Selecting.Part, List.filter_true]
    simp only [MayListTemplates, latest, decide_eq_true_eq, Option.mem_some_iff, forall_eq',
      Option.getD_some]
  · rw [hcounts, List.countP_eq_length_filter]
    simp only [all_templateTests, templatesWithin, id_eq]

/-- An account with a template that waits for approval from the first day on. -/
def onePending : Database :=
  ⟨[], [], [], [], [], [], [], [], [], [], { Registry.empty with
    accounts := [⟨"account-1", "Ada", "ada@example.com", "", "", 30, true, .active, 0⟩]
    templates := [⟨"1", "account-1", "Code", "Your code is 1", [], .pending, none, 5⟩] }⟩

/-- It is counted. -/
theorem templates_texts_onePending :
    MayCount (templateCount "pending" (dayOrEmpty (some 0)) "").1 templateRows (values (fun _ _ => true) id)
      (templateCount "pending" (dayOrEmpty (some 0)) "").2 onePending.registry.templates 1 := by
  have haccounts : (onePending.registry.accounts.map Account.id).Nodup := by decide
  have hday : IsDay 0 := ⟨by decide, by decide⟩
  have hdays : (∀ t ∈ some (0 : ℤ), IsDay t) ∧ ∀ t ∈ (none : Option ℤ), IsDay t := by
    simpa using hday
  exact (templates_texts (fun _ _ => true) id haccounts hdays "pending" 0 10 [] 1).2.2 (by decide)

end Templates

end AeroxeBee.Admin
