import AeroxeBee.Columns
import AeroxeBee.Admin.DeadLetters

/-!
# The queries for users and for submissions

`ListUsers` looks for users by a text, a role and a status, and sorts them by a column that is one of a
list. `ListSubmissions` lists what was sent to the sales team, and counts it with other arguments than those
of the conditions.

* `users_texts`: the texts list and count the users that the options admit, whatever the options are;
* `admits_of_plain`: a plain text is looked for in names and addresses;
* `listSubmissions_spec`: the submissions are listed as they should be, but they are never counted.
-/

namespace AeroxeBee.Admin

open Foundations Foundations.Selecting

/-! ## Users -/

/-- Which users are asked for. -/
structure UserFilterOptions where
  search : String
  role : String
  status : String
  sortBy : String
  sortOrder : String
  page : ℤ
  pageSize : ℤ

/-- A user with the times of its row. -/
structure StoredUser where
  user : User
  createdAt : ℤ
  lastLogin : Option ℤ

/-- The columns that users can be sorted by. -/
def sortable : List String := ["name", "email", "role", "status", "created_at", "last_login"]

namespace UserFilterOptions

/-- The page, which is the first one unless another is asked for. -/
def pageNumber (opts : UserFilterOptions) : ℤ := if opts.page < 1 then 1 else opts.page

/-- The size of a page, which is not more than a hundred. -/
def size (opts : UserFilterOptions) : ℤ :=
  if opts.pageSize < 1 ∨ 100 < opts.pageSize then 20 else opts.pageSize

/-- How many users come before the page. -/
def offset (opts : UserFilterOptions) : ℤ := wrap64 ((opts.pageNumber - 1) * opts.size)

/-- The column that users are sorted by. -/
def sortColumn (opts : UserFilterOptions) : String :=
  if sortable.contains opts.sortBy then opts.sortBy else "created_at"

/-- Users are sorted in descending order. -/
def descending (opts : UserFilterOptions) : Bool := opts.sortOrder ≠ "asc"

end UserFilterOptions

variable (toLower : String → String)

/-- The conditions of `ListUsers`, and the arguments. -/
def userConditions (opts : UserFilterOptions) : Where Arg :=
  let d : Where Arg := ⟨[], [], 1⟩
  let d := d.addIf (opts.search ≠ "")
    (fun argIdx => "(LOWER(name) LIKE " ++ Statement.placeholder argIdx ++ " OR LOWER(email) LIKE " ++
      Statement.placeholder argIdx ++ ")")
    (.text ("%" ++ toLower opts.search ++ "%"))
  let d := d.addIf (opts.role ≠ "") (fun argIdx => "role = " ++ Statement.placeholder argIdx)
    (.text opts.role)
  d.addIf (opts.status ≠ "") (fun argIdx => "status = " ++ Statement.placeholder argIdx)
    (.text opts.status)

/-- The conditions as a part of a text, which is empty if there are none. -/
def whereClause (d : Where Arg) : String :=
  if d.conditions ≠ [] then "WHERE " ++ " AND ".intercalate d.conditions else ""

/-- The text of the count that `ListUsers` sends, and the arguments. -/
def userCount (opts : UserFilterOptions) : String × List Arg :=
  let d := userConditions toLower opts
  ("SELECT COUNT(*) FROM users " ++ whereClause d, d.args)

/-- The query before its conditions. -/
def selectUsers : String :=
  String.join [
    "SELECT id, name, email, password_hash, role, status, avatar, last_login, created_at, updated_at",
    "\n\t\t FROM users "]

/-- The text of the listing that `ListUsers` sends, and the arguments. -/
def userQuery (opts : UserFilterOptions) : String × List Arg :=
  let d := userConditions toLower opts
  let sortOrder := if opts.descending then "DESC" else "ASC"
  (selectUsers ++ whereClause d ++ (" ORDER BY " ++ opts.sortColumn ++ " " ++ sortOrder ++ " LIMIT ") ++
    Statement.placeholder d.argIdx ++ " OFFSET " ++ Statement.placeholder (d.argIdx + 1),
    d.args ++ [.int opts.size, .int opts.offset])

/-! ### Rows -/

/-- The columns of users, in the order in which they are read. -/
def userColumns : List String :=
  ["id", "name", "email", "password_hash", "role", "status", "avatar", "last_login", "created_at",
    "updated_at"]

/-- What stands in the columns that conditions and orders are about. -/
def userCell (column : String) (u : StoredUser) : Option Cell :=
  match [("name", some (Cell.text u.user.name)), ("email", some (.text u.user.email)),
    ("role", some (.text u.user.role)), ("status", some (.text u.user.status)),
    ("last_login", u.lastLogin.map .time), ("created_at", some (.time u.createdAt))].lookup column with
  | some cell => cell
  | none => none

/-- The table of users. -/
def userRows : Source StoredUser Cell where
  words := [.word "users"]
  columns := userColumns
  cell := userCell

theorem isHead_selectUsers : IsHead selectUsers (columnTokens userColumns) userRows.words [] where
  words := by
    rw [selectUsers]
    exact (lex_lines rfl (by repeat constructor) (by decide)).trans (by decide)
  what := by decide
  source := by decide

theorem ends_selectUsers : EndsApart selectUsers := by
  rw [selectUsers]
  exact EndsApart.append (by decide)

theorem isHead_countUsers : IsHead "SELECT COUNT(*) FROM users " countTokens userRows.words [] where
  words := by decide
  what := by decide
  source := by decide

theorem isOrder_sorted {column : String} (h : column ∈ sortable) (descending : Bool) :
    IsOrder (" ORDER BY " ++ column ++ " " ++ (if descending then "DESC" else "ASC") ++ " LIMIT ")
      [(column, descending)] := by
  have hread : ∀ c ∈ sortable, ∀ desc : Bool,
      lex (" ORDER BY " ++ c ++ " " ++ (if desc then "DESC" else "ASC") ++ " LIMIT ") = .word "ORDER" ::
        .word "BY" :: ([.word c, .word (if desc then "DESC" else "ASC")] ++ [.word "LIMIT"]) ∧
      Statement.Token.word "LIMIT" ∉ [.word c, .word (if desc then "DESC" else "ASC")] ∧
      ([Statement.Token.word c, .word (if desc then "DESC" else "ASC")].splitOn (.sign ',')).mapM readKey =
        some [(c, desc)] := by
    decide
  obtain ⟨hlex, hlimit, hkeys⟩ := hread column h descending
  exact ⟨.append (.append (.append (.append (by decide)))), EndsApart.append (by decide), _, hlex,
    hlimit, hkeys⟩

/-! ### What the conditions mean -/

section Users

variable (collate : String → String → Bool) (lower : String → String) {opts : UserFilterOptions}

/-- The pattern of a text that is looked for. -/
def searchPattern (search : String) : List Like.Piece :=
  (Like.read false ("%" ++ toLower search ++ "%").toList).getD []

theorem read_search (search : String) :
    Like.read false ("%" ++ toLower search ++ "%").toList = some (searchPattern toLower search) := by
  have hsome := Like.read_append_percent false ('%' :: (toLower search).toList)
  have hlist : ("%" ++ toLower search ++ "%").toList = '%' :: (toLower search).toList ++ ['%'] := by
    simp
  rw [searchPattern, hlist]
  exact (Option.some_get hsome).symm.trans (congrArg some (Option.get_eq_getD _))

/-- A user has a text that is looked for. -/
def found (search : String) (u : StoredUser) : Bool :=
  Like.stands (searchPattern toLower search) (lower u.user.name).toList ||
    Like.stands (searchPattern toLower search) (lower u.user.email).toList

/-- The users that the options admit. An option that is empty admits every user. -/
def UserFilterOptions.admits (opts : UserFilterOptions) (u : StoredUser) : Bool :=
  (opts.search = "" || found toLower lower opts.search u) && (opts.role = "" || u.user.role = opts.role) &&
    (opts.status = "" || u.user.status = opts.status)

/-- What the conditions ask of users. -/
def userTests (opts : UserFilterOptions) : List (StoredUser → Bool) :=
  (if opts.search ≠ "" then [found toLower lower opts.search] else []) ++
    (if opts.role ≠ "" then [fun u => decide (u.user.role = opts.role)] else []) ++
    (if opts.status ≠ "" then [fun u => decide (u.user.status = opts.status)] else [])

theorem all_userTests (opts : UserFilterOptions) (u : StoredUser) :
    ((userTests toLower lower opts).all fun f => f u) = opts.admits toLower lower u := by
  simp only [userTests, UserFilterOptions.admits, List.all_append]
  by_cases hsearch : opts.search = "" <;> by_cases hrole : opts.role = "" <;>
    by_cases hstatus : opts.status = "" <;> simp [hsearch, hrole, hstatus]

theorem means_search (search : String) : Means userRows (values collate lower)
    (fun n => "(LOWER(name) LIKE " ++ Statement.placeholder n ++ " OR LOWER(email) LIKE " ++
      Statement.placeholder n ++ ")") (.text ("%" ++ toLower search ++ "%"))
    (found toLower lower search) := by
  have hread : ∀ n, IsCondition ("(LOWER(name) LIKE " ++ Statement.placeholder n ++
      " OR LOWER(email) LIKE " ++ Statement.placeholder n ++ ")")
      (.anyLike [("name", n), ("email", n)]) := fun n =>
    isCondition_anyLike n (by decide) (by decide) (by decide) (by decide) (by decide)
  have hlike : (values collate lower).like (.text ("%" ++ toLower search ++ "%")) =
      .ok (cellLike lower (searchPattern toLower search)) := by
    simp only [values, read_search]
  exact Means.anyLike hread (by decide) hlike

theorem means_textColumn (column : String) {pre : String} (hpre : IsPrefix pre column .eq)
    (hcolumn : column ∈ userColumns) (htimes : holdsTimes column = false) {field : StoredUser → String}
    (hcell : ∀ u, userCell column u = some (.text (field u))) (s : String) :
    Means userRows (values collate lower) (fun n => pre ++ Statement.placeholder n) (.text s)
      fun u => decide (field u = s) := by
  have hencode : (values collate lower).encode column (.text s) = .ok (.text s) := by
    simp only [values, htimes]
    rfl
  have htest : (fun u => (userRows.cell column u).any
      (Relation.holds (values collate lower) .eq · (.text s))) =
      fun u => decide (field u = s) := by
    funext u
    have hu : userRows.cell column u = some (.text (field u)) := hcell u
    rw [hu, Bool.eq_iff_iff]
    simp [Relation.holds]
  have hmem : column ∈ userRows.columns := hcolumn
  have hmeans := Means.arg hpre hmem hencode
  rw [htest] at hmeans
  exact hmeans

theorem userConditions_selects (opts : UserFilterOptions) :
    (userConditions toLower opts).Selects userRows (values collate lower)
      (userTests toLower lower opts) := by
  have hrole : Means userRows (values collate lower) (fun n => "role = " ++ Statement.placeholder n)
      (.text opts.role) fun u => decide (u.user.role = opts.role) :=
    means_textColumn collate lower "role" (isPrefix_plain (by decide) (by decide) (by decide)) (by decide)
      (by decide) (fun _ => rfl) opts.role
  have hstatus : Means userRows (values collate lower) (fun n => "status = " ++ Statement.placeholder n)
      (.text opts.status) fun u => decide (u.user.status = opts.status) :=
    means_textColumn collate lower "status" (isPrefix_plain (by decide) (by decide) (by decide)) (by decide)
      (by decide) (fun _ => rfl) opts.status
  exact ((Where.Selects.nil.addIf fun _ => means_search toLower collate lower opts.search).addIf
    fun _ => hrole).addIf fun _ => hstatus

theorem sortColumn_mem (opts : UserFilterOptions) : opts.sortColumn ∈ sortable := by
  rw [UserFilterOptions.sortColumn]
  split_ifs with h
  · exact List.contains_iff_mem.1 h
  · decide

/-- **The texts list and count the users that the options admit**, whatever the options are. -/
theorem users_texts (opts : UserFilterOptions) (users listed : List StoredUser) (n : ℕ) :
    let list := userQuery toLower opts
    let count := userCount toLower opts
    (MayList list.1 (columnTokens userColumns) userRows (values collate lower) list.2 users listed ↔
      Selecting.Part (opts.admits toLower lower)
        (Before userRows (values collate lower) [(opts.sortColumn, opts.descending)]) opts.size
        (some opts.offset) users listed) ∧
      (MayCount count.1 userRows (values collate lower) count.2 users n ↔
        n = users.countP (opts.admits toLower lower)) := by
  intro list count
  have hselects := userConditions_selects toLower collate lower opts
  have htest : (fun u => (userTests toLower lower opts).all fun f => f u) = opts.admits toLower lower :=
    funext (all_userTests toLower lower opts)
  have horder := isOrder_sorted (sortColumn_mem opts) opts.descending
  have hcolumns : ∀ c ∈ [(opts.sortColumn, opts.descending)].map Prod.fst, c ∈ userRows.columns := by
    have hsub : ∀ c ∈ sortable, c ∈ userRows.columns := by decide
    intro c hc
    rw [List.map_cons, List.map_nil, List.mem_singleton] at hc
    rw [hc]
    exact hsub _ (sortColumn_mem opts)
  have htext : list.1 = selectUsers ++ whereClause (userConditions toLower opts) ++ (" ORDER BY " ++
      opts.sortColumn ++ " " ++ (if opts.descending then "DESC" else "ASC") ++ " LIMIT ") ++
      Statement.placeholder (userConditions toLower opts).argIdx ++ " OFFSET " ++
      Statement.placeholder ((userConditions toLower opts).argIdx + 1) := rfl
  have hargs : list.2 = (userConditions toLower opts).args ++ [.int opts.size, .int opts.offset] := rfl
  have hcount : count.1 = "SELECT COUNT(*) FROM users " ++ whereClause (userConditions toLower opts) := rfl
  have hcountArgs : count.2 = (userConditions toLower opts).args := rfl
  rw [← htest, htext, hargs, hcount, hcountArgs]
  by_cases hnone : userTests toLower lower opts = []
  · have hclause : whereClause (userConditions toLower opts) = "" :=
      if_neg (not_not.2 (hselects.conditions_eq_nil_iff.2 hnone))
    rw [hclause, String.append_empty, String.append_empty]
    exact ⟨hselects.mayList_page_all isHead_selectUsers hnone horder hcolumns rfl rfl,
      hselects.mayCount_all isHead_countUsers hnone⟩
  · have hclause : whereClause (userConditions toLower opts) =
        "WHERE " ++ " AND ".intercalate (userConditions toLower opts).conditions :=
      if_pos (mt hselects.conditions_eq_nil_iff.1 hnone)
    have hselect : ∀ head tail : String, head ++ ("WHERE " ++ tail) = head ++ "WHERE " ++ tail :=
      fun _ _ => String.append_assoc.symm
    rw [hclause, hselect, hselect]
    exact ⟨hselects.mayList_page (isHead_selectUsers.where (.inr ends_selectUsers) (by decide))
        (EndsApart.append (by decide)) hnone horder hcolumns rfl rfl,
      hselects.mayCount (isHead_countUsers.where (.inr (by decide)) (by decide))
        (EndsApart.append (by decide)) hnone⟩

/-- **A plain text is looked for in names and addresses.** -/
theorem found_of_plain {search : String} (h : Like.Plain (toLower search).toList) (u : StoredUser) :
    found toLower lower search u ↔ (toLower search).toList <:+: (lower u.user.name).toList ∨
      (toLower search).toList <:+: (lower u.user.email).toList := by
  have hlist : ("%" ++ toLower search ++ "%").toList = '%' :: ((toLower search).toList ++ ['%']) := by simp
  have hpattern : searchPattern toLower search = .any :: ((toLower search).toList.map .lit ++ [.any]) := by
    rw [searchPattern, hlist, Like.read_contains h, Option.getD_some]
  rw [found, hpattern, Bool.or_eq_true, Like.stands_contains_iff, Like.stands_contains_iff]

end Users

/-! ## Submissions -/

/-- What somebody has sent to the sales team. -/
structure Submission where
  id : String
  name : String
  email : String
  company : String
  phone : String
  planInterest : String
  message : String
  status : String
  notes : String
  ipAddress : String
  createdAt : ℤ
  updatedAt : ℤ

/-- The parameters of a request for the submissions. -/
structure SubmissionRequest where
  status : String
  dateFrom : Option ℤ
  dateTo : Option ℤ
  pageSize : ℤ
  offset : ℤ

/-- The conditions of `ListSubmissions`, and the arguments. -/
def submissionConditions (req : SubmissionRequest) : Where Arg :=
  let d : Where Arg := ⟨[], [], 1⟩
  let d := d.addIf (req.status ≠ "") (fun argIdx => "status = " ++ Statement.placeholder argIdx)
    (.text req.status)
  let d := d.addIf req.dateFrom.isSome (fun argIdx => "created_at >= " ++ Statement.placeholder argIdx)
    (.time (req.dateFrom.getD 0))
  d.addIf req.dateTo.isSome (fun argIdx => "created_at <= " ++ Statement.placeholder argIdx)
    (.time (req.dateTo.getD 0))

/-- The conditions as a part of a text, one after the other. -/
def submissionClause : List String → String
  | [] => ""
  | clause :: clauses => clauses.foldl (fun text wc => text ++ (" AND " ++ wc)) (" WHERE " ++ clause)

/-- The query before its conditions. -/
def selectSubmissions : String :=
  String.join [
    "SELECT id, name, email, company, phone, plan_interest, message, status, notes, ip_address, created_at,",
    " updated_at\n\t\t FROM contact_submissions"]

/-- The text of the listing that `ListSubmissions` sends, and the arguments. -/
def submissionQuery (req : SubmissionRequest) : String × List Arg :=
  let d := submissionConditions req
  (selectSubmissions ++ submissionClause d.conditions ++ " ORDER BY created_at DESC LIMIT " ++
    Statement.placeholder d.argIdx ++ " OFFSET " ++ Statement.placeholder (d.argIdx + 1),
    d.args ++ [.int req.pageSize, .int req.offset])

/-- The text of the count that `ListSubmissions` sends, and the arguments: those of the conditions without
the last two of them. -/
def submissionCount (req : SubmissionRequest) : String × List Arg :=
  let d := submissionConditions req
  ("SELECT COUNT(*) FROM contact_submissions" ++ submissionClause d.conditions,
    d.args.take (d.args.length - 2))

/-- What a request for the submissions comes to. -/
inductive SubmissionAnswer where
  | failed
  | panics
  | listed (submissions : List Submission) (total : ℕ)

/-- `GET /api/v1/admin/contact-submissions`. There is no part of less than two arguments without the last
two, and the total is zero unless the database counts. -/
def listSubmissions (list : String × List Arg → Except String (List Submission))
    (count : String × List Arg → Except String ℕ) (req : SubmissionRequest) : SubmissionAnswer :=
  match list (submissionQuery req) with
  | .error _ => .failed
  | .ok submissions =>
    if (submissionConditions req).args.length < 2 then .panics
    else .listed submissions ((count (submissionCount req)).toOption.getD 0)

/-- The columns of submissions, in the order in which they are read. -/
def submissionColumns : List String :=
  ["id", "name", "email", "company", "phone", "plan_interest", "message", "status", "notes", "ip_address",
    "created_at", "updated_at"]

/-- The table of submissions. -/
def submissionRows : Source Submission Cell where
  words := [.word "contact_submissions"]
  columns := submissionColumns
  cell column s := [("status", .text s.status), ("created_at", Cell.time s.createdAt)].lookup column

/-- The submissions that are asked for. -/
def SubmissionRequest.admits (req : SubmissionRequest) (s : Submission) : Bool :=
  (req.status = "" || s.status = req.status) && req.dateFrom.all (· ≤ s.createdAt) &&
    req.dateTo.all (s.createdAt ≤ ·)

theorem isHead_selectSubmissions :
    IsHead selectSubmissions (columnTokens submissionColumns) submissionRows.words [] where
  words := by
    rw [selectSubmissions]
    exact (lex_lines rfl (by repeat constructor) (by decide)).trans (by decide)
  what := by decide
  source := by decide

theorem isHead_countSubmissions :
    IsHead "SELECT COUNT(*) FROM contact_submissions" countTokens submissionRows.words [] where
  words := by decide
  what := by decide
  source := by decide

theorem isOrder_submissions : IsOrder " ORDER BY created_at DESC LIMIT " [("created_at", true)] where
  starts := by decide
  ends := by decide
  read := ⟨[.word "created_at", .word "DESC"], by decide, by decide, by decide⟩

theorem submissionClause_eq {clauses : List String} (h : clauses ≠ []) :
    submissionClause clauses = " WHERE " ++ " AND ".intercalate clauses := by
  cases clauses with
  | nil => exact absurd rfl h
  | cons clause clauses => exact foldl_glue " AND " " WHERE " clause clauses

section Submissions

variable (collate : String → String → Bool) (lower : String → String) {req : SubmissionRequest}
  {submissions : List Submission}

/-- What the conditions ask of submissions. -/
def submissionTests (req : SubmissionRequest) : List (Submission → Bool) :=
  (if req.status ≠ "" then [fun s => decide (s.status = req.status)] else []) ++
    (if req.dateFrom.isSome then [fun s => decide (req.dateFrom.getD 0 ≤ s.createdAt)] else []) ++
    (if req.dateTo.isSome then [fun s => decide (s.createdAt ≤ req.dateTo.getD 0)] else [])

theorem all_submissionTests (s : Submission) :
    ((submissionTests req).all fun f => f s) = req.admits s := by
  simp only [submissionTests, SubmissionRequest.admits, List.all_append]
  by_cases hstatus : req.status = "" <;> cases req.dateFrom <;> cases req.dateTo <;> simp [hstatus]

/-- The time of creation is compared with an argument. -/
theorem means_createdAt {pre : String} {rel : Relation} (hpre : IsPrefix pre "created_at" rel) (t : ℤ) :
    Means submissionRows (values collate lower) (fun n => pre ++ Statement.placeholder n) (.time t)
      fun s => Relation.holds (values collate lower) rel (.time s.createdAt) (.time t) :=
  Means.arg hpre (by decide) rfl

theorem submissionConditions_selects :
    (submissionConditions req).Selects submissionRows (values collate lower) (submissionTests req) := by
  have hstatus : Means submissionRows (values collate lower) (fun n => "status = " ++ Statement.placeholder n)
      (.text req.status) fun s => decide (s.status = req.status) := by
    have hmeans : Means submissionRows (values collate lower) _ (.text req.status) _ :=
      Means.arg (isPrefix_plain (by decide : lex "status = " = .word "status" :: Relation.tokens .eq)
        (by decide) (by decide)) (by decide) rfl
    have htest : (fun s => (submissionRows.cell "status" s).any
        (Relation.holds (values collate lower) .eq · (.text req.status))) =
        fun s : Submission => decide (s.status = req.status) := by
      funext s
      rw [Bool.eq_iff_iff]
      simp [submissionRows, Relation.holds]
    rw [htest] at hmeans
    exact hmeans
  have hfrom : Means submissionRows (values collate lower)
      (fun n => "created_at >= " ++ Statement.placeholder n) (.time (req.dateFrom.getD 0))
      fun s => decide (req.dateFrom.getD 0 ≤ s.createdAt) :=
    means_createdAt collate lower (isPrefix_plain (by decide) (by decide) (by decide) : IsPrefix _ _ .ge) _
  have hto : Means submissionRows (values collate lower)
      (fun n => "created_at <= " ++ Statement.placeholder n) (.time (req.dateTo.getD 0))
      fun s => decide (s.createdAt ≤ req.dateTo.getD 0) :=
    means_createdAt collate lower (isPrefix_plain (by decide) (by decide) (by decide) : IsPrefix _ _ .le) _
  exact ((Where.Selects.nil.addIf fun _ => hstatus).addIf fun _ => hfrom).addIf fun _ => hto

/-- Submissions stand in the order of the query, the latest first. -/
def newestSubmission (a b : Submission) : Bool := b.createdAt ≤ a.createdAt

/-- The listing lists the submissions that are asked for. -/
theorem submissionQuery_iff (req : SubmissionRequest) (submissions listed : List Submission) :
    MayList (submissionQuery req).1 (columnTokens submissionColumns) submissionRows (values collate lower)
      (submissionQuery req).2 submissions listed ↔
      Selecting.Part req.admits newestSubmission req.pageSize (some req.offset) submissions listed := by
  have hselects : (submissionConditions req).Selects submissionRows (values collate lower)
      (submissionTests req) := submissionConditions_selects collate lower
  have htest : (fun s => (submissionTests req).all fun f => f s) = req.admits :=
    funext fun s => all_submissionTests s
  have hbefore : Before submissionRows (values collate lower) [("created_at", true)] =
      newestSubmission := by
    funext a b
    have hcell : ∀ s, submissionRows.cell "created_at" s = some (.time s.createdAt) := fun _ => rfl
    simp [Before, hcell, cellLe, values, newestSubmission]
  have htext : (submissionQuery req).1 = selectSubmissions ++
      submissionClause (submissionConditions req).conditions ++ " ORDER BY created_at DESC LIMIT " ++
      Statement.placeholder (submissionConditions req).argIdx ++ " OFFSET " ++
      Statement.placeholder ((submissionConditions req).argIdx + 1) := rfl
  have hargs : (submissionQuery req).2 =
      (submissionConditions req).args ++ [.int req.pageSize, .int req.offset] := rfl
  rw [htext, hargs, ← htest, ← hbefore]
  by_cases hnone : submissionTests req = []
  · have hclause : submissionClause (submissionConditions req).conditions = "" := by
      rw [hselects.conditions_eq_nil_iff.2 hnone]
      rfl
    rw [hclause, String.append_empty]
    exact hselects.mayList_page_all isHead_selectSubmissions hnone isOrder_submissions (by decide) rfl rfl
  · rw [submissionClause_eq (mt hselects.conditions_eq_nil_iff.1 hnone), ← String.append_assoc]
    exact hselects.mayList_page (isHead_selectSubmissions.where (.inl (by decide)) (by decide))
      (EndsApart.append (by decide)) hnone isOrder_submissions (by decide) rfl rfl

/-- **No database counts what the count is asked for**: its arguments are two fewer than its conditions
need. -/
theorem not_mayCount_submissions (h : 2 ≤ (submissionConditions req).args.length) (n : ℕ) :
    ¬ MayCount (submissionCount req).1 submissionRows (values collate lower) (submissionCount req).2
      submissions n := by
  have hselects : (submissionConditions req).Selects submissionRows (values collate lower)
      (submissionTests req) := submissionConditions_selects collate lower
  have hnone : submissionTests req ≠ [] := by
    intro hnil
    rw [hselects.args_eq_nil hnil] at h
    exact absurd h (by decide)
  have htext : (submissionCount req).1 = "SELECT COUNT(*) FROM contact_submissions" ++
      submissionClause (submissionConditions req).conditions := rfl
  have hargs : (submissionCount req).2 =
      (submissionConditions req).args.take ((submissionConditions req).args.length - 2) := rfl
  rw [htext, hargs, submissionClause_eq (mt hselects.conditions_eq_nil_iff.1 hnone), ← String.append_assoc]
  refine hselects.not_mayCount (isHead_countSubmissions.where (.inl (by decide)) (by decide))
    (EndsApart.append (by decide)) hnone ?_
  rw [List.length_take]
  omega

/-- How many of the three filters are set. -/
def SubmissionRequest.filters (req : SubmissionRequest) : ℕ :=
  (if req.status ≠ "" then 1 else 0) + (if req.dateFrom.isSome then 1 else 0) +
    if req.dateTo.isSome then 1 else 0

theorem length_args (req : SubmissionRequest) : (submissionConditions req).args.length = req.filters := by
  simp only [submissionConditions, SubmissionRequest.filters, Where.addIf, Where.add]
  split_ifs <;> rfl

/-- **Submissions are never counted.** A request with less than two filters panics, if it is not refused;
any other one lists the submissions that are asked for, with a total of zero. -/
theorem listSubmissions_spec {list : String × List Arg → Except String (List Submission)}
    {count : String × List Arg → Except String ℕ}
    (hlist : ∀ sent listed, list sent = .ok listed → MayList sent.1 (columnTokens submissionColumns)
      submissionRows (values collate lower) sent.2 submissions listed)
    (hcount : ∀ sent n, count sent = .ok n →
      MayCount sent.1 submissionRows (values collate lower) sent.2 submissions n)
    (req : SubmissionRequest) :
    listSubmissions list count req = .failed ∨
      (req.filters < 2 ∧ listSubmissions list count req = .panics) ∨
      2 ≤ req.filters ∧ ∃ listed, listSubmissions list count req = .listed listed 0 ∧
        Selecting.Part req.admits newestSubmission req.pageSize (some req.offset) submissions listed := by
  rw [listSubmissions, length_args]
  cases hanswer : list (submissionQuery req) with
  | error e => exact .inl rfl
  | ok listed =>
    dsimp only
    by_cases hfew : req.filters < 2
    · rw [if_pos hfew]
      exact .inr (.inl ⟨hfew, rfl⟩)
    · have hargs : 2 ≤ (submissionConditions req).args.length := by
        rw [length_args]
        omega
      have hnone : (count (submissionCount req)).toOption = none := by
        cases hn : count (submissionCount req) with
        | error e => rfl
        | ok n => exact absurd (hcount _ n hn) (not_mayCount_submissions collate lower hargs n)
      rw [if_neg hfew, hnone]
      exact .inr (.inr ⟨by omega, listed, rfl, (submissionQuery_iff collate lower req submissions listed).1
        (hlist _ _ hanswer)⟩)

/-- A submission that is asked for by its status and its day. -/
def asked : Submission :=
  ⟨"1", "Ada", "ada@example.com", "", "", "", "How much is it?", "new", "", "", 5, 5⟩

/-- The request for it. -/
def newSubmissions : SubmissionRequest := ⟨"new", some 0, none, 20, 0⟩

/-- The submission is listed, and the total is zero. -/
theorem listSubmissions_asked :
    ∃ listed, listSubmissions
      (fun sent => if sent = submissionQuery newSubmissions then .ok [asked] else .error "refused")
      (fun _ => .error "refused") newSubmissions = .listed listed 0 := by
  have hlist : ∀ sent listed, (if sent = submissionQuery newSubmissions then .ok [asked]
      else .error "refused" : Except String (List Submission)) = .ok listed →
      MayList sent.1 (columnTokens submissionColumns) submissionRows (values (fun _ _ => true) id) sent.2
        [asked] listed := by
    intro sent listed h
    split_ifs at h with hsent
    obtain rfl := Except.ok.inj h
    rw [hsent, submissionQuery_iff]
    exact ⟨by decide, by decide, [asked], .refl _, by simp, rfl⟩
  have hcount : ∀ (sent : String × List Arg) (n : ℕ), (.error "refused" : Except String ℕ) = .ok n →
      MayCount sent.1 submissionRows (values (fun _ _ => true) id) sent.2 [asked] n := fun _ _ h => by
    cases h
  rcases listSubmissions_spec (fun _ _ => true) id hlist hcount newSubmissions with
    h | ⟨hfew, -⟩ | ⟨-, listed, h, -⟩
  · rw [listSubmissions, if_pos rfl] at h
    dsimp only at h
    split_ifs at h
  · exact absurd hfew (by decide)
  · exact ⟨listed, h⟩

end Submissions

end AeroxeBee.Admin
