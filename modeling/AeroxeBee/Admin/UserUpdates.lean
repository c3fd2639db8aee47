import AeroxeBee.Foundations.Statement
import AeroxeBee.Registry

/-!
# Users that are changed in bulk

`BulkUpdate` writes the text of a statement, with a placeholder for each field that may be changed and
for each id, and collects the arguments in the same order. The fields are those of a map, which is gone
through in any order.

* `bulkUpdate_spec`: the placeholders of the statement are those of its arguments, one after the
  other, and the statement sets the given fields of the users with the given ids and nothing else;
* `users_bulkUpdate`: what the statement makes of the table of users.
-/

namespace AeroxeBee.Admin.UserService

open Foundations Foundations.Statement

variable {α : Type}

/-! ## The statement -/

/-- The fields that may be changed. -/
def allowed (field : String) : Bool := field = "role" || field = "status"

/-- A part of a statement: its texts, the arguments so far, and the number of the next one. -/
structure Draft (α : Type) where
  texts : List String
  args : List α
  argIdx : ℕ

/-- Add the assignment of a field. -/
def addField (d : Draft α) (update : String × α) : Draft α :=
  if allowed update.1 then
    ⟨d.texts ++ [update.1 ++ " = $" ++ d.argIdx.repr], d.args ++ [update.2], d.argIdx + 1⟩
  else d

/-- Add the placeholder of an id. -/
def addID (text : String → α) (d : Draft α) (id : String) : Draft α :=
  ⟨d.texts ++ ["$" ++ d.argIdx.repr], d.args ++ [text id], d.argIdx + 1⟩

/-- The statement and its arguments, if there is one. Ids are texts among the values. -/
def bulkUpdate (text : String → α) (ids : List String) (updates : List (String × α)) :
    Option (String × List α) :=
  if ids = [] then none
  else
    let d := updates.foldl addField ⟨[], [], 1⟩
    let setClauses := d.texts
    if setClauses = [] then none
    else
      let d := ids.foldl (addID text) ⟨[], d.args, d.argIdx⟩
      let placeholders := d.texts
      some ("UPDATE users SET " ++ ", ".intercalate setClauses ++
        ", updated_at = NOW() WHERE id IN (" ++ ",".intercalate placeholders ++ ")", d.args)

/-- A map is gone through in some order. -/
structure IsIteration (m : String → Option α) (updates : List (String × α)) : Prop where
  nodup : (updates.map Prod.fst).Nodup
  mem_iff : ∀ field v, (field, v) ∈ updates ↔ m field = some v

/-- The fields that are set. -/
def fields (updates : List (String × α)) : List (String × α) := updates.filter fun u => allowed u.1

/-- The assignments of fields, the first of which has some number. -/
def assignments (fields : List (String × α)) (n : ℕ) : List (String × Value) :=
  (fields.zipIdx n).map fun p => (p.1.1, .arg p.2)

theorem assignments_cons (f : String × α) (fs : List (String × α)) (n : ℕ) :
    assignments (f :: fs) n = (f.1, .arg n) :: assignments fs (n + 1) :=
  rfl

theorem assignment_arg (field : String) (n : ℕ) :
    assignment (field, .arg n) = field ++ " = $" ++ n.repr := by
  apply String.ext
  simp [assignment, Value.text, Statement.placeholder]

/-- **The loop over the fields.** -/
theorem foldl_addField (updates : List (String × α)) (d : Draft α) :
    updates.foldl addField d =
      ⟨d.texts ++ (assignments (fields updates) d.argIdx).map assignment,
        d.args ++ (fields updates).map Prod.snd, d.argIdx + (fields updates).length⟩ := by
  induction updates generalizing d with
  | nil => simp [fields, assignments]
  | cons u updates ih =>
    rw [List.foldl_cons, ih]
    by_cases hu : allowed u.1
    · have hfields : fields (u :: updates) = u :: fields updates := List.filter_cons_of_pos hu
      have hlen : d.argIdx + 1 + (fields updates).length =
          d.argIdx + (u :: fields updates).length := by
        rw [List.length_cons]
        omega
      rw [hfields, addField, if_pos hu, assignments_cons, List.map_cons, List.map_cons,
        assignment_arg]
      dsimp only
      rw [hlen, List.append_assoc, List.append_assoc, List.singleton_append,
        List.singleton_append]
    · have hfields : fields (u :: updates) = fields updates := List.filter_cons_of_neg hu
      rw [hfields, addField, if_neg hu]

/-- **The loop over the ids.** -/
theorem foldl_addID (text : String → α) (ids : List String) (d : Draft α) :
    ids.foldl (addID text) d =
      ⟨d.texts ++ (List.range' d.argIdx ids.length).map Statement.placeholder, d.args ++ ids.map text,
        d.argIdx + ids.length⟩ := by
  induction ids generalizing d with
  | nil => simp
  | cons id ids ih =>
    rw [List.foldl_cons, ih, addID, List.length_cons, List.range'_succ]
    simp [Statement.placeholder, Nat.add_comm, Nat.add_left_comm]

/-- The statement that the text is the text of. -/
def update (ids : List String) (updates : List (String × α)) : Update where
  table := "users"
  sets := assignments (fields updates) 1 ++ [("updated_at", .now)]
  column := "id"
  list := List.range' (1 + (fields updates).length) ids.length

theorem assignments_eq_nil {fs : List (String × α)} {n : ℕ} : assignments fs n = [] ↔ fs = [] := by
  rw [assignments, List.map_eq_nil_iff, List.zipIdx_eq_nil_iff]

/-- **The text is the text of a statement.** -/
theorem bulkUpdate_eq (text : String → α) (ids : List String) (updates : List (String × α)) :
    bulkUpdate text ids updates =
      if ids = [] ∨ fields updates = [] then none
      else some ((update ids updates).text, (fields updates).map Prod.snd ++ ids.map text) := by
  by_cases hids : ids = []
  · rw [if_pos (.inl hids), bulkUpdate, if_pos hids]
  · have hempty : (assignments (fields updates) 1).map assignment = [] ↔ fields updates = [] := by
      rw [List.map_eq_nil_iff, assignments_eq_nil]
    rw [bulkUpdate, if_neg hids, foldl_addField]
    dsimp only
    rw [List.nil_append, List.nil_append]
    by_cases hfields : fields updates = []
    · rw [if_pos (hempty.2 hfields), if_pos (.inr hfields)]
    · have hsets := mt hempty.1 hfields
      have htext : (update ids updates).text = "UPDATE users SET " ++
          ", ".intercalate ((assignments (fields updates) 1).map assignment) ++
          ", updated_at = NOW() WHERE id IN (" ++
          ",".intercalate ((update ids updates).list.map Statement.placeholder) ++ ")" := by
        rw [Update.text, update, List.map_append,
          String.intercalate_append_of_ne_nil hsets (by simp)]
        apply String.ext
        simp [assignment, Value.text]
      rw [if_neg hsets, if_neg (not_or.2 ⟨hids, hfields⟩), foldl_addID, htext]
      rfl

/-! ## What the statement does -/

section Statement

variable {κ : Type} {ids : List String} {updates : List (String × α)} {text : String → α}

/-- The table of users. -/
def users : Schema :=
  ⟨"users", ["id", "name", "email", "password_hash", "role", "status", "avatar", "last_login",
    "created_at", "updated_at"]⟩

/-- The arguments of the statement. -/
def arguments (text : String → α) (ids : List String) (updates : List (String × α)) : List α :=
  (fields updates).map Prod.snd ++ ids.map text

theorem map_fst_assignments (fs : List (String × α)) (n : ℕ) :
    (assignments fs n).map Prod.fst = fs.map Prod.fst := by
  induction fs generalizing n with
  | nil => rfl
  | cons f fs ih => rw [assignments_cons, List.map_cons, List.map_cons, ih]

theorem placeholders_assignments (fs : List (String × α)) (n : ℕ) :
    ((assignments fs n).filterMap fun s => s.2.placeholder?) = List.range' n fs.length := by
  induction fs generalizing n with
  | nil => rfl
  | cons f fs ih =>
    rw [List.length_cons, List.range'_succ, ← ih]
    rfl

/-- **The placeholders stand in the order of the arguments.** -/
theorem placeholders_update (text : String → α) (ids : List String) (updates : List (String × α)) :
    (update ids updates).placeholders = List.range' 1 (arguments text ids updates).length := by
  have hnow : ([("updated_at", Value.now)].filterMap fun s => s.2.placeholder?) = [] := rfl
  rw [Update.placeholders, update, List.filterMap_append, hnow, placeholders_assignments,
    List.append_nil, List.range'_append_1, arguments, List.length_append, List.length_map,
    List.length_map]

theorem mem_fields {field : String} {v : α} :
    (field, v) ∈ fields updates ↔ (field, v) ∈ updates ∧ allowed field = true := List.mem_filter

theorem allowed_iff {field : String} : allowed field = true ↔ field = "role" ∨ field = "status" := by
  rw [allowed, Bool.or_eq_true, decide_eq_true_iff, decide_eq_true_iff]

theorem mem_assignments {fs : List (String × α)} {n : ℕ} {s : String × Value} :
    s ∈ assignments fs n ↔ ∃ i v, fs[i]? = some (s.1, v) ∧ s.2 = .arg (n + i) := by
  induction fs generalizing n with
  | nil => simp [assignments]
  | cons f fs ih =>
    rw [assignments_cons, List.mem_cons, ih]
    constructor
    · rintro (rfl | ⟨i, v, hi, harg⟩)
      · exact ⟨0, f.2, rfl, rfl⟩
      · exact ⟨i + 1, v, hi, by rw [harg, Nat.add_assoc, Nat.add_comm 1]⟩
    · rintro ⟨i, v, hi, harg⟩
      cases i with
      | zero =>
        obtain rfl : f = (s.1, v) := Option.some.inj hi
        exact .inl (Prod.ext rfl harg)
      | succ i => exact .inr ⟨i, v, hi, by rw [harg, Nat.add_assoc, Nat.add_comm 1]⟩

theorem isProper_update (hids : ids ≠ []) : (update ids updates).IsProper where
  table := by
    show IsWord "users"
    decide
  sets := by simp [update]
  names := by
    intro s hs
    rcases List.mem_append.1 hs with hs | hs
    · obtain ⟨i, v, hi, -⟩ := mem_assignments.1 hs
      rcases allowed_iff.1 (mem_fields.1 (List.mem_of_getElem? hi)).2 with hrole | hstatus
      · rw [hrole]
        decide
      · rw [hstatus]
        decide
    · rw [List.mem_singleton.1 hs]
      decide
  column := by
    show IsWord "id"
    decide
  list := by
    rw [update, ne_eq, List.range'_eq_nil_iff, List.length_eq_zero_iff]
    exact hids

theorem cell_field {s : Server α κ} {i : ℕ} {field : String} {v : α}
    (h : (fields updates)[i]? = some (field, v)) (column : String) :
    (Value.arg (1 + i)).cell s (arguments text ids updates) column = s.encode column v := by
  have hlt := (List.getElem?_eq_some_iff.1 h).1
  have harg : argument (arguments text ids updates) (1 + i) = some v := by
    rw [Nat.add_comm, argument, arguments, List.getElem?_append_left (by rwa [List.length_map]),
      List.getElem?_map, h, Option.map_some]
  rw [Value.cell, harg, Option.elim_some]

theorem cell_id {s : Server α κ} {j : ℕ} {id : String} (h : ids[j]? = some id) (column : String) :
    (Value.arg (1 + (fields updates).length + j)).cell s (arguments text ids updates) column =
      s.encode column (text id) := by
  have hplace : 1 + (fields updates).length + j = (fields updates).length + j + 1 := by omega
  have harg : argument (arguments text ids updates) (1 + (fields updates).length + j) =
      some (text id) := by
    rw [hplace, argument, arguments, List.getElem?_append_right (by simp), List.length_map,
      Nat.add_sub_cancel_left, List.getElem?_map, h, Option.map_some]
  rw [Value.cell, harg, Option.elim_some]

/-- The list holds the ids. -/
theorem exists_mem_list_iff {s : Server α κ} {r : Except String κ} :
    (∃ n ∈ (update ids updates).list,
      (Value.arg n).cell s (arguments text ids updates) "id" = r) ↔
      ∃ id ∈ ids, s.encode "id" (text id) = r := by
  constructor
  · rintro ⟨n, hn, hcell⟩
    obtain ⟨j, hj, rfl⟩ := List.mem_range'.1 hn
    rw [Nat.one_mul, cell_id (List.getElem?_eq_getElem hj)] at hcell
    exact ⟨ids[j], List.getElem_mem hj, hcell⟩
  · rintro ⟨id, hid, hencode⟩
    obtain ⟨j, hj, rfl⟩ := List.mem_iff_getElem.1 hid
    refine ⟨1 + (fields updates).length + j, List.mem_range'.2 ⟨j, hj, by rw [Nat.one_mul]⟩, ?_⟩
    rw [cell_id (List.getElem?_eq_getElem hj), hencode]

/-- What becomes of a row: if it has one of the ids, the fields of the map that may be changed are
set, and nothing else but the time of the change; if it has none of them, nothing. -/
structure RowEffect (s : Server α κ) (text : String → α) (ids : List String)
    (m : String → Option α) (row row' : String → κ) : Prop where
  sets : (∃ id ∈ ids, s.encode "id" (text id) = .ok (row "id")) →
    ∀ field v, allowed field = true → m field = some v → s.encode field v = .ok (row' field)
  updatedAt : (∃ id ∈ ids, s.encode "id" (text id) = .ok (row "id")) → row' "updated_at" = s.now
  keeps : (∃ id ∈ ids, s.encode "id" (text id) = .ok (row "id")) →
    ∀ column, column ≠ "updated_at" → (allowed column = true → m column = none) →
      row' column = row column
  other : (¬ ∃ id ∈ ids, s.encode "id" (text id) = .ok (row "id")) → row' = row

/-- What becomes of the table: the rows are changed, or nothing is, because the database does not
take the arguments or because of its constraints. -/
inductive Effect (s : Server α κ) (text : String → α) (ids : List String) (args : List α)
    (m : String → Option α) (rows : List (String → κ)) :
    Except String Unit × List (String → κ) → Prop where
  | done {rows' : List (String → κ)} (h : List.Forall₂ (RowEffect s text ids m) rows rows') :
      Effect s text ids args m rows (.ok (), rows')
  | refused {e : String}
      (h : s.admits args = false ∨
        (∃ field v e, allowed field = true ∧ m field = some v ∧ s.encode field v = .error e) ∨
        (∃ id ∈ ids, ∃ e, s.encode "id" (text id) = .error e) ∨
        ∃ rows', List.Forall₂ (RowEffect s text ids m) rows rows' ∧ s.valid rows' = false) :
      Effect s text ids args m rows (.error e, rows)

variable {m : String → Option α}

/-- The sets of the statement are the fields of the map. -/
theorem exists_field (h : IsIteration m updates) {field : String} {v : α} :
    (∃ i : ℕ, (fields updates)[i]? = some (field, v)) ↔ allowed field = true ∧ m field = some v := by
  have hmem : (field, v) ∈ fields updates ↔ ∃ i : ℕ, (fields updates)[i]? = some (field, v) :=
    List.mem_iff_getElem?
  rw [← hmem, mem_fields, h.mem_iff, and_comm]

theorem names_update (ids : List String) (updates : List (String × α)) :
    (update ids updates).sets.map Prod.fst = (fields updates).map Prod.fst ++ ["updated_at"] := by
  rw [update, List.map_append, map_fst_assignments]
  rfl

theorem mem_names_iff (h : IsIteration m updates) {column : String} :
    column ∈ (update ids updates).sets.map Prod.fst ↔
      column = "updated_at" ∨ allowed column = true ∧ m column ≠ none := by
  rw [names_update, List.mem_append, List.mem_singleton, or_comm]
  refine or_congr_right ⟨fun hmem => ?_, fun ⟨hallowed, hsome⟩ => ?_⟩
  · obtain ⟨⟨field, v⟩, hfield, rfl⟩ := List.mem_map.1 hmem
    obtain ⟨hfield, hallowed⟩ := mem_fields.1 hfield
    have hv := (h.mem_iff field v).1 hfield
    exact ⟨hallowed, by rw [hv]; exact Option.some_ne_none v⟩
  · obtain ⟨v, hv⟩ := Option.ne_none_iff_exists'.1 hsome
    exact List.mem_map.2 ⟨(column, v), mem_fields.2 ⟨(h.mem_iff column v).2 hv, hallowed⟩, rfl⟩

theorem fits_update (h : IsIteration m updates) (text : String → α) :
    (update ids updates).Fits users (arguments text ids updates) := by
  have hnames : ((fields updates).map Prod.fst).Nodup :=
    h.nodup.sublist (List.filter_sublist.map _)
  have hid : "id" ∈ users.columns := by decide
  refine ⟨rfl, List.forall_mem_cons.2 ⟨hid, fun column hcolumn => ?_⟩, ?_, fun n hn => ?_,
    fun n hn => ?_⟩
  · rcases (mem_names_iff h).1 hcolumn with rfl | ⟨hallowed, -⟩
    · decide
    · rcases allowed_iff.1 hallowed with rfl | rfl
      · decide
      · decide
  · rw [names_update]
    refine List.nodup_append.2 ⟨hnames, List.pairwise_singleton _ _, ?_⟩
    rintro a ha b hb rfl
    obtain ⟨f, hf, rfl⟩ := List.mem_map.1 ha
    have hallowed := (mem_fields.1 hf).2
    rw [List.mem_singleton.1 hb] at hallowed
    exact absurd hallowed (by decide)
  · rw [placeholders_update text, List.mem_range'_1] at hn
    omega
  · rwa [placeholders_update text]

theorem rowEffect_of_writes (h : IsIteration m updates) {s : Server α κ} {row row' : String → κ}
    (hwrites : (update ids updates).Writes s (arguments text ids updates) row row') :
    RowEffect s text ids m row row' := by
  have hfinds : (update ids updates).Finds s (arguments text ids updates) row ↔
      ∃ id ∈ ids, s.encode "id" (text id) = .ok (row "id") := exists_mem_list_iff
  refine ⟨fun hid field v hallowed hv => ?_, fun hid => ?_, fun hid column hne hcolumn => ?_,
    fun hid => hwrites.other (mt hfinds.1 hid)⟩
  · obtain ⟨i, hi⟩ := (exists_field h).2 ⟨hallowed, hv⟩
    have hset : (field, Value.arg (1 + i)) ∈ (update ids updates).sets :=
      List.mem_append_left _ (mem_assignments.2 ⟨i, v, hi, rfl⟩)
    have hcell := hwrites.sets (hfinds.2 hid) _ hset
    rwa [cell_field hi] at hcell
  · have hset : ("updated_at", Value.now) ∈ (update ids updates).sets :=
      List.mem_append_right _ (List.mem_singleton_self _)
    exact (Except.ok.inj (hwrites.sets (hfinds.2 hid) _ hset)).symm
  · refine hwrites.keeps (hfinds.2 hid) column fun hmem => ?_
    rcases (mem_names_iff h).1 hmem with hupdated | ⟨hallowed, hsome⟩
    · exact hne hupdated
    · exact hsome (hcolumn hallowed)

variable [DecidableEq κ]

theorem effect_exec (h : IsIteration m updates) (text : String → α) (ids : List String)
    (s : Server α κ) (rows : List (String → κ)) :
    Effect s text ids (arguments text ids updates) m rows
      ((update ids updates).exec users s (arguments text ids updates) rows) := by
  have heffect {rows' : List (String → κ)}
      (hw : List.Forall₂ ((update ids updates).Writes s (arguments text ids updates)) rows rows') :
      List.Forall₂ (RowEffect s text ids m) rows rows' :=
    hw.imp fun _ _ hrow => rowEffect_of_writes h hrow
  generalize hr : (update ids updates).exec users s (arguments text ids updates) rows = r
  have hcases := (update ids updates).exec_cases users s (arguments text ids updates) rows
  rw [hr] at hcases
  obtain ⟨answer, rows'⟩ := r
  rcases hcases with ⟨rfl, hwrites⟩ | ⟨⟨e, rfl⟩, rfl, hrefused⟩
  · exact .done (heffect hwrites)
  · refine .refused ?_
    cases hrefused with
    | invalid hnot =>
      exact .inl (Bool.eq_false_iff.2 fun hadmits => hnot ⟨fits_update h text, hadmits⟩)
    | @value a e ha hcell =>
      rcases List.mem_append.1 ha with ha | ha
      · obtain ⟨i, v, hi, harg⟩ := mem_assignments.1 ha
        obtain ⟨hallowed, hv⟩ := (exists_field h).1 ⟨i, hi⟩
        rw [harg, cell_field hi] at hcell
        exact .inr (.inl ⟨a.1, v, e, hallowed, hv, hcell⟩)
      · rw [List.mem_singleton.1 ha] at hcell
        cases hcell
    | @member n e hn hcell =>
      obtain ⟨id, hid, hencode⟩ := exists_mem_list_iff.1 ⟨n, hn, hcell⟩
      exact .inr (.inr (.inl ⟨id, hid, e, hencode⟩))
    | constraint hwrites hvalid =>
      exact .inr (.inr (.inr ⟨_, heffect hwrites, hvalid⟩))

end Statement

/-- **A bulk update** is a statement whose placeholders are those of its arguments, one after the
other, and which sets the given fields of the users with the given ids and nothing else; without ids
or without fields that may be changed, there is no statement. -/
theorem bulkUpdate_spec (text : String → α) (ids : List String) (m : String → Option α)
    (updates : List (String × α)) (h : IsIteration m updates) :
    match bulkUpdate text ids updates with
    | none => ids = [] ∨ ∀ field, allowed field = true → m field = none
    | some (query, args) =>
      ids ≠ [] ∧ (∃ field, allowed field = true ∧ m field ≠ none) ∧
        ∃ u, parse query = some u ∧ u.placeholders = List.range' 1 args.length ∧
          ∀ {κ : Type} [DecidableEq κ] (s : Server α κ) (rows : List (String → κ)),
            Effect s text ids args m rows (u.exec users s args rows) := by
  have hempty : fields updates = [] ↔ ∀ field, allowed field = true → m field = none := by
    constructor
    · intro hnil field hallowed
      by_contra hsome
      obtain ⟨v, hv⟩ := Option.ne_none_iff_exists'.1 hsome
      have hmem := mem_fields.2 ⟨(h.mem_iff field v).2 hv, hallowed⟩
      rw [hnil] at hmem
      cases hmem
    · intro hnone
      refine List.eq_nil_iff_forall_not_mem.2 fun ⟨field, v⟩ hmem => ?_
      obtain ⟨hmem, hallowed⟩ := mem_fields.1 hmem
      have hv := (h.mem_iff field v).1 hmem
      rw [hnone field hallowed] at hv
      cases hv
  rw [bulkUpdate_eq]
  by_cases hnothing : ids = [] ∨ fields updates = []
  · rw [if_pos hnothing]
    exact hnothing.imp_right hempty.1
  · obtain ⟨hids, hfields⟩ := not_or.1 hnothing
    rw [if_neg hnothing]
    obtain ⟨⟨field, v⟩, hmem⟩ := List.exists_mem_of_ne_nil _ hfields
    obtain ⟨hmem, hallowed⟩ := mem_fields.1 hmem
    have hv := (h.mem_iff field v).1 hmem
    exact ⟨hids, ⟨field, hallowed, by rw [hv]; exact Option.some_ne_none v⟩, update ids updates,
      parse_text (isProper_update hids), placeholders_update text ids updates,
      fun s rows => effect_exec h text ids s rows⟩

/-- A database that takes every text as it is, and the limit of the driver. -/
def plainServer : Server String String where
  admits args := args.length ≤ 65535
  encode _ v := .ok v
  now := "now"
  valid _ := true

/-- A map with a field that may not be changed. -/
def suspension : String → Option String
  | "status" => some "suspended"
  | "email" => some "new@example.com"
  | "role" => some "staff"
  | _ => none

theorem bulkUpdate_suspension :
    let query := "UPDATE users SET status = $1, role = $2, updated_at = NOW() WHERE id IN ($3,$4)"
    let args := ["suspended", "staff", "first", "second"]
    ∃ u, parse query = some u ∧ u.placeholders = [1, 2, 3, 4] ∧
      Effect plainServer id ["first", "second"] args suspension []
        (u.exec users plainServer args []) := by
  have horder : IsIteration suspension
      [("status", "suspended"), ("email", "new@example.com"), ("role", "staff")] := by
    refine ⟨by decide, fun field v => ?_⟩
    unfold suspension
    split <;> simp_all [eq_comm]
  have hspec := bulkUpdate_spec id ["first", "second"] suspension _ horder
  have hbulk : bulkUpdate id ["first", "second"]
      [("status", "suspended"), ("email", "new@example.com"), ("role", "staff")] =
        some ("UPDATE users SET status = $1, role = $2, updated_at = NOW() WHERE id IN ($3,$4)",
          ["suspended", "staff", "first", "second"]) := by
    decide
  rw [hbulk] at hspec
  obtain ⟨-, -, u, hparse, hplaceholders, heffect⟩ := hspec
  exact ⟨u, hparse, hplaceholders, heffect plainServer []⟩

/-! ## The table of users -/

/-- A row shows a user. -/
structure Shows (row : String → String) (u : User) : Prop where
  id : row "id" = u.id
  name : row "name" = u.name
  email : row "email" = u.email
  passwordHash : row "password_hash" = u.passwordHash
  role : row "role" = u.role
  status : row "status" = u.status
  avatar : row "avatar" = u.avatar

section Rows

variable {s : Server String String} {ids : List String} {m : String → Option String}

/-- What a user is after a bulk update. -/
def changed (ids : List String) (m : String → Option String) (u : User) : User :=
  if u.id ∈ ids then { u with role := (m "role").getD u.role, status := (m "status").getD u.status }
  else u

theorem shows_of_rowEffect (hs : ∀ column v, s.encode column v = .ok v) {row row' : String → String}
    {u : User} (hrow : Shows row u) (h : RowEffect s id ids m row row') :
    Shows row' (changed ids m u) := by
  have hfound : (∃ i ∈ ids, s.encode "id" (id i) = .ok (row "id")) ↔ u.id ∈ ids := by
    rw [← hrow.id]
    constructor
    · rintro ⟨i, hi, hencode⟩
      rw [hs] at hencode
      rwa [← Except.ok.inj hencode]
    · intro hmem
      exact ⟨row "id", hmem, hs _ _⟩
  by_cases hmem : u.id ∈ ids
  · have hid := hfound.2 hmem
    have hkeep (column : String) (hne : column ≠ "updated_at") (hnot : ¬ allowed column = true) :
        row' column = row column := h.keeps hid column hne fun hallowed => absurd hallowed hnot
    have hset (field : String) (hne : field ≠ "updated_at") (hallowed : allowed field = true) :
        row' field = (m field).getD (row field) := by
      cases hv : m field with
      | none => exact h.keeps hid field hne fun _ => hv
      | some v => exact (Except.ok.inj ((hs field v).symm.trans (h.sets hid field v hallowed hv))).symm
    rw [changed, if_pos hmem]
    exact
      { id := (hkeep _ (by decide) (by decide)).trans hrow.id
        name := (hkeep _ (by decide) (by decide)).trans hrow.name
        email := (hkeep _ (by decide) (by decide)).trans hrow.email
        passwordHash := (hkeep _ (by decide) (by decide)).trans hrow.passwordHash
        role := by rw [hset _ (by decide) (by decide), hrow.role]
        status := by rw [hset _ (by decide) (by decide), hrow.status]
        avatar := (hkeep _ (by decide) (by decide)).trans hrow.avatar }
  · rw [changed, if_neg hmem, h.other (mt hfound.1 hmem)]
    exact hrow

theorem forall₂_shows (hs : ∀ column v, s.encode column v = .ok v)
    {rows rows' : List (String → String)} (h : List.Forall₂ (RowEffect s id ids m) rows rows')
    {us : List User} (hrows : List.Forall₂ Shows rows us) :
    List.Forall₂ Shows rows' (us.map (changed ids m)) := by
  induction h generalizing us with
  | nil =>
    cases hrows
    exact .nil
  | cons hrow _ ih =>
    cases hrows with
    | cons hshows hrows => exact .cons (shows_of_rowEffect hs hshows hrow) (ih hrows)

/-- **The table after a bulk update** shows the users that the statement of the registry leaves. -/
theorem users_bulkUpdate (hs : ∀ column v, s.encode column v = .ok v)
    {rows rows' : List (String → String)} {r : Registry} (hrows : List.Forall₂ Shows rows r.users)
    (h : List.Forall₂ (RowEffect s id ids m) rows rows') :
    List.Forall₂ Shows rows'
      ((RegistryQuery.bulkUpdateUsers ids (m "role") (m "status")).run r).2.users := by
  have hrun : ((RegistryQuery.bulkUpdateUsers ids (m "role") (m "status")).run r).2.users =
      r.users.map (changed ids m) := by
    simp [RegistryQuery.run, updateWhere, changed]
  rw [hrun]
  exact forall₂_shows hs h hrows

end Rows

end AeroxeBee.Admin.UserService
