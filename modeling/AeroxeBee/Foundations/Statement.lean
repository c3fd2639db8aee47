import Mathlib.Data.List.Forall2
import Mathlib.Tactic.Common

/-!
# Statements with placeholders

The statements of SQL that change the rows of a table whose column is in a list, as texts: a text is
cut into words and signs, and these are read as a statement.

* `parse_text`: the text of a statement is read as that statement;
* `Update.exec`: what a database makes of a statement and its arguments.
-/

namespace Foundations.Statement

/-! ## Tokens -/

/-- A token of a text. -/
inductive Token where
  | word (w : String)
  | sign (c : Char)
deriving DecidableEq

/-- The characters of words: of names, of keywords and of placeholders. -/
def isWordChar (c : Char) : Bool := c.isAlphanum || c = '_' || c = '$'

/-- The end of a word. -/
def flush (w : List Char) : List Token := if w = [] then [] else [.word (String.ofList w)]

/-- What a character between words stands for. -/
def signs (c : Char) : List Token := if c = ' ' then [] else [.sign c]

/-- The tokens of a text, of which the beginning of a word has been read. -/
def scan (w : List Char) : List Char → List Token
  | [] => flush w
  | c :: cs => if isWordChar c then scan (w ++ [c]) cs else flush w ++ (signs c ++ scan [] cs)

/-- The tokens of a text. -/
def tokens (text : List Char) : List Token := scan [] text

section Tokens

variable {c : Char} {cs : List Char} {w : String}

/-- A text is a word. -/
def IsWord (w : String) : Prop := w ≠ "" ∧ w.toList.all isWordChar

instance (w : String) : Decidable (IsWord w) := inferInstanceAs (Decidable (_ ∧ _))

theorem scan_append {w : List Char} (hw : w.all isWordChar) (begun cs : List Char) :
    scan begun (w ++ cs) = scan (begun ++ w) cs := by
  induction w generalizing begun with
  | nil => rw [List.append_nil, List.nil_append]
  | cons c w ih =>
    obtain ⟨hc, hw⟩ : isWordChar c = true ∧ w.all isWordChar = true := by simpa using hw
    rw [List.cons_append, scan, if_pos hc, ih hw, List.append_assoc, List.singleton_append]

/-- Signs and blanks stand alone. -/
theorem tokens_cons (hc : ¬ isWordChar c) : tokens (c :: cs) = signs c ++ tokens cs := by
  rw [tokens, scan, if_neg hc]
  rfl

/-- A word ends where a sign or a blank follows. -/
theorem tokens_word (hw : IsWord w) (hc : ¬ isWordChar c) :
    tokens (w.toList ++ c :: cs) = .word w :: tokens (c :: cs) := by
  have hne : w.toList ≠ [] := fun h => hw.1 (String.toList_eq_nil_iff.1 h)
  rw [tokens_cons hc, tokens, scan_append hw.2, List.nil_append, scan, if_neg hc, flush, if_neg hne,
    String.ofList_toList]
  rfl

end Tokens

/-- A text has some tokens, whatever follows after it. -/
def Lexes (text : List Char) (ts : List Token) : Prop :=
  ∀ (c : Char) (cs : List Char), ¬ isWordChar c → tokens (text ++ c :: cs) = ts ++ tokens (c :: cs)

namespace Lexes

variable {text text' : List Char} {ts ts' : List Token} {c : Char}

theorem word {w : String} (hw : IsWord w) : Lexes w.toList [.word w] :=
  fun _ _ hc => tokens_word hw hc

theorem sign (hc : ¬ isWordChar c) : Lexes [c] (signs c) := fun _ _ _ => tokens_cons hc

theorem nil : Lexes [] [] := fun _ _ _ => rfl

/-- A sign ends the text before it. -/
theorem append_cons (h : Lexes text ts) (hc : ¬ isWordChar c) (h' : Lexes text' ts') :
    Lexes (text ++ c :: text') (ts ++ (signs c ++ ts')) := by
  intro d cs hd
  rw [List.append_assoc, List.cons_append, h c _ hc, tokens_cons hc, h' d cs hd, List.append_assoc,
    List.append_assoc]

/-- Blanks stand for nothing. -/
theorem blanks_append {blanks : List Char} (hblanks : ∀ c ∈ blanks, c = ' ') (h : Lexes text ts) :
    Lexes (blanks ++ text) ts := by
  have hblank : ¬ isWordChar ' ' := by decide
  induction blanks with
  | nil => exact h
  | cons b blanks ih =>
    obtain ⟨rfl, hrest⟩ := List.forall_mem_cons.1 hblanks
    exact nil.append_cons hblank (ih hrest)

/-- A list with commas. -/
theorem intercalate {α : Type*} {f : α → List Char} {g : α → List Token} (blanks : List Char)
    (hblanks : ∀ c ∈ blanks, c = ' ') {l : List α} (h : ∀ a ∈ l, Lexes (f a) (g a)) :
    Lexes ((',' :: blanks).intercalate (l.map f)) ([Token.sign ','].intercalate (l.map g)) := by
  have hcomma : ¬ isWordChar ',' := by decide
  induction l with
  | nil => exact nil
  | cons a l ih =>
    obtain ⟨ha, hl⟩ := List.forall_mem_cons.1 h
    cases l with
    | nil => simpa using ha
    | cons b l =>
      simp only [List.map_cons, List.intercalate_cons_cons, List.append_assoc, List.cons_append]
      exact ha.append_cons hcomma (blanks_append hblanks (ih hl))

end Lexes

/-! ## Statements -/

/-- What a column is set to: an argument or the time. -/
inductive Value where
  | arg (n : ℕ)
  | now
deriving DecidableEq

/-- A statement that sets columns of the rows of a table of which a column is in a list. Lists are
lists of placeholders. -/
structure Update where
  table : String
  sets : List (String × Value)
  column : String
  list : List ℕ
deriving DecidableEq

/-- The placeholder of an argument; the first argument has the number one. -/
def placeholder (n : ℕ) : String := "$" ++ n.repr

/-- The number of a placeholder. -/
def readPlaceholder (w : String) : Option ℕ :=
  match w.toList with
  | '$' :: ds => if ds ≠ [] ∧ ds.all Char.isDigit then some (Nat.ofDigitChars 10 ds 0) else none
  | _ => none

/-- The text of a value. -/
def Value.text : Value → String
  | arg n => placeholder n
  | now => "NOW()"

/-- The text of an assignment. -/
def assignment (s : String × Value) : String := s.1 ++ " = " ++ s.2.text

/-- The text of a statement. -/
def Update.text (u : Update) : String :=
  "UPDATE " ++ u.table ++ " SET " ++ ", ".intercalate (u.sets.map assignment) ++ " WHERE " ++
    u.column ++ " IN (" ++ ",".intercalate (u.list.map placeholder) ++ ")"

/-- Read an assignment. -/
def readAssignment : List Token → Option (String × Value)
  | [.word column, .sign '=', .word w] => (readPlaceholder w).map fun n => (column, .arg n)
  | [.word column, .sign '=', .word "NOW", .sign '(', .sign ')'] => some (column, .now)
  | _ => none

/-- Read a member of a list. -/
def readMember : List Token → Option ℕ
  | [.word w] => readPlaceholder w
  | _ => none

/-- Read the condition of a statement. -/
def readCondition : List Token → Option (String × List ℕ)
  | .word "WHERE" :: .word column :: .word "IN" :: .sign '(' :: ts =>
    if ts.getLast? = some (.sign ')') then do
      return (column, ← (ts.dropLast.splitOn (.sign ',')).mapM readMember)
    else none
  | _ => none

/-- Read a statement. -/
def readUpdate : List Token → Option Update
  | .word "UPDATE" :: .word table :: .word "SET" :: ts => do
    let sets ← ((ts.takeWhile (· ≠ .word "WHERE")).splitOn (.sign ',')).mapM readAssignment
    let (column, list) ← readCondition (ts.dropWhile (· ≠ .word "WHERE"))
    return ⟨table, sets, column, list⟩
  | _ => none

/-- Read the text of a statement. -/
def parse (text : String) : Option Update := readUpdate (tokens text.toList)

/-! ## What is written is read -/

theorem toList_placeholder (n : ℕ) : (placeholder n).toList = '$' :: Nat.toDigits 10 n := by
  rw [placeholder, String.toList_append]
  exact congrArg ('$' :: ·) String.toList_ofList

theorem isDigit_of_mem_toDigits {n : ℕ} : (Nat.toDigits 10 n).all Char.isDigit :=
  List.all_eq_true.2 fun _ hc => Nat.isDigit_of_mem_toDigits (by decide) (by decide) hc

theorem isWord_placeholder (n : ℕ) : IsWord (placeholder n) := by
  refine ⟨fun h => ?_, ?_⟩
  · have hlist := toList_placeholder n
    rw [h] at hlist
    exact List.cons_ne_nil _ _ hlist.symm
  · rw [toList_placeholder, List.all_cons, Bool.and_eq_true]
    refine ⟨by decide, List.all_eq_true.2 fun c hc => ?_⟩
    have hdigit := List.all_eq_true.1 (@isDigit_of_mem_toDigits n) c hc
    simp [isWordChar, Char.isAlphanum, hdigit]

/-- A placeholder is read as its number. -/
theorem readPlaceholder_placeholder (n : ℕ) : readPlaceholder (placeholder n) = some n := by
  have hdigits : Nat.toDigits 10 n ≠ [] ∧ (Nat.toDigits 10 n).all Char.isDigit :=
    ⟨Nat.toDigits_ne_nil, isDigit_of_mem_toDigits⟩
  simp only [readPlaceholder, toList_placeholder, if_pos hdigits, Nat.ofDigitChars_ten_toDigits]

/-- The tokens of a value. -/
def Value.tokens : Value → List Token
  | arg n => [.word (placeholder n)]
  | now => [.word "NOW", .sign '(', .sign ')']

/-- The tokens of an assignment. -/
def assignmentTokens (s : String × Value) : List Token := .word s.1 :: .sign '=' :: s.2.tokens

theorem Value.lexes (v : Value) : Lexes v.text.toList v.tokens := by
  cases v with
  | arg n => exact Lexes.word (isWord_placeholder n)
  | now =>
    have hword : IsWord "NOW" := by decide
    have hopen : ¬ isWordChar '(' := by decide
    have hclose : ¬ isWordChar ')' := by decide
    exact (Lexes.word hword).append_cons hopen (Lexes.sign hclose)

theorem lexes_assignment {s : String × Value} (hs : IsWord s.1) :
    Lexes (assignment s).toList (assignmentTokens s) := by
  have hblank : ¬ isWordChar ' ' := by decide
  have hequals : ¬ isWordChar '=' := by decide
  rw [assignment, String.toList_append, String.toList_append, List.append_assoc]
  exact (Lexes.word hs).append_cons hblank
    (Lexes.nil.append_cons hequals (Lexes.nil.append_cons hblank s.2.lexes))

theorem readAssignment_tokens (s : String × Value) :
    readAssignment (assignmentTokens s) = some s := by
  obtain ⟨column, v⟩ := s
  cases v with
  | arg n =>
    show (readPlaceholder (placeholder n)).map _ = _
    rw [readPlaceholder_placeholder, Option.map_some]
  | now => rfl

theorem mapM_read {α : Type} {f : α → List Token} {read : List Token → Option α} {l : List α}
    (h : ∀ a ∈ l, read (f a) = some a) : (l.map f).mapM read = some l := by
  induction l with
  | nil => rfl
  | cons a l ih =>
    obtain ⟨ha, hl⟩ := List.forall_mem_cons.1 h
    rw [List.map_cons, List.mapM_cons, ha, ih hl]
    rfl

/-- A statement with names that are words and at least one assignment and one member of the list. -/
structure Update.IsProper (u : Update) : Prop where
  table : IsWord u.table
  sets : u.sets ≠ []
  names : ∀ s ∈ u.sets, IsWord s.1 ∧ s.1 ≠ "WHERE"
  column : IsWord u.column
  list : u.list ≠ []

/-- The tokens of the condition of a statement. -/
def conditionTokens (column : String) (list : List ℕ) : List Token :=
  .word "WHERE" :: .word column :: .word "IN" :: .sign '(' ::
    ([Token.sign ','].intercalate (list.map fun n => [Token.word (placeholder n)]) ++
      [Token.sign ')'])

theorem readCondition_tokens {column : String} {list : List ℕ} (hlist : list ≠ []) :
    readCondition (conditionTokens column list) = some (column, list) := by
  have hsplit : ∀ l ∈ list.map (fun n => [Token.word (placeholder n)]), Token.sign ',' ∉ l := by
    intro l hl
    obtain ⟨n, -, rfl⟩ := List.mem_map.1 hl
    simp
  have hmembers : (list.map fun n => [Token.word (placeholder n)]).mapM readMember = some list :=
    mapM_read fun n _ => readPlaceholder_placeholder n
  rw [conditionTokens, readCondition, if_pos List.getLast?_concat, List.dropLast_concat,
    List.splitOn_intercalate _ hsplit (by simpa using hlist), hmembers]
  rfl

/-- The tokens of a statement. -/
def Update.tokens (u : Update) : List Token :=
  .word "UPDATE" :: .word u.table :: .word "SET" ::
    ([Token.sign ','].intercalate (u.sets.map assignmentTokens) ++ conditionTokens u.column u.list)

variable {u : Update}

/-- The text of a statement up to its end. -/
theorem Update.toList_text (u : Update) : u.text.toList =
    ("UPDATE".toList ++ ' ' :: (u.table.toList ++ ' ' :: ("SET".toList ++ ' ' ::
      ([',', ' '].intercalate (u.sets.map fun s => (assignment s).toList) ++ ' ' ::
        ("WHERE".toList ++ ' ' :: (u.column.toList ++ ' ' :: ("IN".toList ++ ' ' ::
          ([] ++ '(' :: [','].intercalate (u.list.map fun n => (placeholder n).toList))))))))) ++
      [')'] := by
  simp [Update.text, String.toList_intercalate, Function.comp_def]

/-- **The tokens of the text of a statement.** -/
theorem Update.tokens_text (hu : u.IsProper) : Statement.tokens u.text.toList = u.tokens := by
  have hblank : ¬ isWordChar ' ' := by decide
  have hopen : ¬ isWordChar '(' := by decide
  have hclose : ¬ isWordChar ')' := by decide
  have hkeywords : IsWord "UPDATE" ∧ IsWord "SET" ∧ IsWord "WHERE" ∧ IsWord "IN" := by decide
  obtain ⟨hupdate, hset, hwhere, hin⟩ := hkeywords
  have hsets := Lexes.intercalate [' '] (by simp) fun s hs => lexes_assignment (hu.names s hs).1
  have hlist := Lexes.intercalate [] (by simp) fun n (_ : n ∈ u.list) =>
    Lexes.word (isWord_placeholder n)
  have htext := (Lexes.word hupdate).append_cons hblank <| (Lexes.word hu.table).append_cons hblank <|
    (Lexes.word hset).append_cons hblank <| hsets.append_cons hblank <|
    (Lexes.word hwhere).append_cons hblank <| (Lexes.word hu.column).append_cons hblank <|
    (Lexes.word hin).append_cons hblank <| Lexes.nil.append_cons hopen hlist
  have hsigns : signs ' ' = [] ∧ signs '(' = [.sign '('] ∧
      Statement.tokens [')'] = [.sign ')'] := by decide
  obtain ⟨hblanks, hopens, hcloses⟩ := hsigns
  rw [u.toList_text, htext ')' [] hclose]
  simp only [hblanks, hopens, hcloses, Update.tokens, conditionTokens, List.append_assoc,
    List.cons_append, List.nil_append]

theorem mem_intercalate {α : Type*} {sep a : α} {ls : List (List α)}
    (h : a ∈ [sep].intercalate ls) : a = sep ∨ ∃ l ∈ ls, a ∈ l := by
  induction ls with
  | nil => cases h
  | cons l ls ih =>
    cases ls with
    | nil => exact .inr ⟨l, List.mem_cons_self, by simpa using h⟩
    | cons l' ls =>
      rw [List.intercalate_cons_cons, List.mem_append, List.mem_append, List.mem_singleton] at h
      rcases h with (hl | hsep) | hrest
      · exact .inr ⟨l, List.mem_cons_self, hl⟩
      · exact .inl hsep
      · exact (ih hrest).imp_right fun ⟨l, hl, ha⟩ => ⟨l, List.mem_cons_of_mem _ hl, ha⟩

theorem placeholder_ne_where (n : ℕ) : placeholder n ≠ "WHERE" := by
  intro h
  have hlist := toList_placeholder n
  rw [h] at hlist
  have hhead : 'W' = '$' := (List.cons.inj hlist).1
  exact absurd hhead (by decide)

theorem where_notMem_assignmentTokens {s : String × Value} (hs : s.1 ≠ "WHERE") :
    Token.word "WHERE" ∉ assignmentTokens s := by
  obtain ⟨column, v⟩ := s
  cases v with
  | arg n => simp [assignmentTokens, Value.tokens, Ne.symm hs, (placeholder_ne_where n).symm]
  | now => simp [assignmentTokens, Value.tokens, Ne.symm hs]

/-- The assignments end where the condition begins. -/
theorem takeWhile_dropWhile_sets (hu : u.IsProper) :
    let sets := [Token.sign ','].intercalate (u.sets.map assignmentTokens)
    let ts := sets ++ conditionTokens u.column u.list
    ts.takeWhile (· ≠ .word "WHERE") = sets ∧
      ts.dropWhile (· ≠ .word "WHERE") = conditionTokens u.column u.list := by
  intro sets ts
  have hnot : ∀ t ∈ sets, decide (t ≠ .word "WHERE") = true := by
    intro t ht
    refine decide_eq_true ?_
    rintro rfl
    rcases mem_intercalate ht with hcomma | ⟨l, hl, ht⟩
    · cases hcomma
    · obtain ⟨s, hs, rfl⟩ := List.mem_map.1 hl
      exact where_notMem_assignmentTokens (hu.names s hs).2 ht
  have hwhere : (conditionTokens u.column u.list).takeWhile (· ≠ .word "WHERE") = [] ∧
      (conditionTokens u.column u.list).dropWhile (· ≠ .word "WHERE") =
        conditionTokens u.column u.list := ⟨rfl, rfl⟩
  constructor
  · rw [List.takeWhile_append_of_pos hnot, hwhere.1, List.append_nil]
  · rw [List.dropWhile_append_of_pos hnot, hwhere.2]

/-- **The text of a statement is read as that statement.** -/
theorem parse_text (hu : u.IsProper) : parse u.text = some u := by
  obtain ⟨htake, hdrop⟩ := takeWhile_dropWhile_sets hu
  have hsplit : ∀ l ∈ u.sets.map assignmentTokens, Token.sign ',' ∉ l := by
    intro l hl
    obtain ⟨⟨column, v⟩, -, rfl⟩ := List.mem_map.1 hl
    cases v <;> simp [assignmentTokens, Value.tokens]
  have hsets : (u.sets.map assignmentTokens).mapM readAssignment = some u.sets :=
    mapM_read fun s _ => readAssignment_tokens s
  have hne : u.sets.map assignmentTokens ≠ [] := by simpa using hu.sets
  rw [parse, u.tokens_text hu, Update.tokens, readUpdate, htake, hdrop,
    List.splitOn_intercalate _ hsplit hne, hsets, readCondition_tokens hu.list]
  rfl

/-! ## What a database makes of a statement -/

section Exec

variable {α : Type} {β γ κ : Type*}

/-- A table: its name and its columns. -/
structure Schema where
  name : String
  columns : List String

/-- What a database adds to a statement: whether it takes as many arguments, what an argument is in a
column, the time, and the constraints of the table. -/
structure Server (α : Type) (κ : Type*) where
  admits : List α → Bool
  encode : String → α → Except String κ
  now : κ
  valid : List (String → κ) → Bool

/-- The argument that a placeholder stands for. -/
def argument (args : List α) : ℕ → Option α
  | 0 => none
  | n + 1 => args[n]?

/-- What a value is in a column. -/
def Value.cell (s : Server α κ) (args : List α) (column : String) : Value → Except String κ
  | arg n => (argument args n).elim (.error "there is no such parameter") (s.encode column)
  | now => .ok s.now

/-- The placeholder of a value. -/
def Value.placeholder? : Value → Option ℕ
  | arg n => some n
  | now => none

namespace Update

/-- The placeholders of a statement, in the order in which they stand in its text. -/
def placeholders (u : Update) : List ℕ := (u.sets.filterMap fun s => s.2.placeholder?) ++ u.list

/-- A statement is about a table, sets no column twice, and uses each of its arguments. -/
def Fits (u : Update) (t : Schema) (args : List α) : Prop :=
  u.table = t.name ∧ (∀ c ∈ u.column :: u.sets.map Prod.fst, c ∈ t.columns) ∧
    (u.sets.map Prod.fst).Nodup ∧ (∀ n ∈ u.placeholders, 1 ≤ n ∧ n ≤ args.length) ∧
    ∀ n ∈ List.range' 1 args.length, n ∈ u.placeholders

instance (u : Update) (t : Schema) (args : List α) : Decidable (u.Fits t args) :=
  inferInstanceAs (Decidable (_ ∧ _))

/-- What columns are set to, and the list. -/
def bind (u : Update) (t : Schema) (s : Server α κ) (args : List α) :
    Except String (List (String × κ) × List κ) :=
  if u.Fits t args ∧ s.admits args then do
    let cells ← u.sets.mapM fun a => (a.1, ·) <$> a.2.cell s args a.1
    let list ← u.list.mapM fun n => (Value.arg n).cell s args u.column
    return (cells, list)
  else .error "invalid statement"

variable [DecidableEq κ]

/-- The rows after a statement. -/
def write (u : Update) (cells : List (String × κ)) (list : List κ) (rows : List (String → κ)) :
    List (String → κ) :=
  rows.map fun row =>
    if row u.column ∈ list then fun c => (cells.lookup c).getD (row c) else row

/-- What a database answers, and the rows of the table after it. -/
def exec (u : Update) (t : Schema) (s : Server α κ) (args : List α) (rows : List (String → κ)) :
    Except String Unit × List (String → κ) :=
  match u.bind t s args with
  | .error e => (.error e, rows)
  | .ok (cells, list) =>
    if s.valid (u.write cells list rows) then (.ok (), u.write cells list rows)
    else (.error "violates a constraint", rows)

end Update

theorem map_eq_ok {β γ : Type _} {f : β → γ} {x : Except String β} {c : γ} :
    f <$> x = .ok c ↔ ∃ b, x = .ok b ∧ f b = c := by
  cases x <;> simp

theorem map_eq_error {β γ : Type _} {f : β → γ} {x : Except String β} {e : String} :
    f <$> x = .error e ↔ x = .error e := by
  cases x <;> simp

/-- All values of a list are computed, or one of them is not. -/
theorem mapM_cases (f : β → Except String γ) (l : List β) :
    (∃ l', l.mapM f = .ok l' ∧ List.Forall₂ (fun b c => f b = .ok c) l l') ∨
      ∃ e, l.mapM f = .error e ∧ ∃ b ∈ l, f b = .error e := by
  induction l with
  | nil => exact .inl ⟨[], rfl, .nil⟩
  | cons b l ih =>
    rw [List.mapM_cons]
    cases hb : f b with
    | error e => exact .inr ⟨e, rfl, b, List.mem_cons_self, hb⟩
    | ok c =>
      rcases ih with ⟨l', hl', hall⟩ | ⟨e, he, d, hd, hfail⟩
      · rw [hl']
        exact .inl ⟨c :: l', rfl, .cons hb hall⟩
      · rw [he]
        exact .inr ⟨e, rfl, d, List.mem_cons_of_mem _ hd, hfail⟩

section Meaning

variable {s : Server α κ} {args : List α} {u : Update}

/-- The cells of columns that are set, and of the others. -/
theorem lookup_cells {sets : List (String × Value)} {cells : List (String × κ)}
    (h : List.Forall₂ (fun a cell => (a.1, ·) <$> a.2.cell s args a.1 = .ok cell) sets cells)
    (hnodup : (sets.map Prod.fst).Nodup) :
    (∀ a ∈ sets, ∃ k, cells.lookup a.1 = some k ∧ a.2.cell s args a.1 = .ok k) ∧
      ∀ c ∉ sets.map Prod.fst, cells.lookup c = none := by
  induction h with
  | nil => exact ⟨nofun, fun _ _ => rfl⟩
  | @cons a cell sets cells hcell _ ih =>
    obtain ⟨hnew, hrest⟩ := List.nodup_cons.1 hnodup
    obtain ⟨hset, hother⟩ := ih hrest
    obtain ⟨k, hk, rfl⟩ := map_eq_ok.1 hcell
    constructor
    · intro b hb
      rcases List.mem_cons.1 hb with rfl | hb
      · exact ⟨k, List.lookup_cons_self, hk⟩
      · have hne : b.1 ≠ a.1 := fun heq => hnew (heq ▸ List.mem_map_of_mem hb)
        rw [List.lookup_cons, beq_false_of_ne hne]
        exact hset b hb
    · intro c hc
      obtain ⟨hne, hc⟩ := not_or.1 fun h => hc (List.mem_cons.2 h)
      rw [List.lookup_cons, beq_false_of_ne hne]
      exact hother c hc

theorem exists_of_forall₂ {α β : Type*} {R : α → β → Prop} {l : List α} {l' : List β}
    (h : List.Forall₂ R l l') :
    (∀ a ∈ l, ∃ b ∈ l', R a b) ∧ ∀ b ∈ l', ∃ a ∈ l, R a b := by
  induction h with
  | nil => exact ⟨nofun, nofun⟩
  | cons hab _ ih =>
    refine ⟨List.forall_mem_cons.2 ⟨⟨_, List.mem_cons_self, hab⟩, fun a ha => ?_⟩,
      List.forall_mem_cons.2 ⟨⟨_, List.mem_cons_self, hab⟩, fun b hb => ?_⟩⟩
    · obtain ⟨b, hb, hab⟩ := ih.1 a ha
      exact ⟨b, List.mem_cons_of_mem _ hb, hab⟩
    · obtain ⟨a, ha, hab⟩ := ih.2 b hb
      exact ⟨a, List.mem_cons_of_mem _ ha, hab⟩

/-- A row is one that a statement is about. -/
def Update.Finds (u : Update) (s : Server α κ) (args : List α) (row : String → κ) : Prop :=
  ∃ n ∈ u.list, (Value.arg n).cell s args u.column = .ok (row u.column)

/-- What a statement makes of a row. -/
structure Update.Writes (u : Update) (s : Server α κ) (args : List α) (row row' : String → κ) :
    Prop where
  sets : u.Finds s args row → ∀ a ∈ u.sets, a.2.cell s args a.1 = .ok (row' a.1)
  keeps : u.Finds s args row → ∀ c ∉ u.sets.map Prod.fst, row' c = row c
  other : ¬ u.Finds s args row → row' = row

/-- Why a statement may be refused. -/
inductive Update.Refused (u : Update) (t : Schema) (s : Server α κ) (args : List α)
    (rows : List (String → κ)) : Prop where
  | invalid (h : ¬ (u.Fits t args ∧ s.admits args))
  | value {a : String × Value} {e : String} (ha : a ∈ u.sets) (h : a.2.cell s args a.1 = .error e)
  | member {n : ℕ} {e : String} (hn : n ∈ u.list)
      (h : (Value.arg n).cell s args u.column = .error e)
  | constraint {rows' : List (String → κ)} (h : List.Forall₂ (u.Writes s args) rows rows')
      (hvalid : s.valid rows' = false)

variable [DecidableEq κ]

theorem Update.forall₂_write {cells : List (String × κ)} {list : List κ}
    (hnodup : (u.sets.map Prod.fst).Nodup)
    (hcells : List.Forall₂ (fun a cell => (a.1, ·) <$> a.2.cell s args a.1 = .ok cell) u.sets cells)
    (hlist : List.Forall₂ (fun n k => (Value.arg n).cell s args u.column = .ok k) u.list list)
    (rows : List (String → κ)) :
    List.Forall₂ (u.Writes s args) rows (u.write cells list rows) := by
  obtain ⟨hset, hother⟩ := lookup_cells hcells hnodup
  rw [Update.write, List.forall₂_map_right_iff, List.forall₂_same]
  intro row _
  have hfinds : u.Finds s args row ↔ row u.column ∈ list := by
    obtain ⟨hread, hfrom⟩ := exists_of_forall₂ hlist
    constructor
    · rintro ⟨n, hn, hcell⟩
      obtain ⟨k, hk, hcell'⟩ := hread n hn
      rwa [Except.ok.inj (hcell.symm.trans hcell')]
    · intro hmem
      exact hfrom _ hmem
  by_cases hmem : row u.column ∈ list
  · rw [if_pos hmem]
    refine ⟨fun _ a ha => ?_, fun _ c hc => ?_, fun hnot => absurd (hfinds.2 hmem) hnot⟩
    · obtain ⟨k, hk, hcell⟩ := hset a ha
      rw [hk, Option.getD_some, hcell]
    · rw [hother c hc, Option.getD_none]
  · rw [if_neg hmem]
    exact ⟨fun h => absurd (hfinds.1 h) hmem, fun h => absurd (hfinds.1 h) hmem, fun _ => rfl⟩

/-- **What is bound to a statement**, or why nothing is. -/
theorem Update.bind_cases (u : Update) (t : Schema) (s : Server α κ) (args : List α)
    (rows : List (String → κ)) :
    (∃ cells list, u.bind t s args = .ok (cells, list) ∧
      List.Forall₂ (u.Writes s args) rows (u.write cells list rows)) ∨
      ∃ e, u.bind t s args = .error e ∧ u.Refused t s args rows := by
  by_cases hfits : u.Fits t args ∧ s.admits args
  · rw [Update.bind, if_pos hfits]
    rcases mapM_cases (fun a : String × Value => (a.1, ·) <$> a.2.cell s args a.1) u.sets with
      ⟨cells, hcells, hcells'⟩ | ⟨e, he, a, ha, hfail⟩
    · rw [hcells]
      rcases mapM_cases (fun n => (Value.arg n).cell s args u.column) u.list with
        ⟨list, hlist, hlist'⟩ | ⟨e, he, n, hn, hfail⟩
      · rw [hlist]
        exact .inl ⟨cells, list, rfl, u.forall₂_write hfits.1.2.2.1 hcells' hlist' rows⟩
      · rw [he]
        exact .inr ⟨e, rfl, .member hn hfail⟩
    · rw [he]
      exact .inr ⟨e, rfl, .value ha (map_eq_error.1 hfail)⟩
  · rw [Update.bind, if_neg hfits]
    exact .inr ⟨_, rfl, .invalid hfits⟩

/-- **What a statement does**: it writes the rows that it is about, or it is refused and changes
nothing. -/
theorem Update.exec_cases (u : Update) (t : Schema) (s : Server α κ) (args : List α)
    (rows : List (String → κ)) :
    let r := u.exec t s args rows
    (r.1 = .ok () ∧ List.Forall₂ (u.Writes s args) rows r.2) ∨
      (∃ e, r.1 = .error e) ∧ r.2 = rows ∧ u.Refused t s args rows := by
  intro r
  dsimp only [r]
  rw [Update.exec]
  rcases u.bind_cases t s args rows with ⟨cells, list, hbind, hwrite⟩ | ⟨e, hbind, hrefused⟩
  · rw [hbind]
    dsimp only
    by_cases hvalid : s.valid (u.write cells list rows)
    · rw [if_pos hvalid]
      exact .inl ⟨rfl, hwrite⟩
    · rw [if_neg hvalid]
      exact .inr ⟨⟨_, rfl⟩, rfl, .constraint hwrite (Bool.eq_false_iff.2 hvalid)⟩
  · rw [hbind]
    exact .inr ⟨⟨e, rfl⟩, rfl, hrefused⟩

end Meaning

end Exec

end Foundations.Statement
