import AeroxeBee.Foundations.Statement

/-!
# The texts of queries

The queries of SQL that select rows of one source by some conditions, put them in an order and cut a part
out, as texts. A program glues such a text together from pieces, and numbers the placeholders on the way.

* `lex_append`: the words of pieces that are apart;
* `readQuery_text`, `readQuery_text_all`: the text of a query, with or without conditions, is read as that
  query;
* `IsPrefix.arg`, `isCondition_anyLike`: the texts of conditions are read as these.
-/

namespace Foundations.Selecting

open Statement

/-! ## Words -/

/-- A token that separates others only. -/
def isSpace (t : Statement.Token) : Bool := t = .sign '\n' || t = .sign '\t'

/-- The words and the signs of a text. -/
def lex (text : String) : List Statement.Token := (Statement.tokens text.toList).filter (!isSpace ·)

/-- No word goes over the end of the text. -/
def EndsApart (text : String) : Prop := (text.toList.getLast?).any (!isWordChar ·) = true

/-- No word goes over the beginning of the text. -/
def StartsApart (text : String) : Prop := (text.toList.head?).any (!isWordChar ·) = true

instance (text : String) : Decidable (EndsApart text) := inferInstanceAs (Decidable (_ = _))

instance (text : String) : Decidable (StartsApart text) := inferInstanceAs (Decidable (_ = _))

section Words

variable {a b : String} {c : Char} {l r : List Char}

theorem scan_append_cons (hc : ¬ isWordChar c) (w l r : List Char) :
    scan w (l ++ c :: r) = scan w l ++ Statement.tokens (c :: r) := by
  induction l generalizing w with
  | nil =>
    rw [List.nil_append, tokens_cons hc]
    simp only [scan, if_neg hc]
    rfl
  | cons d l ih =>
    simp only [List.cons_append, scan]
    split_ifs with hd
    · exact ih _
    · rw [ih, List.append_assoc, List.append_assoc]

/-- **The words of a text** end where one that is no letter follows. -/
theorem tokens_append_cons (hc : ¬ isWordChar c) : Statement.tokens (l ++ c :: r) = Statement.tokens l ++ Statement.tokens (c :: r) :=
  scan_append_cons hc [] l r

theorem tokens_append_of_end (h : (l.getLast?).any (!isWordChar ·) = true) :
    Statement.tokens (l ++ r) = Statement.tokens l ++ Statement.tokens r := by
  rcases List.eq_nil_or_concat l with rfl | ⟨init, c, rfl⟩
  · cases h
  · rw [List.concat_eq_append] at h ⊢
    have hc : ¬ isWordChar c := by simpa using h
    rw [List.append_assoc, List.singleton_append, tokens_append_cons hc, tokens_append_cons hc,
      tokens_cons hc, tokens_cons hc, List.append_assoc, List.append_assoc]
    rfl

theorem tokens_append_of_start (h : (r.head?).any (!isWordChar ·) = true) :
    Statement.tokens (l ++ r) = Statement.tokens l ++ Statement.tokens r := by
  cases r with
  | nil => cases h
  | cons c r => exact tokens_append_cons (by simpa using h)

/-- **The words of two pieces** of which the first ends apart. -/
theorem lex_append (h : EndsApart a) : lex (a ++ b) = lex a ++ lex b := by
  rw [lex, String.toList_append, tokens_append_of_end h, List.filter_append]
  rfl

/-- The words of two pieces of which the second begins apart. -/
theorem lex_append_of_starts (h : StartsApart b) : lex (a ++ b) = lex a ++ lex b := by
  rw [lex, String.toList_append, tokens_append_of_start h, List.filter_append]
  rfl

theorem EndsApart.append (h : EndsApart b) : EndsApart (a ++ b) := by
  unfold EndsApart at h ⊢
  rw [String.toList_append, List.getLast?_append]
  cases hlast : b.toList.getLast? with
  | none =>
    rw [hlast] at h
    cases h
  | some c =>
    rw [hlast] at h
    exact h

theorem StartsApart.append (h : StartsApart a) : StartsApart (a ++ b) := by
  unfold StartsApart at h ⊢
  rw [String.toList_append, List.head?_append]
  cases hhead : a.toList.head? with
  | none =>
    rw [hhead] at h
    cases h
  | some c =>
    rw [hhead] at h
    exact h

theorem lex_word {w : String} (hw : IsWord w) : lex w = [.word w] := by
  have happ := (Lexes.word hw) ' ' [] (by decide)
  rw [tokens_append_cons (by decide)] at happ
  rw [lex, List.append_cancel_right happ]
  rfl

theorem lex_placeholder (n : ℕ) : lex (placeholder n) = [.word (placeholder n)] :=
  lex_word (isWord_placeholder n)

/-- The words of a text that is written down as characters. -/
theorem lex_ofList (cs : List Char) : lex (String.ofList cs) = (Statement.tokens cs).filter (!isSpace ·) := by
  rw [lex, String.toList_ofList]

/-- **The words of a text of several lines**, all but the first of which begin apart. -/
theorem lex_join {line : String} {lines : List String} (h : ∀ text ∈ lines, StartsApart text) :
    lex (String.join (line :: lines)) = lex line ++ lines.flatMap lex := by
  induction lines generalizing line with
  | nil => simp
  | cons text lines ih =>
    obtain ⟨htext, hlines⟩ := List.forall_mem_cons.1 h
    have hjoin : String.join (line :: text :: lines) = String.join ((line ++ text) :: lines) := by
      simp [String.append_assoc]
    rw [hjoin, ih hlines, lex_append_of_starts htext, List.flatMap_cons, List.append_assoc]

/-- The words of a text of several lines, read from the characters of each line. -/
theorem lex_lines {line : String} {lines : List String} {cs : List Char} {css : List (List Char)}
    (hline : line = String.ofList cs)
    (hlines : List.Forall₂ (fun text cs => text = String.ofList cs) lines css)
    (h : ∀ cs ∈ css, cs.head?.any (!isWordChar ·)) :
    lex (String.join (line :: lines)) =
      (cs :: css).flatMap fun cs => (Statement.tokens cs).filter (!isSpace ·) := by
  have hmap : lines = css.map String.ofList := by
    rwa [← List.forall₂_eq_eq_eq, List.forall₂_map_right_iff]
  have hstarts : ∀ text ∈ css.map String.ofList, StartsApart text := by
    simpa [StartsApart] using h
  rw [hline, hmap, lex_join hstarts, List.flatMap_map, List.flatMap_cons]
  simp only [lex_ofList]

/-- A list of texts with a separator that stands apart. -/
theorem lex_intercalate {sep : String} {t : Statement.Token} (hstart : StartsApart sep) (hend : EndsApart sep)
    (hsep : lex sep = [t]) (texts : List String) :
    lex (sep.intercalate texts) = [t].intercalate (texts.map lex) := by
  induction texts with
  | nil => rfl
  | cons x xs ih =>
    cases xs with
    | nil => simp
    | cons y ys =>
      rw [String.intercalate_cons_cons, lex_append (EndsApart.append hend), lex_append_of_starts hstart,
        ih, hsep]
      simp [List.intercalate_cons_cons]

end Words

/-! ## Queries -/

/-- What a column is compared with: an argument, a text, or the end of the day after that of an argument. -/
inductive Operand where
  | arg (n : ℕ)
  | text (w : String)
  | dayAfter (n : ℕ)
deriving DecidableEq

/-- How a column is compared. -/
inductive Relation where
  | eq
  | ne
  | ge
  | le
deriving DecidableEq

/-- A condition on rows. A text is looked for in some columns, without regard to capitals. -/
inductive Condition where
  | always
  | compare (column : String) (rel : Relation) (operand : Operand)
  | anyLike (likes : List (String × ℕ))
deriving DecidableEq

/-- A query: what is selected from which source, on which conditions, in which order (by columns, ascending
or descending), and which part of it. -/
structure Query where
  what : List Statement.Token
  source : List Statement.Token
  conditions : List Condition
  order : List (String × Bool)
  limit : Option ℕ
  offset : Option ℕ
deriving DecidableEq

/-! ### Reading -/

/-- The sign around texts. -/
def quote : Char := Char.ofNat 39

/-- Read a column, which may be given with its table. -/
def readColumn : List Statement.Token → Option (String × List Statement.Token)
  | .word t :: .sign '.' :: .word c :: ts => some (t ++ "." ++ c, ts)
  | .word c :: ts => some (c, ts)
  | _ => none

def readRelation : List Statement.Token → Option (Relation × List Statement.Token)
  | .sign '=' :: ts => some (.eq, ts)
  | .sign '!' :: .sign '=' :: ts => some (.ne, ts)
  | .sign '>' :: .sign '=' :: ts => some (.ge, ts)
  | .sign '<' :: .sign '=' :: ts => some (.le, ts)
  | _ => none

/-- What stands after the argument whose day is followed by another one. -/
def dayAfterTokens : List Statement.Token := [.sign ':', .sign ':', .word "date", .sign '+', .word "INTERVAL",
  .sign quote, .word "1", .word "day", .sign quote]

def readOperand : List Statement.Token → Option Operand
  | [.word w] => (readPlaceholder w).map .arg
  | [.sign q, .word w, .sign q'] => if q = quote ∧ q' = quote then some (.text w) else none
  | .word w :: ts => if ts = dayAfterTokens then (readPlaceholder w).map .dayAfter else none
  | _ => none

/-- Read a column in which a text is looked for. -/
def readLike : List Statement.Token → Option (String × ℕ)
  | [.word "LOWER", .sign '(', .word c, .sign ')', .word "LIKE", .word w] =>
    (readPlaceholder w).map fun n => (c, n)
  | _ => none

/-- Read a comparison. -/
def readComparison (ts : List Statement.Token) : Option Condition :=
  (readColumn ts).bind fun c => (readRelation c.2).bind fun r => (readOperand r.2).map (.compare c.1 r.1)

def readCondition (ts : List Statement.Token) : Option Condition :=
  if ts = [.word "1", .sign '=', .word "1"] then some .always
  else if ts.head? = some (.sign '(') ∧ ts.getLast? = some (.sign ')') then
    ((ts.tail.dropLast.splitOn (.word "OR")).mapM readLike).map .anyLike
  else readComparison ts

/-- Read the conditions of a query, of which it may have none. -/
def readWhere : List Statement.Token → Option (List Condition)
  | [] => some []
  | .word "WHERE" :: ts => (ts.splitOn (.word "AND")).mapM readCondition
  | _ => none

/-- Read a column of the order. -/
def readKey (ts : List Statement.Token) : Option (String × Bool) := do
  let (column, ts) ← readColumn ts
  if ts = [.word "DESC"] then return (column, true)
  else if ts = [.word "ASC"] ∨ ts = [] then return (column, false)
  else none

/-- Read which part is cut out. -/
def readCut : List Statement.Token → Option (Option ℕ × Option ℕ)
  | [] => some (none, none)
  | [.word "LIMIT", .word w] => (readPlaceholder w).map fun n => (some n, none)
  | [.word "LIMIT", .word w, .word "OFFSET", .word w'] => do
    let n ← readPlaceholder w
    let m ← readPlaceholder w'
    return (some n, some m)
  | _ => none

/-- Read the order and the part. -/
def readRest : List Statement.Token → Option (List (String × Bool) × Option ℕ × Option ℕ)
  | [] => some ([], none, none)
  | .word "ORDER" :: .word "BY" :: ts => do
    let order ← ((ts.takeWhile (· ≠ .word "LIMIT")).splitOn (.sign ',')).mapM readKey
    let cut ← readCut (ts.dropWhile (· ≠ .word "LIMIT"))
    return (order, cut)
  | _ => none

/-- The source ends here. -/
def endsSource (t : Statement.Token) : Bool := t = .word "WHERE" || t = .word "ORDER"

/-- Read what stands after the source. -/
def readClauses (what source ts : List Statement.Token) : Option Query := do
  let conditions ← readWhere (ts.takeWhile (· ≠ .word "ORDER"))
  let (order, limit, offset) ← readRest (ts.dropWhile (· ≠ .word "ORDER"))
  return ⟨what, source, conditions, order, limit, offset⟩

def readQuery : List Statement.Token → Option Query
  | .word "SELECT" :: ts =>
    let from' := (ts.dropWhile (· ≠ .word "FROM")).drop 1
    readClauses (ts.takeWhile (· ≠ .word "FROM")) (from'.takeWhile (!endsSource ·))
      (from'.dropWhile (!endsSource ·))
  | _ => none

/-- Where a query begins: what it selects, and its source, up to an ending. -/
structure IsHead (head : String) (what source ending : List Statement.Token) : Prop where
  words : lex head = .word "SELECT" :: (what ++ .word "FROM" :: (source ++ ending))
  what : .word "FROM" ∉ what
  source : source.all (!endsSource ·) = true

/-- The text is that of a condition. -/
structure IsCondition (text : String) (c : Condition) : Prop where
  read : readCondition (lex text) = some c
  apart : .word "AND" ∉ lex text ∧ .word "ORDER" ∉ lex text

section Reading

variable {what source rest : List Statement.Token} {texts : List String} {cs : List Condition}
  {order : List (String × Bool)} {limit offset : Option ℕ}

theorem readQuery_head (hwhat : .word "FROM" ∉ what) (hsource : source.all (!endsSource ·) = true)
    (hrest : (rest.head?).all endsSource = true) :
    readQuery (.word "SELECT" :: (what ++ .word "FROM" :: (source ++ rest))) =
      readClauses what source rest := by
  have hnot : ∀ t ∈ what, decide (t ≠ .word "FROM") = true := fun t ht =>
    decide_eq_true fun h => hwhat (h ▸ ht)
  have hsource' : ∀ t ∈ source, (!endsSource t) = true := List.all_eq_true.1 hsource
  have hends : rest.takeWhile (!endsSource ·) = [] ∧ rest.dropWhile (!endsSource ·) = rest := by
    cases rest with
    | nil => exact ⟨rfl, rfl⟩
    | cons t rest =>
      have ht : endsSource t = true := by simpa using hrest
      simp [ht]
  simp only [readQuery, List.takeWhile_append_of_pos hnot, List.dropWhile_append_of_pos hnot]
  simp only [ne_eq, not_true_eq_false, decide_false, List.takeWhile_cons_of_neg, Bool.false_eq_true,
    not_false_eq_true, List.dropWhile_cons_of_neg, List.append_nil, List.drop_succ_cons, List.drop_zero,
    List.takeWhile_append_of_pos hsource', List.dropWhile_append_of_pos hsource', hends.1, hends.2]

/-- What stands after the conditions begins with the order. -/
theorem begins_of_readRest (h : readRest rest = some (order, limit, offset)) :
    rest.takeWhile (· ≠ .word "ORDER") = [] ∧ rest.dropWhile (· ≠ .word "ORDER") = rest ∧
      (rest.head?).all endsSource = true := by
  unfold readRest at h
  split at h
  · exact ⟨rfl, rfl, rfl⟩
  · exact ⟨rfl, rfl, rfl⟩
  · cases h

theorem mapM_readCondition (h : List.Forall₂ IsCondition texts cs) :
    (texts.map lex).mapM readCondition = some cs := by
  induction h with
  | nil => rfl
  | cons hc _ ih =>
    rw [List.map_cons, List.mapM_cons, hc.read, ih]
    rfl

/-- **The words of a query with conditions** are read as that query. -/
theorem readQuery_where (hwhat : .word "FROM" ∉ what) (hsource : source.all (!endsSource ·) = true)
    (hconds : List.Forall₂ IsCondition texts cs) (hne : texts ≠ [])
    (hrest : readRest rest = some (order, limit, offset)) :
    readQuery (.word "SELECT" :: (what ++ .word "FROM" :: (source ++
      .word "WHERE" :: ([.word "AND"].intercalate (texts.map lex) ++ rest)))) =
      some ⟨what, source, cs, order, limit, offset⟩ := by
  obtain ⟨htake, hdrop, -⟩ := begins_of_readRest hrest
  have hmem : ∀ text ∈ texts, .word "AND" ∉ lex text ∧ .word "ORDER" ∉ lex text := by
    intro text htext
    obtain ⟨c, -, hc⟩ := (exists_of_forall₂ hconds).1 text htext
    exact hc.apart
  have hnot : ∀ t ∈ .word "WHERE" :: [.word "AND"].intercalate (texts.map lex),
      decide (t ≠ .word "ORDER") = true := by
    intro t ht
    refine decide_eq_true ?_
    rintro rfl
    rcases List.mem_cons.1 ht with h | h
    · exact absurd h (by decide)
    · rcases mem_intercalate h with h | ⟨l, hl, h⟩
      · exact absurd h (by decide)
      · obtain ⟨text, htext, rfl⟩ := List.mem_map.1 hl
        exact (hmem text htext).2 h
  have hsplit : ∀ l ∈ texts.map lex, Statement.Token.word "AND" ∉ l := by
    intro l hl
    obtain ⟨text, htext, rfl⟩ := List.mem_map.1 hl
    exact (hmem text htext).1
  rw [readQuery_head hwhat hsource rfl, readClauses, ← List.cons_append,
    List.takeWhile_append_of_pos hnot, List.dropWhile_append_of_pos hnot, htake, hdrop, List.append_nil,
    readWhere, List.splitOn_intercalate _ hsplit (by simpa using hne), mapM_readCondition hconds, hrest]
  rfl

/-- The words of a query without conditions are read as that query. -/
theorem readQuery_all (hwhat : .word "FROM" ∉ what) (hsource : source.all (!endsSource ·) = true)
    (hrest : readRest rest = some (order, limit, offset)) :
    readQuery (.word "SELECT" :: (what ++ .word "FROM" :: (source ++ rest))) =
      some ⟨what, source, [], order, limit, offset⟩ := by
  obtain ⟨htake, hdrop, hbegin⟩ := begins_of_readRest hrest
  rw [readQuery_head hwhat hsource hbegin, readClauses, htake, hdrop, hrest]
  rfl

/-- A text that may follow the conditions. -/
def Follows (tail : String) : Prop := tail = "" ∨ StartsApart tail

instance (tail : String) : Decidable (Follows tail) := inferInstanceAs (Decidable (_ ∨ _))

theorem lex_append_tail {text tail : String} (h : Follows tail) :
    lex (text ++ tail) = lex text ++ lex tail := by
  rcases h with rfl | h
  · rw [String.append_empty]
    exact (List.append_nil _).symm
  · exact lex_append_of_starts h

/-- Conditions are to follow. -/
theorem IsHead.where {head mid : String} (h : IsHead head what source [])
    (hmid : StartsApart mid ∨ EndsApart head) (hwhere : lex mid = [.word "WHERE"]) :
    IsHead (head ++ mid) what source [.word "WHERE"] where
  words := by
    have happ : lex (head ++ mid) = lex head ++ lex mid := hmid.elim lex_append_of_starts lex_append
    rw [happ, h.words, hwhere]
    simp
  what := h.what
  source := h.source

/-- **The text of a query with conditions** is read as that query. -/
theorem readQuery_text {head tail : String} (hhead : IsHead head what source [.word "WHERE"])
    (hends : EndsApart head) (hconds : List.Forall₂ IsCondition texts cs) (hne : texts ≠ [])
    (htail : Follows tail) (hrest : readRest (lex tail) = some (order, limit, offset)) :
    readQuery (lex (head ++ " AND ".intercalate texts ++ tail)) =
      some ⟨what, source, cs, order, limit, offset⟩ := by
  have hand : StartsApart " AND " ∧ EndsApart " AND " ∧ lex " AND " = [.word "AND"] := by decide
  rw [lex_append_tail htail, lex_append hends, lex_intercalate hand.1 hand.2.1 hand.2.2, hhead.words]
  simpa using readQuery_where hhead.what hhead.source hconds hne hrest

/-- The text of a query without conditions is read as that query. -/
theorem readQuery_text_all {head tail : String} (hhead : IsHead head what source []) (htail : Follows tail)
    (hrest : readRest (lex tail) = some (order, limit, offset)) :
    readQuery (lex (head ++ tail)) = some ⟨what, source, [], order, limit, offset⟩ := by
  rw [lex_append_tail htail, hhead.words]
  simpa using readQuery_all hhead.what hhead.source hrest

/-- What stands after the conditions: the order, and which part is cut out. -/
structure IsOrder (pre : String) (order : List (String × Bool)) : Prop where
  starts : StartsApart pre
  ends : EndsApart pre
  read : ∃ keys, lex pre = .word "ORDER" :: .word "BY" :: (keys ++ [.word "LIMIT"]) ∧
    .word "LIMIT" ∉ keys ∧ (keys.splitOn (.sign ',')).mapM readKey = some order

theorem IsOrder.readRest_append {pre : String} (h : IsOrder pre order) {ts : List Statement.Token}
    {cut : Option ℕ × Option ℕ} (hcut : readCut (.word "LIMIT" :: ts) = some cut) :
    readRest (lex pre ++ ts) = some (order, cut) := by
  obtain ⟨keys, hlex, hkeys, hread⟩ := h.read
  have hnot : ∀ t ∈ keys, decide (t ≠ .word "LIMIT") = true := fun t ht =>
    decide_eq_true fun heq => hkeys (heq ▸ ht)
  have hends : (Statement.Token.word "LIMIT" :: ts).takeWhile (· ≠ .word "LIMIT") = [] ∧
      (Statement.Token.word "LIMIT" :: ts).dropWhile (· ≠ .word "LIMIT") = .word "LIMIT" :: ts := ⟨rfl, rfl⟩
  rw [hlex, List.cons_append, List.cons_append, List.append_assoc, List.singleton_append, readRest,
    List.takeWhile_append_of_pos hnot, List.dropWhile_append_of_pos hnot, hends.1, hends.2,
    List.append_nil, hread, hcut]
  rfl

/-- **The order and a limit.** -/
theorem IsOrder.readRest_limit {pre : String} (h : IsOrder pre order) (n : ℕ) :
    readRest (lex (pre ++ placeholder n)) = some (order, some n, none) := by
  rw [lex_append h.ends, lex_placeholder]
  refine h.readRest_append ?_
  show (readPlaceholder (placeholder n)).map _ = _
  rw [readPlaceholder_placeholder]
  rfl

/-- **The order, a limit and an offset.** -/
theorem IsOrder.readRest_page {pre : String} (h : IsOrder pre order) (n m : ℕ) :
    readRest (lex (pre ++ placeholder n ++ " OFFSET " ++ placeholder m)) =
      some (order, some n, some m) := by
  have hoffset : StartsApart " OFFSET " ∧ EndsApart " OFFSET " ∧ lex " OFFSET " = [.word "OFFSET"] := by
    decide
  rw [lex_append (EndsApart.append hoffset.2.1), lex_append_of_starts hoffset.1, lex_append h.ends,
    hoffset.2.2, lex_placeholder, lex_placeholder, List.append_assoc, List.append_assoc]
  refine h.readRest_append ?_
  show (readPlaceholder (placeholder n) >>= fun _ => readPlaceholder (placeholder m) >>= _) = _
  rw [readPlaceholder_placeholder, readPlaceholder_placeholder]
  rfl

end Reading

/-! ### Conditions -/

section Conditions

variable {pre column : String} {rel : Relation} {n : ℕ}

/-- A placeholder is no word of the language. -/
theorem placeholder_ne {w : String} (h : w.toList.head? ≠ some '$') (n : ℕ) : placeholder n ≠ w := by
  rintro rfl
  rw [toList_placeholder] at h
  exact h rfl

def Relation.tokens : Relation → List Statement.Token
  | .eq => [.sign '=']
  | .ne => [.sign '!', .sign '=']
  | .ge => [.sign '>', .sign '=']
  | .le => [.sign '<', .sign '=']

/-- A text ends before what a column is compared with. -/
structure IsPrefix (pre column : String) (rel : Relation) : Prop where
  apart : EndsApart pre
  begins : ∃ w ts, lex pre = .word w :: ts ∧ w ≠ "1" ∧ w ≠ "AND" ∧ w ≠ "ORDER" ∧
    .word "AND" ∉ ts ∧ .word "ORDER" ∉ ts
  read : ∀ ts, readComparison (lex pre ++ ts) = (readOperand ts).map (.compare column rel)

theorem readRelation_tokens (rel : Relation) (ts : List Statement.Token) :
    readRelation (rel.tokens ++ ts) = some (rel, ts) := by
  cases rel <;> rfl

/-- A column without its table. -/
theorem isPrefix_plain {c : String} (hlex : lex pre = .word c :: rel.tokens) (hend : EndsApart pre)
    (hc : c ≠ "1" ∧ c ≠ "AND" ∧ c ≠ "ORDER") : IsPrefix pre c rel where
  apart := hend
  begins := ⟨c, rel.tokens, hlex, hc.1, hc.2.1, hc.2.2, by cases rel <;> simp [Relation.tokens]⟩
  read ts := by
    have hcolumn : readColumn (.word c :: (rel.tokens ++ ts)) = some (c, rel.tokens ++ ts) := by
      cases rel <;> rfl
    rw [hlex, List.cons_append, readComparison, hcolumn, Option.bind_some, readRelation_tokens,
      Option.bind_some]

/-- A column with its table. -/
theorem isPrefix_of {t c : String} (hlex : lex pre = .word t :: .sign '.' :: .word c :: rel.tokens)
    (hend : EndsApart pre) (hc : (t ≠ "1" ∧ t ≠ "AND" ∧ t ≠ "ORDER") ∧ c ≠ "AND" ∧ c ≠ "ORDER") :
    IsPrefix pre (t ++ "." ++ c) rel where
  apart := hend
  begins := ⟨t, .sign '.' :: .word c :: rel.tokens, hlex, hc.1.1, hc.1.2.1, hc.1.2.2, by
    cases rel <;> simp [Relation.tokens, Ne.symm hc.2.1], by
    cases rel <;> simp [Relation.tokens, Ne.symm hc.2.2]⟩
  read ts := by
    have hcolumn : readColumn (.word t :: .sign '.' :: .word c :: (rel.tokens ++ ts)) =
        some (t ++ "." ++ c, rel.tokens ++ ts) := rfl
    rw [hlex, List.cons_append, List.cons_append, List.cons_append, readComparison, hcolumn,
      Option.bind_some, readRelation_tokens, Option.bind_some]

/-- A comparison, from what the column is compared with. -/
theorem IsPrefix.isCondition (h : IsPrefix pre column rel) {post : String} {operand : Operand}
    (hread : readOperand (lex post) = some operand)
    (hpost : .word "AND" ∉ lex post ∧ .word "ORDER" ∉ lex post) :
    IsCondition (pre ++ post) (.compare column rel operand) := by
  obtain ⟨w, ts, hlex, hone, hand, horder, hts⟩ := h.begins
  have happ : lex (pre ++ post) = .word w :: (ts ++ lex post) := by
    rw [lex_append h.apart, hlex, List.cons_append]
  refine ⟨?_, ?_, ?_⟩
  · have hnot : lex (pre ++ post) ≠ [.word "1", .sign '=', .word "1"] := by
      rw [happ]
      intro heq
      exact hone (Statement.Token.word.inj (List.cons.inj heq).1)
    have hopen : ¬ ((lex (pre ++ post)).head? = some (.sign '(') ∧
        (lex (pre ++ post)).getLast? = some (.sign ')')) := by
      rw [happ]
      rintro ⟨hhead, -⟩
      cases hhead
    rw [readCondition, if_neg hnot, if_neg hopen, lex_append h.apart, h.read, hread]
    rfl
  · rw [happ]
    simp [Ne.symm hand, hts.1, hpost.1]
  · rw [happ]
    simp [Ne.symm horder, hts.2, hpost.2]

/-- **A column is compared with an argument.** -/
theorem IsPrefix.arg (h : IsPrefix pre column rel) (n : ℕ) :
    IsCondition (pre ++ placeholder n) (.compare column rel (.arg n)) := by
  refine h.isCondition ?_ ?_
  · rw [lex_placeholder]
    show (readPlaceholder (placeholder n)).map _ = _
    rw [readPlaceholder_placeholder]
    rfl
  · rw [lex_placeholder]
    simp [(placeholder_ne (by decide : "AND".toList.head? ≠ some '$') n).symm,
      (placeholder_ne (by decide : "ORDER".toList.head? ≠ some '$') n).symm]

/-- A column is compared with the end of the day after an argument. -/
theorem IsPrefix.dayAfter (h : IsPrefix pre column rel) (n : ℕ) :
    IsCondition (pre ++ (placeholder n ++ "::date + INTERVAL '1 day'"))
      (.compare column rel (.dayAfter n)) := by
  have hstart : StartsApart "::date + INTERVAL '1 day'" := by decide
  have hlex : lex "::date + INTERVAL '1 day'" = dayAfterTokens := by decide
  have happ : lex (placeholder n ++ "::date + INTERVAL '1 day'") =
      .word (placeholder n) :: dayAfterTokens := by
    rw [lex_append_of_starts hstart, lex_placeholder, hlex]
    rfl
  refine h.isCondition ?_ ?_
  · rw [happ]
    show (readPlaceholder (placeholder n)).map _ = _
    rw [readPlaceholder_placeholder]
    rfl
  · rw [happ]
    have hdate : .word "AND" ∉ dayAfterTokens ∧ .word "ORDER" ∉ dayAfterTokens := by decide
    simp [(placeholder_ne (by decide : "AND".toList.head? ≠ some '$') n).symm,
      (placeholder_ne (by decide : "ORDER".toList.head? ≠ some '$') n).symm, hdate.1, hdate.2]

/-- A column is compared with a text. -/
theorem IsPrefix.text (h : IsPrefix pre column rel) {post w : String}
    (hlex : lex post = [.sign quote, .word w, .sign quote]) (hw : w ≠ "AND" ∧ w ≠ "ORDER") :
    IsCondition (pre ++ post) (.compare column rel (.text w)) := by
  refine h.isCondition ?_ ?_
  · rw [hlex, readOperand, if_pos ⟨rfl, rfl⟩]
  · rw [hlex]
    simp [Ne.symm hw.1, Ne.symm hw.2]

theorem isCondition_always : IsCondition "1=1" .always where
  read := by decide
  apart := by decide

/-- **A text is looked for** in one column or another. -/
theorem isCondition_anyLike {pre mid post column column' : String} (n : ℕ)
    (hpre : EndsApart pre ∧ lex pre = [.sign '(', .word "LOWER", .sign '(', .word column, .sign ')',
      .word "LIKE"])
    (hmid : StartsApart mid ∧ EndsApart mid ∧ lex mid = [.word "OR", .word "LOWER", .sign '(',
      .word column', .sign ')', .word "LIKE"])
    (hpost : StartsApart post ∧ lex post = [.sign ')'])
    (hcolumn : column ≠ "OR" ∧ column ≠ "AND" ∧ column ≠ "ORDER")
    (hcolumn' : column' ≠ "OR" ∧ column' ≠ "AND" ∧ column' ≠ "ORDER") :
    IsCondition (pre ++ placeholder n ++ mid ++ placeholder n ++ post)
      (.anyLike [(column, n), (column', n)]) := by
  have hlex : lex (pre ++ placeholder n ++ mid ++ placeholder n ++ post) =
      .sign '(' :: ([.word "OR"].intercalate [[.word "LOWER", .sign '(', .word column, .sign ')',
        .word "LIKE", .word (placeholder n)], [.word "LOWER", .sign '(', .word column', .sign ')',
        .word "LIKE", .word (placeholder n)]] ++ [.sign ')']) := by
    rw [lex_append_of_starts hpost.1, lex_append (EndsApart.append hmid.2.1),
      lex_append_of_starts hmid.1, lex_append hpre.1, hpre.2, hmid.2.2, hpost.2, lex_placeholder]
    rfl
  have hor := placeholder_ne (by decide : "OR".toList.head? ≠ some '$') n
  have hand := placeholder_ne (by decide : "AND".toList.head? ≠ some '$') n
  have horder := placeholder_ne (by decide : "ORDER".toList.head? ≠ some '$') n
  have hlike : ∀ c : String, readLike [.word "LOWER", .sign '(', .word c, .sign ')', .word "LIKE",
      .word (placeholder n)] = some (c, n) := by
    intro c
    show (readPlaceholder (placeholder n)).map _ = _
    rw [readPlaceholder_placeholder]
    rfl
  refine ⟨?_, ?_, ?_⟩
  · have hsplit : ∀ l ∈ [[.word "LOWER", .sign '(', .word column, .sign ')', .word "LIKE",
        .word (placeholder n)], [.word "LOWER", .sign '(', .word column', .sign ')', .word "LIKE",
        .word (placeholder n)]], Statement.Token.word "OR" ∉ l := by
      simp [Ne.symm hcolumn.1, Ne.symm hcolumn'.1, hor.symm]
    have hopen : ∀ ts : List Statement.Token, ¬ (.sign '(' :: ts = [.word "1", .sign '=', .word "1"]) := by simp
    have hclose : ∀ ts : List Statement.Token, (.sign '(' :: (ts ++ [.sign ')'])).getLast? = some (.sign ')') := by
      intro ts
      rw [← List.cons_append, List.getLast?_concat]
    rw [readCondition, hlex, if_neg (hopen _), if_pos ⟨rfl, hclose _⟩, List.tail_cons,
      List.dropLast_concat, List.splitOn_intercalate _ hsplit (by simp), List.mapM_cons, List.mapM_cons,
      hlike, hlike]
    rfl
  · rw [hlex]
    simp [Ne.symm hcolumn.2.1, Ne.symm hcolumn'.2.1, hand.symm]
  · rw [hlex]
    simp [Ne.symm hcolumn.2.2, Ne.symm hcolumn'.2.2, horder.symm]

end Conditions

end Foundations.Selecting
