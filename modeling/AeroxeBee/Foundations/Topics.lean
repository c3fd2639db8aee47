import Mathlib.Logic.Function.Basic

/-!
# Topics and topic filters

The names under which messages are published, and the filters that subscribers ask for. A name is
made of levels between slashes; in a filter a `+` stands for any one level, and a `#` for all that
are left.

* `covers`: matching, level by level;
* `matchesTopic`: matching of texts;
* `matchesTopic_iff_eq`: a filter without wildcards matches itself and nothing else.
-/

namespace Foundations

/-! ## Levels -/

/-- A level of a filter: a name, any one level, or all levels that are left. -/
inductive FilterLevel (α : Type) where
  | name (a : α)
  | one
  | rest
deriving DecidableEq

namespace FilterLevel

variable {α : Type} [DecidableEq α]

/-- The levels of a filter match those of a topic. -/
def covers : List (FilterLevel α) → List α → Bool
  | rest :: _, _ => true
  | [], [] => true
  | one :: fs, _ :: ts => covers fs ts
  | name a :: fs, t :: ts => a = t && covers fs ts
  | _, _ => false

/-- Names match themselves only. -/
theorem covers_names (as ts : List α) : covers (as.map name) ts = true ↔ as = ts := by
  induction as generalizing ts with
  | nil => cases ts <;> simp [covers]
  | cons a as ih => cases ts <;> simp [covers, ih]

end FilterLevel

/-! ## Texts -/

/-- The levels of a topic, between the slashes. -/
def levels (topic : String) : List (List Char) := topic.toList.splitOn '/'

/-- The level of a filter that a text stands for. -/
def filterLevel (cs : List Char) : FilterLevel (List Char) :=
  if cs = ['+'] then .one else if cs = ['#'] then .rest else .name cs

/-- The filter matches the topic. Topics that begin with a dollar are kept from filters that begin
with a wildcard. -/
def matchesTopic (filter topic : String) : Bool :=
  let fs := (levels filter).map filterLevel
  FilterLevel.covers fs (levels topic) &&
    !(topic.toList.head? = some '$' && (fs.head? = some .one || fs.head? = some .rest))

/-- No level of the filter is a wildcard. -/
def Literal (filter : String) : Prop := ∀ cs ∈ levels filter, cs ≠ ['+'] ∧ cs ≠ ['#']

theorem levels_injective : Function.Injective levels := by
  intro topic topic' h
  have hjoin := congrArg (['/'].intercalate ·) h
  simpa only [levels, List.intercalate_splitOn, String.toList_inj] using hjoin

/-- What stands before a slash and what stands after it have levels of their own. -/
theorem levels_append (topic rest : String) :
    levels (topic ++ "/" ++ rest) = levels topic ++ levels rest := by
  have hsep : (topic ++ "/" ++ rest).toList = topic.toList ++ '/' :: rest.toList := by
    simp
  rw [levels, hsep, List.splitOn_append_cons_self]
  rfl

/-- A text without slashes is one level. -/
theorem levels_of_not_mem {name : String} (h : '/' ∉ name.toList) : levels name = [name.toList] :=
  List.splitOn_eq_singleton h

theorem filterLevel_of_literal {filter : String} (h : Literal filter) :
    (levels filter).map filterLevel = (levels filter).map .name := by
  refine List.map_congr_left fun cs hcs => ?_
  rw [filterLevel, if_neg (h cs hcs).1, if_neg (h cs hcs).2]

/-- **A filter without wildcards matches itself and nothing else.** -/
theorem matchesTopic_iff_eq {filter topic : String} (h : Literal filter) :
    matchesTopic filter topic = true ↔ filter = topic := by
  unfold matchesTopic
  rw [filterLevel_of_literal h]
  simp [FilterLevel.covers_names, levels_injective.eq_iff]

end Foundations
