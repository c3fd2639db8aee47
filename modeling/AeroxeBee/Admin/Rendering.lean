import AeroxeBee.Foundations.Replace
import Mathlib.Data.List.Nodup

/-!
# Rendering templates

`RenderTemplate` puts the value of a variable wherever the placeholder of the variable stands, one
variable after another, in whatever order the map of the variables is gone through. The text that it
searches for the placeholder of a variable contains the values of those before it.

* `everyPass_of_separate`: a pass replaces the placeholders of the original text if no placeholder
  stands anywhere else;
* `rendered_verbatim`: then the result is the original text with its placeholders replaced, in every
  order; for keys without braces, that is exactly when every pass does as much.
-/

namespace AeroxeBee.Admin

open Foundations

/-! ## The service -/

/-- A text, byte by byte. -/
abbrev Text := List UInt8

/-- The bytes of a string. -/
def utf8 (s : String) : Text := s.toUTF8.data.toList

/-- The placeholder of a variable, which is its key in two pairs of braces. -/
def placeholder (key : Text) : Text := 123 :: 123 :: (key ++ [125, 125])

/-- Replace the placeholders of the variables, which are given in the order in which the map is gone
through. -/
def TemplateService.renderTemplate (body : Text) (vars : List (Text × Text)) : Text :=
  vars.foldl (fun result x => replaceAll (placeholder x.1) x.2 result) body

/-! ## What is asked of it -/

/-- Variables with their values. No two have the same key. -/
structure Variables where
  entries : List (Text × Text)
  nodup : (entries.map Prod.fst).Nodup

namespace Variables

variable (vars : Variables)

/-- The keys of the variables. -/
def keys : List Text := vars.entries.map Prod.fst

/-- The value of a variable; another key stands for its placeholder. -/
def value (k : Text) : Text :=
  ((vars.entries.find? (·.1 = k)).map Prod.snd).getD (placeholder k)

/-- What stands for a key when some variables have been replaced. -/
def upTo (done : List Text) (k : Text) : Text := if k ∈ done then vars.value k else placeholder k

/-- The placeholders in a text, behind the next `skip` bytes. -/
def piecesFrom : ℕ → Text → List (Piece UInt8 Text)
  | _, [] => []
  | skip + 1, _ :: s => piecesFrom skip s
  | 0, c :: s =>
    match vars.keys.find? (placeholder · <+: c :: s) with
    | some k => .hole k :: piecesFrom ((placeholder k).length - 1) s
    | none => .text c :: piecesFrom 0 s

/-- The placeholders in a text. -/
def pieces (body : Text) : List (Piece UInt8 Text) := vars.piecesFrom 0 body

/-- **A text is rendered verbatim**: in whatever order the variables are replaced, the result is the
text with the values in the place of its placeholders. -/
def Verbatim (body : Text) : Prop :=
  ∀ order : List (Text × Text), order.Perm vars.entries →
    TemplateService.renderTemplate body order = expand vars.value (vars.pieces body)

/-- Every pass replaces the placeholders of the original text and nothing else. -/
def EveryPass (body : Text) : Prop :=
  ∀ order : List (Text × Text), order.Perm vars.entries → ∀ n,
    TemplateService.renderTemplate body (order.take n) =
      expand (vars.upTo ((order.take n).map Prod.fst)) (vars.pieces body)

/-- No placeholder stands anywhere but in the original text: when some other variables have been
replaced, the placeholder of a variable is found only where the original text has it. A variable whose
value is its placeholder does not matter. -/
def Separate (body : Text) : Prop :=
  ∀ done, ∀ x ∈ vars.entries, x.1 ∉ done → x.2 ≠ placeholder x.1 →
    OnlyAtHoles (vars.upTo done) x.1 (vars.pieces body)

end Variables

/-! ## Placeholders -/

theorem placeholder_ne_nil (key : Text) : placeholder key ≠ [] := List.cons_ne_nil _ _

/-- A text that begins with a part without a byte has the byte behind it. -/
theorem length_le_of_notMem {l x y z : Text} {c : UInt8} (hc : c ∉ l) (h : l ++ y = x ++ c :: z) :
    l.length ≤ x.length := by
  rcases List.append_eq_append_iff.1 h with ⟨rest, rfl, -⟩ | ⟨rest, rfl, hrest⟩
  · rw [List.length_append]
    omega
  · cases rest with
    | nil => simp
    | cons d rest =>
      obtain ⟨rfl, -⟩ := List.cons.inj hrest
      exact absurd (List.mem_append_right _ List.mem_cons_self) hc

/-- The placeholder of a key without braces does not overlap itself. -/
theorem unbordered_placeholder {key : Text} (hkey : 123 ∉ key) : Unbordered (placeholder key) := by
  intro x y z h
  have hbody : (123 : UInt8) ∉ key ++ [125, 125] := by
    rw [List.mem_append]
    rintro (hmem | hmem)
    · exact hkey hmem
    · exact absurd hmem (by decide)
  cases x with
  | nil => exact .inl rfl
  | cons c x =>
    right
    cases x with
    | nil =>
      have htail := (List.cons.inj (List.cons.inj h).2).2
      have hle := length_le_of_notMem (x := []) hbody htail
      simp at hle
    | cons d x =>
      have htail : (key ++ [125, 125]) ++ y = x ++ 123 :: (123 :: (key ++ [125, 125]) ++ z) := by
        have h' := (List.cons.inj (List.cons.inj h).2).2
        exact h'.trans (List.append_assoc x (placeholder key) z)
      have hle := length_le_of_notMem hbody htail
      simp only [placeholder, List.length_cons]
      omega

namespace Variables

variable {vars : Variables} {body : Text}

theorem piecesFrom_eq_drop (skip : ℕ) (s : Text) :
    vars.piecesFrom skip s = vars.pieces (s.drop skip) :=
  eq_drop_of_skips (fun skip => by cases skip <;> rfl) (fun _ _ _ => rfl) skip s

/-- A text with its placeholders is the text. -/
theorem expand_pieces (body : Text) : expand placeholder (vars.pieces body) = body := by
  induction hn : body.length using Nat.strong_induction_on generalizing body with
  | _ n ih =>
    cases body with
    | nil => rfl
    | cons c s =>
      rw [pieces, piecesFrom]
      cases hfind : vars.keys.find? (placeholder · <+: c :: s) with
      | none =>
        dsimp only
        rw [expand_text, ← pieces, ih s.length (by rw [← hn]; simp) s rfl]
      | some k =>
        have hbegins : placeholder k <+: c :: s := by simpa using List.find?_some hfind
        obtain ⟨rest, hrest⟩ := hbegins
        dsimp only
        have hdrop : s.drop ((placeholder k).length - 1) = rest := by
          have h := congrArg (List.drop (placeholder k).length) hrest
          rw [List.drop_left] at h
          exact h.symm
        have hlen : rest.length < n := by
          rw [← hn, ← hrest, List.length_append]
          simp [placeholder]
        rw [expand_hole, piecesFrom_eq_drop, hdrop, ih _ hlen rest rfl, hrest]

theorem value_of_mem {x : Text × Text} (hx : x ∈ vars.entries) : vars.value x.1 = x.2 := by
  have hfind : vars.entries.find? (·.1 = x.1) = some x := by
    cases hf : vars.entries.find? (·.1 = x.1) with
    | none => exact absurd (List.find?_eq_none.1 hf x hx) (by simp)
    | some y =>
      have hkey : y.1 = x.1 := by simpa using List.find?_some hf
      exact congrArg some
        (List.inj_on_of_nodup_map vars.nodup (List.mem_of_find?_eq_some hf) hx hkey)
  rw [value, hfind]
  rfl

theorem value_of_notMem {k : Text} (hk : k ∉ vars.keys) : vars.value k = placeholder k := by
  have hfind : vars.entries.find? (·.1 = k) = none := by
    refine List.find?_eq_none.2 fun x hx hkey => hk ?_
    have hkey' : x.1 = k := by simpa using hkey
    exact hkey' ▸ List.mem_map_of_mem hx
  rw [value, hfind]
  rfl

/-- What stands for the keys depends on which variables have been replaced. -/
theorem upTo_congr {done done' : List Text} (h : ∀ k ∈ vars.keys, k ∈ done ↔ k ∈ done') :
    vars.upTo done = vars.upTo done' := by
  funext k
  unfold upTo
  by_cases hk : k ∈ vars.keys
  · simp only [h k hk]
  · rw [value_of_notMem hk, ite_self, ite_self]

theorem upTo_keys : vars.upTo vars.keys = vars.value := by
  funext k
  unfold upTo
  split_ifs with hk
  · rfl
  · exact (value_of_notMem hk).symm

theorem upTo_concat {done : List Text} {x : Text × Text} (hx : x ∈ vars.entries) :
    vars.upTo (done ++ [x.1]) = Function.update (vars.upTo done) x.1 x.2 := by
  funext k
  by_cases hk : k = x.1
  · subst hk
    rw [Function.update_self, ← value_of_mem hx, upTo, if_pos (by simp)]
  · rw [Function.update_of_ne hk, upTo, upTo]
    simp [hk]

/-! ## Passes -/

theorem renderTemplate_concat (body : Text) (order : List (Text × Text)) (x : Text × Text) :
    TemplateService.renderTemplate body (order ++ [x]) =
      replaceAll (placeholder x.1) x.2 (TemplateService.renderTemplate body order) := by
  rw [TemplateService.renderTemplate, List.foldl_append]
  rfl

/-- **A pass replaces the placeholders of the original text**, if there are no others. -/
theorem replaceAll_upTo (h : vars.Separate body) {done : List Text} {x : Text × Text}
    (hx : x ∈ vars.entries) (hnew : x.1 ∉ done) :
    replaceAll (placeholder x.1) x.2 (expand (vars.upTo done) (vars.pieces body)) =
      expand (vars.upTo (done ++ [x.1])) (vars.pieces body) := by
  have hself : vars.upTo done x.1 = placeholder x.1 := if_neg hnew
  have hne : vars.upTo done x.1 ≠ [] := by
    rw [hself]
    exact placeholder_ne_nil x.1
  rw [upTo_concat hx]
  by_cases hvalue : x.2 = placeholder x.1
  · rw [hvalue, ← hself, replaceAll_self hne, Function.update_eq_self]
  · rw [← hself]
    exact replaceAll_expand hne (h done x hx hnew hvalue) x.2

theorem everyPass_of_separate (h : vars.Separate body) : vars.EveryPass body := by
  intro order hperm n
  induction n with
  | zero =>
    have hnone : vars.upTo [] = placeholder := funext fun k => if_neg List.not_mem_nil
    rw [List.take_zero, List.map_nil, hnone, expand_pieces]
    rfl
  | succ n ih =>
    rcases Nat.lt_or_ge n order.length with hn | hn
    · have hx : order[n] ∈ vars.entries := hperm.mem_iff.1 (List.getElem_mem hn)
      have hnodup : (order.map Prod.fst).Nodup := (hperm.map Prod.fst).nodup_iff.2 vars.nodup
      have hnew : order[n].1 ∉ (order.take n).map Prod.fst := by
        rw [← List.take_append_drop n order, List.drop_eq_getElem_cons hn, List.map_append,
          List.map_cons] at hnodup
        exact fun hmem => (List.disjoint_of_nodup_append hnodup) hmem List.mem_cons_self
      rw [← List.take_concat_get' _ _ hn, renderTemplate_concat, ih, List.map_append,
        replaceAll_upTo h hx hnew]
      rfl
    · rw [List.take_of_length_le (by omega)]
      rwa [List.take_of_length_le hn] at ih

theorem verbatim_of_everyPass (h : vars.EveryPass body) : vars.Verbatim body := by
  intro order hperm
  have hall := h order hperm order.length
  rw [List.take_length] at hall
  rw [hall, ← upTo_keys]
  congr 1
  exact upTo_congr fun k hk => ⟨fun _ => hk, fun _ => ((hperm.map Prod.fst).mem_iff).2 hk⟩

/-- If every pass replaces the placeholders of the original text, there are no others. -/
theorem separate_of_everyPass (hkeys : ∀ k ∈ vars.keys, 123 ∉ k) (h : vars.EveryPass body) :
    vars.Separate body := by
  intro done x hx hnew hvalue
  -- the variables of the list are replaced first, then the one in question
  set first := vars.entries.filter (·.1 ∈ done) with hfirst
  set others := vars.entries.filter (fun y => !decide (y.1 ∈ done)) with hothers
  have hmem : x ∈ others := List.mem_filter.2 ⟨hx, by simp [hnew]⟩
  have hperm : (first ++ x :: others.erase x).Perm vars.entries :=
    ((List.perm_cons_erase hmem).symm.append_left first).trans (List.filter_append_perm _ _)
  have hbefore := h _ hperm first.length
  have hafter := h _ hperm (first.length + 1)
  have htake : (first ++ x :: others.erase x).take (first.length + 1) = first ++ [x] := by
    rw [List.take_append, List.take_of_length_le (by omega)]
    simp
  rw [List.take_left] at hbefore
  have hdone : vars.upTo (first.map Prod.fst) = vars.upTo done := by
    refine upTo_congr fun k hk => ?_
    obtain ⟨y, hy, rfl⟩ := List.mem_map.1 hk
    constructor
    · intro hin
      obtain ⟨y', hy', hkey⟩ := List.mem_map.1 hin
      have hin' : y'.1 ∈ done := by simpa using (List.mem_filter.1 hy').2
      exact hkey ▸ hin'
    · exact fun hin => List.mem_map_of_mem (List.mem_filter.2 ⟨hy, by simpa using hin⟩)
  rw [htake, renderTemplate_concat, hbefore, List.map_append, List.map_singleton,
    upTo_concat hx, hdone] at hafter
  have hself : vars.upTo done x.1 = placeholder x.1 := if_neg hnew
  rw [← hself] at hafter hvalue
  refine onlyAtHoles_of_replaceAll ?_ ?_ hvalue hafter
  · rw [hself]
    exact unbordered_placeholder (hkeys x.1 (List.mem_map_of_mem hx))
  · rw [hself]
    exact placeholder_ne_nil x.1

end Variables

end AeroxeBee.Admin
