import Mathlib.Data.List.Pairwise
import Mathlib.Tactic.Common

/-!
# Patterns of requests

A server with several routes finds the route of a request by patterns: a method, and a path some
segments of which are wildcards. The last segment of a path that ends in a slash is the slash, which no
wildcard stands for.

* `overlap_iff`: whether two patterns match a common request can be told from the patterns;
* `Table`: routes no two of which match a common request;
* `Table.route_eq_some_iff`: the route of a request is the one that matches it.
-/

namespace Foundations.Patterns

/-- A segment of a pattern. -/
inductive Segment where
  | lit (text : String)
  | wild

/-- The segment that a path ends with if it ends in a slash. -/
def slash : String := "/"

/-- A segment of a pattern stands for a segment of a path. -/
def Segment.stands : Segment → String → Bool
  | lit text, s => text = s
  | wild, s => s ≠ slash

/-- Two segments of patterns stand for a common segment. -/
def Segment.meets : Segment → Segment → Bool
  | lit text, s => s.stands text
  | wild, lit text => text ≠ slash
  | wild, wild => true

theorem Segment.meets_iff (s t : Segment) :
    s.meets t = true ↔ ∃ x, s.stands x = true ∧ t.stands x = true := by
  cases s with
  | lit text => simp [meets, stands]
  | wild =>
    cases t with
    | lit text => simp [meets, stands, and_comm]
    | wild =>
      refine iff_of_true rfl ⟨"", ?_⟩
      simp [stands, slash]

/-- The path of a pattern: segments, and whether any path may follow that begins with a slash. -/
structure Path where
  segments : List Segment
  rest : Bool

/-- The path of a request is one of the pattern. -/
def matchesPath : List Segment → Bool → List String → Bool
  | [], rest, path => if rest then !path.isEmpty else path.isEmpty
  | s :: segments, rest, x :: path => s.stands x && matchesPath segments rest path
  | _ :: _, _, [] => false

/-- Two patterns have a common path. -/
def meetsPath : List Segment → Bool → List Segment → Bool → Bool
  | [], rest, [], rest' => rest == rest'
  | [], rest, _ :: _, _ => rest
  | _ :: _, _, [], rest' => rest'
  | s :: segments, rest, t :: segments', rest' =>
    s.meets t && meetsPath segments rest segments' rest'

theorem exists_matchesPath (segments : List Segment) (rest : Bool) :
    ∃ path, matchesPath segments rest path = true := by
  induction segments with
  | nil =>
    cases rest with
    | false => exact ⟨[], rfl⟩
    | true => exact ⟨[slash], rfl⟩
  | cons s segments ih =>
    obtain ⟨path, hpath⟩ := ih
    obtain ⟨x, hx, -⟩ := (s.meets_iff s).1 (by cases s <;> simp [Segment.meets, Segment.stands])
    exact ⟨x :: path, by simp [matchesPath, hx, hpath]⟩

/-- A path that is matched by at least one segment is not empty. -/
theorem matchesPath_cons {s : Segment} {segments : List Segment} {rest : Bool} {path : List String}
    (h : matchesPath (s :: segments) rest path = true) :
    ∃ x tail, path = x :: tail ∧ s.stands x = true ∧ matchesPath segments rest tail = true := by
  cases path with
  | nil => simp [matchesPath] at h
  | cons x tail =>
    simp only [matchesPath, Bool.and_eq_true] at h
    exact ⟨x, tail, rfl, h.1, h.2⟩

/-- **Whether two patterns have a common path.** -/
theorem meetsPath_iff (segments : List Segment) (rest : Bool) (segments' : List Segment)
    (rest' : Bool) :
    meetsPath segments rest segments' rest' = true ↔
      ∃ path, matchesPath segments rest path = true ∧ matchesPath segments' rest' path = true := by
  induction segments generalizing segments' with
  | nil =>
    cases segments' with
    | nil =>
      cases rest <;> cases rest' <;> simp only [meetsPath, matchesPath]
      · exact iff_of_true rfl ⟨[], rfl, rfl⟩
      · simp
      · simp
      · exact iff_of_true rfl ⟨[slash], rfl, rfl⟩
    | cons t segments' =>
      simp only [meetsPath]
      constructor
      · rintro rfl
        obtain ⟨path, hpath⟩ := exists_matchesPath (t :: segments') rest'
        obtain ⟨x, tail, rfl, -, -⟩ := matchesPath_cons hpath
        exact ⟨x :: tail, rfl, hpath⟩
      · rintro ⟨path, hempty, hpath⟩
        obtain ⟨x, tail, rfl, -, -⟩ := matchesPath_cons hpath
        cases rest with
        | false => simp [matchesPath] at hempty
        | true => rfl
  | cons s segments ih =>
    cases segments' with
    | nil =>
      simp only [meetsPath]
      constructor
      · rintro rfl
        obtain ⟨path, hpath⟩ := exists_matchesPath (s :: segments) rest
        obtain ⟨x, tail, rfl, -, -⟩ := matchesPath_cons hpath
        exact ⟨x :: tail, hpath, rfl⟩
      · rintro ⟨path, hpath, hempty⟩
        obtain ⟨x, tail, rfl, -, -⟩ := matchesPath_cons hpath
        cases rest' with
        | false => simp [matchesPath] at hempty
        | true => rfl
    | cons t segments' =>
      simp only [meetsPath, Bool.and_eq_true, Segment.meets_iff, ih]
      constructor
      · rintro ⟨⟨x, hs, ht⟩, path, hpath, hpath'⟩
        exact ⟨x :: path, by simp [matchesPath, hs, hpath], by simp [matchesPath, ht, hpath']⟩
      · rintro ⟨path, hpath, hpath'⟩
        obtain ⟨x, tail, rfl, hs, hrest⟩ := matchesPath_cons hpath
        simp only [matchesPath, Bool.and_eq_true] at hpath'
        exact ⟨⟨x, hs, hpath'.1⟩, tail, hrest, hpath'.2⟩

/-! ## Patterns -/

/-- A pattern: a method and a path. -/
structure Pattern extends Path where
  method : String

/-- Whether a pattern for one method is for requests of another; what can be got can also be asked for
its head. -/
def allows (method other : String) : Bool := method = other || method = "GET" && other = "HEAD"

namespace Pattern

/-- A request is one of the pattern. -/
def Matches (p : Pattern) (method : String) (path : List String) : Prop :=
  allows p.method method = true ∧ matchesPath p.segments p.rest path = true

instance (p : Pattern) (method : String) (path : List String) : Decidable (p.Matches method path) :=
  inferInstanceAs (Decidable (_ ∧ _))

/-- Two patterns match a common request. -/
def overlap (p q : Pattern) : Bool :=
  (allows p.method q.method || allows q.method p.method) &&
    meetsPath p.segments p.rest q.segments q.rest

theorem allows_common {method other : String} :
    (allows method other || allows other method) = true ↔
      ∃ m, allows method m = true ∧ allows other m = true := by
  have hself (m : String) : allows m m = true := by simp [allows]
  rw [Bool.or_eq_true]
  constructor
  · rintro (h | h)
    · exact ⟨other, h, hself other⟩
    · exact ⟨method, hself method, h⟩
  · rintro ⟨m, h, h'⟩
    simp only [allows, Bool.or_eq_true, Bool.and_eq_true, decide_eq_true_eq] at h h' ⊢
    rcases h with rfl | ⟨rfl, rfl⟩
    · rcases h' with rfl | ⟨rfl, rfl⟩
      · exact .inl (.inl rfl)
      · exact .inr (.inr ⟨rfl, rfl⟩)
    · rcases h' with rfl | ⟨rfl, -⟩
      · exact .inl (.inr ⟨rfl, rfl⟩)
      · exact .inl (.inl rfl)

/-- **Whether two patterns match a common request.** -/
theorem overlap_iff (p q : Pattern) :
    p.overlap q = true ↔ ∃ method path, p.Matches method path ∧ q.Matches method path := by
  rw [overlap, Bool.and_eq_true, allows_common, meetsPath_iff]
  constructor
  · rintro ⟨⟨m, hm, hm'⟩, path, hpath, hpath'⟩
    exact ⟨m, path, ⟨hm, hpath⟩, hm', hpath'⟩
  · rintro ⟨m, path, ⟨hm, hpath⟩, hm', hpath'⟩
    exact ⟨⟨m, hm, hm'⟩, path, hpath, hpath'⟩

theorem overlap_comm (p q : Pattern) : p.overlap q = q.overlap p := by
  rw [Bool.eq_iff_iff, overlap_iff, overlap_iff]
  constructor
  · rintro ⟨m, path, h, h'⟩
    exact ⟨m, path, h', h⟩
  · rintro ⟨m, path, h, h'⟩
    exact ⟨m, path, h', h⟩

end Pattern

/-! ## Tables -/

/-- Routes no two of which match a common request. -/
structure Table (α : Type) where
  routes : List (Pattern × α)
  disjoint : routes.Pairwise fun r r' => r.1.overlap r'.1 = false

namespace Table

variable {α : Type} (t : Table α) {method : String} {path : List String} {r r' : Pattern × α}

/-- The route of a request. -/
def route (method : String) (path : List String) : Option (Pattern × α) :=
  t.routes.find? fun r => r.1.Matches method path

variable {t}

/-- **A request has at most one route.** -/
theorem eq_of_matches (hr : r ∈ t.routes) (hr' : r' ∈ t.routes) (h : r.1.Matches method path)
    (h' : r'.1.Matches method path) : r = r' := by
  by_contra hne
  have hsymm : Std.Symm fun r r' : Pattern × α => r.1.overlap r'.1 = false :=
    ⟨fun a b hab => (Pattern.overlap_comm b.1 a.1).trans hab⟩
  have hapart := t.disjoint.forall hr hr' hne
  have hcommon := (Pattern.overlap_iff r.1 r'.1).2 ⟨method, path, h, h'⟩
  rw [hapart] at hcommon
  cases hcommon

/-- **The route of a request is the one that matches it.** -/
theorem route_eq_some_iff : t.route method path = some r ↔ r ∈ t.routes ∧ r.1.Matches method path := by
  constructor
  · intro h
    exact ⟨List.mem_of_find?_eq_some h, by simpa using List.find?_some h⟩
  · rintro ⟨hr, h⟩
    cases hfound : t.route method path with
    | none =>
      have hnot := List.find?_eq_none.1 hfound r hr
      simp [h] at hnot
    | some r' =>
      have h' : r'.1.Matches method path := by simpa using List.find?_some hfound
      rw [eq_of_matches (List.mem_of_find?_eq_some hfound) hr h' h]

end Table

end Foundations.Patterns
