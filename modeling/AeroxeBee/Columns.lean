import AeroxeBee.Database
import AeroxeBee.Foundations.Answering
import AeroxeBee.Foundations.Calendar
import AeroxeBee.Foundations.Like

/-!
# Columns

What stands in the columns of rows, and what the database makes of the arguments that are sent with the text
of a query: texts of times are read, and the order of texts is up to the database.
-/

namespace AeroxeBee

open Foundations Foundations.Selecting

/-- An argument of a query. -/
inductive Arg where
  | text (s : String)
  | int (n : ℤ)
  | time (t : ℤ)
deriving DecidableEq

/-- What stands in a column; times are in nanoseconds from the epoch. -/
inductive Cell where
  | text (s : String)
  | number (q : ℚ)
  | time (t : ℤ)
deriving DecidableEq

/-- The nanoseconds of a day. -/
def dayNanos : ℤ := 86400000000000

/-- The first moment of the day that a text names. There is no year zero. -/
def timeOf (s : String) : Except String ℤ :=
  match Timestamp.readDate s.toList with
  | some (c, []) =>
    if 1 ≤ c.year then .ok (c.toDays * dayNanos) else .error "date/time field value out of range"
  | _ => .error "invalid input syntax for type timestamp with time zone"

/-- Whether a column holds times. -/
def holdsTimes (column : String) : Bool :=
  ["failed_at", "created_at", "t.created_at", "w.created_at", "k.created_at"].contains column

/-- A text stands in a cell that a pattern stands for, if capitals are not regarded. -/
def cellLike (lower : String → String) (p : List Like.Piece) : Cell → Bool
  | .text s => Like.stands p (lower s).toList
  | _ => false

/-- Arguments and texts among the values of a column. The order of texts, and what a text is without
capitals, are up to the database. -/
def values (collate : String → String → Bool) (lower : String → String) : Values Arg Cell where
  encode column
    | .text s => if holdsTimes column then .time <$> timeOf s else .ok (.text s)
    | .int n => .ok (.number n)
    | .time t => .ok (.time t)
  constant _ w := .text w
  dayAfter _
    | .text s => (fun t => .time (t + dayNanos)) <$> timeOf s
    | .int _ => .error "cannot cast type bigint to date"
    | .time t => .ok (.time (t / dayNanos * dayNanos + dayNanos))
  like
    | .text pattern =>
      match Like.read false pattern.toList with
      | none => .error "LIKE pattern must not end with escape character"
      | some p => .ok (cellLike lower p)
    | _ => .error "operator does not exist"
  number
    | .int n => .ok n
    | _ => .error "argument of LIMIT must be type bigint"
  le
    | .text a, .text b => collate a b
    | .number x, .number y => x ≤ y
    | .time t, .time t' => t ≤ t'
    | _, _ => false

/-- What is selected: some columns. -/
def columnTokens (columns : List String) : List Statement.Token :=
  [Statement.Token.sign ','].intercalate (columns.map fun c => [.word c])

/-- The text of a day, given by its first moment. -/
def dayText (t : ℤ) : String := String.ofList (Timestamp.formatDate (Civil.ofDays (t / dayNanos)))

/-- A point in time is the first moment of a day whose year the database knows. -/
structure IsDay (t : ℤ) : Prop where
  first : t % dayNanos = 0
  year : 1 ≤ (Civil.ofDays (t / dayNanos)).year ∧ (Civil.ofDays (t / dayNanos)).year ≤ 9999

/-- **The text of a day is read as its first moment.** -/
theorem timeOf_dayText {t : ℤ} (h : IsDay t) : timeOf (dayText t) = .ok t := by
  obtain ⟨hdays, hm₁, hm₂, hd₁, hd₂⟩ := Civil.ofDays_spec (t / dayNanos)
  obtain ⟨hfirst, hfrom, hto⟩ := h
  have hyear : Timestamp.FourDigits (Civil.ofDays (t / dayNanos)) := ⟨by omega, hto⟩
  have hread := Timestamp.readDate_write hyear ⟨hm₁, hm₂⟩ hd₁ hd₂ []
  have hdiv := Int.ediv_mul_add_emod t dayNanos
  rw [hfirst, add_zero] at hdiv
  rw [List.append_nil, ← Timestamp.formatDate_eq_writeDate hyear (Civil.valid_ofDays _)] at hread
  rw [timeOf, dayText, String.toList_ofList, hread]
  dsimp only
  rw [if_pos hfrom, hdays, hdiv]

end AeroxeBee
