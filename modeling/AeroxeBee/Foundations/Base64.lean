import Mathlib.Data.List.Basic
import Mathlib.Tactic.Common

/-!
# Bytes in base 64

Three bytes are written as four digits, and a shorter rest is filled up with `=`. Line breaks are
skipped when digits are read, and so are the bits of the last digit that belong to no byte.

* `decode_encode`: bytes that have been written are read back;
* `encode_inj`: bytes are known from their digits.
-/

namespace Foundations.Base64

/-! ## Digits -/

/-- The digits, in their order. -/
def alphabet : List Char :=
  "ABCDEFGHIJKLMNOPQRSTUVWXYZabcdefghijklmnopqrstuvwxyz0123456789+/".toList

/-- The digit of a number below 64. -/
def digit (n : ℕ) : Char := alphabet.getD n 'A'

/-- The number of a digit. -/
def value? (c : Char) : Option ℕ := alphabet.idxOf? c

/-- The character that fills up the last quantum. -/
def pad : Char := '='

theorem value?_digit {n : ℕ} (h : n < 64) : value? (digit n) = some n := by
  have hall : ∀ n < 64, value? (digit n) = some n := by decide
  exact hall n h

theorem digit_ne_pad (n : ℕ) : digit n ≠ pad := by
  have hall : alphabet.all (· ≠ pad) = true := by decide
  rw [digit, List.getD_eq_getElem?_getD]
  cases h : alphabet[n]? with
  | none => decide
  | some c => exact of_decide_eq_true (List.all_eq_true.1 hall c (List.mem_of_getElem? h))

theorem value?_pad : value? pad = none := by decide

/-- A digit is the digit of its number. -/
theorem digit_of_value? {c : Char} {n : ℕ} (h : value? c = some n) : n < 64 ∧ digit n = c := by
  have hlen : alphabet.length = 64 := by decide
  obtain ⟨hn, hc, -⟩ := List.idxOf?_eq_some_iff.1 h
  refine ⟨hlen ▸ hn, ?_⟩
  rw [digit, List.getD_eq_getElem?_getD, List.getElem?_eq_getElem hn]
  exact hc

/-! ## Writing and reading -/

/-- Write bytes. -/
def encode : List UInt8 → List Char
  | [] => []
  | [a] => [digit (a.toNat / 4), digit (a.toNat % 4 * 16), pad, pad]
  | [a, b] =>
    [digit (a.toNat / 4), digit (a.toNat % 4 * 16 + b.toNat / 16), digit (b.toNat % 16 * 4), pad]
  | a :: b :: c :: rest =>
    digit (a.toNat / 4) :: digit (a.toNat % 4 * 16 + b.toNat / 16) ::
      digit (b.toNat % 16 * 4 + c.toNat / 64) :: digit (c.toNat % 64) :: encode rest

/-- The first byte of a quantum. -/
def first (x y : ℕ) : UInt8 := UInt8.ofNat (x * 4 + y / 16)

/-- The second byte of a quantum. -/
def second (y z : ℕ) : UInt8 := UInt8.ofNat (y % 16 * 16 + z / 4)

/-- The third byte of a quantum. -/
def third (z u : ℕ) : UInt8 := UInt8.ofNat (z % 4 * 64 + u)

/-- Read quanta of four characters; only the last one may be filled up. -/
def decodeQuanta : List Char → Option (List UInt8)
  | [] => some []
  | a :: b :: c :: d :: rest => do
    let x ← value? a
    let y ← value? b
    if c = pad then
      if d = pad ∧ rest = [] then return [first x y] else none
    else
      let z ← value? c
      if d = pad then
        if rest = [] then return [first x y, second y z] else none
      else
        let u ← value? d
        let bytes ← decodeQuanta rest
        return first x y :: second y z :: third z u :: bytes
  | _ => none

/-- A line break. -/
def isBreak (c : Char) : Bool := c = '\n' || c = '\r'

/-- Read digits between line breaks. -/
def decode (cs : List Char) : Option (List UInt8) := decodeQuanta (cs.filter fun c => !isBreak c)

/-! ## Round trips -/

section Quantum

variable (a b c : UInt8)

theorem first_split : first (a.toNat / 4) (a.toNat % 4 * 16 + b.toNat / 16) = a := by
  have ha := a.toNat_lt
  have hb := b.toNat_lt
  apply UInt8.toNat_inj.1
  rw [first, UInt8.toNat_ofNat']
  omega

theorem first_split_one : first (a.toNat / 4) (a.toNat % 4 * 16) = a := by
  have ha := a.toNat_lt
  apply UInt8.toNat_inj.1
  rw [first, UInt8.toNat_ofNat']
  omega

theorem second_split :
    second (a.toNat % 4 * 16 + b.toNat / 16) (b.toNat % 16 * 4 + c.toNat / 64) = b := by
  have hb := b.toNat_lt
  have hc := c.toNat_lt
  apply UInt8.toNat_inj.1
  rw [second, UInt8.toNat_ofNat']
  omega

theorem second_split_two : second (a.toNat % 4 * 16 + b.toNat / 16) (b.toNat % 16 * 4) = b := by
  have hb := b.toNat_lt
  apply UInt8.toNat_inj.1
  rw [second, UInt8.toNat_ofNat']
  omega

theorem third_split : third (b.toNat % 16 * 4 + c.toNat / 64) (c.toNat % 64) = c := by
  have hc := c.toNat_lt
  apply UInt8.toNat_inj.1
  rw [third, UInt8.toNat_ofNat']
  omega

theorem sextets_lt : a.toNat / 4 < 64 ∧ a.toNat % 4 * 16 + b.toNat / 16 < 64 ∧
    b.toNat % 16 * 4 + c.toNat / 64 < 64 ∧ c.toNat % 64 < 64 := by
  have ha := a.toNat_lt
  have hb := b.toNat_lt
  have hc := c.toNat_lt
  omega

end Quantum

/-- **Bytes that have been written are read back.** -/
theorem decodeQuanta_encode (bytes : List UInt8) : decodeQuanta (encode bytes) = some bytes := by
  induction bytes using encode.induct with
  | case1 => rfl
  | case2 a =>
    obtain ⟨hx, -⟩ := sextets_lt a 0 0
    have hy : a.toNat % 4 * 16 < 64 := by omega
    rw [encode, decodeQuanta, value?_digit hx, value?_digit hy]
    simp [first_split_one]
  | case3 a b =>
    obtain ⟨hx, hy, -⟩ := sextets_lt a b 0
    have hz : b.toNat % 16 * 4 < 64 := by omega
    rw [encode, decodeQuanta, value?_digit hx, value?_digit hy]
    simp [digit_ne_pad, value?_digit hz, first_split, second_split_two]
  | case4 a b c rest ih =>
    obtain ⟨hx, hy, hz, hu⟩ := sextets_lt a b c
    rw [encode, decodeQuanta, value?_digit hx, value?_digit hy]
    simp [digit_ne_pad, value?_digit hz, value?_digit hu, ih, first_split, second_split, third_split]

theorem not_isBreak_of_mem {bytes : List UInt8} {c : Char} (h : c ∈ encode bytes) :
    isBreak c = false := by
  have hdigit (n : ℕ) : isBreak (digit n) = false := by
    have hall : alphabet.all (!isBreak ·) = true := by decide
    rw [digit, List.getD_eq_getElem?_getD]
    cases h : alphabet[n]? with
    | none => decide
    | some c => simpa using List.all_eq_true.1 hall c (List.mem_of_getElem? h)
  have hpad : isBreak pad = false := by decide
  induction bytes using encode.induct with
  | case1 => cases h
  | case2 a =>
    simp only [encode, List.mem_cons, List.not_mem_nil, or_false] at h
    rcases h with rfl | rfl | rfl | rfl
    · exact hdigit _
    · exact hdigit _
    · exact hpad
    · exact hpad
  | case3 a b =>
    simp only [encode, List.mem_cons, List.not_mem_nil, or_false] at h
    rcases h with rfl | rfl | rfl | rfl
    · exact hdigit _
    · exact hdigit _
    · exact hdigit _
    · exact hpad
  | case4 a b c rest ih =>
    simp only [encode, List.mem_cons] at h
    rcases h with rfl | rfl | rfl | rfl | h
    · exact hdigit _
    · exact hdigit _
    · exact hdigit _
    · exact hdigit _
    · exact ih h

/-- **Bytes that have been written are read back.** -/
theorem decode_encode (bytes : List UInt8) : decode (encode bytes) = some bytes := by
  have hkept : (encode bytes).filter (fun c => !isBreak c) = encode bytes :=
    List.filter_eq_self.2 fun c hc => by rw [not_isBreak_of_mem hc]; rfl
  rw [decode, hkept, decodeQuanta_encode]

/-- Bytes are known from their digits. -/
theorem encode_inj {bytes bytes' : List UInt8} (h : encode bytes = encode bytes') :
    bytes = bytes' := by
  have hread := congrArg decode h
  rw [decode_encode, decode_encode] at hread
  exact Option.some.inj hread

end Foundations.Base64
