import Mathlib.Data.List.Basic
import Mathlib.Tactic.Common

/-!
# Bytes as hexadecimal digits

* `hexBytes_inj`: bytes are known from their digits;
* `overwrite_eq_iff`: what is known of a word of which some bits have been overwritten.
-/

namespace Foundations

/-! ## Digits -/

/-- The lower-case hexadecimal digits. -/
def IsHexDigit (c : Char) : Prop := c.isDigit = true ∨ 'a' ≤ c ∧ c ≤ 'f'

instance (c : Char) : Decidable (IsHexDigit c) := inferInstanceAs (Decidable (_ ∨ _))

/-- The two digits of a byte. -/
def hexByte (b : UInt8) : List Char :=
  [Nat.digitChar (b >>> 4).toNat, Nat.digitChar (b &&& 0xf).toNat]

/-- The digits of some bytes. -/
def hexBytes (bs : List UInt8) : List Char := bs.flatMap hexByte

theorem isHexDigit_digitChar {n : ℕ} (h : n < 16) : IsHexDigit (Nat.digitChar n) := by
  have hall : ∀ n < 16, IsHexDigit (Nat.digitChar n) := by decide
  exact hall n h

theorem digitChar_inj {m n : ℕ} (hm : m < 16) (hn : n < 16)
    (h : Nat.digitChar m = Nat.digitChar n) : m = n := by
  have hall : ∀ m < 16, ∀ n < 16, Nat.digitChar m = Nat.digitChar n → m = n := by decide
  exact hall m hm n hn h

theorem toNat_shiftRight_four (b : UInt8) : (b >>> 4).toNat = b.toNat / 16 := by
  rw [UInt8.toNat_shiftRight]
  exact Nat.shiftRight_eq_div_pow _ 4

theorem toNat_and_fifteen (b : UInt8) : (b &&& 0xf).toNat = b.toNat % 16 := by
  rw [UInt8.toNat_and]
  exact Nat.and_two_pow_sub_one_eq_mod _ 4

theorem nibbles_lt (b : UInt8) : (b >>> 4).toNat < 16 ∧ (b &&& 0xf).toNat < 16 := by
  rw [toNat_shiftRight_four, toNat_and_fifteen]
  have hlt := b.toNat_lt
  omega

/-- A byte is known from its digits. -/
theorem hexByte_inj {b c : UInt8} (h : hexByte b = hexByte c) : b = c := by
  obtain ⟨hhigh, hrest⟩ := List.cons.inj h
  have hlow := (List.cons.inj hrest).1
  have hdiv := digitChar_inj (nibbles_lt b).1 (nibbles_lt c).1 hhigh
  have hmod := digitChar_inj (nibbles_lt b).2 (nibbles_lt c).2 hlow
  rw [toNat_shiftRight_four, toNat_shiftRight_four] at hdiv
  rw [toNat_and_fifteen, toNat_and_fifteen] at hmod
  exact UInt8.toNat_inj.1 (by omega)

@[simp] theorem hexBytes_nil : hexBytes [] = [] := rfl

@[simp] theorem hexBytes_cons (b : UInt8) (bs : List UInt8) :
    hexBytes (b :: bs) = hexByte b ++ hexBytes bs := rfl

theorem length_hexBytes (bs : List UInt8) : (hexBytes bs).length = 2 * bs.length := by
  induction bs with
  | nil => rfl
  | cons b bs ih =>
    rw [hexBytes_cons, List.length_append, ih, List.length_cons]
    change 2 + 2 * bs.length = _
    omega

theorem isHexDigit_of_mem {bs : List UInt8} {c : Char} (h : c ∈ hexBytes bs) : IsHexDigit c := by
  obtain ⟨b, -, hc⟩ := List.mem_flatMap.1 h
  rcases List.mem_cons.1 hc with rfl | hc
  · exact isHexDigit_digitChar (nibbles_lt b).1
  · rw [List.mem_singleton.1 hc]
    exact isHexDigit_digitChar (nibbles_lt b).2

/-- **Bytes are known from their digits.** -/
theorem hexBytes_inj {bs cs : List UInt8} (h : hexBytes bs = hexBytes cs) : bs = cs := by
  induction bs generalizing cs with
  | nil =>
    cases cs with
    | nil => rfl
    | cons c cs => cases h
  | cons b bs ih =>
    cases cs with
    | nil => cases h
    | cons c cs =>
      obtain ⟨hbyte, hrest⟩ := List.append_inj h rfl
      rw [hexByte_inj hbyte, ih hrest]

/-! ## Overwritten bits -/

/-- **A word of which some bits have been overwritten** shows the others, and nothing else. -/
theorem overwrite_eq_iff {w : ℕ} {mask value x y : BitVec w} (h : mask &&& value = 0#w) :
    x &&& mask ||| value = y &&& mask ||| value ↔
      ∀ i < w, mask.getLsbD i = true → x.getLsbD i = y.getLsbD i := by
  constructor
  · intro heq i hi hmask
    have hbit := congrArg (·.getLsbD i) heq
    have hvalue : value.getLsbD i = false := by
      have hand := congrArg (·.getLsbD i) h
      simpa [hmask] using hand
    simpa [hmask, hvalue] using hbit
  · intro hall
    refine BitVec.eq_of_getLsbD_eq fun i hi => ?_
    cases hmask : mask.getLsbD i with
    | false => simp [hmask]
    | true => simp [hmask, hall i hi hmask]

end Foundations
