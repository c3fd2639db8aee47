import AeroxeBee.Foundations.Calendar
import Mathlib.Probability.Distributions.Uniform

/-!
# Codes

A code of `GenerateCode` is a random number, formatted with zeros before it up to the length of the
code. The format is itself the result of a format, and a width that is too large cannot be read from
it.

* `generateCode_eq`: the code of a number;
* `generateCode_bijOn`: the codes of a length are the numbers below a power of ten, each as likely as
  any other;
* `generateCode_noverb`: what is returned instead when the length is too large.
-/

namespace AeroxeBee.Otp

open Foundations ENNReal

/-! ## Formats -/

namespace Fmt

/-- What is formatted: a machine integer, or one of any size. -/
inductive Arg where
  | int (n : ℤ)
  | bigInt (n : ℤ)

namespace Arg

/-- The number. -/
def val : Arg → ℤ
  | int n | bigInt n => n

/-- The type of the number. -/
def typeName : Arg → String
  | int _ => "int"
  | bigInt _ => "*big.Int"

end Arg

/-- Whether a number is too large for a width. -/
def tooLarge (x : ℕ) : Bool := 1000000 < x

/-- Read a width, if there is one, and what follows it. Nothing follows a width that is too large. -/
def parsenum (num : ℕ) (isnum : Bool) : List Char → ℕ × Bool × List Char
  | [] => (num, isnum, [])
  | c :: s =>
    if c.isDigit then
      if tooLarge num then (0, false, [])
      else parsenum (num * 10 + (c.toNat - '0'.toNat)) true s
    else (num, isnum, c :: s)

/-- A number in decimal digits, with zeros or blanks before them up to a width. -/
def formatD (zero : Bool) (wid : ℕ) (n : ℤ) : List Char :=
  let sign := if n < 0 then ['-'] else []
  let digits := Nat.toDigits 10 n.natAbs
  let padding := List.replicate (wid - (sign.length + digits.length)) (if zero then '0' else ' ')
  if zero then sign ++ padding ++ digits else padding ++ sign ++ digits

/-- A number with its type. -/
def describe (a : Arg) : List Char := a.typeName.toList ++ '=' :: formatD false 0 a.val

/-- The complaint about numbers that are left over. -/
def extra : List Arg → List Char
  | [] => []
  | args => "%!(EXTRA ".toList ++ List.intercalate ", ".toList (args.map describe) ++ [')']

/-- Format numbers; of the verbs there are `d` and `%`, and of the flags there is `0`. -/
def doPrintf : ℕ → List Char → List Arg → List Char
  | 0, _, _ => []
  | _ + 1, [], args => extra args
  | fuel + 1, '%' :: format, args =>
    let zero := format.head? = some '0'
    let (wid, _, format) := parsenum 0 false (format.dropWhile (· = '0'))
    match format, args with
    | [], args => "%!(NOVERB)".toList ++ extra args
    | '%' :: format, args => '%' :: doPrintf fuel format args
    | verb :: format, [] =>
      "%!".toList ++ verb :: ("(MISSING)".toList ++ doPrintf fuel format [])
    | 'd' :: format, a :: args => formatD zero wid a.val ++ doPrintf fuel format args
    | verb :: format, a :: args =>
      "%!".toList ++ verb :: '(' :: (describe a ++ ')' :: doPrintf fuel format args)
  | fuel + 1, c :: format, args => c :: doPrintf fuel format args

/-- Format numbers. -/
def sprintf (format : List Char) (args : List Arg) : List Char :=
  doPrintf (format.length + 1) format args

end Fmt

/-! ## The function -/

/-- A random code of a length; the length of the configuration stands for one that is not positive. -/
def OTPService.generateCode (codeLength length : ℤ) (randInt : ℕ → Except String ℕ) :
    Except String String := do
  let length := if length ≤ 0 then codeLength else length
  let n ← randInt (10 ^ length.toNat)
  let format := Fmt.sprintf "%%0%dd".toList [.int length]
  return String.ofList (Fmt.sprintf format [.bigInt n])

/-! ## The width -/

namespace Fmt

/-- The digits of a number without a sign. -/
theorem formatD_natCast (wid n : ℕ) : formatD true wid n =
    List.replicate (wid - (Nat.toDigits 10 n).length) '0' ++ Nat.toDigits 10 n := by
  have hsign : ¬ (n : ℤ) < 0 := (Int.natCast_nonneg n).not_gt
  simp [formatD, hsign]

/-- **Zeros before a number that is not too long.** -/
theorem formatD_eq_pad {k n : ℕ} (h : n < 10 ^ (k + 1)) : formatD true (k + 1) n = pad (k + 1) n := by
  rw [formatD_natCast]
  induction k generalizing n with
  | zero =>
    have hlt : n < 10 := by simpa using h
    rw [Nat.toDigits_of_lt_base hlt]
    simp [pad, Nat.mod_eq_of_lt hlt]
  | succ k ih =>
    have hdiv : n / 10 < 10 ^ (k + 1) := by
      rw [Nat.div_lt_iff_lt_mul (by decide)]
      simpa [pow_succ] using h
    rw [pad, ← ih hdiv]
    by_cases hlt : n < 10
    · rw [Nat.toDigits_of_lt_base hlt, Nat.div_eq_of_lt hlt, Nat.mod_eq_of_lt hlt,
        Nat.toDigits_zero]
      simp [List.replicate_succ']
    · rw [Nat.toDigits_of_base_le (by decide) (not_lt.1 hlt), List.length_append,
        List.length_singleton, Nat.add_sub_add_right, List.append_assoc]

/-- A format with a width. -/
theorem sprintf_width (L : ℕ) : sprintf "%%0%dd".toList [.int L] =
    '%' :: '0' :: (Nat.toDigits 10 L ++ ['d']) := by
  have hsign : ¬ (L : ℤ) < 0 := (Int.natCast_nonneg L).not_gt
  simp [sprintf, doPrintf, parsenum, extra, formatD, Arg.val, hsign]

/-- **What is read of a width.** -/
theorem parsenum_toDigits (L : ℕ) (isnum : Bool) (rest : List Char) :
    parsenum 0 isnum (Nat.toDigits 10 L ++ rest) =
      if tooLarge (L / 10) then (0, false, []) else parsenum L true rest := by
  induction L using Nat.strong_induction_on generalizing rest with
  | _ L ih =>
    have hdigit (d : ℕ) (hd : d < 10) : (Nat.digitChar d).isDigit = true ∧
        (Nat.digitChar d).toNat - '0'.toNat = d := by
      have hall : ∀ d < 10, (Nat.digitChar d).isDigit = true ∧
          (Nat.digitChar d).toNat - '0'.toNat = d := by decide
      exact hall d hd
    by_cases hlt : L < 10
    · obtain ⟨hchar, hval⟩ := hdigit L hlt
      rw [Nat.toDigits_of_lt_base hlt, List.singleton_append, parsenum, if_pos hchar, hval,
        Nat.div_eq_of_lt hlt, Nat.zero_mul, Nat.zero_add]
    · obtain ⟨hchar, hval⟩ := hdigit (L % 10) (Nat.mod_lt _ (by decide))
      have hnum : L / 10 * 10 + L % 10 = L := by omega
      rw [Nat.toDigits_of_base_le (by decide) (not_lt.1 hlt), List.append_assoc,
        ih (L / 10) (by omega), List.singleton_append, parsenum, if_pos hchar, hval, hnum]
      by_cases hlarge : tooLarge (L / 10) = true
      · simp [hlarge]
      · have hless : tooLarge (L / 10 / 10) = false := by
          simp only [tooLarge, decide_eq_true_eq, not_lt] at hlarge
          simp only [tooLarge, decide_eq_false_iff_not, not_lt]
          omega
        simp [hlarge, hless]

/-- The zeros of a format end where the width begins. -/
theorem dropWhile_toDigits {L : ℕ} (h : 1 ≤ L) (rest : List Char) :
    ('0' :: (Nat.toDigits 10 L ++ rest)).dropWhile (· = '0') = Nat.toDigits 10 L ++ rest := by
  obtain ⟨c, cs, hcs, hc⟩ : ∃ c cs, Nat.toDigits 10 L = c :: cs ∧ c ≠ '0' := by
    induction L using Nat.strong_induction_on with
    | _ L ih =>
      by_cases hlt : L < 10
      · refine ⟨_, _, Nat.toDigits_of_lt_base hlt, ?_⟩
        have hall : ∀ d < 10, 1 ≤ d → Nat.digitChar d ≠ '0' := by decide
        exact hall L hlt h
      · obtain ⟨c, cs, hcs, hc⟩ := ih (L / 10) (by omega) (by omega)
        refine ⟨c, cs ++ [Nat.digitChar (L % 10)], ?_, hc⟩
        rw [Nat.toDigits_of_base_le (by decide) (not_lt.1 hlt), hcs, List.cons_append]
  rw [hcs]
  simp [hc]

/-- **A number formatted with a width that is read from the format**, or the complaint that there is
no verb. -/
theorem sprintf_padded {L : ℕ} (h : 1 ≤ L) (n : ℕ) :
    sprintf ('%' :: '0' :: (Nat.toDigits 10 L ++ ['d'])) [.bigInt n] =
      if tooLarge (L / 10) then "%!(NOVERB)%!(EXTRA *big.Int=".toList ++ (Nat.toDigits 10 n ++ [')'])
      else formatD true L n := by
  have hsign : ¬ (n : ℤ) < 0 := (Int.natCast_nonneg n).not_gt
  obtain ⟨fuel, hfuel⟩ : ∃ fuel, ('%' :: '0' :: (Nat.toDigits 10 L ++ ['d'])).length = fuel + 1 :=
    ⟨_, rfl⟩
  rw [sprintf, hfuel, doPrintf, dropWhile_toDigits h, parsenum_toDigits]
  split_ifs with hlarge
  · simp [extra, describe, formatD, Arg.val, Arg.typeName, hsign, List.intercalate]
  · simp [parsenum, doPrintf, extra, Arg.val]

end Fmt

/-! ## The codes -/

/-- A code of a length. -/
def IsCode (L : ℕ) (code : String) : Prop :=
  code.toList.length = L ∧ ∀ c ∈ code.toList, c.isDigit = true

/-- The code of a number. -/
def codeOf (codeLength L : ℤ) (n : ℕ) : Except String String :=
  OTPService.generateCode codeLength L fun _ => .ok n

variable {codeLength L : ℤ}

theorem codeOf_eq (h : 1 ≤ L) (n : ℕ) : codeOf codeLength L n =
    .ok (String.ofList (if Fmt.tooLarge (L.toNat / 10) then
      "%!(NOVERB)%!(EXTRA *big.Int=".toList ++ (Nat.toDigits 10 n ++ [')'])
      else Fmt.formatD true L.toNat n)) := by
  obtain ⟨k, rfl⟩ := Int.eq_ofNat_of_zero_le (zero_le_one.trans h)
  have hk : 1 ≤ k := by exact_mod_cast h
  have hpos : ¬ (k : ℤ) ≤ 0 := by omega
  rw [codeOf, OTPService.generateCode, if_neg hpos]
  dsimp only [bind, Except.bind, pure, Except.pure]
  rw [Fmt.sprintf_width, Fmt.sprintf_padded hk, Int.toNat_natCast]

/-- **The code of a number.** -/
theorem generateCode_eq (hmin : 1 ≤ L) (hmax : L ≤ 10000009) {n : ℕ} (hn : n < 10 ^ L.toNat) :
    codeOf codeLength L n = .ok (String.ofList (pad L.toNat n)) := by
  have hsmall : ¬ Fmt.tooLarge (L.toNat / 10) = true := by
    simp only [Fmt.tooLarge, decide_eq_true_eq]
    omega
  obtain ⟨k, hk⟩ : ∃ k, L.toNat = k + 1 := ⟨L.toNat - 1, by omega⟩
  rw [codeOf_eq hmin, if_neg hsmall, hk, Fmt.formatD_eq_pad (hk ▸ hn)]

/-- **A length that is too large** is lost, and the verb with it. -/
theorem generateCode_noverb (h : 10000009 < L) (n : ℕ) : codeOf codeLength L n =
    .ok (String.ofList ("%!(NOVERB)%!(EXTRA *big.Int=".toList ++ (Nat.toDigits 10 n ++ [')']))) := by
  have hlarge : Fmt.tooLarge (L.toNat / 10) = true := by
    simp only [Fmt.tooLarge, decide_eq_true_eq]
    omega
  rw [codeOf_eq (by omega), if_pos hlarge]

/-- **The codes of a length are the numbers below a power of ten**, one for each, and each is as
likely as any other if the numbers are. -/
theorem generateCode_bijOn (hmin : 1 ≤ L) (hmax : L ≤ 10000009) :
    Set.BijOn (codeOf codeLength L) {n | n < 10 ^ L.toNat}
        {r | ∃ code, r = .ok code ∧ IsCode L.toNat code} ∧
      ∀ code, IsCode L.toNat code →
        (PMF.uniformOfFintype (Fin (10 ^ L.toNat))).map
          (fun n : Fin (10 ^ L.toNat) => codeOf codeLength L n) (.ok code) =
            ((10 ^ L.toNat : ℕ) : ℝ≥0∞)⁻¹ := by
  have hbij : Set.BijOn (codeOf codeLength L) {n | n < 10 ^ L.toNat}
      {r | ∃ code, r = .ok code ∧ IsCode L.toNat code} := by
    refine ⟨fun n hn => ?_, fun m hm n hn h => ?_, ?_⟩
    · refine ⟨_, generateCode_eq hmin hmax hn, ?_, ?_⟩
      · rw [String.toList_ofList, length_pad]
      · rw [String.toList_ofList]
        exact fun c hc => isDigit_of_mem_pad hc
    · rw [generateCode_eq hmin hmax hm, generateCode_eq hmin hmax hn] at h
      exact (pad_inj hm hn).1 (String.ofList_injective (Except.ok.inj h))
    · rintro _ ⟨code, rfl, hlen, hdigits⟩
      obtain ⟨hpad, hlt⟩ := pad_ofDigitChars hdigits
      rw [hlen] at hpad hlt
      refine ⟨_, hlt, ?_⟩
      rw [generateCode_eq hmin hmax hlt, hpad, String.ofList_toList]
  refine ⟨hbij, fun code hcode => ?_⟩
  obtain ⟨n, hn, hcodeOf⟩ := hbij.surjOn ⟨code, rfl, hcode⟩
  rw [PMF.map_apply, tsum_eq_single (⟨n, hn⟩ : Fin (10 ^ L.toNat)), if_pos hcodeOf.symm, PMF.uniformOfFintype_apply,
    Fintype.card_fin]
  intro m hm
  refine if_neg fun heq => hm (Fin.ext ?_)
  exact hbij.injOn m.2 hn (heq.symm.trans hcodeOf.symm)

/-- Codes of six digits. -/
theorem generateCode_six : Set.BijOn (codeOf 6 6) {n | n < 10 ^ (6 : ℤ).toNat}
      {r | ∃ code, r = .ok code ∧ IsCode (6 : ℤ).toNat code} ∧
    ∀ code, IsCode (6 : ℤ).toNat code →
      (PMF.uniformOfFintype (Fin (10 ^ (6 : ℤ).toNat))).map
        (fun n : Fin (10 ^ (6 : ℤ).toNat) => codeOf 6 6 n) (.ok code) =
          ((10 ^ (6 : ℤ).toNat : ℕ) : ℝ≥0∞)⁻¹ :=
  generateCode_bijOn (by decide) (by decide)

/-- What is returned for a length that is too large is no code. -/
theorem not_bijOn (h : 10000009 < L) : ¬ Set.BijOn (codeOf codeLength L) {n | n < 10 ^ L.toNat}
    {r | ∃ code, r = .ok code ∧ IsCode L.toNat code} := by
  intro hbij
  obtain ⟨code, hcode, -, hdigits⟩ := hbij.mapsTo (x := 0) (Nat.pow_pos (by decide))
  rw [generateCode_noverb h] at hcode
  obtain rfl := Except.ok.inj hcode
  rw [String.toList_ofList] at hdigits
  exact absurd (hdigits '%' (List.mem_append_left _ (by decide))) (by decide)

/-- The first length that is too large. -/
theorem generateCode_tooLong : codeOf 6 10000010 0 =
      .ok "%!(NOVERB)%!(EXTRA *big.Int=0)" ∧
    ¬ Set.BijOn (codeOf 6 10000010) {n | n < 10 ^ (10000010 : ℤ).toNat}
      {r | ∃ code, r = .ok code ∧ IsCode (10000010 : ℤ).toNat code} :=
  ⟨(generateCode_noverb (by decide) 0).trans (by decide), not_bijOn (by decide)⟩

end AeroxeBee.Otp
