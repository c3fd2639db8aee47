import Mathlib.Data.List.TakeDrop
import Mathlib.Tactic.IntervalCases

/-!
# JSON texts

The texts of RFC 8259 as the encoder and decoder of a Go program write and read them: strings
with every escape, numbers as literals, nested arrays and objects. The writer covers flat
objects, whose members are strings and integers; the reader covers every text.

The main result, `Json.parse_writeObject`, is that the reader returns exactly the members that
were written, for all keys and all values.
-/

namespace Foundations

/-- A JSON value; a number is kept as its literal. -/
inductive Json where
  | null
  | bool (b : Bool)
  | num (lit : List Char)
  | str (s : String)
  | arr (elems : List Json)
  | obj (members : List (String × Json))

namespace Json

/-! ## Writing -/

/-- The four hexadecimal digits of a code point below `0x10000`. -/
def hex4 (n : ℕ) : List Char :=
  [Nat.digitChar (n / 4096), Nat.digitChar (n / 256 % 16), Nat.digitChar (n / 16 % 16),
    Nat.digitChar (n % 16)]

/-- One character inside a string. Control characters, the characters that are special to HTML
and the two line separators of Unicode are written as escapes. -/
def writeChar (c : Char) : List Char :=
  if c = '\x22' then ['\x5c', '\x22']
  else if c = '\x5c' then ['\x5c', '\x5c']
  else if c = '\x08' then ['\x5c', 'b']
  else if c = '\x0c' then ['\x5c', 'f']
  else if c = '\n' then ['\x5c', 'n']
  else if c = '\x0d' then ['\x5c', 'r']
  else if c = '\t' then ['\x5c', 't']
  else if c.toNat < 32 ∨ c = '<' ∨ c = '>' ∨ c = '&' ∨ c = '\u2028' ∨ c = '\u2029' then
    '\x5c' :: 'u' :: hex4 c.toNat
  else [c]

/-- A string with its quotes. -/
def writeString (s : String) : List Char :=
  '\x22' :: (s.toList.flatMap writeChar ++ ['\x22'])

/-- The literal of an integer. -/
def intLit (n : ℤ) : List Char :=
  if n < 0 then '-' :: Nat.toDigits 10 n.natAbs else Nat.toDigits 10 n.natAbs

/-- The values of the members of a flat object. -/
inductive Scalar where
  | int (n : ℤ)
  | str (s : String)

/-- The text of a scalar. -/
def Scalar.write : Scalar → List Char
  | int n => intLit n
  | str s => writeString s

/-- The value a scalar is read back as. -/
def Scalar.toJson : Scalar → Json
  | int n => .num (intLit n)
  | str s => .str s

/-- A member: its key, a colon, its value. -/
def writeMember (m : String × Scalar) : List Char :=
  writeString m.1 ++ ':' :: m.2.write

/-- The members after the opening brace, with the closing one. -/
def writeMembers : List (String × Scalar) → List Char
  | [] => ['\x7d']
  | [m] => writeMember m ++ ['\x7d']
  | m :: ms => writeMember m ++ ',' :: writeMembers ms

/-- A flat object, without any white space. -/
def writeObject (ms : List (String × Scalar)) : List Char := '\x7b' :: writeMembers ms

/-! ## Reading -/

/-- Whether the character is white space between tokens. -/
def isWs (c : Char) : Bool := c = ' ' || c = '\t' || c = '\n' || c = '\x0d'

/-- The text after its leading white space. -/
def skipWs (cs : List Char) : List Char := cs.dropWhile isWs

/-- The value of a hexadecimal digit of either case. -/
def hexVal (c : Char) : Option ℕ :=
  if '0' ≤ c ∧ c ≤ '9' then some (c.toNat - 48)
  else if 'a' ≤ c ∧ c ≤ 'f' then some (c.toNat - 87)
  else if 'A' ≤ c ∧ c ≤ 'F' then some (c.toNat - 55)
  else none

/-- Four hexadecimal digits. -/
def readHex4 : List Char → Option (ℕ × List Char)
  | a :: b :: c :: d :: rest => do
    let a ← hexVal a
    let b ← hexVal b
    let c ← hexVal c
    let d ← hexVal d
    return (a * 4096 + b * 256 + c * 16 + d, rest)
  | _ => none

/-- The code point after a `u` escape. Two escapes that form a surrogate pair are one character;
a surrogate without its partner is read as the replacement character. -/
def readUnicode (cs : List Char) : Option (Char × List Char) := do
  let (n, rest) ← readHex4 cs
  if n < 0xD800 ∨ 0xE000 ≤ n then return (Char.ofNat n, rest)
  match rest with
  | '\x5c' :: 'u' :: rest' =>
    match readHex4 rest' with
    | some (m, rest'') =>
      if n < 0xDC00 ∧ 0xDC00 ≤ m ∧ m < 0xE000 then
        return (Char.ofNat ((n - 0xD800) * 0x400 + (m - 0xDC00) + 0x10000), rest'')
      else return ('\ufffd', rest)
    | none => return ('\ufffd', rest)
  | _ => return ('\ufffd', rest)

/-- The character an escape stands for, the text after the backslash being given. -/
def readEscape : List Char → Option (Char × List Char)
  | [] => none
  | e :: rest =>
    if e = '\x22' ∨ e = '\x5c' ∨ e = '/' then some (e, rest)
    else if e = 'b' then some ('\x08', rest)
    else if e = 'f' then some ('\x0c', rest)
    else if e = 'n' then some ('\n', rest)
    else if e = 'r' then some ('\x0d', rest)
    else if e = 't' then some ('\t', rest)
    else if e = 'u' then readUnicode rest
    else none

/-- One character inside a string; a raw control character is an error. -/
def readChar : List Char → Option (Char × List Char)
  | [] => none
  | c :: rest =>
    if c = '\x5c' then readEscape rest
    else if c.toNat < 32 then none
    else some (c, rest)

/-- The rest of a string, after its opening quote. Every character read takes one unit of
fuel. -/
def readString : ℕ → List Char → Option (List Char × List Char)
  | 0, _ => none
  | n + 1, cs =>
    if cs.head? = some '\x22' then some ([], cs.tail)
    else do
      let (c, rest) ← readChar cs
      let (s, rest') ← readString n rest
      return (c :: s, rest')

/-- The digits at the front of a text. -/
def readDigits (cs : List Char) : List Char × List Char := cs.span Char.isDigit

/-- The integer part of a number: digits without a leading zero. -/
def readInt (cs : List Char) : Option (List Char × List Char) :=
  let (ds, rest) := readDigits cs
  if ds = [] ∨ (ds.head? = some '0' ∧ ds.tail ≠ []) then none else some (ds, rest)

/-- The fraction of a number, if there is one. -/
def readFrac : List Char → Option (List Char × List Char)
  | '.' :: rest =>
    let (ds, rest') := readDigits rest
    if ds = [] then none else some ('.' :: ds, rest')
  | cs => some ([], cs)

/-- The exponent of a number, if there is one. -/
def readExp : List Char → Option (List Char × List Char)
  | [] => some ([], [])
  | e :: rest =>
    if e = 'e' ∨ e = 'E' then
      let sign := rest.takeWhile fun c => c = '+' || c = '-'
      let (ds, rest') := readDigits (rest.drop sign.length)
      if 1 < sign.length ∨ ds = [] then none else some (e :: sign ++ ds, rest')
    else some ([], e :: rest)

/-- A number literal. -/
def readNumber (cs : List Char) : Option (List Char × List Char) := do
  let sign := if cs.head? = some '-' then ['-'] else []
  let (ds, rest) ← readInt (cs.drop sign.length)
  let (frac, rest) ← readFrac rest
  let (exp, rest) ← readExp rest
  return (sign ++ ds ++ frac ++ exp, rest)

/-- One of the three literal names. -/
def readName (cs : List Char) : Option (Json × List Char) :=
  if cs.take 4 = ['t', 'r', 'u', 'e'] then some (bool true, cs.drop 4)
  else if cs.take 5 = ['f', 'a', 'l', 's', 'e'] then some (bool false, cs.drop 5)
  else if cs.take 4 = ['n', 'u', 'l', 'l'] then some (null, cs.drop 4)
  else none

mutual

/-- A value. Fuel bounds the nesting of the calls, each of which is on a shorter text. -/
def readValue : ℕ → List Char → Option (Json × List Char)
  | 0, _ => none
  | n + 1, cs =>
    match skipWs cs with
    | [] => none
    | c :: rest =>
      if c = '\x22' then do
        let (s, rest) ← readString (rest.length + 1) rest
        return (str (String.ofList s), rest)
      else if c = '\x7b' then
        if (skipWs rest).head? = some '\x7d' then some (obj [], (skipWs rest).tail)
        else do
          let (ms, rest) ← readMembers n rest
          return (obj ms, rest)
      else if c = '[' then
        if (skipWs rest).head? = some ']' then some (arr [], (skipWs rest).tail)
        else do
          let (xs, rest) ← readElems n rest
          return (arr xs, rest)
      else if c = '-' ∨ c.isDigit then do
        let (lit, rest) ← readNumber (c :: rest)
        return (num lit, rest)
      else readName (c :: rest)

/-- The members of an object up to its closing brace. -/
def readMembers : ℕ → List Char → Option (List (String × Json) × List Char)
  | 0, _ => none
  | n + 1, cs =>
    match skipWs cs with
    | [] => none
    | c :: rest =>
      if c = '\x22' then do
        let (key, rest) ← readString (rest.length + 1) rest
        if (skipWs rest).head? = some ':' then do
          let (v, rest) ← readValue n (skipWs rest).tail
          if (skipWs rest).head? = some ',' then do
            let (ms, rest) ← readMembers n (skipWs rest).tail
            return ((String.ofList key, v) :: ms, rest)
          else if (skipWs rest).head? = some '\x7d' then
            return ([(String.ofList key, v)], (skipWs rest).tail)
          else none
        else none
      else none

/-- The elements of an array up to its closing bracket. -/
def readElems : ℕ → List Char → Option (List Json × List Char)
  | 0, _ => none
  | n + 1, cs => do
    let (v, rest) ← readValue n cs
    if (skipWs rest).head? = some ',' then do
      let (xs, rest) ← readElems n (skipWs rest).tail
      return (v :: xs, rest)
    else if (skipWs rest).head? = some ']' then return ([v], (skipWs rest).tail)
    else none

end

/-- The value a text denotes, if it is one value with nothing but white space around it. -/
def parse (cs : List Char) : Option Json := do
  let (v, rest) ← readValue (2 * cs.length + 1) cs
  if skipWs rest = [] then return v else none

/-- The integer a number literal denotes; a fraction or an exponent is an error. -/
def parseInt (lit : List Char) : Option ℤ :=
  let neg := lit.head? = some '-'
  let ds := if neg then lit.tail else lit
  if ds = [] ∨ ¬ ds.all Char.isDigit then none
  else some (if neg then -(Nat.ofDigitChars 10 ds 0 : ℤ) else Nat.ofDigitChars 10 ds 0)

/-! ## Reading back what was written -/

theorem hexVal_digitChar {n : ℕ} (h : n < 16) : hexVal (Nat.digitChar n) = some n := by
  interval_cases n <;> decide

theorem readHex4_hex4 {n : ℕ} (h : n < 65536) (rest : List Char) :
    readHex4 (hex4 n ++ rest) = some (n, rest) := by
  have h₁ := hexVal_digitChar (n := n / 4096) (by omega)
  have h₂ := hexVal_digitChar (n := n / 256 % 16) (by omega)
  have h₃ := hexVal_digitChar (n := n / 16 % 16) (by omega)
  have h₄ := hexVal_digitChar (n := n % 16) (by omega)
  simp only [hex4, List.cons_append, List.nil_append, readHex4, h₁, h₂, h₃, h₄,
    Option.bind_eq_bind, Option.bind_some, Option.pure_def, Option.some.injEq, Prod.mk.injEq,
    and_true]
  omega

/-- A character written inside a string is read back, whatever follows it. -/
theorem readChar_writeChar (c : Char) (rest : List Char) :
    readChar (writeChar c ++ rest) = some (c, rest) := by
  unfold writeChar
  split_ifs with h₁ h₂ h₃ h₄ h₅ h₆ h₇ h₈
  iterate 7
    · subst c
      simp [readChar, readEscape]
  · have hlt : c.toNat < 0xD800 := by
      rcases h₈ with h | rfl | rfl | rfl | rfl | rfl
      · omega
      all_goals decide
    have hu : readUnicode (hex4 c.toNat ++ rest) = some (c, rest) := by
      simp [readUnicode, readHex4_hex4 (show c.toNat < 65536 by omega), hlt]
    simp [readChar, readEscape, hu]
  · have hge : ¬ c.toNat < 32 := fun h => h₈ (.inl h)
    simp [readChar, h₂, hge]

theorem head?_writeChar (c : Char) (rest : List Char) :
    (writeChar c ++ rest).head? ≠ some '\x22' := by
  unfold writeChar
  split_ifs <;> simp_all

/-- A string is read back, given fuel for each of its characters. -/
theorem readString_write (s rest : List Char) {n : ℕ} (hn : s.length < n) :
    readString n (s.flatMap writeChar ++ '\x22' :: rest) = some (s, rest) := by
  induction s generalizing n with
  | nil =>
    obtain ⟨n, rfl⟩ := Nat.exists_eq_succ_of_ne_zero (by omega : n ≠ 0)
    simp [readString]
  | cons c s ih =>
    obtain ⟨n, rfl⟩ := Nat.exists_eq_succ_of_ne_zero (by omega : n ≠ 0)
    have hs := ih (n := n) (by simpa using hn)
    simp only [List.flatMap_cons, List.append_assoc, readString, head?_writeChar, if_false,
      readChar_writeChar, Option.bind_eq_bind, Option.bind_some, hs, Option.pure_def]

theorem length_le_flatMap_writeChar (s : List Char) :
    s.length ≤ (s.flatMap writeChar).length := by
  induction s with
  | nil => simp
  | cons c s ih =>
    have hc : 1 ≤ (writeChar c).length := by
      unfold writeChar
      split_ifs <;> simp
    simp only [List.flatMap_cons, List.length_append, List.length_cons]
    omega

/-- A text that a number literal cannot continue into. -/
def EndsNumber (rest : List Char) : Prop :=
  ∀ c ∈ rest.head?, c.isDigit = false ∧ c ≠ '.' ∧ c ≠ 'e' ∧ c ≠ 'E'

theorem readDigits_append {ds rest : List Char} (hds : ∀ c ∈ ds, c.isDigit)
    (hrest : EndsNumber rest) : readDigits (ds ++ rest) = (ds, rest) := by
  have hstop : rest.takeWhile Char.isDigit = [] ∧ rest.dropWhile Char.isDigit = rest := by
    cases rest with
    | nil => simp
    | cons c cs => simp [(hrest c (by simp)).1]
  rw [readDigits, List.span_eq_takeWhile_dropWhile, List.takeWhile_append_of_pos hds,
    List.dropWhile_append_of_pos hds, hstop.1, hstop.2, List.append_nil]

/-- Only zero is written with a leading zero. -/
theorem head?_toDigits_ne_zero {n : ℕ} (hn : n ≠ 0) : (Nat.toDigits 10 n).head? ≠ some '0' := by
  induction n using Nat.strong_induction_on with
  | _ n ih =>
    rcases Nat.lt_or_ge n 10 with h | h
    · rw [Nat.toDigits_of_lt_base h]
      interval_cases n <;> simp_all
    · have hdiv := ih (n / 10) (by omega) (by omega)
      rw [Nat.toDigits_of_base_le (by decide) h]
      cases hd : Nat.toDigits 10 (n / 10) with
      | nil => exact absurd hd Nat.toDigits_ne_nil
      | cons c cs => simpa [hd] using hdiv

theorem head?_toDigits_ne_minus (n : ℕ) : (Nat.toDigits 10 n).head? ≠ some '-' := by
  intro h
  have hd := Nat.isDigit_of_mem_toDigits (b := 10) (by decide) (by decide) (List.mem_of_mem_head? h)
  exact absurd hd (by decide)

theorem readInt_toDigits (n : ℕ) {rest : List Char} (hrest : EndsNumber rest) :
    readInt (Nat.toDigits 10 n ++ rest) = some (Nat.toDigits 10 n, rest) := by
  have hds : ∀ c ∈ Nat.toDigits 10 n, c.isDigit := fun c hc =>
    Nat.isDigit_of_mem_toDigits (by decide) (by decide) hc
  have hlead : ¬ ((Nat.toDigits 10 n).head? = some '0' ∧ (Nat.toDigits 10 n).tail ≠ []) := by
    rintro ⟨hz, ht⟩
    rcases Nat.eq_zero_or_pos n with rfl | hn
    · simp at ht
    · exact head?_toDigits_ne_zero (by omega) hz
  simp [readInt, readDigits_append hds hrest, Nat.toDigits_ne_nil, hlead]

/-- An integer literal is read back, up to a text it cannot continue into. -/
theorem readNumber_intLit (n : ℤ) {rest : List Char} (hrest : EndsNumber rest) :
    readNumber (intLit n ++ rest) = some (intLit n, rest) := by
  have hfrac : readFrac rest = some ([], rest) := by
    unfold readFrac
    split
    · exact absurd rfl (hrest '.' (by simp)).2.1
    · rfl
  have hexp : readExp rest = some ([], rest) := by
    cases rest with
    | nil => rfl
    | cons c cs =>
      have hc := hrest c (by simp)
      simp [readExp, hc.2.2.1, hc.2.2.2]
  by_cases hn : n < 0
  · simp [intLit, hn, readNumber, readInt_toDigits _ hrest, hfrac, hexp]
  · simp [intLit, hn, readNumber, head?_toDigits_ne_minus, readInt_toDigits _ hrest, hfrac, hexp]

theorem parseInt_intLit (n : ℤ) : parseInt (intLit n) = some n := by
  have hds : ∀ c ∈ Nat.toDigits 10 n.natAbs, c.isDigit := fun c hc =>
    Nat.isDigit_of_mem_toDigits (by decide) (by decide) hc
  have hall : (Nat.toDigits 10 n.natAbs).all Char.isDigit = true := by simpa using hds
  by_cases hn : n < 0
  · have habs : -(n.natAbs : ℤ) = n := by omega
    simp only [intLit, hn, parseInt, if_true, List.head?_cons, List.tail_cons,
      Nat.toDigits_ne_nil, hall, not_true, or_self, if_false, Nat.ofDigitChars_ten_toDigits, habs]
  · have habs : (n.natAbs : ℤ) = n := by omega
    simp only [intLit, hn, parseInt, if_false, head?_toDigits_ne_minus, Nat.toDigits_ne_nil, hall,
      not_true, or_self, Nat.ofDigitChars_ten_toDigits, habs]

theorem skipWs_of_head {c : Char} {cs : List Char} (h : isWs c = false) :
    skipWs (c :: cs) = c :: cs := by
  simp [skipWs, h]

/-- A scalar is read back, up to a text that cannot continue it. -/
theorem readValue_write (v : Scalar) {rest : List Char} (hrest : EndsNumber rest) (n : ℕ) :
    readValue (n + 1) (v.write ++ rest) = some (v.toJson, rest) := by
  cases v with
  | str s =>
    have hs := readString_write s.toList rest
      (n := (s.toList.flatMap writeChar ++ '\x22' :: rest).length + 1) (by
        have := length_le_flatMap_writeChar s.toList
        simp only [List.length_append, List.length_cons]
        omega)
    have hws : isWs '\x22' = false := by decide
    simp only [Scalar.write, writeString, List.cons_append, List.append_assoc, List.nil_append,
      readValue, skipWs_of_head hws, if_true, hs, Option.bind_eq_bind, Option.bind_some,
      Option.pure_def, String.ofList_toList, Scalar.toJson]
  | int k =>
    have hnum := readNumber_intLit k hrest
    obtain ⟨c, cs, hlit, hc⟩ : ∃ c cs, intLit k = c :: cs ∧ (c = '-' ∨ c.isDigit) := by
      by_cases hk : k < 0
      · exact ⟨'-', Nat.toDigits 10 k.natAbs, by simp [intLit, hk], .inl rfl⟩
      · cases hd : Nat.toDigits 10 k.natAbs with
        | nil => exact absurd hd Nat.toDigits_ne_nil
        | cons c cs =>
          exact ⟨c, cs, by simp [intLit, hk, hd], .inr
            (Nat.isDigit_of_mem_toDigits (by decide) (by decide) (hd ▸ List.mem_cons_self))⟩
    have hne : ∀ d : Char, d ≠ '-' → d.isDigit = false → c ≠ d := by
      rintro d hd₁ hd₂ rfl
      rcases hc with hc | hc
      · exact hd₁ hc
      · simp [hd₂] at hc
    have hws : isWs c = false := by
      simp [isWs, hne ' ' (by decide) (by decide), hne '\t' (by decide) (by decide),
        hne '\n' (by decide) (by decide), hne '\x0d' (by decide) (by decide)]
    rw [hlit, List.cons_append] at hnum
    simp only [Scalar.write, hlit, List.cons_append, readValue, skipWs_of_head hws,
      hne '\x22' (by decide) (by decide), hne '\x7b' (by decide) (by decide),
      hne '[' (by decide) (by decide), hc, if_true, if_false, hnum, Option.bind_eq_bind,
      Option.bind_some, Option.pure_def, Scalar.toJson]

/-- A member is read back: its key, and its value with what follows it. -/
theorem readMembers_writeMember (m : String × Scalar) (rest : List Char) (hrest : EndsNumber rest)
    (n : ℕ) :
    readMembers (n + 2) (writeMember m ++ rest) =
      if (skipWs rest).head? = some ',' then do
        let (ms, rest) ← readMembers (n + 1) (skipWs rest).tail
        return ((m.1, m.2.toJson) :: ms, rest)
      else if (skipWs rest).head? = some '\x7d' then
        return ([(m.1, m.2.toJson)], (skipWs rest).tail)
      else none := by
  have hkey := readString_write m.1.toList (':' :: (m.2.write ++ rest))
    (n := (m.1.toList.flatMap writeChar ++ '\x22' :: ':' :: (m.2.write ++ rest)).length + 1) (by
      have := length_le_flatMap_writeChar m.1.toList
      simp only [List.length_append, List.length_cons]
      omega)
  have hquote : isWs '\x22' = false := by decide
  have hcolon : isWs ':' = false := by decide
  simp only [writeMember, writeString, List.cons_append, List.append_assoc, List.nil_append,
    readMembers, skipWs_of_head hquote, if_true, hkey, Option.bind_eq_bind, Option.bind_some,
    skipWs_of_head hcolon, List.head?_cons, List.tail_cons, readValue_write m.2 hrest n,
    String.ofList_toList]

/-- The members of an object are read back, given fuel for each of them. -/
theorem readMembers_write {ms : List (String × Scalar)} (hms : ms ≠ []) {n : ℕ}
    (hn : ms.length ≤ n) :
    readMembers (n + 1) (writeMembers ms) = some (ms.map fun m => (m.1, m.2.toJson), []) := by
  induction ms generalizing n with
  | nil => exact absurd rfl hms
  | cons m ms ih =>
    obtain ⟨n, rfl⟩ := Nat.exists_eq_succ_of_ne_zero (by simp at hn; omega : n ≠ 0)
    have hbrace : isWs '\x7d' = false := by decide
    have hcomma : isWs ',' = false := by decide
    cases ms with
    | nil =>
      rw [writeMembers, readMembers_writeMember m ['\x7d'] (by simp [EndsNumber]) n,
        skipWs_of_head hbrace]
      simp
    | cons m' ms =>
      have hrec := ih (n := n) (by simp) (by simpa using hn)
      rw [writeMembers, readMembers_writeMember m _ (by simp [EndsNumber]) n,
        skipWs_of_head hcomma]
      · simp [hrec]
      · simp

theorem length_le_writeMembers (ms : List (String × Scalar)) :
    ms.length ≤ (writeMembers ms).length := by
  induction ms with
  | nil => simp
  | cons m ms ih =>
    cases ms with
    | nil => simp [writeMembers]
    | cons m' ms =>
      rw [writeMembers]
      · simp only [List.length_append, List.length_cons] at ih ⊢
        omega
      · simp

/-- **A flat object is read back as it was written**, whatever its keys and values are. -/
theorem parse_writeObject (ms : List (String × Scalar)) :
    parse (writeObject ms) = some (obj (ms.map fun m => (m.1, m.2.toJson))) := by
  have hbrace : isWs '\x7b' = false := by decide
  cases ms with
  | nil => rfl
  | cons m ms =>
    have hlen := length_le_writeMembers (m :: ms)
    obtain ⟨n, hn⟩ : ∃ n, 2 * (writeObject (m :: ms)).length + 1 = n + 1 + 1 ∧
        (m :: ms).length ≤ n := by
      refine ⟨2 * (writeMembers (m :: ms)).length + 1, ?_, by omega⟩
      simp only [writeObject, List.length_cons]
      omega
    have hhead : (skipWs (writeMembers (m :: ms))).head? ≠ some '\x7d' := by
      cases ms <;> simp [writeMembers, writeMember, writeString, skipWs, isWs]
    have hread : readValue (n + 1 + 1) (writeObject (m :: ms)) =
        some (obj ((m :: ms).map fun m => (m.1, m.2.toJson)), []) := by
      simp [writeObject, readValue, skipWs_of_head hbrace, hhead,
        readMembers_write (List.cons_ne_nil m ms) hn.2]
    rw [parse, hn.1, hread]
    rfl

end Json

end Foundations
