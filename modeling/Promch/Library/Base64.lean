import Mathlib.Data.List.Basic

/-!
# Base64

The encoding, and a lenient decoder: it ignores every character outside the
alphabet, stops at a complete padding, and rejects a text that ends within a group
of four.  Whatever is strewn into an encoded text, it decodes to the same bytes.
-/

namespace Base64

/-- The value of a character of the alphabet. -/
def value? (char : Char) : Option Nat :=
  if 'A' ≤ char ∧ char ≤ 'Z' then some (char.toNat - 65)
  else if 'a' ≤ char ∧ char ≤ 'z' then some (char.toNat - 71)
  else if '0' ≤ char ∧ char ≤ '9' then some (char.toNat + 4)
  else if char = '+' then some 62
  else if char = '/' then some 63
  else none

/-- The character of a value below 64. -/
def symbol (value : Nat) : Char :=
  if value < 26 then Char.ofNat (value + 65)
  else if value < 52 then Char.ofNat (value + 71)
  else if value < 62 then Char.ofNat (value - 4)
  else if value = 62 then '+'
  else '/'

/-- The bits that the characters of a group have left over. -/
inductive Carry
  | nothing
  | six (bits : Nat)
  | four (bits : Nat)
  | two (bits : Nat)
  deriving DecidableEq

/-- Decode from within a group, after some padding characters in a row. -/
def decodeFrom : Carry → Nat → List Char → Option (List UInt8)
  | carry, _, [] => if carry = .nothing then some [] else none
  | carry, pads, char :: rest =>
      if char = '=' then
        match carry with
        | .nothing => decodeFrom carry pads rest
        | .six _ => decodeFrom carry pads rest
        | .four _ => if pads = 0 then decodeFrom carry 1 rest else some []
        | .two _ => some []
      else
        match value? char, carry with
        | none, _ => decodeFrom carry pads rest
        | some value, .nothing => decodeFrom (.six value) 0 rest
        | some value, .six bits =>
            (decodeFrom (.four (value % 16)) 0 rest).map
              (UInt8.ofNat (bits * 4 + value / 16) :: ·)
        | some value, .four bits =>
            (decodeFrom (.two (value % 4)) 0 rest).map
              (UInt8.ofNat (bits * 16 + value / 4) :: ·)
        | some value, .two bits =>
            (decodeFrom .nothing 0 rest).map (UInt8.ofNat (bits * 64 + value) :: ·)

/-- Decode a text. -/
def decode (text : List Char) : Option (List UInt8) :=
  decodeFrom .nothing 0 text

/-- Encode bytes, padded to groups of four characters. -/
def encode : List UInt8 → List Char
  | [] => []
  | [first] => [symbol (first.toNat / 4), symbol (first.toNat % 4 * 16), '=', '=']
  | [first, second] =>
      [symbol (first.toNat / 4), symbol (first.toNat % 4 * 16 + second.toNat / 16),
        symbol (second.toNat % 16 * 4), '=']
  | first :: second :: third :: rest =>
      symbol (first.toNat / 4) :: symbol (first.toNat % 4 * 16 + second.toNat / 16) ::
        symbol (second.toNat % 16 * 4 + third.toNat / 64) :: symbol (third.toNat % 64) ::
          encode rest

/-- A character that the decoder does not ignore. -/
def isSignificant (char : Char) : Bool :=
  char = '=' || (value? char).isSome

/-! ## Round trip -/

@[simp] theorem value?_symbol {value : Nat} (small : value < 64) :
    value? (symbol value) = some value := by
  have all : ∀ value : Fin 64, value? (symbol value) = some value.val := by decide +kernel
  exact all ⟨value, small⟩

@[simp] theorem symbol_ne_pad {value : Nat} (small : value < 64) : symbol value ≠ '=' := by
  have all : ∀ value : Fin 64, symbol value ≠ '=' := by decide +kernel
  exact all ⟨value, small⟩

/-- Characters outside the alphabet do not matter. -/
theorem decodeFrom_filter (carry : Carry) (pads : Nat) (text : List Char) :
    decodeFrom carry pads (text.filter isSignificant) = decodeFrom carry pads text := by
  induction text generalizing carry pads with
  | nil => rfl
  | cons char rest inductionHypothesis =>
      by_cases pad : char = '='
      · rw [List.filter_cons_of_pos (by simp [isSignificant, pad])]
        simp only [decodeFrom, if_pos pad, inductionHypothesis]
      · cases known : value? char with
        | none =>
            rw [List.filter_cons_of_neg (by simp [isSignificant, pad, known]),
              inductionHypothesis]
            cases carry <;> simp only [decodeFrom, if_neg pad, known]
        | some value =>
            rw [List.filter_cons_of_pos (by simp [isSignificant, known])]
            cases carry <;> simp only [decodeFrom, if_neg pad, known, inductionHypothesis]

section Symbols

variable {value : Nat} (small : value < 64) (pads bits : Nat) (rest : List Char)

include small

theorem decodeFrom_first :
    decodeFrom .nothing pads (symbol value :: rest) = decodeFrom (.six value) 0 rest := by
  simp only [decodeFrom, if_neg (symbol_ne_pad small), value?_symbol small]

theorem decodeFrom_second :
    decodeFrom (.six bits) pads (symbol value :: rest) =
      (decodeFrom (.four (value % 16)) 0 rest).map (UInt8.ofNat (bits * 4 + value / 16) :: ·) := by
  simp only [decodeFrom, if_neg (symbol_ne_pad small), value?_symbol small]

theorem decodeFrom_third :
    decodeFrom (.four bits) pads (symbol value :: rest) =
      (decodeFrom (.two (value % 4)) 0 rest).map (UInt8.ofNat (bits * 16 + value / 4) :: ·) := by
  simp only [decodeFrom, if_neg (symbol_ne_pad small), value?_symbol small]

theorem decodeFrom_fourth :
    decodeFrom (.two bits) pads (symbol value :: rest) =
      (decodeFrom .nothing 0 rest).map (UInt8.ofNat (bits * 64 + value) :: ·) := by
  simp only [decodeFrom, if_neg (symbol_ne_pad small), value?_symbol small]

end Symbols

/-- The bits of a byte, put together again. -/
private theorem ofNat_eq {byte : UInt8} {number : Nat} (same : number = byte.toNat) :
    UInt8.ofNat number = byte := by
  rw [same, UInt8.ofNat_toNat]

/-- What has been encoded is decoded. -/
theorem decode_encode (bytes : List UInt8) : decode (encode bytes) = some bytes := by
  unfold decode
  induction bytes using encode.induct with
  | case1 => rfl
  | case2 first =>
      have bound : first.toNat < 256 := first.toNat_lt
      rw [encode, decodeFrom_first (by omega), decodeFrom_second (by omega),
        @ofNat_eq first _ (by omega)]
      rfl
  | case3 first second =>
      have bound : first.toNat < 256 := first.toNat_lt
      have bound' : second.toNat < 256 := second.toNat_lt
      rw [encode, decodeFrom_first (by omega), decodeFrom_second (by omega),
        decodeFrom_third (by omega), @ofNat_eq first _ (by omega),
        @ofNat_eq second _ (by omega)]
      rfl
  | case4 first second third rest inductionHypothesis =>
      have bound : first.toNat < 256 := first.toNat_lt
      have bound' : second.toNat < 256 := second.toNat_lt
      have bound'' : third.toNat < 256 := third.toNat_lt
      rw [encode, decodeFrom_first (by omega), decodeFrom_second (by omega),
        decodeFrom_third (by omega), decodeFrom_fourth (by omega), inductionHypothesis,
        @ofNat_eq first _ (by omega), @ofNat_eq second _ (by omega),
        @ofNat_eq third _ (by omega)]
      rfl

/-- An encoded text into which other characters have been strewn is decoded. -/
theorem decode_of_filter
    {text : List Char}
    {bytes : List UInt8}
    (encoded : text.filter isSignificant = encode bytes) :
    decode text = some bytes := by
  rw [decode, ← decodeFrom_filter, encoded]
  exact decode_encode bytes

end Base64
