import Mathlib.Data.Int.Log
import Mathlib.Data.Rat.Floor
import Mathlib.Data.String.Basic
import Promch.Library.Unicode

/-!
# Scripting-language values

The floating-point values and their rounding, the `float` conversion of text, the
quoted form of strings and the truth value of optional text, as the language
documents them.  A finite float is the rational it stands for; the sign of zero
is not kept.
-/

/-- A floating-point value; every finite one is a rational. -/
inductive PyFloat
  | finite (value : ℚ)
  | posInf
  | negInf
  | nan
  deriving DecidableEq

namespace PyFloat

/-- Arithmetic negation. -/
def neg : PyFloat → PyFloat
  | .finite value => .finite (-value)
  | .posInf => .negInf
  | .negInf => .posInf
  | .nan => .nan

/-! ## Rounding to the binary format -/

/-- The nearest integer; of two equally near, the even one. -/
def roundHalfEven (value : ℚ) : ℤ :=
  let low := ⌊value⌋
  if Int.fract value < 1 / 2 then low
  else if 1 / 2 < Int.fract value then low + 1
  else if low % 2 = 0 then low
  else low + 1

/-- The place of the leading binary digit. -/
def binaryExponent (value : ℚ) : ℤ :=
  Int.log 2 |value|

/-- The unit in the last place: 53 digits, fewer for a subnormal number. -/
def unit (value : ℚ) : ℚ :=
  2 ^ max (binaryExponent value - 52) (-1074)

/-- The nearest float, for an unbounded exponent. -/
def nearest (value : ℚ) : ℚ :=
  roundHalfEven (value / unit value) * unit value

/-- The float nearest to a number; beyond the largest exponent it is infinite. -/
def ofRat (value : ℚ) : PyFloat :=
  if binaryExponent (nearest value) < 1024 then .finite (nearest value)
  else if 0 < value then .posInf
  else .negInf

/-- The integer part, towards zero. -/
def truncate (value : ℚ) : ℤ :=
  value.num.tdiv value.den

/-! ## Reading a number -/

/-- Continue a digit group; a single underscore may stand between two digits.
Returns the accumulated value, the number of digits and the remaining text. -/
def moreDigits (value count : Nat) : List Char → Nat × Nat × List Char
  | [] => (value, count, [])
  | '_' :: char :: rest =>
      match Unicode.digit? char with
      | some digit => moreDigits (value * 10 + digit) (count + 1) rest
      | none => (value, count, '_' :: char :: rest)
  | char :: rest =>
      match Unicode.digit? char with
      | some digit => moreDigits (value * 10 + digit) (count + 1) rest
      | none => (value, count, char :: rest)

/-- A digit group, which may be absent. -/
def digits : List Char → Nat × Nat × List Char
  | [] => (0, 0, [])
  | char :: rest =>
      match Unicode.digit? char with
      | some digit => moreDigits digit 1 rest
      | none => (0, 0, char :: rest)

/-- A sign and the remaining text. -/
def sign : List Char → Bool × List Char
  | '-' :: rest => (true, rest)
  | '+' :: rest => (false, rest)
  | rest => (false, rest)

/-- An optional exponent that must exhaust the text. -/
def exponent? : List Char → Option ℤ
  | [] => some 0
  | 'e' :: rest | 'E' :: rest =>
      let (negative, body) := sign rest
      match digits body with
      | (value, count, []) =>
          if count = 0 then none
          else some (if negative then -(value : ℤ) else value)
      | _ => none
  | _ => none

/-- An unsigned decimal number with an optional fraction and exponent. -/
def decimal? (text : List Char) : Option ℚ :=
  let (whole, wholeCount, afterWhole) := digits text
  let (mantissa, fractionCount, rest) :=
    match afterWhole with
    | '.' :: tail =>
        let (fraction, count, rest) := digits tail
        (whole * 10 ^ count + fraction, count, rest)
    | rest => (whole, 0, rest)
  if wholeCount + fractionCount = 0 then none
  else
    (exponent? rest).map fun power : ℤ =>
      let shift : ℤ := power - fractionCount
      if 0 ≤ shift then (mantissa : ℚ) * 10 ^ shift.toNat
      else (mantissa : ℚ) / 10 ^ (-shift).toNat

/-- An unsigned number or one of the named values, case ignored. -/
def magnitude? (text : List Char) : Option PyFloat :=
  match text.map Char.toLower with
  | ['n', 'a', 'n'] => some .nan
  | ['i', 'n', 'f'] => some .posInf
  | ['i', 'n', 'f', 'i', 'n', 'i', 't', 'y'] => some .posInf
  | _ => (decimal? text).map ofRat

/-- The text without surrounding blanks. -/
def strip (text : List Char) : List Char :=
  ((text.dropWhile Unicode.isBlank).reverse.dropWhile Unicode.isBlank).reverse

/-- The `float` conversion of text; `none` is the raised value error. -/
def ofText? (text : String) : Option PyFloat :=
  let (negative, body) := sign (strip text.toList)
  (magnitude? body).map fun value => if negative then value.neg else value

example : ofText? " -12.50e1 " = some (.finite (-125)) := by decide +kernel

example : ofText? "9007199254740993" = some (.finite 9007199254740992) ∧
    ofText? "-1e400" = some .negInf := by
  decide +kernel

end PyFloat

namespace PyText

/-- The single quotation mark. -/
def singleQuote : Char := Char.ofNat 39

/-- The double quotation mark. -/
def doubleQuote : Char := Char.ofNat 34

/-- The escape character. -/
def backslash : Char := Char.ofNat 92

/-- One character inside a string quoted with `quote`. -/
def escape (quote char : Char) : List Char :=
  if char = quote ∨ char = backslash then [backslash, char]
  else if char.toNat = 10 then [backslash, 'n']
  else if char.toNat = 13 then [backslash, 'r']
  else if char.toNat = 9 then [backslash, 't']
  else if Unicode.isPrintable char then [char]
  else if char.toNat ≤ 0xff then backslash :: 'x' :: Unicode.hex 2 char.toNat
  else if char.toNat ≤ 0xffff then backslash :: 'u' :: Unicode.hex 4 char.toNat
  else backslash :: 'U' :: Unicode.hex 8 char.toNat

/-- The quoted form of a string, in single quotes unless it contains a single
quote and no double quote. -/
def quoted (text : String) : String :=
  let quote :=
    if singleQuote ∈ text.toList ∧ doubleQuote ∉ text.toList then doubleQuote
    else singleQuote
  String.ofList (quote :: text.toList.flatMap (escape quote) ++ [quote])

/-- The quoted form of a list of strings. -/
def quotedList (texts : List String) : String :=
  "[" ++ ", ".intercalate (texts.map quoted) ++ "]"

/-- Whether optional text counts as true: present and nonempty. -/
def truthy : Option String → Bool
  | none => false
  | some text => text ≠ ""

theorem truthy_some_of_ne {text : String} (nonempty : text ≠ "") :
    truthy (some text) = true := by
  simpa [truthy] using nonempty

/-- Whether the text begins with the given lead. -/
def startsWith (text lead : String) : Bool :=
  lead.toList.isPrefixOf text.toList

end PyText
