import Gangway.Text.Cut
import Gangway.Encoding.Hex
import Gangway.Toml.Value

/-!
# TOML scalars

Numbers, truth values and dates as their literals are spelled. A literal is first cut out of the
document and then judged as a whole; one that is spelled like no scalar has no value.
-/

namespace Gangway.Toml

/-- Whether the character is an ASCII digit. -/
def isDigit (c : Char) : Bool := '0' ≤ c && c ≤ '9'

/-- The number that decimal digits stand for. -/
def decimal (digits : List Char) : Nat := digits.foldl (fun n c => n * 10 + (c.toNat - 48)) 0

/-- The digits of a run in which single underscores may stand between digits. -/
def digitRun (ok : Char → Bool) : List Char → Option (List Char)
  | [] => none
  | [c] => if ok c then some [c] else none
  | c :: '_' :: rest => if ok c then (digitRun ok rest).map (c :: ·) else none
  | c :: d :: rest => if ok c then (digitRun ok (d :: rest)).map (c :: ·) else none

/-- The digits of a decimal number without needless leading zeros. -/
def plainDigits (literal : List Char) : Option (List Char) :=
  match digitRun isDigit literal with
  | some ('0' :: _ :: _) => none
  | digits => digits

/-- The literal with its sign taken off: whether it is negative, and the rest. -/
def unsigned : List Char → Bool × List Char
  | '-' :: rest => (true, rest)
  | '+' :: rest => (false, rest)
  | rest => (false, rest)

/-- A number in the given base whose digits pass the test. -/
def basedInteger (base : Nat) (ok : Char → Bool) (literal : List Char) : Option Int :=
  (digitRun ok literal).map fun digits =>
    Int.ofNat (digits.foldl (fun n c => n * base + (Hex.digit? c).getD 0) 0)

/-- The integer of a literal. Only decimal integers take a sign. -/
def integer? : List Char → Option Int
  | '0' :: 'x' :: rest => basedInteger 16 (fun c => (Hex.digit? c).isSome) rest
  | '0' :: 'o' :: rest => basedInteger 8 (fun c => '0' ≤ c && c ≤ '7') rest
  | '0' :: 'b' :: rest => basedInteger 2 (fun c => c = '0' || c = '1') rest
  | literal =>
    let (negative, digits) := unsigned literal
    (plainDigits digits).map fun digits =>
      if negative then -Int.ofNat (decimal digits) else Int.ofNat (decimal digits)

/-- Whether a decimal with the given digits and power of ten lies beyond every finite double: at or
above the midpoint between the greatest one and the next power of two. -/
def overflows (digits : List Char) (power : Int) : Bool :=
  let significant := digits.dropWhile (· = '0')
  let magnitude := Int.ofNat significant.length + power
  let limit := Nat.pow 2 1024 - Nat.pow 2 970
  if significant.isEmpty || magnitude < 300 then false
  else if magnitude > 310 then true
  else if power ≥ 0 then decimal significant * Nat.pow 10 power.toNat ≥ limit
  else decimal significant ≥ limit * Nat.pow 10 (-power).toNat

/-- Whether the literal is a float: digits with a fraction, an exponent or both, or a named
value. -/
def isFloat (literal : List Char) : Bool :=
  let (_, body) := unsigned literal
  if body = ['i', 'n', 'f'] || body = ['n', 'a', 'n'] then true
  else
    let (mantissa, exponent) :=
      match body.span fun c => c != 'e' && c != 'E' with
      | (before, _ :: after) => (before, some (unsigned after))
      | (before, []) => (before, none)
    let (whole, fraction) :=
      match mantissa.span (· != '.') with
      | (before, _ :: after) => (before, some after)
      | (before, []) => (before, none)
    match plainDigits whole, fraction.map (digitRun isDigit),
        exponent.map fun (negative, digits) => (negative, digitRun isDigit digits) with
    | none, _, _ => false
    | _, some none, _ => false
    | _, _, some (_, none) => false
    | _, none, none => false
    | some whole, fraction, exponent =>
      let places := (fraction.getD none).getD []
      let power : Int :=
        match exponent with
        | some (negative, some digits) =>
          if negative then -Int.ofNat (decimal digits) else Int.ofNat (decimal digits)
        | _ => 0
      !overflows (whole ++ places) (power - Int.ofNat places.length)

/-- The days of a month. -/
def daysIn (year month : Nat) : Nat :=
  if month = 2 then
    if (year % 4 = 0 && year % 100 ≠ 0) || year % 400 = 0 then 29 else 28
  else if month = 4 || month = 6 || month = 9 || month = 11 then 30
  else 31

/-- Whether the text is a calendar date, `YYYY-MM-DD`. -/
def isDate : List Char → Bool
  | [a, b, c, d, '-', e, f, '-', g, h] =>
    let year := decimal [a, b, c, d]
    let month := decimal [e, f]
    let day := decimal [g, h]
    [a, b, c, d, e, f, g, h].all isDigit &&
      1 ≤ month && month ≤ 12 && 1 ≤ day && day ≤ daysIn year month
  | _ => false

/-- Whether two digits make a number not above the limit. -/
def twoDigits (limit : Nat) (a b : Char) : Bool :=
  isDigit a && isDigit b && decimal [a, b] ≤ limit

/-- Whether the text is a time of day; seconds may be left out or have a fraction. -/
def isTime : List Char → Bool
  | a :: b :: ':' :: c :: d :: rest =>
    twoDigits 23 a b && twoDigits 59 c d &&
      match rest with
      | [] => true
      | ':' :: e :: f :: more =>
        twoDigits 60 e f &&
          match more with
          | [] => true
          | '.' :: places => !places.isEmpty && places.all isDigit
          | _ => false
      | _ => false
  | _ => false

/-- Whether the text is a time of day, with an offset from universal time or without. -/
def isZonedTime (literal : List Char) : Bool :=
  match literal.span fun c => c != 'Z' && c != 'z' && c != '+' && c != '-' with
  | (time, []) => isTime time
  | (time, [c]) => (c = 'Z' || c = 'z') && isTime time
  | (time, [c, a, b, ':', d, e]) =>
    (c = '+' || c = '-') && twoDigits 23 a b && twoDigits 59 d e && isTime time
  | _ => false

/-- Whether the literal is a date, a time, or both with a separator. -/
def isDatetime (literal : List Char) : Bool :=
  if isTime literal || isDate literal then true
  else
    isDate (literal.take 10) &&
      match literal.drop 10 with
      | c :: time => (c = 'T' || c = 't' || c = ' ') && isZonedTime time
      | [] => false

/-- The value of a scalar's literal. -/
def scalar? (literal : List Char) : Option Value :=
  if literal = ['t', 'r', 'u', 'e'] then some (.boolean true)
  else if literal = ['f', 'a', 'l', 's', 'e'] then some (.boolean false)
  else if isDatetime literal then some (.datetime (String.ofList literal))
  else
    match integer? literal with
    | some number => some (.integer number)
    | none => if isFloat literal then some (.float (String.ofList literal)) else none

/-- Whether the character may stand in the literal of a scalar. -/
def isScalarChar (c : Char) : Bool :=
  c.isAlphanum || c = '+' || c = '-' || c = '_' || c = '.' || c = ':'

/-- Cuts the literal of a scalar off the text. A date takes the time after a single space with
it. -/
def cutScalar (text : List Char) : List Char × List Char :=
  match text.span isScalarChar with
  | (date, ' ' :: c :: rest) =>
    if isDate date && isDigit c then
      let (time, after) := (c :: rest).span isScalarChar
      (date ++ ' ' :: time, after)
    else (date, ' ' :: c :: rest)
  | cut => cut

end Gangway.Toml
