import RecurringBilling.Json

/-!
JSON as text. Reading takes one value with blanks around it, at most 127 arrays and objects deep; an
object keeps the last member of each name, in the order of the names. Of a real that is read only
the leading digits count that fit in 64 bits; a real that is written has the fewest digits.
-/

namespace RecurringBilling.Json

/-! ### Reading -/

def isBlank (c : Char) : Bool := c == ' ' || c == '\n' || c == '\r' || c == '\t'

/-- Adds digits to a number as long as it fits in 64 bits, and leaves the others. -/
def takeDigits (n : Nat) : List Char → Nat × List Char
  | [] => (n, [])
  | c :: rest =>
    let m := n * 10 + (c.toNat - '0'.toNat)
    if m < 18446744073709551616 then takeDigits m rest else (n, c :: rest)

/-- The number of the digits before and after the point and of an exponent. A digit before the
point that does not fit still counts as a place, and one after it does not count at all. -/
def realOf? (isNegative : Bool) (whole fraction : List Char) (exponent : Int) : Option Json :=
  let (front, surplus) := takeDigits 0 whole
  let (significand, ignored) := takeDigits front fraction
  let places : Int := surplus.length - (fraction.length - ignored.length)
  (Binary.ofScientific? significand (places + exponent)).map (real isNegative)

/-- The number of digits alone. Zero with a minus sign is a real. -/
def wholeOf? (isNegative : Bool) (whole : List Char) : Option Json :=
  let n := Text.natOfDigits whole
  if !isNegative && n < 18446744073709551616 then some (int n)
  else if isNegative && 0 < n && n ≤ 9223372036854775808 then some (int (-n))
  else realOf? isNegative whole [] 0

/-- What follows an exponent mark: a sign or none, and digits. -/
def exponent? (cs : List Char) : Option (Int × List Char) :=
  let (isNegative, cs) := match cs with
    | '-' :: rest => (true, rest)
    | '+' :: rest => (false, rest)
    | _ => (false, cs)
  let digits := cs.takeWhile Char.isDigit
  if digits.isEmpty then none
  else
    let n : Int := Text.natOfDigits digits
    some (if isNegative then -n else n, cs.dropWhile Char.isDigit)

/-- A number at the front of a text, and the rest. -/
def number? (cs : List Char) : Option (Json × List Char) := do
  let (isNegative, cs) := match cs with
    | '-' :: rest => (true, rest)
    | _ => (false, cs)
  let whole := cs.takeWhile Char.isDigit
  if whole.isEmpty || (whole.head? == some '0' && whole.length != 1) then none
  let fractionOf (cs : List Char) : Option (List Char × List Char) := match cs with
    | '.' :: rest =>
      let digits := rest.takeWhile Char.isDigit
      if digits.isEmpty then none else some (digits, rest.dropWhile Char.isDigit)
    | _ => some ([], cs)
  let (fraction, rest) ← fractionOf (cs.dropWhile Char.isDigit)
  match rest with
  | 'e' :: rest | 'E' :: rest =>
    let (exponent, rest) ← exponent? rest
    return (← realOf? isNegative whole fraction exponent, rest)
  | _ =>
    let value ← if fraction.isEmpty then wholeOf? isNegative whole
      else realOf? isNegative whole fraction 0
    return (value, rest)

/-- The unit that four hexadecimal digits give. -/
def unit? (a b c d : Char) : Option Nat := do
  return (((← Text.hexDigit? a) * 16 + (← Text.hexDigit? b)) * 16 + (← Text.hexDigit? c)) * 16 +
    (← Text.hexDigit? d)

/-- What a letter after a backslash stands for. -/
def escaped? : Char → Option Char
  | '"' => some '"'
  | '\\' => some '\\'
  | '/' => some '/'
  | 'b' => some '\x08'
  | 'f' => some '\x0c'
  | 'n' => some '\n'
  | 'r' => some '\r'
  | 't' => some '\t'
  | _ => none

/-- A text up to its closing quote, and the rest. A character beyond 16 bits is escaped as a pair of
units. -/
def quoted? : List Char → Option (List Char × List Char)
  | '"' :: rest => some ([], rest)
  | '\\' :: 'u' :: a :: b :: c :: d :: rest => do
    let first ← unit? a b c d
    if 0xDC00 ≤ first ∧ first < 0xE000 then none
    else if 0xD800 ≤ first ∧ first < 0xDC00 then
      match rest with
      | '\\' :: 'u' :: e :: f :: g :: h :: rest =>
        let second ← unit? e f g h
        if 0xDC00 ≤ second ∧ second < 0xE000 then
          let (cs, rest) ← quoted? rest
          return (Char.ofNat (0x10000 + (first - 0xD800) * 0x400 + (second - 0xDC00)) :: cs, rest)
        else none
      | _ => none
    else
      let (cs, rest) ← quoted? rest
      return (Char.ofNat first :: cs, rest)
  | '\\' :: c :: rest => do
    let c ← escaped? c
    let (cs, rest) ← quoted? rest
    return (c :: cs, rest)
  | c :: rest => do
    if c == '\\' || c.toNat < 0x20 then none
    let (cs, rest) ← quoted? rest
    return (c :: cs, rest)
  | [] => none

/-- Members in the order of their names, a later one of a name in place of an earlier one. -/
def insertMember (name : String) (value : Json) :
    List (String × Json) → List (String × Json)
  | [] => [(name, value)]
  | (n, v) :: rest =>
    if name = n then (n, value) :: rest
    else if name < n then (name, value) :: (n, v) :: rest
    else (n, v) :: insertMember name value rest

def skipBlanks (cs : List Char) : List Char := cs.dropWhile isBlank

mutual

/-- A value at the front of a text, at most as deep as given, and the rest. -/
def value? : (fuel : Nat) → (depth : Nat) → List Char → Option (Json × List Char)
  | 0, _, _ => none
  | fuel + 1, depth, cs =>
    match skipBlanks cs with
    | 'n' :: 'u' :: 'l' :: 'l' :: rest => some (null, rest)
    | 't' :: 'r' :: 'u' :: 'e' :: rest => some (bool true, rest)
    | 'f' :: 'a' :: 'l' :: 's' :: 'e' :: rest => some (bool false, rest)
    | '"' :: rest => do
      let (cs, rest) ← quoted? rest
      return (string (String.ofList cs), rest)
    | '[' :: rest =>
      if depth = 0 then none
      else
        match skipBlanks rest with
        | ']' :: rest => some (array [], rest)
        | _ => elements? fuel (depth - 1) [] rest
    | '\x7b' :: rest =>
      if depth = 0 then none
      else
        match skipBlanks rest with
        | '\x7d' :: rest => some (object [], rest)
        | _ => members? fuel (depth - 1) [] rest
    | cs => number? cs

/-- The elements of an array after those read so far, which are in reverse. -/
def elements? :
    (fuel : Nat) → (depth : Nat) → List Json → List Char → Option (Json × List Char)
  | 0, _, _, _ => none
  | fuel + 1, depth, done, cs => do
    let (v, rest) ← value? fuel depth cs
    match skipBlanks rest with
    | ',' :: rest => elements? fuel depth (v :: done) rest
    | ']' :: rest => some (array (v :: done).reverse, rest)
    | _ => none

/-- The members of an object after those read so far. -/
def members? :
    (fuel : Nat) → (depth : Nat) → List (String × Json) → List Char → Option (Json × List Char)
  | 0, _, _, _ => none
  | fuel + 1, depth, done, cs =>
    match skipBlanks cs with
    | '"' :: rest => do
      let (name, rest) ← quoted? rest
      match skipBlanks rest with
      | ':' :: rest =>
        let (v, rest) ← value? fuel depth rest
        let done := insertMember (String.ofList name) v done
        match skipBlanks rest with
        | ',' :: rest => members? fuel depth done rest
        | '\x7d' :: rest => some (object done, rest)
        | _ => none
      | _ => none
    | _ => none

end

/-- The value that a whole text holds. Reading an element or a member takes two steps at most and
one character at least. -/
def ofText? (s : String) : Option Json := do
  let cs := s.toList
  let (v, rest) ← value? (2 * cs.length + 2) 127 cs
  if (skipBlanks rest).isEmpty then some v else none

/-! ### Writing -/

/-- Control characters by number, and a quote and a backslash behind a backslash. -/
def quotedChar (c : Char) : String :=
  if c == '"' then "\\\"" else if c == '\\' then "\\\\"
  else if c.toNat < 0x20 then
    "\\u00" ++ String.ofList [Nat.digitChar (c.toNat / 16), Nat.digitChar (c.toNat % 16)]
  else String.singleton c

def quotedText (s : String) : String :=
  "\"" ++ String.join (s.toList.map quotedChar) ++ "\""

/-- A real with a point, or with an exponent if it is less than 0.00001 or has more than sixteen
places before the point. -/
def realText (x : Binary) : String :=
  let (n, power) := x.digits
  let digits := toString n
  let places := digits.length + power
  if 0 ≤ power ∧ places ≤ 16 then toString (n * Decimal.pow10 power.toNat) ++ ".0"
  else if -5 < places ∧ places ≤ 16 then Decimal.unsignedText n (-power).toNat
  else
    let fraction := digits.toList.drop 1
    String.ofList (digits.toList.take 1 ++ (if fraction.isEmpty then [] else '.' :: fraction)) ++
      "e" ++ toString (places - 1)

mutual

def text : Json → String
  | null => "null"
  | bool b => if b then "true" else "false"
  | int n => toString n
  | real isNegative x => (if isNegative then "-" else "") ++ realText x
  | string s => quotedText s
  | array elements => "[" ++ ",".intercalate (elementTexts elements) ++ "]"
  | object members => "\x7b" ++ ",".intercalate (memberTexts members) ++ "\x7d"

def elementTexts : List Json → List String
  | [] => []
  | v :: rest => v.text :: elementTexts rest

def memberTexts : List (String × Json) → List String
  | [] => []
  | (name, v) :: rest => (quotedText name ++ ":" ++ v.text) :: memberTexts rest

end

/-- The value as a store that holds JSON as text gives it back. -/
def stored (j : Json) : Json := (ofText? j.text).getD j

end RecurringBilling.Json
