import RecurringBilling.Text

/-!
Identifiers of 128 bits, written as 32 hexadecimal digits in groups of 8, 4, 4, 4 and 12.
-/

namespace RecurringBilling

def Id.bound : Nat := Nat.pow 2 128

structure Id where
  value : Nat
  value_lt : value < Id.bound
  deriving DecidableEq

namespace Id

/-- The identifier of a number, counted round at the bound. -/
def ofNat (n : Nat) : Id := ⟨n % bound, Nat.mod_lt _ (by decide)⟩

instance : Inhabited Id := ⟨ofNat 0⟩

instance : LT Id := ⟨fun a b => a.value < b.value⟩
instance (a b : Id) : Decidable (a < b) := inferInstanceAs (Decidable (a.value < b.value))

def hexDigits (width n : Nat) : List Char :=
  let digits := Nat.toDigits 16 n
  List.replicate (width - digits.length) '0' ++ digits

/-- The text cut into groups of the given lengths. -/
def groups : List Nat → List Char → List (List Char)
  | [], _ => []
  | n :: ns, cs => cs.take n :: groups ns (cs.drop n)

def text (id : Id) : String :=
  "-".intercalate ((groups [8, 4, 4, 4, 12] (hexDigits 32 id.value)).map String.ofList)

/-- The identifier of 32 hexadecimal digits. -/
def ofBare? (cs : List Char) : Option Id :=
  if cs.length = 32 then
    (cs.foldl (fun n c => do return (← n) * 16 + (← Text.hexDigit? c)) (some 0)).map ofNat
  else none

def ofHyphenated? (cs : List Char) : Option Id :=
  if cs.length = 36 ∧ [8, 13, 18, 23].all fun i => cs[i]? == some '-' then
    ofBare? (cs.filter (· != '-'))
  else none

/-- Reads digits in either case: bare, in groups, or in groups within braces or after `urn:uuid:`. -/
def ofText? (s : String) : Option Id :=
  let cs := s.toList
  if cs.length = 32 then ofBare? cs
  else if cs.length = 36 then ofHyphenated? cs
  else if cs.length = 38 ∧ cs.head? = some '\x7b' ∧ cs.getLast? = some '\x7d' then
    ofHyphenated? (cs.drop 1).dropLast
  else if cs.length = 45 ∧ cs.take 9 = "urn:uuid:".toList then ofHyphenated? (cs.drop 9)
  else none

end Id

end RecurringBilling
