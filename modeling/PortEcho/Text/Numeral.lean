/-!
Unsigned numerals: a sign `+` or none, then one or more ASCII digits, with any number of leading
zeros. `unsigned?` reads the number that the digits denote, of any size; `below?` refuses what
does not lie below a bound.
-/

namespace PortEcho.Text

/-- The value of a digit in base 16, of either case. -/
def digitValue? (c : Char) : Option Nat :=
  if '0' ≤ c ∧ c ≤ '9' then some (c.toNat - '0'.toNat)
  else if 'a' ≤ c ∧ c ≤ 'f' then some (c.toNat - 'a'.toNat + 10)
  else if 'A' ≤ c ∧ c ≤ 'F' then some (c.toNat - 'A'.toNat + 10)
  else none

def digitIn? (base : Nat) (c : Char) : Option Nat := (digitValue? c).filter (· < base)

/-- The number that the digits denote when `n` stands before them. -/
def continue? (base : Nat) : Nat → List Char → Option Nat
  | n, [] => some n
  | n, c :: cs =>
    match digitIn? base c with
    | some d => continue? base (base * n + d) cs
    | none => none

/-- One or more digits. -/
def digits? (base : Nat) (cs : List Char) : Option Nat :=
  if cs.isEmpty then none else continue? base 0 cs

/-- A decimal number, with one sign `+` allowed in front. -/
def unsigned? : List Char → Option Nat
  | '+' :: cs => digits? 10 cs
  | cs => digits? 10 cs

def below? (bound : Nat) (cs : List Char) : Option Nat := (unsigned? cs).filter (· < bound)

def word16? (cs : List Char) : Option UInt16 := (below? 0x10000 cs).map UInt16.ofNat

def word32? (cs : List Char) : Option UInt32 := (below? 0x100000000 cs).map UInt32.ofNat

def word64? (cs : List Char) : Option UInt64 := (below? 0x10000000000000000 cs).map UInt64.ofNat

/-- A number whose first characters say its base: `0x` hexadecimal, `0` octal, else decimal. -/
def basedNumber? : List Char → Option Nat
  | '0' :: 'x' :: cs => digits? 16 cs
  | '0' :: 'X' :: cs => digits? 16 cs
  | '0' :: cs => digits? 8 ('0' :: cs)
  | cs => digits? 10 cs

/-- The decimal numeral in at least two digits. -/
def twoDigits (n : Nat) : String := if n < 10 then "0" ++ toString n else toString n

/-- The numeral in base 16 with lowercase digits and no leading zeros. -/
def hexadecimal (n : Nat) : String := String.ofList (Nat.toDigits 16 n)

@[simp] theorem continue?_nil (base n : Nat) : continue? base n [] = some n := rfl

theorem continue?_append (base n : Nat) (cs ds : List Char) :
    continue? base n (cs ++ ds) = (continue? base n cs).bind (continue? base · ds) := by
  induction cs generalizing n with
  | nil => rfl
  | cons c cs ih =>
    cases h : digitIn? base c with
    | none => simp [continue?, h]
    | some d => simp [continue?, h, ih]

end PortEcho.Text
