/-
# The shortest text of a floating-point number

A floating-point number is shown with the fewest significant digits that still
name it and no other number, and of several such texts the nearest. A positive
finite number is `m * 2 ^ q`; the reals that round to it form an interval whose
ends count when `m` is even. Grids of decimals with one digit, two digits and so
on are tried until the value's lower or upper neighbour on the grid lies in the
interval. Everything is computed exactly on natural numbers.
-/

namespace Clearinghouse.Text.Floating

/-- A positive rational `num / den`. -/
structure Ratio where
  num : Nat
  den : Nat

/-- The product of a natural number with a power of two and a power of ten. -/
def Ratio.scaled (m : Nat) (two ten : Int) : Ratio where
  num := m * Nat.pow 2 two.toNat * Nat.pow 10 ten.toNat
  den := Nat.pow 2 (-two).toNat * Nat.pow 10 (-ten).toNat

/-- Comparison of rationals by cross multiplication. -/
def Ratio.le (a b : Ratio) : Bool := a.num * b.den ≤ b.num * a.den

/-- Strict comparison of rationals by cross multiplication. -/
def Ratio.lt (a b : Ratio) : Bool := a.num * b.den < b.num * a.den

/-- A positive finite number in binary: `m * 2 ^ q`, and whether the gap below it
is half the gap above it. -/
structure Binary where
  m : Nat
  q : Int
  narrowBelow : Bool

/-- The magnitude of a finite number other than zero, read off its bits. -/
def Binary.ofBits (bits : Nat) : Binary :=
  let exponent : Nat := bits / Nat.pow 2 52 % 2048
  let fraction : Nat := bits % Nat.pow 2 52
  if exponent = 0 then ⟨fraction, -1074, false⟩
  else ⟨fraction + Nat.pow 2 52, (exponent : Int) - 1075, fraction = 0 && exponent != 1⟩

/-- A decimal `d * 10 ^ e` rounds to the number. The ends of the interval are
given in quarters of the last place. -/
def Binary.contains (b : Binary) (d : Nat) (e : Int) : Bool :=
  let low := Ratio.scaled (4 * b.m - if b.narrowBelow then 1 else 2) (b.q - 2) 0
  let high := Ratio.scaled (4 * b.m + 2) (b.q - 2) 0
  let x := Ratio.scaled d 0 e
  if b.m % 2 = 0 then low.le x && x.le high else low.lt x && x.lt high

/-- The number of digits of the integer part of a rational, and minus the number
of zeros after the point when it is below one tenth. -/
def Ratio.magnitude (r : Ratio) : Int :=
  let guess : Int := (Nat.toDigits 10 r.num).length - (Nat.toDigits 10 r.den).length
  if (Ratio.scaled 1 0 guess).le r then guess + 1 else guess

/-- The neighbour of the number on the grid of multiples of `10 ^ e` that rounds
to it, the nearer one if both do. -/
def Binary.neighbour? (b : Binary) (e : Int) : Option Nat :=
  let v := Ratio.scaled b.m b.q (-e)
  let below := v.num / v.den
  let nearBelow := 2 * (v.num % v.den) < v.den || (2 * (v.num % v.den) == v.den && below % 2 == 0)
  let candidates := if nearBelow then [below, below + 1] else [below + 1, below]
  candidates.find? fun d => 0 < d && b.contains d e

/-- The shortest decimal for the number on grids of at most `count` more digits,
the coarsest having the unit `10 ^ e`. -/
def Binary.shortestFrom (b : Binary) (e : Int) : Nat → Nat × Int
  | 0 => (b.m, 0)
  | count + 1 =>
    match b.neighbour? e with
    | some d => (d, e)
    | none => b.shortestFrom (e - 1) count

/-- The digits and the exponent of the shortest decimal `d * 10 ^ e`. Seventeen
digits always suffice. -/
def Binary.shortest (b : Binary) : Nat × Int :=
  b.shortestFrom ((Ratio.scaled b.m b.q 0).magnitude - 1) 18

/-- Digits without the zeros at their end, and the exponent they leave. -/
def stripZeros (digits : List Char) (e : Int) : List Char × Int :=
  let kept := (digits.reverse.dropWhile (· == '0')).reverse
  (kept, e + (digits.length - kept.length : Nat))

/-- The exponent of the leading digit from which on numbers are written with an
exponent. -/
def positionalBelow : Int := 16

/-- The exponent of the leading digit down to which numbers are written with
zeros after the point. -/
def positionalFrom : Int := -5

/-- Writes `digits * 10 ^ e`: positionally, with at least one digit on either
side of the point, or with an exponent that has a sign and two digits. -/
def layout (digits : List Char) (e : Int) : List Char :=
  let lead := e + digits.length - 1
  if positionalFrom ≤ lead ∧ lead < positionalBelow then
    if 0 ≤ e then digits ++ List.replicate e.toNat '0' ++ ['.', '0']
    else if 0 ≤ lead then
      digits.take (lead.toNat + 1) ++ ['.'] ++ digits.drop (lead.toNat + 1)
    else ['0', '.'] ++ List.replicate (-lead - 1).toNat '0' ++ digits
  else
    let power := Nat.toDigits 10 lead.natAbs
    digits.take 1 ++ (if digits.length = 1 then [] else '.' :: digits.drop 1) ++
      ['e', if 0 ≤ lead then '+' else '-'] ++ (if power.length = 1 then '0' :: power else power)

/-- The text of a finite floating-point number. -/
def text (x : Float) : String :=
  let bits := x.toBits.toNat
  let sign := if bits < Nat.pow 2 63 then [] else ['-']
  let magnitude := bits % Nat.pow 2 63
  if magnitude = 0 then String.ofList (sign ++ ['0', '.', '0'])
  else
    let (d, e) := (Binary.ofBits magnitude).shortest
    let (digits, e) := stripZeros (Nat.toDigits 10 d) e
    String.ofList (sign ++ layout digits e)

end Clearinghouse.Text.Floating
