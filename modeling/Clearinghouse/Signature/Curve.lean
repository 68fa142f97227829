/-
# The group that signatures live in

The points of the twisted Edwards curve `-x² + y² = 1 + d x² y²` over the
integers modulo `2 ^ 255 - 19`. A point is kept in four coordinates, `x = X/Z`,
`y = Y/Z` and `x y = T/Z`, for which one addition formula holds without
exception. On the wire a point is the number `y` with the lowest bit of `x` on
top. A received `y` need not be reduced, and the sign of `x = 0` is ignored.
-/

namespace Clearinghouse.Signature

/-- The order of the field. -/
def fieldOrder : Nat := Nat.pow 2 255 - 19

instance : @NeZero Nat Zero.ofOfNat0 fieldOrder := ⟨by decide⟩

/-- An element of the field. -/
abbrev Element := Fin fieldOrder

namespace Element

/-- Repeated multiplication, by squaring. -/
def pow (x : Element) (n : Nat) : Element :=
  if n = 0 then 1
  else
    let half := pow x (n / 2)
    if n % 2 = 0 then half * half else half * half * x
termination_by n

/-- The inverse of an element other than zero. -/
def inv (x : Element) : Element := x.pow (fieldOrder - 2)

/-- A square root of minus one. -/
def rootOfMinusOne : Element :=
  Fin.ofNat _ 19681161376707505956807079304988542015446066515923890162744021073123829784752

/-- The even square root of `u / v`, if there is one. -/
def sqrtRatio? (u v : Element) : Option Element :=
  let root := u * v.pow 3 * (u * v.pow 7).pow ((fieldOrder - 5) / 8)
  let check := v * root * root
  let even (x : Element) : Element := if x.val % 2 = 0 then x else -x
  if check = u then some (even root)
  else if check = -u then some (even (root * rootOfMinusOne))
  else none

end Element

/-- A point of the curve. -/
structure Point where
  x : Element
  y : Element
  z : Element
  t : Element

namespace Point

/-- The constant of the curve's equation. -/
def d : Element :=
  Fin.ofNat _ 37095705934669439343138083508754565189542113879843219016388785533085940283555

/-- The neutral element. -/
def zero : Point := ⟨0, 1, 1, 0⟩

/-- The sum of two points. -/
def add (p q : Point) : Point :=
  let a := (p.y - p.x) * (q.y - q.x)
  let b := (p.y + p.x) * (q.y + q.x)
  let c := p.t * (d + d) * q.t
  let e := p.z * q.z
  let g := e + e
  let m := b - a
  let n := g - c
  let o := g + c
  let r := b + a
  ⟨m * n, o * r, n * o, m * r⟩

/-- Twice a point. -/
def double (p : Point) : Point :=
  let a := p.x * p.x
  let b := p.y * p.y
  let zz := p.z * p.z
  let r := a + b
  let s := p.x + p.y
  let m := r - s * s
  let o := a - b
  let n := zz + zz + o
  ⟨m * n, o * r, n * o, m * r⟩

/-- The opposite of a point. -/
def neg (p : Point) : Point := ⟨-p.x, p.y, p.z, -p.t⟩

/-- A multiple of a point. -/
def times (p : Point) (n : Nat) : Point :=
  if n = 0 then zero
  else
    let twice := (times p (n / 2)).double
    if n % 2 = 0 then twice else twice.add p
termination_by n

end Point

/-- The number that bytes stand for, least significant first. -/
def natOfBytes (bytes : List UInt8) : Nat :=
  bytes.foldr (fun byte n => byte.toNat + 256 * n) 0

/-- The bytes of a number, least significant first. -/
def bytesOfNat : Nat → Nat → List UInt8
  | 0, _ => []
  | count + 1, n => UInt8.ofNat (n % 256) :: bytesOfNat count (n / 256)

/-- The weight of the highest bit of thirty-two bytes. -/
def topBit : Nat := Nat.pow 2 255

namespace Point

/-- The thirty-two bytes of a point. -/
def toBytes (p : Point) : List UInt8 :=
  let inverse := p.z.inv
  let x := p.x * inverse
  let y := p.y * inverse
  bytesOfNat 32 (y.val + x.val % 2 * topBit)

/-- The point that thirty-two bytes stand for, if `y` belongs to one. -/
def ofBytes? (bytes : List UInt8) : Option Point := do
  let n := natOfBytes bytes
  let y : Element := Fin.ofNat _ (n % topBit)
  let yy := y * y
  let x ← Element.sqrtRatio? (yy - 1) (d * yy + 1)
  let x := if n / topBit % 2 = 1 then -x else x
  return ⟨x, y, 1, x * y⟩

/-- The point whose multiples signatures are made of: `y = 4/5`, `x` even. -/
def base : Point :=
  let y : Element := Fin.ofNat _ 46316835694926478169428394003475163141307993866256225615783033603165251855960
  let x : Element := Fin.ofNat _ 15112221349535400772501151409588531511454012693041857206046113283949847762202
  ⟨x, y, 1, x * y⟩

end Point

/-- The order of the base point. -/
def groupOrder : Nat := Nat.pow 2 252 + 27742317777372353535851937790883648493

end Clearinghouse.Signature
