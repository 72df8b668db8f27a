/-!
# The shortest decimal of a double

A finite double is a significand times a power of two. The reals that round to it form an interval
around it, which contains its ends exactly when the significand is even. The decimal chosen for the
double lies in that interval on the coarsest grid of multiples of a power of ten that meets it; of
two such multiples next to the double the nearer is taken. Where both are equally near, the notation
says which one it takes.
-/

namespace SshCompliance

/-- The number `digits * 10 ^ exponent`. -/
structure Decimal where
  digits : Nat
  exponent : Int
deriving DecidableEq, Repr

/-- Which of two neighbours on a grid stands for a double that lies halfway between them. -/
inductive Tie where
  | toEven
  | up
deriving DecidableEq, Repr

/-- Whether the neighbour nearer to zero is taken. -/
def Tie.takesLower : Tie → Nat → Bool
  | .toEven, lower => lower % 2 = 0
  | .up, _ => false

structure Ratio where
  top : Nat
  bottom : Nat
deriving DecidableEq, Repr

namespace Ratio

def scale (base : Nat) (number : Nat) (exponent : Int) : Ratio :=
  if 0 ≤ exponent then ⟨number * base.pow exponent.toNat, 1⟩
  else ⟨number, base.pow (-exponent).toNat⟩

def le (left right : Ratio) : Bool := left.top * right.bottom ≤ right.top * left.bottom

def lt (left right : Ratio) : Bool := left.top * right.bottom < right.top * left.bottom

end Ratio

/-- A positive double `significand * 2 ^ exponent`. -/
structure Dyadic where
  significand : Nat
  exponent : Int
deriving DecidableEq, Repr

namespace Dyadic

/-- The bit of a double that holds its sign. -/
def signBit : Nat := 0x8000000000000000

/-- The leading bit of a significand, which a double does not store. -/
def leadingBit : Nat := 0x10000000000000

/-- The significand and exponent of the absolute value. -/
def ofFloat (value : Float) : Dyadic :=
  let bits := value.toBits.toNat % signBit
  let fraction := bits % leadingBit
  let field : Nat := bits / leadingBit
  if field = 0 then ⟨fraction, -1074⟩ else ⟨leadingBit + fraction, (field : Int) - 1075⟩

/-- The ends of the interval of reals that round to the double. Below a power of two the doubles lie
twice as close. -/
def interval (value : Dyadic) : Ratio × Ratio :=
  let below := if value.significand = leadingBit ∧ -1074 < value.exponent then 1 else 2
  (Ratio.scale 2 (4 * value.significand - below) (value.exponent - 2),
    Ratio.scale 2 (4 * value.significand + 2) (value.exponent - 2))

def contains (value : Dyadic) (number : Ratio) : Bool :=
  let (low, high) := value.interval
  if value.significand % 2 = 0 then low.le number && number.le high
  else low.lt number && number.lt high

/-- The multiple of `10 ^ exponent` that the grid offers for the double, if it offers one. -/
def onGrid? (value : Dyadic) (tie : Tie) (exponent : Int) : Option Decimal :=
  let exact := Ratio.scale 2 value.significand value.exponent
  let unit := Ratio.scale 10 1 exponent
  let lower := exact.top * unit.bottom / (exact.bottom * unit.top)
  let fits (digits : Nat) : Bool :=
    digits ≠ 0 && value.contains (Ratio.scale 10 digits exponent)
  match fits lower, fits (lower + 1) with
  | false, false => none
  | true, false => some ⟨lower, exponent⟩
  | false, true => some ⟨lower + 1, exponent⟩
  | true, true =>
    let middle := Ratio.scale 10 (2 * lower + 1) exponent
    let twice : Ratio := ⟨2 * exact.top, exact.bottom⟩
    if twice.lt middle || (twice.le middle && tie.takesLower lower) then some ⟨lower, exponent⟩
    else some ⟨lower + 1, exponent⟩

/-- The exponents of the grids, from the coarsest that can meet a double on. -/
def gridExponents : List Int := (List.range 640).map (fun (step : Nat) => 309 - (step : Int))

def shortest (value : Dyadic) (tie : Tie) : Decimal :=
  if value.significand = 0 then ⟨0, 0⟩
  else (gridExponents.findSome? (value.onGrid? tie)).getD ⟨0, 0⟩

end Dyadic

namespace Decimal

/-- The number without an exponent; a point stands in it only if digits follow it. -/
def positional (number : Decimal) : List Char :=
  let digits := Nat.toDigits 10 number.digits
  let point := digits.length + number.exponent
  if 0 ≤ number.exponent then
    digits ++ List.replicate number.exponent.toNat '0'
  else if 0 < point then
    digits.take point.toNat ++ '.' :: digits.drop point.toNat
  else
    '0' :: '.' :: List.replicate (-point).toNat '0' ++ digits

/-- One digit before the point, and the exponent with its sign. -/
def scientific (number : Decimal) : List Char :=
  let digits := Nat.toDigits 10 number.digits
  let exponent := digits.length + number.exponent - 1
  let fraction := match digits.drop 1 with
    | [] => []
    | rest => '.' :: rest
  digits.take 1 ++ fraction ++ 'e' :: (if 0 ≤ exponent then '+' else '-') ::
    Nat.toDigits 10 exponent.natAbs

end Decimal

/-- A minus for every double with its sign bit set, zero included. -/
def signText (value : Float) : List Char :=
  if Dyadic.signBit ≤ value.toBits.toNat then ['-'] else []

/-- The shortest decimal of a finite double, without an exponent and without a fraction of zero.
Ties go up. -/
def plainText (value : Float) : List Char :=
  signText value ++ ((Dyadic.ofFloat value).shortest .up).positional

/-- The shortest decimal of a finite double with a fraction or an exponent: the exponent is used
below `10 ^ -5` and from `10 ^ 16` on. Ties go to the even neighbour. -/
def pointedText (value : Float) : List Char :=
  let number := (Dyadic.ofFloat value).shortest .toEven
  let point := (Nat.toDigits 10 number.digits).length + number.exponent
  let text :=
    if -5 < point ∧ point ≤ 16 then
      number.positional ++ (if 0 ≤ number.exponent then ['.', '0'] else [])
    else
      number.scientific
  signText value ++ text

end SshCompliance
