/-!
# Shortest decimal text of a double

A finite double stands for every real number nearer to it than to any other double.  It is written
with the fewest digits that name one of these numbers, and of those with the number nearest to it.

The search is exact.  The double is `m * 2 ^ q`; a quarter of its last place is the unit in which it
and the ends of its interval are whole.  For each power of ten, from the largest on, the multiples
of that power inside the interval are looked for; the first power that has one gives the digits.

Positional notation is used from `10 ^ (-4)` up to `10 ^ 16`, with at least one decimal.
-/

namespace MessageServer.Text

/-- A finite double without its sign: `mantissa * 2 ^ exponent`. -/
structure Binary where
  mantissa : Nat
  exponent : Int
  deriving DecidableEq, Repr

/-- The smallest mantissa of a normal double, which has 53 bits. -/
def normalMantissa : Nat := 1 <<< 52

/-- What a bit pattern stands for, sign and special values apart. -/
def Binary.ofBits (bits : Nat) : Binary :=
  let fraction : Nat := bits % normalMantissa
  let biased : Nat := bits / normalMantissa % 2048
  if biased = 0 then ⟨fraction, -1074⟩ else ⟨fraction + normalMantissa, (biased : Int) - 1075⟩

/-- A decimal number: `digits * 10 ^ exponent`. -/
structure Decimal where
  digits : Nat
  exponent : Int
  deriving DecidableEq, Repr

namespace Binary

/-- The lower end of the interval, in quarters of the last place.  Below a power of two the doubles
lie twice as close. -/
def lower (b : Binary) : Nat :=
  if b.mantissa = normalMantissa ∧ -1074 < b.exponent then 4 * b.mantissa - 1
  else 4 * b.mantissa - 2

/-- The upper end of the interval, in quarters of the last place. -/
def upper (b : Binary) : Nat :=
  4 * b.mantissa + 2

/-- The multiple of `10 ^ e` in the interval that is nearest to the number, of two the greater, if
there is one.  The ends belong to the interval of an even mantissa only. -/
def multiple? (b : Binary) (e : Int) : Option Nat :=
  let scale := 1 <<< (b.exponent - 2).toNat * Nat.pow 10 (-e).toNat
  let unit := 1 <<< (2 - b.exponent).toNat * Nat.pow 10 e.toNat
  let inside (n : Nat) : Bool :=
    if b.mantissa % 2 = 0 then b.lower * scale ≤ n * unit && n * unit ≤ b.upper * scale
    else b.lower * scale < n * unit && n * unit < b.upper * scale
  let value := 4 * b.mantissa * scale
  let below := value / unit
  let nearest := if value - below * unit < (below + 1) * unit - value then below else below + 1
  let other := if nearest = below then below + 1 else below
  if inside nearest then some nearest else if inside other then some other else none

/-- The powers of ten that any double can need, the largest first. -/
def powers : List Int :=
  (List.range 640).map fun i => 309 - Int.ofNat i

/-- The number with the fewest digits in the interval, nearest to the double; zero for zero. -/
def shortest (b : Binary) : Decimal :=
  let hit? (e : Int) : Option Decimal :=
    match b.multiple? e with
    | some (n + 1) => some ⟨n + 1, e⟩
    | _ => none
  (powers.findSome? hit?).getD ⟨0, 0⟩

end Binary

namespace Decimal

/-- Digits with the point where it belongs, and at least one decimal. -/
def positional (d : Decimal) : String :=
  let digits := toString d.digits
  if 0 ≤ d.exponent then digits ++ String.ofList (List.replicate d.exponent.toNat '0') ++ ".0"
  else
    let places := (-d.exponent).toNat
    let padded := String.ofList (List.replicate (places + 1 - digits.length) '0') ++ digits
    let whole := padded.length - places
    String.ofList (padded.toList.take whole) ++ "." ++ String.ofList (padded.toList.drop whole)

/-- One digit before the point, the rest behind it, and the power of ten. -/
def scientific (d : Decimal) : String :=
  let digits := (toString d.digits).toList
  let power := d.exponent + digits.length - 1
  let fraction := if digits.length ≤ 1 then "" else "." ++ String.ofList (digits.drop 1)
  String.ofList (digits.take 1) ++ fraction ++ s!"e{power}"

end Decimal

/-- The text of a double. -/
def float (x : Float) : String :=
  let sign := if x.toBits >>> 63 = 1 then "-" else ""
  if x.isNaN then "NaN"
  else if x.isInf then sign ++ "inf"
  else
    let d := (Binary.ofBits x.toBits.toNat).shortest
    if d.digits = 0 then sign ++ "0.0"
    else
      let power := d.exponent + (toString d.digits).length - 1
      sign ++ if -4 ≤ power ∧ power < 16 then d.positional else d.scientific

end MessageServer.Text
