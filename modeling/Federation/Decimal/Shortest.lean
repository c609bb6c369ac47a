/-
# Shortest decimals of binary numbers

A finite double is `m · 2^q`. Its shortest decimal is found among the decimals with one,
two, three … significant digits: the first grid on which a neighbour of the value lies
closer to it than to every other double wins, and of two such neighbours the nearer one.
All comparisons are made in exact integer arithmetic.
-/

namespace Federation.Decimal

/-- The decimal `digits · 10^exponent`. -/
structure Shortest where
  digits : Nat
  exponent : Int
deriving DecidableEq, Repr

/-- A positive double as `mantissa · 2^exponent`; `atPower` tells that the next smaller
double is only half as far away as the next larger one. -/
structure Binary where
  mantissa : Nat
  exponent : Int
  atPower : Bool
deriving DecidableEq, Repr

/-- Takes the bits of a double apart, apart from its sign. -/
def Binary.ofBits (bits : UInt64) : Binary :=
  let raw := bits.toNat % 9223372036854775808
  let fraction := raw % 4503599627370496
  let field := raw / 4503599627370496
  if field = 0 then ⟨fraction, -1074, false⟩
  else ⟨fraction + 4503599627370496, (field : Int) - 1075, fraction == 0 && 1 < field⟩

/-- A ratio of natural numbers; `num / den`. -/
structure Ratio where
  num : Nat
  den : Nat
deriving Repr

/-- `n · 2^q` as a ratio. -/
def Ratio.scaled2 (n : Nat) (q : Int) : Ratio :=
  if 0 ≤ q then ⟨n * Nat.pow 2 q.toNat, 1⟩ else ⟨n, Nat.pow 2 (-q).toNat⟩

/-- `n · 10^e` as a ratio. -/
def Ratio.scaled10 (n : Nat) (e : Int) : Ratio :=
  if 0 ≤ e then ⟨n * Nat.pow 10 e.toNat, 1⟩ else ⟨n, Nat.pow 10 (-e).toNat⟩

/-- Is one ratio below the other? -/
def Ratio.below (a b : Ratio) : Bool := a.num * b.den < b.num * a.den

/-- The largest whole number not above `value / 10^e`. -/
def gridFloor (value : Ratio) (e : Int) : Nat :=
  if 0 ≤ e then value.num / (value.den * Nat.pow 10 e.toNat)
  else value.num * Nat.pow 10 (-e).toNat / value.den

/-- Does the decimal `n · 10^e` read back as the double? The ends of the interval belong
to it when the mantissa is even. -/
def readsBack (b : Binary) (n : Nat) (e : Int) : Bool :=
  let candidate := Ratio.scaled10 n e
  let low := Ratio.scaled2 (4 * b.mantissa - (if b.atPower then 1 else 2)) (b.exponent - 2)
  let high := Ratio.scaled2 (4 * b.mantissa + 2) (b.exponent - 2)
  if b.mantissa % 2 = 0 then !candidate.below low && !high.below candidate
  else low.below candidate && candidate.below high

/-- Is `n · 10^e` nearer to the value than `(n + 1) · 10^e`? A tie goes to the even one. -/
def floorIsNearer (value : Ratio) (n : Nat) (e : Int) : Bool :=
  let middle := Ratio.scaled10 (2 * n + 1) e
  let twice : Ratio := ⟨2 * value.num, value.den⟩
  if twice.below middle then true
  else if middle.below twice then false
  else n % 2 == 0

/-- The exponent of the leading decimal digit of a positive ratio, searched downwards. -/
def leadingExponent (value : Ratio) : (fuel : Nat) → Int → Int
  | 0, e => e
  | fuel + 1, e => if 1 ≤ gridFloor value e then e else leadingExponent value fuel (e - 1)

/-- Tries the grids with `count`, `count + 1`, … digits. -/
def searchGrids (b : Binary) (value : Ratio) (lead : Int) : (fuel count : Nat) → Shortest
  | 0, _ => ⟨0, 0⟩
  | fuel + 1, count =>
    let e := lead - (count - 1 : Nat)
    let n := gridFloor value e
    -- On a coarse grid the lower neighbour may be zero, which is no double but zero's own.
    let floorHits := n ≠ 0 && readsBack b n e
    let ceilHits := readsBack b (n + 1) e
    if floorHits && (!ceilHits || floorIsNearer value n e) then ⟨n, e⟩
    else if ceilHits then ⟨n + 1, e⟩
    else searchGrids b value lead fuel (count + 1)

/-- Drops zeros at the end of the digits. -/
def dropZeros : (fuel : Nat) → Shortest → Shortest
  | 0, d => d
  | fuel + 1, d =>
    if d.digits ≠ 0 ∧ d.digits % 10 = 0 then dropZeros fuel ⟨d.digits / 10, d.exponent + 1⟩ else d

/-- The shortest decimal of the absolute value of a finite double. -/
def shortest (bits : UInt64) : Shortest :=
  let b := Binary.ofBits bits
  if b.mantissa = 0 then ⟨0, 0⟩
  else
    let value := Ratio.scaled2 b.mantissa b.exponent
    -- Doubles reach from 10^-324 to 10^308, and seventeen digits tell any two of them apart.
    dropZeros 20 (searchGrids b value (leadingExponent value 700 309) 18 1)

/-- Is the sign bit set? -/
def isNegative (bits : UInt64) : Bool := 9223372036854775808 ≤ bits.toNat

/-- Is this an infinity? -/
def isInfinite (bits : UInt64) : Bool := bits.toNat % 9223372036854775808 == 9218868437227405312

/-- Is this not a number? -/
def isNaN (bits : UInt64) : Bool := 9218868437227405312 < bits.toNat % 9223372036854775808

/-- The digits of the decimal written out without an exponent; a whole number has no
point unless `pointed`. -/
def positional (pointed : Bool) (d : Shortest) : List Char :=
  let digits := Nat.toDigits 10 d.digits
  let point : Int := digits.length + d.exponent
  if 0 ≤ d.exponent then
    digits ++ List.replicate d.exponent.toNat '0' ++ (if pointed then ['.', '0'] else [])
  else if 0 < point then
    digits.take point.toNat ++ '.' :: digits.drop point.toNat
  else
    '0' :: '.' :: List.replicate (-point).toNat '0' ++ digits

/-- The digits with an exponent: one digit before the point. -/
def scientific (d : Shortest) : List Char :=
  let digits := Nat.toDigits 10 d.digits
  let exponent : Int := digits.length + d.exponent - 1
  let power := (if exponent < 0 then ['-'] else []) ++ Nat.toDigits 10 exponent.natAbs
  match digits with
  | [] => []
  | [c] => c :: 'e' :: power
  | c :: rest => c :: '.' :: rest ++ 'e' :: power

/-- The sign of a written number. -/
def signChars (bits : UInt64) : List Char := if isNegative bits then ['-'] else []

/-- Numbers in samples are written without an exponent. -/
def plainText (bits : UInt64) : String :=
  if isNaN bits then "NaN"
  else String.ofList (signChars bits ++
    if isInfinite bits then "inf".toList else positional false (shortest bits))

/-- Numbers in documents are written with a point below 10^16 and down to 10^-5, and
with an exponent otherwise. -/
def documentText (bits : UInt64) : String :=
  let d := shortest bits
  let point : Int := (Nat.toDigits 10 d.digits).length + d.exponent
  String.ofList (signChars bits ++
    if d.digits = 0 ∨ (-5 < point ∧ point ≤ 16) then positional true d else scientific d)

end Federation.Decimal
