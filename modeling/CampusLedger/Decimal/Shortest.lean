/-!
# Shortest decimals of doubles

A finite double stands for the interval of reals that round to it: from halfway to its lower
neighbour to halfway to its upper neighbour, ends included when its significand is even. Its
shortest decimal is the decimal with the fewest significant digits in that interval; of two
such decimals the nearer to the double is taken, and of two equally near the one with the even
last digit.

Two layouts are built on the digits. The JSON layout writes positional notation from 1e-6 up
to 1e21 and scientific notation outside, with an exponent of at least one digit. The general
layout writes scientific notation for leading exponents below -4 or from 6 on, with an exponent
of at least two digits.
-/

namespace CampusLedger.Decimal

/-- A finite non-negative double as `m * 2^q`, and whether its lower neighbour is nearer than
its upper one (at a power of two). -/
structure Binary where
  m : Nat
  q : Int
  narrowBelow : Bool
  deriving Repr, DecidableEq

/-- The magnitude of a finite double's bits. -/
def Binary.ofBits (b : UInt64) : Binary :=
  let e := ((b >>> 52) &&& 0x7FF).toNat
  let f := (b &&& 0xFFFFFFFFFFFFF).toNat
  if e == 0 then ⟨f, -1074, false⟩ else ⟨Nat.pow 2 52 + f, (e : Int) - 1075, f == 0 && e > 1⟩

/-- `digits * 10^exp`. -/
structure Dec where
  digits : Nat
  exp : Int
  deriving Repr, DecidableEq

/-- Compares `a * 10^i` with `n * 2^j` exactly. -/
def compareScaled (a : Nat) (i : Int) (n : Nat) (j : Int) : Ordering :=
  compare (a * Nat.pow 10 i.toNat * Nat.pow 2 (-j).toNat) (n * Nat.pow 2 j.toNat * Nat.pow 10 (-i).toNat)

/-- Whether a decimal lies in the interval of reals that round to the double. -/
def Binary.readsBack (x : Binary) (d : Dec) : Bool :=
  let lo := if x.narrowBelow then 4 * x.m - 1 else 4 * x.m - 2
  let hi := 4 * x.m + 2
  let incl := x.m % 2 == 0
  let cl := compareScaled d.digits d.exp lo (x.q - 2)
  let ch := compareScaled d.digits d.exp hi (x.q - 2)
  (cl == .gt || (incl && cl == .eq)) && (ch == .lt || (incl && ch == .eq))

def Binary.fraction (x : Binary) : Nat × Nat := (x.m * Nat.pow 2 x.q.toNat, Nat.pow 2 (-x.q).toNat)

/-- The least `k` with `num / den < 10^k`, searched upward from `k`. -/
def scaleFrom (num den : Nat) : Nat → Int → Int
  | 0, k => k
  | fuel + 1, k =>
    if num * Nat.pow 10 (-k).toNat < den * Nat.pow 10 k.toNat then k else scaleFrom num den fuel (k + 1)

/-- The least `k` with `x < 10^k`, for a non-zero double. -/
def Binary.scale (x : Binary) : Int :=
  let (num, den) := x.fraction
  scaleFrom num den 700 (-340)

/-- Moves trailing zeros of the digits into the exponent. -/
def Dec.strip : Nat → Dec → Dec
  | 0, d => d
  | fuel + 1, d =>
    if d.digits != 0 && d.digits % 10 == 0 then Dec.strip fuel ⟨d.digits / 10, d.exp + 1⟩ else d

/-- The candidate of `n` digits: the neighbours of the value on the grid `10^(k-n)` that read
back, the nearer first, or the even one on a tie. -/
def Binary.candidate (x : Binary) (k : Int) (n : Nat) : Option Dec :=
  let (num, den) := x.fraction
  let g : Int := k - n
  -- the value divided by the grid, rounded down
  let lower := (num * Nat.pow 10 (-g).toNat) / (den * Nat.pow 10 g.toNat)
  let below : Dec := ⟨lower, g⟩
  let above : Dec := ⟨lower + 1, g⟩
  match x.readsBack below, x.readsBack above with
  | true, false => some below
  | false, true => some above
  | true, true =>
    -- twice the value against the sum of the two neighbours
    let twice := 2 * num * Nat.pow 10 (-g).toNat
    let sum := (2 * lower + 1) * den * Nat.pow 10 g.toNat
    if twice < sum then some below
    else if twice > sum then some above
    else if lower % 2 == 0 then some below else some above
  | false, false => none

def Binary.shortest (x : Binary) : Dec :=
  if x.m == 0 then ⟨0, 0⟩
  else
    let k := x.scale
    let found := (List.range 17).findSome? fun i => x.candidate k (i + 1)
    let (num, den) := x.fraction
    -- seventeen digits always read back; the exact value stands in otherwise
    let d := found.getD ⟨num * Nat.pow 10 1074 / den, -1074⟩
    Dec.strip 1100 d

def digitText (n : Nat) : String := toString n

def Dec.positional (d : Dec) : String :=
  let s := digitText d.digits
  if d.exp ≥ 0 then s ++ String.ofList (List.replicate d.exp.toNat '0')
  else
    let point := (s.length : Int) + d.exp
    if point > 0 then
      String.ofList (s.toList.take point.toNat) ++ "." ++ String.ofList (s.toList.drop point.toNat)
    else "0." ++ String.ofList (List.replicate (-point).toNat '0') ++ s

/-- Writes `digits * 10^exp` as `d.ddd` and an exponent, with the exponent's least width. -/
def Dec.scientific (d : Dec) (width : Nat) : String :=
  let s := digitText d.digits
  let e : Int := d.exp + s.length - 1
  let mant := match s.toList with
    | c :: rest => if rest.isEmpty then String.ofList [c] else String.ofList (c :: '.' :: rest)
    | [] => "0"
  let ed := digitText e.natAbs
  let ed := String.ofList (List.replicate (width - ed.length) '0') ++ ed
  mant ++ "e" ++ (if e < 0 then "-" else "+") ++ ed

def Dec.leading (d : Dec) : Int := d.exp + (digitText d.digits).length - 1

/-- The sign and shortest decimal of a finite double; none for NaN and the infinities. -/
def ofFloat? (x : Float) : Option (Bool × Dec) :=
  let b := x.toBits
  let e := ((b >>> 52) &&& 0x7FF).toNat
  if e == 0x7FF then none
  else some (b >>> 63 == 1, (Binary.ofBits b).shortest)

def jsonText (x : Float) : String :=
  match ofFloat? x with
  | none => "null"
  | some (neg, d) =>
    let sign := if neg then "-" else ""
    if d.digits == 0 then sign ++ "0"
    else
      let lead := d.leading
      if lead < -6 || lead ≥ 21 then sign ++ d.scientific 1
      else sign ++ d.positional

def generalText (x : Float) : String :=
  match ofFloat? x with
  | none =>
    if x.isNaN then "NaN" else if x > 0 then "+Inf" else "-Inf"
  | some (neg, d) =>
    let sign := if neg then "-" else ""
    if d.digits == 0 then sign ++ "0"
    else
      let lead := d.leading
      if lead < -4 || lead ≥ 6 then sign ++ d.scientific 2
      else sign ++ d.positional

end CampusLedger.Decimal
