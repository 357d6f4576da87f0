import CampusLedger.Text.Quoted
import CampusLedger.Text.Utf8
/-!
# Durations

A duration is a signed count of nanoseconds within 64 bits. Its text is an optional sign and
then one or more terms, each a decimal number with an optional fraction followed by a unit:
`ns`, `us` (or with a micro sign), `ms`, `s`, `m` or `h`. A bare `0` is zero.

Reading refuses, naming the whole text: an empty text or a term that does not start with a
digit or a point (`invalid duration`), a number without a unit (`missing unit`), a unit not in
the table (`unknown unit`, naming it too), a term beyond 2^63 nanoseconds, and a total that
ends beyond 2^63 - 1 (`invalid duration`). The total is kept as a 64-bit word, so terms that
together pass 2^64 wrap around, and the sum is checked only after each wrap. The fraction of a
term is scaled to the unit in double precision and cut to whole nanoseconds; its scale is
built in double precision too, one factor of ten per digit.

Texts in these messages are quoted with every octet outside printable ASCII as `\xHH`.
-/

namespace CampusLedger.Duration

def nanosecond : Nat := 1

def second : Nat := 1000000000

/-- The bound of the magnitude, 2^63. -/
def bound : Nat := Nat.pow 2 63

def unitValue? (u : List UInt8) : Option Nat :=
  if u == "ns".toUTF8.toList then some 1
  else if u == "us".toUTF8.toList then some 1000
  else if u == "µs".toUTF8.toList then some 1000
  else if u == "μs".toUTF8.toList then some 1000
  else if u == "ms".toUTF8.toList then some 1000000
  else if u == "s".toUTF8.toList then some second
  else if u == "m".toUTF8.toList then some (60 * second)
  else if u == "h".toUTF8.toList then some (3600 * second)
  else none

/-- A text quoted with every octet outside printable ASCII written as `\xHH`. -/
def quoteOctets (bs : List UInt8) : String := Text.quoteAscii bs

inductive Fault where
  | invalid
  | missingUnit
  | unknownUnit (unit : List UInt8)
  deriving DecidableEq, Repr

def Fault.message (f : Fault) (orig : List UInt8) : String :=
  match f with
  | .invalid => "time: invalid duration " ++ quoteOctets orig
  | .missingUnit => "time: missing unit in duration " ++ quoteOctets orig
  | .unknownUnit u => "time: unknown unit " ++ quoteOctets u ++ " in duration " ++ quoteOctets orig

def isDigit (b : UInt8) : Bool := 48 ≤ b && b ≤ 57

/-- The leading integer and the octets after it; none past 2^63. -/
def leadingInt : Nat → List UInt8 → Option (Nat × List UInt8)
  | x, [] => some (x, [])
  | x, b :: rest =>
    if isDigit b then
      if x > bound / 10 then none
      else
        let y := x * 10 + (b.toNat - 48)
        if y > bound then none else leadingInt y rest
    else some (x, b :: rest)

/-- The leading fraction digits: value and scale, stopping to accumulate past 2^63, and the
octets after them. The scale is a double, multiplied by ten once per digit taken, so that past
10^22 it carries the rounding of each step. -/
def leadingFraction : Nat → Float → Bool → List UInt8 → Nat × Float × List UInt8
  | x, scale, _, [] => (x, scale, [])
  | x, scale, saturated, b :: rest =>
    if isDigit b then
      if saturated then leadingFraction x scale true rest
      else if x > (bound - 1) / 10 then leadingFraction x scale true rest
      else
        let y := x * 10 + (b.toNat - 48)
        if y > bound then leadingFraction x scale true rest
        else leadingFraction y (scale * 10) false rest
    else (x, scale, b :: rest)

/-- The terms of a duration after its sign, accumulated onto `d`. -/
def terms : Nat → Nat → List UInt8 → Except Fault Nat
  | 0, _, _ => .error .invalid
  | _ + 1, d, [] => .ok d
  | fuel + 1, d, s@(c :: _) =>
    if !(c == 46 || isDigit c) then .error .invalid
    else
      match leadingInt 0 s with
      | none => .error .invalid
      | some (v, s1) =>
        let pre := s1.length != s.length
        let (f, scale, s2, post) :=
          match s1 with
          | 46 :: r =>
            let (f, scale, r') := leadingFraction 0 1 false r
            (f, scale, r', r'.length != r.length)
          | _ => (0, (1 : Float), s1, false)
        if !pre && !post then .error .invalid
        else
          let u := s2.takeWhile fun b => !(b == 46 || isDigit b)
          let s3 := s2.dropWhile fun b => !(b == 46 || isDigit b)
          if u.isEmpty then .error .missingUnit
          else
            match unitValue? u with
            | none => .error (.unknownUnit u)
            | some unit =>
              if v > bound / unit then .error .invalid
              else
                let v := v * unit
                let v :=
                  if f > 0 then
                    v + (Float.ofNat f * (Float.ofNat unit / scale)).toUInt64.toNat
                  else v
                if v > bound then .error .invalid
                else
                  -- the running total is a 64-bit word: a sum past 2^64 wraps
                  let total := (d + v) % Nat.pow 2 64
                  if total > bound then .error .invalid
                  else terms fuel total s3

def parseOctets (orig : List UInt8) : Except String Int :=
  let (neg, s) := match orig with
    | 45 :: r => (true, r)
    | 43 :: r => (false, r)
    | r => (false, r)
  if s == [48] then .ok 0
  else if s.isEmpty then .error (Fault.invalid.message orig)
  else
    match terms (s.length + 1) 0 s with
    | .error f => .error (f.message orig)
    | .ok d =>
      if neg then .ok (-(d : Int))
      else if d > bound - 1 then .error (Fault.invalid.message orig)
      else .ok d

def parse (s : String) : Except String Int := parseOctets s.toUTF8.toList

end CampusLedger.Duration
