import CampusLedger.Time.Instant
import CampusLedger.Text.Quoted
/-!
# Reading times

Times are read in the RFC 3339 layout with nanoseconds, `2006-01-02T15:04:05.999999999Z07:00`,
chunk by chunk and as leniently as the layout allows:

* the year is four digits, the month, the day, the minute and the second two each, and the
  hour one or two;
* the separators `-`, `T` and `:` stand for themselves, `T` in upper case;
* a fraction of any length may follow a point or a comma, and its first nine digits count;
* the zone is `Z`, or a sign, two digits of hours, a colon and two digits of minutes, of up to
  24 hours and 60 minutes; the offset is taken off to give UTC.

Reading stops at the first fault. A chunk that does not read is reported with the text left
where it was tried; a month, hour, minute or second out of range, and an offset hour or minute
out of range, is reported as soon as it is read; text after the zone is extra; and the day is
checked against its month last of all.

Main statement: `read_ok_zulu` — a well-formed UTC text, `leapDayNoon`, is read to the instant
of its date and time.
-/

namespace CampusLedger.Instant

def layout : String := "2006-01-02T15:04:05.999999999Z07:00"

inductive Fault where
  /-- A chunk of the layout did not read from the text left at that point. -/
  | cannotRead (rest : List UInt8) (chunk : String)
  /-- A field lies outside its range. -/
  | outOfRange (field : String)
  /-- Text follows the zone. -/
  | extraText (rest : List UInt8)
  deriving DecidableEq, Repr

def Fault.message (text : List UInt8) : Fault → String
  | .cannotRead rest chunk =>
    "parsing time " ++ Text.quoteAscii text ++ " as " ++ Text.quoteAscii layout.toUTF8.toList ++
      ": cannot parse " ++ Text.quoteAscii rest ++ " as " ++ Text.quoteAscii chunk.toUTF8.toList
  | .outOfRange field => "parsing time " ++ Text.quoteAscii text ++ ": " ++ field ++ " out of range"
  | .extraText rest => "parsing time " ++ Text.quoteAscii text ++ ": extra text: " ++ Text.quoteAscii rest

def isDigitOctet (b : UInt8) : Bool := 48 ≤ b && b ≤ 57

def digitOf (b : UInt8) : Nat := b.toNat - 48

def daysIn (y m : Nat) : Nat :=
  if m == 2 then
    if y % 4 == 0 && (y % 100 != 0 || y % 400 == 0) then 29 else 28
  else if m == 4 || m == 6 || m == 9 || m == 11 then 30 else 31

/-- A number of two digits at the start of a text, or of one digit when `fixed` is off and no
digit follows it, with the rest of the text. -/
def number? (fixed : Bool) : List UInt8 → Option (Nat × List UInt8)
  | a :: b :: rest =>
    if !isDigitOctet a then none
    else if isDigitOctet b then some (digitOf a * 10 + digitOf b, rest)
    else if fixed then none
    else some (digitOf a, b :: rest)
  | [a] => if isDigitOctet a && !fixed then some (digitOf a, []) else none
  | [] => none

def numberChunk (fixed : Bool) (chunk : String) (v : List UInt8) : Except Fault (Nat × List UInt8) :=
  match number? fixed v with
  | some r => .ok r
  | none => .error (.cannotRead v chunk)

def yearChunk (v : List UInt8) : Except Fault (Nat × List UInt8) :=
  let ds := v.take 4
  if ds.length == 4 && ds.all isDigitOctet then
    .ok (ds.foldl (fun acc b => acc * 10 + digitOf b) 0, v.drop 4)
  else .error (.cannotRead v "2006")

def separator (c : UInt8) (v : List UInt8) : Except Fault (List UInt8) :=
  match v with
  | b :: rest => if b == c then .ok rest else .error (.cannotRead v (String.singleton (Char.ofNat c.toNat)))
  | [] => .error (.cannotRead [] (String.singleton (Char.ofNat c.toNat)))

/-- The fraction of a second after the seconds: a point or a comma and at least one digit, of
which the first nine count, in nanoseconds; zero and the text unchanged when there is none. -/
def fractionChunk (v : List UInt8) : Nat × List UInt8 :=
  match v with
  | p :: c :: rest =>
    if (p == 46 || p == 44) && isDigitOctet c then
      let ds := (c :: rest).takeWhile isDigitOctet
      let kept := ds.take 9
      let value := kept.foldl (fun acc b => acc * 10 + digitOf b) 0
      (value * Nat.pow 10 (9 - kept.length), rest.drop (ds.length - 1))
    else (0, v)
  | _ => (0, v)

/-- The zone, as seconds east of UTC, and the rest. The offset hour and minute are checked for
range before the sign and before a minute that does not read. -/
def zoneChunk (v : List UInt8) : Except Fault (Int × List UInt8) :=
  match v with
  | 90 :: rest => .ok (0, rest)
  | sign :: h1 :: h2 :: colon :: m1 :: m2 :: rest =>
    if colon != 58 then .error (.cannotRead v "Z07:00")
    else
      let hours := (number? true [h1, h2]).map (·.1)
      let minutes := if hours.isSome then (number? true [m1, m2]).map (·.1) else none
      let h := hours.getD 0
      let m := minutes.getD 0
      if m > 60 then .error (.outOfRange "time zone offset minute")
      else if h > 24 then .error (.outOfRange "time zone offset hour")
      else if minutes.isNone || !(sign == 43 || sign == 45) then .error (.cannotRead v "Z07:00")
      else
        let offset : Int := ((h * 60 + m) * 60 : Nat)
        .ok (if sign == 45 then -offset else offset, rest)
  | _ => .error (.cannotRead v "Z07:00")

def read (text : List UInt8) : Except Fault Instant := do
  let (y, v) ← yearChunk text
  let v ← separator 45 v
  let (mo, v) ← numberChunk true "01" v
  if mo < 1 || mo > 12 then throw (.outOfRange "month")
  let v ← separator 45 v
  let (d, v) ← numberChunk true "02" v
  let v ← separator 84 v
  let (h, v) ← numberChunk false "15" v
  if h ≥ 24 then throw (.outOfRange "hour")
  let v ← separator 58 v
  let (mi, v) ← numberChunk true "04" v
  if mi ≥ 60 then throw (.outOfRange "minute")
  let v ← separator 58 v
  let (se, v) ← numberChunk true "05" v
  if se ≥ 60 then throw (.outOfRange "second")
  let (frac, v) := fractionChunk v
  let (offset, v) ← zoneChunk v
  if !v.isEmpty then throw (.extraText v)
  if d < 1 || d > daysIn y mo then throw (.outOfRange "day")
  let secs := daysOfDate y mo d * 86400 + ((h * 3600 + mi * 60 + se : Nat) : Int) - offset
  pure ⟨secs * second + frac⟩

/-- Reads a time from a text, giving the message of a refusal. -/
def parse (s : String) : Except String Instant :=
  (read s.toUTF8.toList).mapError (·.message s.toUTF8.toList)

def ofText? (s : String) : Option Instant := (read s.toUTF8.toList).toOption

def leapDayNoon : List UInt8 :=
  [50, 48, 50, 52, 45, 48, 50, 45, 50, 57, 84, 49, 50, 58, 51, 48, 58, 48, 53, 90]

theorem read_ok_zulu : (read leapDayNoon).toOption = some ⟨1709209805 * second⟩ := by
  decide

end CampusLedger.Instant
