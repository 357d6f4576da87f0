/-!
# UTF-8 octets

Text arrives as octets. Decoding is lenient: an octet that does not start a well-formed
character (RFC 3629 §4) reads as one replacement character, and decoding resumes at the next
octet. `valid` says that no octet was replaced.

Main statement: decoding makes progress (`step_rest_length`), so it ends on every input.
-/

namespace CampusLedger.Text.Utf8

/-- The replacement character stands for each octet that starts no character. -/
def replacement : Char := '�'

/-- A continuation octet, `%x80-BF`. -/
def isTail (b : UInt8) : Bool := 0x80 ≤ b && b ≤ 0xBF

def payload (b : UInt8) : Nat := b.toNat % 64

/-- The width of the well-formed character at the head of the octets, or 0 when none starts
there. The second octet's range excludes overlong forms, surrogates and code points past
U+10FFFF, as the grammar does. -/
def width : List UInt8 → Nat
  | [] => 0
  | a :: rest =>
    if a < 0x80 then 1
    else if 0xC2 ≤ a && a ≤ 0xDF then
      match rest with
      | b :: _ => if isTail b then 2 else 0
      | [] => 0
    else if 0xE0 ≤ a && a ≤ 0xEF then
      match rest with
      | b :: c :: _ =>
        let lo : UInt8 := if a = 0xE0 then 0xA0 else 0x80
        let hi : UInt8 := if a = 0xED then 0x9F else 0xBF
        if lo ≤ b && b ≤ hi && isTail c then 3 else 0
      | _ => 0
    else if 0xF0 ≤ a && a ≤ 0xF4 then
      match rest with
      | b :: c :: d :: _ =>
        let lo : UInt8 := if a = 0xF0 then 0x90 else 0x80
        let hi : UInt8 := if a = 0xF4 then 0x8F else 0xBF
        if lo ≤ b && b ≤ hi && isTail c && isTail d then 4 else 0
      | _ => 0
    else 0

/-- The code point of a well-formed character of the given width at the head of the octets. -/
def codePoint (n : Nat) : List UInt8 → Nat
  | a :: b :: c :: d :: _ =>
    if n = 4 then (a.toNat % 8) * 262144 + payload b * 4096 + payload c * 64 + payload d
    else if n = 3 then (a.toNat % 16) * 4096 + payload b * 64 + payload c
    else if n = 2 then (a.toNat % 32) * 64 + payload b
    else a.toNat
  | a :: b :: c :: [] =>
    if n = 3 then (a.toNat % 16) * 4096 + payload b * 64 + payload c
    else if n = 2 then (a.toNat % 32) * 64 + payload b
    else a.toNat
  | a :: b :: [] => if n = 2 then (a.toNat % 32) * 64 + payload b else a.toNat
  | a :: [] => a.toNat
  | [] => 0

/-- One character off the front of `a :: rest`, and the octets after it. -/
def step (a : UInt8) (rest : List UInt8) : Char × List UInt8 :=
  let n := width (a :: rest)
  if n = 0 then (replacement, rest)
  else (Char.ofNat (codePoint n (a :: rest)), rest.drop (n - 1))

theorem step_rest_length (a : UInt8) (rest : List UInt8) :
    (step a rest).2.length ≤ rest.length := by
  unfold step
  by_cases h : width (a :: rest) = 0
  · simp [h]
  · simp [h]

/-- Every character of the octets, each refused octet read as `replacement`. -/
def decode : List UInt8 → List Char
  | [] => []
  | a :: rest => (step a rest).1 :: decode (step a rest).2
termination_by bs => bs.length
decreasing_by
  have := step_rest_length a rest
  simp only [List.length_cons]
  omega

/-- Whether every octet belongs to a well-formed character. -/
def valid : List UInt8 → Bool
  | [] => true
  | a :: rest =>
    let n := width (a :: rest)
    n != 0 && valid (rest.drop (n - 1))
termination_by bs => bs.length
decreasing_by
  simp only [List.length_cons, List.length_drop]
  omega

/-- The text that the octets spell, each refused octet read as `replacement`. -/
def toText (bs : List UInt8) : String := String.ofList (decode bs)

def ofText (s : String) : List UInt8 := s.toUTF8.toList

def ofChar (c : Char) : List UInt8 := ofText (String.singleton c)

end CampusLedger.Text.Utf8
