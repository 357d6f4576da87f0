import CampusLedger.Text.Quoted
/-!
# Decimal numerals

Reading a decimal numeral into a bounded natural number or integer. A numeral is a non-empty
run of ASCII digits; an integer numeral may carry one leading sign. Reading goes left to right
and stops at the first fault: a character that is no digit is a syntax fault, and a prefix whose
value passes the bound is a range fault, whichever comes first.

Main statement: `readDigits_ok_iff` — reading succeeds exactly on digit runs whose value is
within the bound, and then gives that value.
-/

namespace CampusLedger.Decimal

inductive Fault where
  /-- A character that is no digit, or no digit at all. -/
  | malformed
  /-- The value passes the bound of the target type. -/
  | range
  deriving DecidableEq, Repr

def Fault.text : Fault → String
  | .malformed => "invalid syntax"
  | .range => "value out of range"

/-- A refused numeral, named after the reader that refused it. -/
structure NumeralError where
  /-- The reader: `ParseUint` or `ParseInt`. -/
  reader : String
  numeral : String
  fault : Fault
  deriving DecidableEq, Repr

/-- The message: the reader, the quoted numeral and the fault. -/
def NumeralError.message (e : NumeralError) : String :=
  "strconv." ++ e.reader ++ ": parsing " ++ Text.quote e.numeral ++ ": " ++ e.fault.text

/-- The message of a numeral read from octets, quoting the octets themselves, so that octets
that spell no character show as they are. -/
def NumeralError.messageOf (e : NumeralError) (octets : List UInt8) : String :=
  "strconv." ++ e.reader ++ ": parsing " ++ Text.quoteOctets octets ++ ": " ++ e.fault.text

def digitValue (c : Char) : Nat := c.toNat - 48

/-- The value of the digits after the accumulated prefix value `acc`, refusing at the first
non-digit or at the first prefix whose value passes `bound`. -/
def readDigits (bound : Nat) : Nat → List Char → Except Fault Nat
  | acc, [] => .ok acc
  | acc, c :: cs =>
    if c.isDigit then
      if acc * 10 + digitValue c > bound then .error .range
      else readDigits bound (acc * 10 + digitValue c) cs
    else .error .malformed

/-- The value of a digit list, most significant digit first. -/
def digitsValue : Nat → List Char → Nat
  | acc, [] => acc
  | acc, c :: cs => digitsValue (acc * 10 + digitValue c) cs

theorem digitsValue_mono (acc : Nat) (cs : List Char) : acc ≤ digitsValue acc cs := by
  induction cs generalizing acc with
  | nil => exact Nat.le_refl _
  | cons c cs ih => exact Nat.le_trans (by omega) (ih _)

theorem readDigits_ok_iff (bound acc v : Nat) (cs : List Char) (hacc : acc ≤ bound) :
    readDigits bound acc cs = .ok v ↔
      (∀ c ∈ cs, c.isDigit = true) ∧ digitsValue acc cs ≤ bound ∧ v = digitsValue acc cs := by
  induction cs generalizing acc with
  | nil =>
    have hnil : readDigits bound acc [] = .ok acc := rfl
    rw [hnil]
    constructor
    · intro h
      cases h
      exact ⟨fun _ h => (nomatch h), hacc, rfl⟩
    · intro h
      obtain ⟨-, -, h⟩ := h
      rw [h]
      rfl
  | cons c cs ih =>
    have hstep : readDigits bound acc (c :: cs) =
        if c.isDigit then
          if acc * 10 + digitValue c > bound then .error .range
          else readDigits bound (acc * 10 + digitValue c) cs
        else .error .malformed := rfl
    have hval : digitsValue acc (c :: cs) = digitsValue (acc * 10 + digitValue c) cs := rfl
    rw [hstep, hval]
    by_cases hd : c.isDigit = true
    · rw [if_pos hd]
      by_cases hb : acc * 10 + digitValue c > bound
      · rw [if_pos hb]
        have := digitsValue_mono (acc * 10 + digitValue c) cs
        constructor
        · intro h; cases h
        · intro h; omega
      · rw [if_neg hb, ih _ (by omega)]
        constructor
        · intro h
          exact ⟨fun x hx => by
            rcases List.mem_cons.1 hx with rfl | hx
            · exact hd
            · exact h.1 x hx, h.2⟩
        · intro h
          exact ⟨fun x hx => h.1 x (List.mem_cons_of_mem _ hx), h.2⟩
    · rw [if_neg hd]
      constructor
      · intro h; cases h
      · intro h; exact absurd (h.1 c List.mem_cons_self) hd

def wordBound (bits : Nat) : Nat := Nat.pow 2 bits - 1

/-- Reads an unsigned numeral into a word of `bits` bits: no sign, digits only. -/
def readNatural (bits : Nat) (s : String) : Except Fault Nat :=
  if s.isEmpty then .error .malformed else readDigits (wordBound bits) 0 s.toList

/-- Reads an unsigned numeral, naming the reader on refusal. -/
def parseNatural (bits : Nat) (s : String) : Except NumeralError Nat :=
  (readNatural bits s).mapError fun f => ⟨"ParseUint", s, f⟩

/-- Reads a signed numeral into an integer of `bits` bits (at most 64): an optional `+` or `-`,
then the digits, refused past the range of the two's-complement word. -/
def parseInteger (bits : Nat) (s : String) : Except NumeralError Int :=
  let cs := s.toList
  let (negative, digits) :=
    match cs with
    | '+' :: rest => (false, rest)
    | '-' :: rest => (true, rest)
    | _ => (false, cs)
  let cutoff := Nat.pow 2 (bits - 1)
  match readNatural bits (String.ofList digits) with
  | .error .malformed => .error ⟨"ParseInt", s, .malformed⟩
  | .error .range => .error ⟨"ParseInt", s, .range⟩
  | .ok n =>
    if !negative && n ≥ cutoff then .error ⟨"ParseInt", s, .range⟩
    else if negative && n > cutoff then .error ⟨"ParseInt", s, .range⟩
    else .ok (if negative then -(n : Int) else n)

def showNatural (n : Nat) : String := toString n

/-- The decimal numeral of an integer, with a leading `-` when negative. -/
def showInteger (n : Int) : String :=
  if n < 0 then "-" ++ toString n.natAbs else toString n.natAbs

end CampusLedger.Decimal
