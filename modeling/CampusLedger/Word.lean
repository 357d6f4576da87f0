import CampusLedger.Failure
import CampusLedger.Decimal.Natural
/-!
# 64-bit words

Amounts, scores, weights and totals are unsigned 64-bit words. They are kept as natural
numbers, and every operation that could leave the word range checks instead of wrapping: an
addition past `Word.max` is an overflow, a subtraction below zero an underflow, and a weighted
sum is refused when it passes `Word.max`.

Sums and weighted sums are formed in 256-bit words (`Wide`) with the addition and
multiplication of a word library, which the operations take as a parameter (`Wide.Ops`); a
flag or a result past 64 bits is an overflow. The ledgers assume that the library wraps modulo
2^256 and raises its flag when the exact result does not fit (`Wide.Ops.Lawful`), and run with
operations that do (`Wide.uint256`). `addWith_eq` and `weightedSumWith_eq` show that lawful wide
words never change an answer: both are the exact result when it fits `Word.max`, and an
overflow otherwise.

A word stored as decimal text is read back by `Numeric.scan`, which accepts no value, a
non-negative integer, or a decimal numeral.
-/

namespace CampusLedger

namespace Wide

/-- 2^256, the modulus of the wide words. -/
def modulus : Nat := Nat.pow 2 256

/-- The 256-bit sum and product that the ledgers take from their word library, each with the
flag the library raises when a carry is lost. -/
structure Ops where
  addOverflow : Nat → Nat → Nat × Bool
  mulOverflow : Nat → Nat → Nat × Bool

/-- What the ledgers assume of the library: each result is the exact one modulo 2^256, flagged
exactly when the exact result reaches 2^256. -/
structure Ops.Lawful (u : Ops) : Prop where
  add : ∀ x y, u.addOverflow x y = ((x + y) % modulus, decide (modulus ≤ x + y))
  mul : ∀ x y, u.mulOverflow x y = ((x * y) % modulus, decide (modulus ≤ x * y))

/-- The library's operations as the ledgers assume them; the ledgers run with these. -/
def uint256 : Ops where
  addOverflow x y := ((x + y) % modulus, decide (modulus ≤ x + y))
  mulOverflow x y := ((x * y) % modulus, decide (modulus ≤ x * y))

theorem uint256_lawful : uint256.Lawful := ⟨fun _ _ => rfl, fun _ _ => rfl⟩

def isUint64 (x : Nat) : Bool := decide (x < Nat.pow 2 64)

def toUint64 (x : Nat) : Nat := x % Nat.pow 2 64

end Wide

namespace Word

def max : Nat := Nat.pow 2 64 - 1

/-- The sum, formed in a wide word of `u`: an overflow when the flag is set or the sum passes
64 bits. -/
def addWith (u : Wide.Ops) (a b : Nat) : Except ArithFault Nat :=
  let sum := u.addOverflow a b
  if sum.2 || !Wide.isUint64 sum.1 then .error .overflow else .ok (Wide.toUint64 sum.1)

def add (a b : Nat) : Except ArithFault Nat := addWith Wide.uint256 a b

/-- The difference, or an underflow below zero. -/
def sub (a b : Nat) : Except ArithFault Nat :=
  if b > a then .error .underflow else .ok (a - b)

/-- The exact sum of the pairwise products. -/
def dot : List Nat → List Nat → Nat
  | v :: vs, w :: ws => v * w + dot vs ws
  | _, _ => 0

/-- The wide running total once the products of the remaining pairs are added to `total`, pair
by pair; `none` as soon as a product or a sum raises its flag. -/
def wideTotal (u : Wide.Ops) (total : Nat) : List Nat → List Nat → Option Nat
  | v :: vs, w :: ws =>
    let term := u.mulOverflow v w
    if term.2 then none
    else
      let sum := u.addOverflow total term.1
      if sum.2 then none else wideTotal u sum.1 vs ws
  | _, _ => some total

/-- The sum of `values[i] * weights[i]`, formed in wide words of `u`: refused when the lists
differ in length, and an overflow when a flag is raised or the total passes 64 bits. -/
def weightedSumWith (u : Wide.Ops) (values weights : List Nat) : Except Failure Nat :=
  if values.length != weights.length then .error (.note "weighted sum: length mismatch")
  else
    match wideTotal u 0 values weights with
    | none => .error (.arith .overflow)
    | some total =>
      if Wide.isUint64 total then .ok (Wide.toUint64 total) else .error (.arith .overflow)

def weightedSum (values weights : List Nat) : Except Failure Nat :=
  weightedSumWith Wide.uint256 values weights

theorem max_lt_modulus : max < Wide.modulus := by decide

theorem lt_two_pow_iff_le_max (x : Nat) : x < Nat.pow 2 64 ↔ x ≤ max := by
  have hmax : max = Nat.pow 2 64 - 1 := rfl
  have hpos : 0 < Nat.pow 2 64 := by decide
  omega

/-- A wide word that fits 64 bits is its own low half. -/
theorem toUint64_of_le_max {x : Nat} (h : x ≤ max) : Wide.toUint64 x = x :=
  Nat.mod_eq_of_lt ((lt_two_pow_iff_le_max x).mpr h)

variable {u : Wide.Ops}

/-- The sum of two words: exact when it fits a word, an overflow otherwise. A lawful wide word
changes no answer, since its flag is only raised past `max` as well. -/
theorem addWith_eq (hu : u.Lawful) (a b : Nat) :
    addWith u a b = if a + b ≤ max then .ok (a + b) else .error .overflow := by
  have hlt := max_lt_modulus
  unfold addWith Wide.isUint64
  rw [hu.add]
  by_cases h : a + b ≤ max
  · have hfit : ¬ Wide.modulus ≤ a + b := by omega
    simp only [Nat.mod_eq_of_lt (Nat.lt_of_not_le hfit), hfit, decide_false,
      (lt_two_pow_iff_le_max _).mpr h, decide_true, Bool.not_true, Bool.or_false, h, if_true,
      toUint64_of_le_max h]
    rfl
  · rw [if_neg h]
    by_cases hwide : Wide.modulus ≤ a + b
    · simp only [hwide, decide_true, Bool.true_or, if_true]
    · have hbig : ¬ a + b < Nat.pow 2 64 := fun h' => h ((lt_two_pow_iff_le_max _).mp h')
      simp only [Nat.mod_eq_of_lt (Nat.lt_of_not_le hwide), hwide, hbig, decide_false,
        Bool.not_false, Bool.or_true, if_true]

theorem add_eq (a b : Nat) : add a b = if a + b ≤ max then .ok (a + b) else .error .overflow :=
  addWith_eq Wide.uint256_lawful a b

theorem add_ok_iff (a b v : Nat) : add a b = .ok v ↔ a + b ≤ max ∧ v = a + b := by
  rw [add_eq]
  by_cases h : a + b ≤ max
  · rw [if_pos h]
    constructor
    · intro hv; cases hv; exact ⟨h, rfl⟩
    · intro hv; rw [hv.2]
  · rw [if_neg h]
    constructor
    · intro hv; cases hv
    · intro hv; exact absurd hv.1 h

/-- One pair of the wide total: the flags are raised exactly when the exact product, or the
exact total with it, reaches the modulus; otherwise the exact total carries on. -/
theorem wideTotal_cons (hu : u.Lawful) (t v w : Nat) (vs ws : List Nat) :
    wideTotal u t (v :: vs) (w :: ws) =
      if Wide.modulus ≤ t + v * w then none else wideTotal u (t + v * w) vs ws := by
  by_cases hmul : Wide.modulus ≤ v * w
  · have hsum : Wide.modulus ≤ t + v * w := Nat.le_trans hmul (Nat.le_add_left _ _)
    simp [wideTotal, hu.mul, hmul, hsum]
  · have hterm : v * w % Wide.modulus = v * w := Nat.mod_eq_of_lt (Nat.lt_of_not_le hmul)
    by_cases hsum : Wide.modulus ≤ t + v * w
    · simp [wideTotal, hu.mul, hu.add, hmul, hterm, hsum]
    · simp [wideTotal, hu.mul, hu.add, hmul, hterm, hsum,
        Nat.mod_eq_of_lt (Nat.lt_of_not_le hsum)]

/-- The wide total never wraps: it is the exact total while that stays below the modulus, and
`none` once it reaches it. -/
theorem wideTotal_eq (hu : u.Lawful) (vs ws : List Nat) {t : Nat} (ht : t < Wide.modulus) :
    wideTotal u t vs ws =
      if t + dot vs ws < Wide.modulus then some (t + dot vs ws) else none := by
  induction vs generalizing ws t with
  | nil => simp [wideTotal, dot, ht]
  | cons v vs ih =>
    cases ws with
    | nil => simp [wideTotal, dot, ht]
    | cons w ws =>
      have hdot : dot (v :: vs) (w :: ws) = v * w + dot vs ws := rfl
      rw [wideTotal_cons hu, hdot]
      by_cases hsum : Wide.modulus ≤ t + v * w
      · -- the partial total already reaches the modulus, and the exact total is no smaller
        have hpast : ¬ t + (v * w + dot vs ws) < Wide.modulus := by omega
        rw [if_pos hsum, if_neg hpast]
      · rw [if_neg hsum, ih ws (by omega), Nat.add_assoc]

/-- The weighted sum: refused on lists of different lengths, else the exact sum of the
pairwise products when it fits a word and an overflow otherwise. Lawful wide words change no
answer: a flag is only raised when the exact sum passes `max` too. -/
theorem weightedSumWith_eq (hu : u.Lawful) (vs ws : List Nat) :
    weightedSumWith u vs ws =
      if vs.length != ws.length then .error (.note "weighted sum: length mismatch")
      else if dot vs ws ≤ max then .ok (dot vs ws) else .error (.arith .overflow) := by
  unfold weightedSumWith
  split
  · rfl
  · have hlt := max_lt_modulus
    rw [wideTotal_eq hu vs ws (Nat.lt_of_le_of_lt (Nat.zero_le _) hlt), Nat.zero_add]
    by_cases hwide : dot vs ws < Wide.modulus
    · rw [if_pos hwide]
      by_cases hle : dot vs ws ≤ max
      · simp only [Wide.isUint64, (lt_two_pow_iff_le_max _).mpr hle, decide_true, if_true, hle,
          toUint64_of_le_max hle]
      · have hbig : ¬ dot vs ws < Nat.pow 2 64 := fun h' => hle ((lt_two_pow_iff_le_max _).mp h')
        simp only [Wide.isUint64, hbig, decide_false, Bool.false_eq_true, if_false, hle]
    · have hle : ¬ dot vs ws ≤ max := by omega
      rw [if_neg hwide, if_neg hle]

theorem weightedSum_eq (vs ws : List Nat) :
    weightedSum vs ws =
      if vs.length != ws.length then .error (.note "weighted sum: length mismatch")
      else if dot vs ws ≤ max then .ok (dot vs ws) else .error (.arith .overflow) :=
  weightedSumWith_eq Wide.uint256_lawful vs ws

end Word

/-- Where a stored word is read from. -/
inductive NumericSource where
  | absent
  /-- A signed 64-bit integer. -/
  | integer (v : Int)
  /-- Decimal text. -/
  | text (s : String)
  /-- Decimal text as octets, which need not spell a text. -/
  | octets (bs : List UInt8)
  /-- A value of another type, named by the type. -/
  | other (typeName : String)
  deriving DecidableEq, Repr

namespace Numeric

/-- Reads a word from its stored form into `target`: no value reads as 0, a non-negative
integer as itself, and decimal text as its value within 64 bits. A refused read leaves the
target as it was, so the result on failure carries it. -/
def scan (target : Nat) : NumericSource → Except (String × Nat) Nat
  | .absent => .ok 0
  | .integer v =>
    if v < 0 then .error ("numeric: negative value " ++ Decimal.showInteger v, target)
    else .ok v.toNat
  | .text s =>
    match Decimal.parseNatural 64 s with
    | .ok n => .ok n
    | .error e => .error ("numeric: " ++ e.message, target)
  | .octets bs =>
    -- an octet that starts no character reads as no digit, and the message quotes the octets
    match Decimal.parseNatural 64 (Text.Utf8.toText bs) with
    | .ok n => .ok n
    | .error e => .error ("numeric: " ++ e.messageOf bs, target)
  | .other t => .error ("numeric: unsupported source type " ++ t, target)

/-- The stored form of a word: its decimal numeral. -/
def value (n : Nat) : String := Decimal.showNatural n

end Numeric

end CampusLedger
