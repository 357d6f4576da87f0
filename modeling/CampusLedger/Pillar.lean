import CampusLedger.Word
/-!
# Pillars and scores

Reputation is kept in four pillars: attendance, voting, feedback and certification, in that
order. An account holds one score per pillar, the ledger one weight per pillar, and the
composite score is the weighted sum of the four scores.

Adding a delta checks the pillars in order and names the first one whose score would pass the
word range.
-/

namespace CampusLedger

inductive Pillar where
  | attendance
  | voting
  | feedback
  | certification
  deriving DecidableEq, Repr, Inhabited

namespace Pillar

/-- Every pillar, in composite order. -/
def all : List Pillar := [.attendance, .voting, .feedback, .certification]

def name : Pillar → String
  | .attendance => "attendance"
  | .voting => "voting"
  | .feedback => "feedback"
  | .certification => "certification"

def ofName? (s : String) : Option Pillar := all.find? (·.name == s)

/-- Reads a pillar: refused when empty or not a pillar's name. -/
def ofText (s : String) : Except Failure Pillar :=
  if s.isEmpty then .error (.make .invalidInput "pillar cannot be empty")
  else
    match ofName? s with
    | some p => .ok p
    | none => .error (.make .invalidInput "invalid pillar")

end Pillar

/-- One word per pillar: the scores of an account, the weights of the ledger, or a delta. -/
structure Scores where
  attendance : Nat := 0
  voting : Nat := 0
  feedback : Nat := 0
  certification : Nat := 0
  deriving DecidableEq, Repr, Inhabited

namespace Scores

def zero : Scores := {}

def get (s : Scores) : Pillar → Nat
  | .attendance => s.attendance
  | .voting => s.voting
  | .feedback => s.feedback
  | .certification => s.certification

/-- The four words in composite order. -/
def values (s : Scores) : List Nat := [s.attendance, s.voting, s.feedback, s.certification]

/-- The delta that adds `points` to one pillar, named by text; refused for a text that names
no pillar. -/
def deltaFor (pillar : String) (points : Nat) : Except Failure Scores :=
  match Pillar.ofName? pillar with
  | some .attendance => .ok { attendance := points }
  | some .voting => .ok { voting := points }
  | some .feedback => .ok { feedback := points }
  | some .certification => .ok { certification := points }
  | none => .error (.make .invalidInput "invalid pillar")

/-- One pillar's sum, or an overflow naming the pillar. -/
def addPillar (p : Pillar) (a b : Nat) : Except Failure Nat :=
  match Word.add a b with
  | .ok v => .ok v
  | .error f => .error (.wrapCoded .overflow (p.name ++ " score overflows") (.arith f))

/-- The pillarwise sum, checked in composite order. -/
def add (s d : Scores) : Except Failure Scores := do
  let a ← addPillar .attendance s.attendance d.attendance
  let v ← addPillar .voting s.voting d.voting
  let f ← addPillar .feedback s.feedback d.feedback
  let c ← addPillar .certification s.certification d.certification
  pure ⟨a, v, f, c⟩

/-- The composite under weights `w`: the weighted sum of the scores, or an overflow. -/
def composite (w s : Scores) : Except Failure Nat :=
  match Word.weightedSum s.values w.values with
  | .ok v => .ok v
  | .error e => .error (.wrapCoded .overflow "composite score overflows" e)

end Scores

end CampusLedger
