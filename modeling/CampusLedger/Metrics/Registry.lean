/-!
# Metric registries

A registry holds metric families: counters, gauges and histograms, each with a name, a help
text and label names. A family with label names has no series until a combination of label
values is first used; a family without them has its one series from the start, at zero.

Values are doubles, as in the exposition format. A histogram series counts its samples; their
durations are not kept, since they measure the wall clock.
-/

namespace CampusLedger.Metrics

inductive Kind where
  | counter
  | gauge
  | histogram
  deriving DecidableEq, Repr, Inhabited

def Kind.name : Kind → String
  | .counter => "counter"
  | .gauge => "gauge"
  | .histogram => "histogram"

/-- One series: its label values, in the order of the family's label names. A counter keeps
what it was given in whole numbers apart, as a 64-bit word, from the double that takes the rest. -/
structure Series where
  labels : List String
  value : Float := 0
  whole : Nat := 0
  count : Nat := 0
  deriving Inhabited

/-- The series' value: its double plus its whole part. -/
def Series.total (s : Series) : Float := s.value + Float.ofNat s.whole

/-- The whole number a double stands for, when it is one below 2^64. -/
def wholeOf? (x : Float) : Option Nat :=
  if x ≥ 0 && x < 18446744073709551616.0 && x == x.floor then some x.toUInt64.toNat else none

/-- Adds to a series of a family of the given kind. A counter adds a whole number to its word,
which wraps past 2^64, and anything else to its double; a gauge adds to its double. -/
def Series.plus (kind : Kind) (x : Float) (s : Series) : Series :=
  match kind, wholeOf? x with
  | .counter, some n => { s with whole := (s.whole + n) % Nat.pow 2 64 }
  | _, _ => { s with value := s.value + x }

/-- A metric family and its series, in the order they were first used. -/
structure Family where
  name : String
  help : String
  kind : Kind
  labelNames : List String := []
  series : List Series := []
  deriving Inhabited

/-- A family with its label-less series at zero, or with no series when it has label names. -/
def Family.fresh (name help : String) (kind : Kind) (labelNames : List String := []) : Family :=
  { name, help, kind, labelNames, series := if labelNames.isEmpty then [{ labels := [] }] else [] }

/-- Updates the series of the given label values, creating it at zero when new. -/
def Family.update (f : Family) (labels : List String) (g : Series → Series) : Family :=
  if f.series.any (·.labels == labels) then
    { f with series := f.series.map fun s => if s.labels == labels then g s else s }
  else { f with series := f.series ++ [g { labels }] }

structure Registry where
  families : List Family := []
  deriving Inhabited

namespace Registry

def register (r : Registry) (f : Family) : Registry := { families := r.families ++ [f] }

/-- Applies an update to the named family's series, if the family is registered. -/
def update (r : Registry) (name : String) (labels : List String) (g : Series → Series) :
    Registry :=
  { families := r.families.map fun f => if f.name == name then f.update labels g else f }

def add (r : Registry) (name : String) (labels : List String) (x : Float) : Registry :=
  { families := r.families.map fun f =>
      if f.name == name then f.update labels (Series.plus f.kind x) else f }

def inc (r : Registry) (name : String) (labels : List String := []) : Registry := r.add name labels 1

def set (r : Registry) (name : String) (labels : List String) (x : Float) : Registry :=
  r.update name labels fun s => { s with value := x }

def observe (r : Registry) (name : String) (labels : List String) : Registry :=
  r.update name labels fun s => { s with count := s.count + 1 }

def has (r : Registry) (name : String) : Bool := r.families.any (·.name == name)

end Registry

/-- Lexicographic order of label values. -/
def labelsBefore : List String → List String → Bool
  | [], [] => false
  | [], _ :: _ => true
  | _ :: _, [] => false
  | a :: as, b :: bs => if a == b then labelsBefore as bs else decide (a < b)

/-- A family's label names with its series' values, ordered by name. -/
def Family.sortedPairs (f : Family) (s : Series) : List (String × String) :=
  (f.labelNames.zip s.labels).mergeSort fun a b => decide (a.1 ≤ b.1)

/-- A family's series ordered by their label values, taken in the order of the sorted label
names. -/
def Family.sortedSeries (f : Family) : List Series :=
  f.series.mergeSort fun a b =>
    !labelsBefore ((f.sortedPairs b).map (·.2)) ((f.sortedPairs a).map (·.2))

/-- The families that have series, ordered by name. -/
def Registry.gather (r : Registry) : List Family :=
  (r.families.filter fun f => !f.series.isEmpty).mergeSort fun a b => decide (a.name ≤ b.name)

end CampusLedger.Metrics
