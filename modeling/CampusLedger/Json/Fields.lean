import CampusLedger.Json.Parse
import CampusLedger.Uuid
import CampusLedger.Time.Layout
/-!
# Reading records from JSON objects

A record is read from an object member by member, in order. A key names the field whose name
equals it, or else the field whose name equals it after case folding (ASCII letters, the long
s and the Kelvin sign fold to capital letters). Each member is read into its field over the
value already there: a later member overwrites an earlier one, `null` leaves a plain field as
it is and empties an optional one, and an object read into a nested record adds its members to
those read before.

A value of the wrong kind is a failure of the whole record, and so is an unknown key when the
record admits none; reading continues past both only to find the remaining members.
-/

namespace CampusLedger.Json

/-- A character folded for matching keys to field names. -/
def foldChar (c : Char) : Char :=
  if 'a' ≤ c && c ≤ 'z' then Char.ofNat (c.toNat - 32)
  else if c.toNat == 0x17F then 'S'
  else if c.toNat == 0x212A then 'K'
  else c

def foldKey (s : String) : String := s.map foldChar

/-- The field a key names: the one equal to it, else the first equal to it after folding. -/
def fieldOf? (names : List String) (key : String) : Option String :=
  if names.contains key then some key
  else names.find? fun n => foldKey n == foldKey key

/-- An object's members as a record reads them, where the fields in `raw` hold JSON text as
given: each member under the name of the field its key names, keys that name no field left
out, one member per field. A later member replaces an earlier one, except that two objects
merge, the later's members after the earlier's, in a field that is not raw; a field whose last
value is `null` is left out unless it is raw, where it holds the text `null`. -/
def fieldsKeeping (names raw : List String) (ms : List (String × Json)) : List (String × Json) :=
  let routed := ms.foldl (fun acc (k, v) =>
    match fieldOf? names k with
    | none => acc
    | some n =>
      match acc.find? (·.1 == n) with
      | none => acc ++ [(n, v)]
      | some (_, old) =>
        let merged := match old, v with
          | .obj a, .obj b => if raw.contains n then v else Json.obj (a ++ b)
          | _, _ => v
        acc.map fun p => if p.1 == n then (n, merged) else p) []
  routed.filter fun (k, v) =>
    match v with
    | .null => raw.contains k
    | _ => true

/-- An object's members as a record with no raw field reads them (`fieldsKeeping`). -/
def fieldsOf (names : List String) (ms : List (String × Json)) : List (String × Json) :=
  fieldsKeeping names [] ms

/-- A value read as a record with the given fields, those in `raw` holding JSON text: an
object's members by `fieldsKeeping`, any other value as it is. -/
def asRecordKeeping (names raw : List String) (v : Json) : Json :=
  match v with
  | .obj ms => .obj (fieldsKeeping names raw ms)
  | other => other

/-- A value read as a record with the given fields and no raw field. -/
def asRecord (names : List String) (v : Json) : Json := asRecordKeeping names [] v

def nestRecord (field : String) (names : List String) (v : Json) : Json :=
  match v with
  | .obj ms => .obj (ms.map fun (k, x) => if k == field then (k, asRecord names x) else (k, x))
  | other => other

def nestRecords (field : String) (read : Json → Json) (v : Json) : Json :=
  match v with
  | .obj ms => .obj (ms.map fun (k, x) =>
      if k == field then
        match x with
        | .arr items => (k, .arr (items.map read))
        | other => (k, other)
      else (k, x))
  | other => other

/-- The members of an object routed to the fields of a record. -/
structure Routed where
  /-- For each field that received members, their values in order. -/
  values : List (String × List Json) := []
  /-- Whether a key named no field. -/
  unknown : Bool := false
  deriving Inhabited

def route (names : List String) (members : List (String × Json)) : Routed :=
  members.foldl (fun r (k, v) =>
    match fieldOf? names k with
    | none => { r with unknown := true }
    | some n =>
      if r.values.any (·.1 == n) then
        { r with values := r.values.map fun p => if p.1 == n then (n, p.2 ++ [v]) else p }
      else { r with values := r.values ++ [(n, [v])] }) {}

namespace Routed

def valuesOf (r : Routed) (name : String) : List Json :=
  ((r.values.find? (·.1 == name)).map (·.2)).getD []

/-- Reads a field by folding its values over a starting value. -/
def fold {α : Type} (r : Routed) (name : String) (init : α) (step : α → Json → Except Unit α) :
    Except Unit α :=
  (r.valuesOf name).foldlM step init

/-- A text field: `null` keeps it, a string replaces it. -/
def text (r : Routed) (name : String) (init : String := "") : Except Unit String :=
  r.fold name init fun acc v =>
    match v with
    | .null => .ok acc
    | .str s => .ok s
    | _ => .error ()

end Routed

/-- The value of an unsigned 64-bit numeral: digits only, within the word. -/
def wordOfNumeral? (n : String) : Option Nat :=
  if !n.isEmpty && n.all Char.isDigit then
    let v := n.foldl (fun acc c => acc * 10 + (c.toNat - 48)) 0
    if v < Nat.pow 2 64 then some v else none
  else none

namespace Routed

/-- A word field: `null` keeps it, an unsigned integer numeral replaces it. -/
def word (r : Routed) (name : String) (init : Nat := 0) : Except Unit Nat :=
  r.fold name init fun acc v =>
    match v with
    | .null => .ok acc
    | .num n => match wordOfNumeral? n with
      | some w => .ok w
      | none => .error ()
    | _ => .error ()

/-- An optional word field: `null` empties it, an unsigned integer numeral sets it. -/
def word? (r : Routed) (name : String) : Except Unit (Option Nat) :=
  r.fold name none fun _ v =>
    match v with
    | .null => .ok none
    | .num n => match wordOfNumeral? n with
      | some w => .ok (some w)
      | none => .error ()
    | _ => .error ()

/-- A nested record: `null` keeps it, an object adds its members. -/
def record (r : Routed) (name : String) : Except Unit (List (String × Json)) :=
  r.fold name [] fun acc v =>
    match v with
    | .null => .ok acc
    | .obj ms => .ok (acc ++ ms)
    | _ => .error ()

/-- An optional nested record: `null` empties it, an object adds its members. -/
def record? (r : Routed) (name : String) : Except Unit (Option (List (String × Json))) :=
  r.fold name none fun acc v =>
    match v with
    | .null => .ok none
    | .obj ms => .ok (some (acc.getD [] ++ ms))
    | _ => .error ()

def uuid (r : Routed) (name : String) (init : Uuid := Uuid.nil) : Except Unit Uuid :=
  r.fold name init fun acc v =>
    match v with
    | .null => .ok acc
    | .str s => match Uuid.ofText? s with
      | some u => .ok u
      | none => .error ()
    | _ => .error ()

def instant (r : Routed) (name : String) (init : Instant := ⟨0⟩) : Except Unit Instant :=
  r.fold name init fun acc v =>
    match v with
    | .null => .ok acc
    | .str s => match Instant.ofText? s with
      | some t => .ok t
      | none => .error ()
    | _ => .error ()

end Routed

/-- The members of a record's JSON: an object's members, nothing for `null`, and a failure for
any other value. -/
def recordMembers (v : Json) : Except Unit (List (String × Json)) :=
  match v with
  | .obj ms => .ok ms
  | .null => .ok []
  | _ => .error ()

end CampusLedger.Json
