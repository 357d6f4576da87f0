import CampusLedger.Identifier
/-!
# The account registry

A registry maps accounts to records. Registering an account that already has a record is
refused and keeps the record. The total counts every record ever created, and the accounts are
listed in the order of their names' octets.
-/

namespace CampusLedger.Ledger

/-- Records by account, in registration order, and how many were ever created. -/
structure Registry (α : Type) where
  records : List (AccountId × α) := []
  total : Nat := 0
  deriving Repr, Inhabited

namespace Registry

variable {α : Type}

def empty : Registry α := {}

def find? (r : Registry α) (id : AccountId) : Option α :=
  (r.records.find? (·.1 == id)).map (·.2)

def contains (r : Registry α) (id : AccountId) : Bool := r.records.any (·.1 == id)

/-- Stores a fresh record; refused when the account already has one. -/
def register (r : Registry α) (id : AccountId) (record : α) : Except RecordFault (Registry α) :=
  if r.contains id then .error .alreadyUsed
  else .ok { records := r.records ++ [(id, record)], total := r.total + 1 }

def lookup (r : Registry α) (id : AccountId) : Except RecordFault α :=
  match r.find? id with
  | some a => .ok a
  | none => .error .notFound

/-- Replaces the record of a registered account; refused for an unknown one. -/
def put (r : Registry α) (id : AccountId) (record : α) : Except RecordFault (Registry α) :=
  if r.contains id then
    .ok { r with records := r.records.map fun p => if p.1 == id then (id, record) else p }
  else .error .notFound

/-- The registered accounts, ordered by name. -/
def ids (r : Registry α) : List AccountId :=
  (r.records.map (·.1)).mergeSort fun a b => decide (a.name ≤ b.name)

end Registry

end CampusLedger.Ledger
