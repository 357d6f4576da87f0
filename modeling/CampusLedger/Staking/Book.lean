import CampusLedger.Staking.Model
import CampusLedger.Ledger.Registry
import CampusLedger.Ledger.Guard
/-!
# The staking ledger's books

The books hold the configuration, the account registry and the credited deposits. A deposit is
credited once: its transfer identifier is refused as already used afterwards. Loading the
configuration reports the registry's total as the number of users.
-/

namespace CampusLedger.Staking

/-- The configuration, the accounts and the credited deposits. -/
structure Book where
  config : Config
  accounts : Ledger.Registry Account := {}
  deposits : List Transfer := []
  deriving Inhabited

namespace Book

open Ledger

def fresh (controller escrow : AccountId) : Book := { config := Config.fresh controller escrow }

/-- The configuration, with the number of accounts ever registered. -/
def loadConfig (b : Book) : Config := { b.config with totalUsers := b.accounts.total }

def saveConfig (b : Book) (access : Access) (c : Config) : Except RecordFault Book :=
  access.write fun _ => .ok { b with config := c }

def createAccount (b : Book) (access : Access) (a : Account) : Except RecordFault Book :=
  access.write fun _ => (b.accounts.register a.id a).map fun r => { b with accounts := r }

def findAccount (b : Book) (id : AccountId) : Except RecordFault Account := b.accounts.lookup id

def saveAccount (b : Book) (access : Access) (a : Account) : Except RecordFault Book :=
  access.write fun _ => (b.accounts.put a.id a).map fun r => { b with accounts := r }

/-- Credits a deposit; refused when its transfer was credited before. -/
def recordDeposit (b : Book) (access : Access) (t : Transfer) : Except RecordFault Book :=
  access.write fun _ =>
    if b.deposits.any (·.id == t.id) then .error .alreadyUsed
    else .ok { b with deposits := b.deposits ++ [t] }

end Book

end CampusLedger.Staking
