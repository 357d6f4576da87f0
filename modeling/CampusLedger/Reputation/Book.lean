import CampusLedger.Reputation.Model
import CampusLedger.Ledger.Registry
import CampusLedger.Ledger.Guard
/-!
# The reputation ledger's books

The books hold the configuration and the account registry. Loading the configuration reports
the registry's total as the number of users. Writes go through an `Access`, so that a read-only
view refuses them.
-/

namespace CampusLedger.Reputation

structure Book where
  config : Config
  accounts : Ledger.Registry Account := {}
  deriving Inhabited

namespace Book

open Ledger

def fresh (controller : AccountId) : Book := { config := Config.fresh controller }

/-- The configuration, with the number of accounts ever registered. -/
def loadConfig (b : Book) : Config := { b.config with totalUsers := b.accounts.total }

def saveConfig (b : Book) (access : Access) (c : Config) : Except RecordFault Book :=
  access.write fun _ => .ok { b with config := c }

def createAccount (b : Book) (access : Access) (a : Account) : Except RecordFault Book :=
  access.write fun _ => (b.accounts.register a.id a).map fun r => { b with accounts := r }

def findAccount (b : Book) (id : AccountId) : Except RecordFault Account := b.accounts.lookup id

def saveAccount (b : Book) (access : Access) (a : Account) : Except RecordFault Book :=
  access.write fun _ => (b.accounts.put a.id a).map fun r => { b with accounts := r }

/-- The records of the registered accounts among `ids`, in the order asked, repeats kept. -/
def findAccounts (b : Book) (ids : List AccountId) : List Account :=
  ids.filterMap b.accounts.find?

end Book

end CampusLedger.Reputation
