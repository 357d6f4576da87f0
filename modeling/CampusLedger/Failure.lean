/-!
# Failures

Every operation of the library fails with a `Failure`. A coded failure carries a `Code` that
transports map to a reply; the other kinds are the plain facts that stores and collaborators
report, which services wrap into coded failures. A failure may wrap a cause, and a joined failure
holds several.

A failure's text is its own message followed by `": "` and the text of its cause. The first
coded failure met in a depth-first walk of the causes decides the code (`Failure.code`).
-/

namespace CampusLedger

/-- The classes of coded failures. Codes outside the fixed taxonomy are kept by name. -/
inductive Code where
  | unauthorized
  | alreadyInitialized
  | notInitialized
  | alreadyRegistered
  | unknownAccount
  | invalidDeposit
  | insufficientBalance
  | overflow
  | invalidInput
  | badRequest
  | notFound
  | conflict
  | rateLimited
  | timeout
  | internal
  | other (name : String)
  deriving DecidableEq, Repr, Inhabited

def Code.taxonomy : List Code :=
  [.unauthorized, .alreadyInitialized, .notInitialized, .alreadyRegistered, .unknownAccount,
    .invalidDeposit, .insufficientBalance, .overflow, .invalidInput, .badRequest, .notFound,
    .conflict, .rateLimited, .timeout, .internal]

/-- The code's name as transports write it. -/
def Code.name : Code → String
  | .unauthorized => "unauthorized"
  | .alreadyInitialized => "already_initialized"
  | .notInitialized => "not_initialized"
  | .alreadyRegistered => "already_registered"
  | .unknownAccount => "unknown_account"
  | .invalidDeposit => "invalid_deposit"
  | .insufficientBalance => "insufficient_balance"
  | .overflow => "overflow"
  | .invalidInput => "invalid_input"
  | .badRequest => "bad_request"
  | .notFound => "not_found"
  | .conflict => "conflict"
  | .rateLimited => "rate_limit_exceeded"
  | .timeout => "timeout"
  | .internal => "internal_error"
  | .other name => name

/-- The code of a name: a taxonomy code when one has that name, else the name kept as is. -/
def Code.ofName (name : String) : Code :=
  match Code.taxonomy.find? (·.name == name) with
  | some c => c
  | none => .other name

inductive BankFault where
  | unknownAsset
  | assetExists
  | notOptedIn
  | insufficientFunds
  | invalidAmount
  | selfTransfer
  | supplyOverflow
  deriving DecidableEq, Repr

def BankFault.name : BankFault → String
  | .unknownAsset => "unknown_asset"
  | .assetExists => "asset_exists"
  | .notOptedIn => "not_opted_in"
  | .insufficientFunds => "insufficient_funds"
  | .invalidAmount => "invalid_amount"
  | .selfTransfer => "self_transfer"
  | .supplyOverflow => "supply_overflow"

def BankFault.text : BankFault → String
  | .unknownAsset => "asset does not exist"
  | .assetExists => "asset already exists"
  | .notOptedIn => "receiver has not opted in to the asset"
  | .insufficientFunds => "sender holds less than the transfer amount"
  | .invalidAmount => "transfer amount must be positive"
  | .selfTransfer => "sender and receiver must differ"
  | .supplyOverflow => "holding would overflow"

/-- A result outside the 64-bit words. -/
inductive ArithFault where
  | overflow
  | underflow
  deriving DecidableEq, Repr

def ArithFault.name : ArithFault → String
  | .overflow => "overflow"
  | .underflow => "underflow"

def ArithFault.text : ArithFault → String
  | .overflow => "uint64 overflow"
  | .underflow => "uint64 underflow"

inductive RecordFault where
  /-- No record has the key. -/
  | notFound
  /-- The key is taken: an identity registered, a transfer credited. -/
  | alreadyUsed
  /-- The store was used in the wrong mode, such as a write inside a read-only view. -/
  | invalidState
  deriving DecidableEq, Repr

def RecordFault.text : RecordFault → String
  | .notFound => "not found"
  | .alreadyUsed => "already used"
  | .invalidState => "invalid state"

inductive Cancel where
  | canceled
  | deadlineExceeded
  deriving DecidableEq, Repr

def Cancel.text : Cancel → String
  | .canceled => "context canceled"
  | .deadlineExceeded => "context deadline exceeded"

/-- A failure: a coded one with an optional cause, a plain fact, or a wrapper around others. -/
inductive Failure where
  /-- A coded failure with its message and optional cause. -/
  | coded (code : Code) (message : String) (cause : Option Failure)
  | bank (fault : BankFault)
  | arith (fault : ArithFault)
  | record (fault : RecordFault)
  | context (reason : Cancel)
  /-- A fault armed on a named call site. -/
  | injected (site : String)
  /-- A plain failure with a text of its own. -/
  | note (text : String)
  /-- A message prefixed to a cause. -/
  | wrap (message : String) (cause : Failure)
  /-- Several failures at once, one per line. -/
  | join (parts : List Failure)
  /-- A fault of the program itself, with the runtime's text. -/
  | panic (text : String)
  deriving Repr, Inhabited

namespace Failure

def make (code : Code) (message : String) : Failure := .coded code message none

def wrapCoded (code : Code) (message : String) (cause : Failure) : Failure :=
  .coded code message (some cause)

mutual
/-- The failure's full text: message, then `": "` and the cause's text. -/
def text : Failure → String
  | .coded _ m none => m
  | .coded _ m (some c) => m ++ ": " ++ text c
  | .bank f => f.text
  | .arith f => f.text
  | .record f => f.text
  | .context r => r.text
  | .injected s => "injected fault: " ++ s
  | .note t => t
  | .wrap m c => m ++ ": " ++ text c
  | .join ps => textLines ps
  | .panic t => t

/-- The texts of joined failures, one per line. -/
def textLines : List Failure → String
  | [] => ""
  | [p] => text p
  | p :: ps => text p ++ "\n" ++ textLines ps
end

mutual
/-- The first coded failure of a depth-first walk: its code and message. -/
def firstCoded? : Failure → Option (Code × String)
  | .coded c m _ => some (c, m)
  | .wrap _ c => firstCoded? c
  | .join ps => firstCodedOf? ps
  | _ => none

def firstCodedOf? : List Failure → Option (Code × String)
  | [] => none
  | p :: ps =>
    match firstCoded? p with
    | some r => some r
    | none => firstCodedOf? ps
end

/-- The code that decides the reply: the first coded failure's, else `internal`. -/
def code (e : Failure) : Code :=
  match e.firstCoded? with
  | some (c, _) => c
  | none => .internal

mutual
/-- Whether some coded failure anywhere among the causes carries the code. -/
def carries (target : Code) : Failure → Bool
  | .coded c _ none => c == target
  | .coded c _ (some e) => c == target || carries target e
  | .wrap _ e => carries target e
  | .join ps => carriesAny target ps
  | _ => false

def carriesAny (target : Code) : List Failure → Bool
  | [] => false
  | p :: ps => carries target p || carriesAny target ps
end

mutual
/-- The chain of codes met by repeatedly taking the first coded failure and moving on to its
cause: the codes that `hasCode` can see. -/
def codeChain : Failure → List Code
  | .coded c _ none => [c]
  | .coded c _ (some e) => c :: codeChain e
  | .wrap _ e => codeChain e
  | .join ps => codeChainOf ps
  | _ => []

/-- The code chain of the first joined part that has a coded failure. -/
def codeChainOf : List Failure → List Code
  | [] => []
  | p :: ps =>
    match codeChain p with
    | [] => codeChainOf ps
    | cs => cs
end

/-- Whether the code occurs on the chain of first coded failures and their causes. -/
def hasCode (e : Failure) (target : Code) : Bool := e.codeChain.contains target

mutual
/-- The name of the first plain fact found among the causes, if it has one: a bank fault or an
arithmetic fault. -/
def factName? : Failure → Option String
  | .bank f => some f.name
  | .arith f => some f.name
  | .wrap _ e => factName? e
  | .join ps => factNameOf? ps
  | _ => none

def factNameOf? : List Failure → Option String
  | [] => none
  | p :: ps =>
    match factName? p with
    | some n => some n
    | none => factNameOf? ps
end

/-- The class of a failure: the first coded failure's code, else the name of a bank or
arithmetic fact, else `panic` for a fault of the program, else `error`. -/
def className (e : Failure) : String :=
  match e.firstCoded? with
  | some (c, _) => c.name
  | none =>
    match e.factName? with
    | some n => n
    | none =>
      match e with
      | .panic _ => "panic"
      | _ => "error"

def innermost : Failure → Failure
  | .coded _ _ (some e) => innermost e
  | .wrap _ e => innermost e
  | e => e

/-- Where the innermost failure of a cause chain sits: the cause's place, taken again and
again. -/
def innermostPlace : Failure → List Nat
  | .coded _ _ (some e) => 0 :: innermostPlace e
  | .wrap _ e => 0 :: innermostPlace e
  | _ => []

/-- What `errors.Is` looks for in a failure's tree: a coded failure of a code, which each coded
failure of that code counts as; the very failure at a place of the tree, given by the index of
each cause on the way down; or a plain failure made afresh, which no failure of a tree is and
none counts as. -/
inductive Target where
  | code (c : Code)
  | place (p : List Nat)
  | fresh

/-- Whether the failure at place `here` is the target, or counts as it. -/
def Target.meets : Target → List Nat → Failure → Bool
  | .code c, _, .coded c' _ _ => c' == c
  | .place p, here, _ => p == here
  | _, _, _ => false

mutual
/-- Whether the failure at place `here`, or a failure among its causes, meets the target. -/
def reaches (t : Target) (here : List Nat) : Failure → Bool
  | .coded c m none => t.meets here (.coded c m none)
  | .coded c m (some e) => t.meets here (.coded c m (some e)) || reaches t (here ++ [0]) e
  | .wrap m e => t.meets here (.wrap m e) || reaches t (here ++ [0]) e
  | .join ps => t.meets here (.join ps) || reachesParts t here 0 ps
  | e => t.meets here e

/-- Whether a joined part, the `i`-th cause onwards, reaches the target. -/
def reachesParts (t : Target) (here : List Nat) (i : Nat) : List Failure → Bool
  | [] => false
  | p :: ps => reaches t (here ++ [i]) p || reachesParts t here (i + 1) ps
end

/-- `errors.Is`: whether the failure or one among its causes meets the target. -/
def is (e : Failure) (t : Target) : Bool := reaches t [] e

end Failure

end CampusLedger
