import CampusLedger.Proofs.CallConditions
import CampusLedger.Proofs.ScoreDelta
import CampusLedger.Proofs.StakedTotal
import CampusLedger.Proofs.Registration
/-!
# Checks and their verdicts

An operation of the ledgers makes its checks in a fixed order, and the first one that fails
decides what the caller is told: the code and the message of the coded failure the operation
returns (`reported`). A `Check` is such a refusal or a pass, and the `Check.verdict` of a list
of checks is the first refusal in it, or success.

Each rule of the records (the guard, a deposit's shape, a credit or debit of a balance, a score
delta) is its own list of checks (`Ledger.Guard.reported_requirePrivileged`, ...). On a campus
where no call site is armed, each step of a transaction either passes, handing its value and its
books on with the campus as it was, or refuses with a check: a step that applies a rule puts the
rule's checks first (`Act.reported_step_check`), a lookup checks that the account is registered
(`Act.reported_step_stakeFind`), and a bank call is reported as the bank answers
(`Act.reported_step_bank`): invalid input for an unknown asset or a receiver that has not opted
in, an internal failure otherwise. A transaction refuses a cancelled request before its body
runs, and a service whose audit queue is open reports what its transaction reports.
-/

namespace CampusLedger

open Act Ledger

/-- A check an operation makes: it passes, or fails with a code and the message reported. -/
abbrev Check := Except (Code × String) Unit

namespace Check

/-- The check that fails with `code` and `message` when `cond` holds. -/
def failIf (cond : Bool) (code : Code) (message : String) : Check :=
  if cond then .error (code, message) else .ok ()

/-- A transaction refuses a cancelled request before it reads the books. -/
def live (ctx : Context) : Check :=
  failIf ctx.cancelled .timeout "transaction aborted: context cancelled"

/-- Only the controller passes, and an empty caller never does. -/
def controller (g : Guard) (caller : AccountId) : Check :=
  failIf (caller.isZero || caller != g.controller) .unauthorized "caller is not the ledger controller"

def launched (g : Guard) : Check :=
  failIf (!g.initialized) .notInitialized "ledger is not initialized"

def unlaunched (g : Guard) : Check :=
  failIf g.initialized .alreadyInitialized "ledger is already initialized"

def registered (found : Bool) : Check :=
  failIf (!found) .unknownAccount "account is not registered"

/-- A bank call that the bank performs passes; a refusal is reported as invalid input for an
unknown asset or a receiver that has not opted in, and as an internal failure otherwise. -/
def bank {β : Type} (message : String) (r : Except BankFault β) : Check :=
  (r.map fun _ => ()).mapError fun f =>
    if f = .unknownAsset then (.invalidInput, "asset does not exist")
    else if f = .notOptedIn then (.invalidInput, "receiver has not opted in to the asset")
    else (.internal, message)

@[simp] theorem bank_map {β γ : Type} (msg : String) (r : Except BankFault β) (f : β → γ) :
    bank msg (r.map f) = bank msg r := by
  cases r <;> rfl

/-- The verdict of checks made in order: the code and message of the first that fails, or
success when none does. -/
def verdict (ks : List Check) : Except (Option (Code × String)) Unit :=
  (ks.forM id).mapError some

@[simp] theorem verdict_nil : verdict [] = .ok () := rfl

@[simp] theorem verdict_failIf_cons (cond : Bool) (code : Code) (message : String)
    (ks : List Check) :
    verdict (failIf cond code message :: ks) =
      if cond then .error (some (code, message)) else verdict ks := by
  cases cond <;> rfl

@[simp] theorem verdict_pass_cons (ks : List Check) : verdict (.ok () :: ks) = verdict ks := rfl

@[simp] theorem verdict_error_cons (p : Code × String) (ks : List Check) :
    verdict (.error p :: ks) = .error (some p) := rfl

theorem verdict_append (ks ks' : List Check) :
    verdict (ks ++ ks') = verdict ks >>= fun _ => verdict ks' := by
  induction ks with
  | nil => rfl
  | cons k ks ih =>
    rcases k with p | ⟨⟩
    · rfl
    · exact ih

@[simp] theorem verdict_bind_pass (ks : List Check) :
    (verdict ks >>= fun _ => (.ok () : Except (Option (Code × String)) Unit)) =
      verdict ks := by
  rw [← verdict_nil, ← verdict_append, List.append_nil]

end Check

/-- What an outcome tells its caller: success, or the code and message of its first coded
failure. -/
def reported {α : Type} (r : Except Failure α) : Except (Option (Code × String)) Unit :=
  (r.map fun _ => ()).mapError Failure.firstCoded?

section Reported

variable {α β σ : Type}

@[simp] theorem reported_error (e : Failure) :
    reported (.error e : Except Failure α) = .error e.firstCoded? := rfl

@[simp] theorem reported_ok (a : α) : reported (.ok a : Except Failure α) = .ok () := rfl

@[simp] theorem Failure.firstCoded?_make (k : Code) (m : String) :
    (Failure.make k m).firstCoded? = some (k, m) := rfl

@[simp] theorem Failure.firstCoded?_wrapCoded (k : Code) (m : String) (e : Failure) :
    (Failure.wrapCoded k m e).firstCoded? = some (k, m) := rfl

theorem reported_bind (r : Except Failure Unit) (f : Unit → Except Failure β) :
    reported (r >>= f) = reported r >>= fun _ => reported (f ()) := by
  cases r <;> rfl

/-- A bank refusal, reported through `assetFailure`, tells what `Check.bank` says. -/
theorem firstCoded?_assetFailure_bank (message : String) (f : BankFault) :
    (assetFailure message (.bank f)).firstCoded? =
      some (if f = .unknownAsset then (.invalidInput, "asset does not exist")
        else if f = .notOptedIn then (.invalidInput, "receiver has not opted in to the asset")
        else (.internal, message)) := by
  cases f <;> rfl

end Reported

namespace Ledger.Guard

variable (g : Guard) (caller : AccountId)

theorem reported_requireController :
    reported (g.requireController caller) = Check.verdict [Check.controller g caller] := by
  unfold requireController Check.controller
  cases caller.isZero || caller != g.controller <;> rfl

theorem reported_requireInitialized :
    reported g.requireInitialized = Check.verdict [Check.launched g] := by
  unfold requireInitialized Check.launched
  cases g.initialized <;> rfl

/-- A privileged call checks the caller, then that the ledger is launched. -/
theorem reported_requirePrivileged :
    reported (g.requirePrivileged caller) =
      Check.verdict [Check.controller g caller, Check.launched g] := by
  unfold requirePrivileged
  rw [reported_bind, reported_requireController, reported_requireInitialized,
    ← Check.verdict_append]
  rfl

/-- A launch checks the caller, then that the ledger is not launched yet. -/
theorem reported_canInitialize :
    reported (g.canInitialize caller) =
      Check.verdict [Check.controller g caller, Check.unlaunched g] := by
  unfold canInitialize requireController Check.controller Check.unlaunched
  cases caller.isZero || caller != g.controller <;> cases g.initialized <;> rfl

end Ledger.Guard

namespace Staking

/-- The checks of a deposit's shape, in the order the ledger makes them. -/
def Config.depositChecks (cfg : Config) (caller : AccountId) (t : Transfer) : List Check :=
  [Check.failIf (t.asset != cfg.asset) .invalidDeposit "deposit is not the staked asset",
   Check.failIf (t.target != cfg.escrow) .invalidDeposit "deposit must be sent to the escrow",
   Check.failIf (t.amount == 0) .invalidDeposit "deposit amount must be positive",
   Check.failIf (t.source == cfg.escrow) .invalidDeposit "escrow cannot stake its own holding",
   Check.failIf (t.source != caller) .invalidDeposit "deposit must be sent by the caller"]

theorem Config.reported_checkDeposit (cfg : Config) (caller : AccountId) (t : Transfer) :
    reported (cfg.checkDeposit caller t) = Check.verdict (cfg.depositChecks caller t) := by
  simp only [checkDeposit, depositChecks, Check.verdict_failIf_cons]
  split_ifs <;> rfl

/-- The checks of a stake on a record: its balance, then the total, each within a word. -/
def Account.creditChecks (a : Account) (cfg : Config) (amount : Nat) : List Check :=
  [Check.failIf (decide (Word.max < a.staked + amount)) .overflow "staked balance overflows",
   Check.failIf (decide (Word.max < cfg.totalStaked + amount)) .overflow "total staked overflows"]

theorem Account.reported_stake (a : Account) (cfg : Config) (amount : Nat) (now : Instant) :
    reported (a.stake cfg amount now) = Check.verdict (a.creditChecks cfg amount) := by
  simp only [Account.stake, creditChecks, Word.add_eq, Check.verdict_failIf_cons, decide_eq_true_eq]
  by_cases hb : a.staked + amount ≤ Word.max
  · by_cases ht : cfg.totalStaked + amount ≤ Word.max
    · simp [hb, ht, Nat.not_lt.mpr hb, Nat.not_lt.mpr ht]
    · simp [hb, ht, Nat.not_lt.mpr hb, Nat.lt_of_not_le ht]
  · simp [hb, Nat.lt_of_not_le hb]

/-- The checks of a withdrawal from a record: a positive amount, covered by the balance. -/
def Account.debitChecks (a : Account) (amount : Nat) : List Check :=
  [Check.failIf (amount == 0) .invalidInput "withdraw amount must be positive",
   Check.failIf (decide (a.staked < amount)) .insufficientBalance
     "withdraw amount exceeds staked balance"]

theorem Account.reported_canWithdraw (a : Account) (amount : Nat) :
    reported (a.canWithdraw amount) = Check.verdict (a.debitChecks amount) := by
  simp only [canWithdraw, debitChecks, Check.verdict_failIf_cons, decide_eq_true_eq]
  split_ifs <;> rfl

end Staking

/-- The overflow check of a delta added to scores under weights `w`: it names the first pillar
whose sum passes the word range, else the composite when the weighted sum passes it. -/
def Scores.deltaCheck (s d w : Scores) : Check :=
  (s.firstOverflow d).elim
    (Check.failIf (decide (Word.max < Scores.weighted w (s.plus d))) .overflow
      "composite score overflows")
    fun p => .error (.overflow, p.name ++ " score overflows")

theorem Reputation.Account.reported_applyDelta (a : Account) (d w : Scores) (now : Instant) :
    reported (a.applyDelta d w now) = Check.verdict [a.scores.deltaCheck d w] := by
  rw [Account.applyDelta_eq]
  unfold Scores.deltaCheck
  cases a.scores.firstOverflow d with
  | some p => rfl
  | none =>
    simp only [Option.elim, Check.verdict_failIf_cons, decide_eq_true_eq, Check.verdict_nil]
    by_cases hfit : Scores.weighted w (a.scores.plus d) ≤ Word.max
    · simp [hfit]
    · simp [hfit, Nat.lt_of_not_le hfit, Scores.compositeOverflow]

namespace Ledger.Registry

variable {α : Type} {r : Registry α} {id : AccountId} {x : α}

theorem contains_of_find? (h : r.find? id = some x) : r.contains id = true :=
  contains_iff.mpr (List.mem_map.mpr ⟨_, mem_of_find? h, rfl⟩)

theorem lookup_of_find?_none (h : r.find? id = none) : r.lookup id = .error .notFound := by
  unfold lookup
  rw [h]

/-- A registered account's record may be replaced by any other. -/
theorem put_of_find? (h : r.find? id = some x) (y : α) : ∃ r', r.put id y = .ok r' := by
  unfold put
  rw [if_pos (contains_of_find? h)]
  exact ⟨_, rfl⟩
end Ledger.Registry

namespace Staking.Book

variable {b : Book} {id : AccountId} {a : Account}

/-- A found record may be saved again under its own account, whatever else changed in it. -/
theorem saveAccount_of_find (hk : b.accounts.Keyed Account.id) (hf : b.accounts.find? id = some a)
    (a' : Account) (hid : a'.id = a.id) : ∃ b', b.saveAccount .readWrite a' = .ok b' := by
  have hfiled : a.id = id := hk.key_eq _ (Registry.mem_of_find? hf)
  obtain ⟨r', hr⟩ := Registry.put_of_find? hf a'
  refine ⟨{ b with accounts := r' }, ?_⟩
  simp only [saveAccount, Access.write, hid, hfiled, hr]
  rfl
end Staking.Book

namespace Reputation.Book

variable {b : Book} {id : AccountId} {a : Account}

/-- A found record may be saved again under its own account, whatever else changed in it. -/
theorem saveAccount_of_find (hk : b.accounts.Keyed Account.id) (hf : b.accounts.find? id = some a)
    (a' : Account) (hid : a'.id = a.id) : ∃ b', b.saveAccount .readWrite a' = .ok b' := by
  have hfiled : a.id = id := hk.key_eq _ (Registry.mem_of_find? hf)
  obtain ⟨r', hr⟩ := Registry.put_of_find? hf a'
  refine ⟨{ b with accounts := r' }, ?_⟩
  simp only [saveAccount, Access.write, hid, hfiled, hr]
  rfl
end Reputation.Book

namespace Act

variable {α β γ σ : Type} {c c' : Campus} {b b' : σ}

/-- A step that passes hands its value and books to the rest. -/
theorem reported_step_ok {x : StateT σ Act α} {f : α → StateT σ Act β} {a : α}
    (h : (x b).exec c = (.ok (a, b'), c')) :
    reported (((x >>= f) b).exec c).1 = reported ((f a b').exec c').1 := by
  rw [step_bind, h]

/-- A rule applied in a step: the rule's verdict first, then the rest. -/
theorem reported_step_check (r : Except Failure Unit) (f : Unit → StateT σ Act β) :
    reported (((check r >>= f) b).exec c).1 =
      reported r >>= fun _ => reported ((f () b).exec c).1 := by
  cases r with
  | error e => rfl
  | ok u => rfl

/-- A refusal made in place by a step: its check first, then the rest. -/
theorem reported_step_throwIf (cond : Bool) (k : Code) (m : String) (j : Unit → StateT σ Act β) :
    reported (((if cond = true then throw (Failure.make k m) >>= j else j ()) b).exec c).1 =
      Check.verdict [Check.failIf cond k m] >>= fun _ => reported ((j () b).exec c).1 := by
  cases cond <;> rfl

/-- A refusal made in place before a transaction starts. -/
theorem reported_throwIf (cond : Bool) (k : Code) (m : String) (j : Unit → Act β) :
    reported ((if cond = true then throw (Failure.make k m) >>= j else j ()).exec c).1 =
      Check.verdict [Check.failIf cond k m] >>= fun _ => reported ((j ()).exec c).1 := by
  cases cond <;> rfl

/-- The last rule of a transaction, after which every step passes: it reports what the rule
does. -/
theorem reported_step_rule {m : StateT σ Act β} {r : Except Failure γ} {b : σ}
    (herr : ∀ e, r = .error e → (m b).exec c = (.error e, c))
    (hok : ∀ v, r = .ok v → ∃ w b' c', (m b).exec c = (.ok (w, b'), c')) :
    reported ((m b).exec c).1 = reported r := by
  cases r with
  | error e => rw [herr e rfl]; rfl
  | ok v =>
    obtain ⟨w, b', c', hm⟩ := hok v rfl
    rw [hm]
    rfl

theorem exec_optIn_zero (hz : c.faults.countOf "bank.OptIn" = 0) (asset : AssetId)
    (holder : AccountId) :
    ((optIn asset holder).exec c).1 = ((c.bank.optIn asset holder).map fun _ => ()).mapError .bank := by
  unfold optIn
  rw [exec_bind, exec_faultAt_zero hz]
  dsimp only
  rw [exec_bind, exec_get]
  dsimp only
  rw [exec_bind, exec_bankResult]
  cases c.bank.optIn asset holder <;> rfl

theorem exec_transfer_zero (hz : c.faults.countOf "bank.Transfer" = 0) (asset : AssetId)
    (source target : AccountId) (amount : Nat) :
    ((transfer asset source target amount).exec c).1 =
      ((c.bank.transfer asset source target amount (Uuid.numbered (c.issued + 1))).map
        Prod.snd).mapError .bank := by
  unfold transfer
  rw [exec_bind, exec_faultAt_zero hz]
  dsimp only
  rw [exec_bind, exec_get]
  dsimp only
  rw [exec_bind, exec_bankResult]
  cases c.bank.transfer asset source target amount (Uuid.numbered (c.issued + 1)) <;> rfl

/-- A bank call in a step, reported through `assetAccess`, with nothing after it that can fail.
The call `x` acts on the campus as the bank answers `r`. -/
theorem reported_step_bank {x : Act γ} {r : Except BankFault γ} (hx : (x.exec c).1 = r.mapError .bank)
    (msg : String) (a : β) :
    reported (((assetAccess msg (liftM x : StateT σ Act γ) >>= fun _ => pure a) b).exec c).1 =
      Check.verdict [Check.bank msg r] := by
  unfold assetAccess
  rw [step_bind, step_tryCatch, step_lift]
  rcases hxc : x.exec c with ⟨e | v, c₁⟩ <;> rw [hxc] at hx <;> cases r <;> cases hx
  · rename_i f
    simp only [step_throw, reported_error, firstCoded?_assetFailure_bank]
    rfl
  · rfl

end Act

namespace Act

section Staking

variable {β : Type} {c : Campus} {b : Staking.Book}

/-- A write to the staking books under an unarmed site: the books it gives, or its fault. -/
theorem step_stakingWrite {site : String} (hz : c.faults.countOf site = 0)
    (w : Staking.Book → Except RecordFault Staking.Book) :
    ((do liftM (faultAt site); set (← OnStaking.stored (w (← get))) : OnStaking Unit) b).exec c =
      (((w b).map fun b' => ((), b')).mapError .record, c) := by
  rw [step_guarded_zero hz]
  simp only [step_bind, step_get]
  cases w b <;> rfl

/-- A staking lookup: the account must be registered, and its record is handed on. -/
theorem reported_step_stakeFind (hz : c.faults.countOf "stake.FindAccount" = 0) (id : AccountId)
    (f : Staking.Account → OnStaking β) :
    reported (((accountAccess (OnStaking.findAccount id) >>= f) b).exec c).1 =
      Check.verdict [Check.registered (b.accounts.find? id).isSome] >>= fun _ =>
        (b.accounts.find? id).elim (.ok ()) fun a => reported ((f a b).exec c).1 := by
  cases hf : b.accounts.find? id with
  | none =>
    have hx : ((accountAccess (OnStaking.findAccount id) : OnStaking Staking.Account) b).exec c =
        (.error (.make .unknownAccount "account is not registered"), c) := by
      unfold accountAccess OnStaking.findAccount
      rw [step_tryCatch, step_guarded_zero hz]
      simp only [step_bind, step_get, Staking.Book.findAccount, Registry.lookup_of_find?_none hf]
      rfl
    rw [step_bind, hx]
    rfl
  | some a =>
    rw [reported_step_ok (accountAccess_ok.mpr
      (exec_stakeFindAccount_zero hz (Registry.lookup_of_find? hf)))]
    rfl

/-- Crediting a receipt: refused, with the handler's failure, when its transfer was credited. -/
theorem reported_step_recordDeposit (hz : c.faults.countOf "stake.RecordDeposit" = 0)
    (t : Transfer) {h : Failure → OnStaking Unit} {k : Code} {m : String}
    (hh : (h (.record .alreadyUsed) b).exec c = (.error (.make k m), c)) (f : Unit → OnStaking β) :
    reported (((tryCatch (OnStaking.recordDeposit .readWrite t) h >>= f) b).exec c).1 =
      Check.verdict [Check.failIf (b.deposits.any (·.id == t.id)) k m] >>= fun _ =>
        reported ((f () { b with deposits := b.deposits ++ [t] }).exec c).1 := by
  unfold OnStaking.recordDeposit
  rw [step_bind, step_tryCatch, step_stakingWrite hz]
  simp only [Staking.Book.recordDeposit, Access.write]
  cases hany : b.deposits.any (·.id == t.id)
  · simp only [Bool.false_eq_true, if_false, Except.map, Except.mapError]
    rfl
  · simp only [if_true, Except.map, Except.mapError, hh]
    rfl

end Staking

section Reputation

variable {β : Type} {c : Campus} {b : Reputation.Book}

/-- A write to the reputation books under an unarmed site: the books it gives, or its fault. -/
theorem step_reputationWrite {site : String} (hz : c.faults.countOf site = 0)
    (w : Reputation.Book → Except RecordFault Reputation.Book) :
    ((do liftM (faultAt site); set (← OnReputation.stored (w (← get))) : OnReputation Unit) b).exec c =
      (((w b).map fun b' => ((), b')).mapError .record, c) := by
  rw [step_guarded_zero hz]
  simp only [step_bind, step_get]
  cases w b <;> rfl

theorem exec_repSaveConfig_zero (hz : c.faults.countOf "rep.SaveConfig" = 0)
    (cfg : Reputation.Config) :
    (OnReputation.saveConfig .readWrite cfg b).exec c = (.ok ((), { b with config := cfg }), c) := by
  unfold OnReputation.saveConfig
  rw [step_reputationWrite hz]
  rfl

/-- A reputation lookup: the account must be registered, and its record is handed on. -/
theorem reported_step_repFind (hz : c.faults.countOf "rep.FindAccount" = 0) (id : AccountId)
    (f : Reputation.Account → OnReputation β) :
    reported (((accountAccess (OnReputation.findAccount id) >>= f) b).exec c).1 =
      Check.verdict [Check.registered (b.accounts.find? id).isSome] >>= fun _ =>
        (b.accounts.find? id).elim (.ok ()) fun a => reported ((f a b).exec c).1 := by
  cases hf : b.accounts.find? id with
  | none =>
    have hx : ((accountAccess (OnReputation.findAccount id) : OnReputation Reputation.Account) b).exec c =
        (.error (.make .unknownAccount "account is not registered"), c) := by
      unfold accountAccess OnReputation.findAccount
      rw [step_tryCatch, step_guarded_zero hz]
      simp only [step_bind, step_get, Reputation.Book.findAccount, Registry.lookup_of_find?_none hf]
      rfl
    rw [step_bind, hx]
    rfl
  | some a =>
    rw [reported_step_ok (accountAccess_ok.mpr
      (exec_repFindAccount_zero hz (Registry.lookup_of_find? hf)))]
    rfl

end Reputation

variable {α β : Type} {c : Campus}

/-- A call counted as an operation, whose result is then published: on a campus with an open
audit queue it reports what the call reports, since publishing then succeeds. -/
theorem reported_service {l o : String} {x : Act α} {post : α → Act β}
    (hx : Within Frame.steady x)
    (hpost : ∀ a c, c.outbox.closed = false → ∃ v c', (post a).exec c = (.ok v, c'))
    (hc : c.outbox.closed = false) :
    reported ((instrumented l o x >>= post).exec c).1 = reported (x.exec c).1 := by
  rw [exec_bind, exec_instrumented]
  rcases hxc : x.exec c with ⟨e | a, c₁⟩
  · rfl
  · have h₁ : c₁.outbox.closed = false := by
      have hq := (hx c).1
      rw [hxc] at hq
      exact hq.trans hc
    have h₂ := (Frame.quiet_queue (quiet_observeOperation l o "ok" c₁)).trans h₁
    obtain ⟨v, c', hp⟩ := hpost a _ h₂
    dsimp only
    rw [hp]
    rfl

/-- A staking transaction refuses a cancelled request, then reports what its body reports. -/
theorem reported_stakingTx (hz : c.faults.countOf "stake.RunInTx" = 0) (ctx : Context)
    (body : OnStaking α) :
    reported ((stakingTx ctx body).exec c).1 =
      Check.verdict [Check.live ctx] >>= fun _ => reported ((body c.staking).exec c).1 := by
  unfold stakingTx
  rw [exec_bind, exec_faultAt_zero hz]
  dsimp only
  cases hl : ctx.cancelled
  · rw [exec_bind, exec_checkContext_live hl]
    dsimp only
    rw [exec_bind, exec_get]
    dsimp only
    rw [exec_bind, show StateT.run body c.staking = body c.staking from rfl]
    simp only [Check.live, hl, Check.verdict_failIf_cons, Bool.false_eq_true, if_false,
      Check.verdict_nil]
    rcases (body c.staking).exec c with ⟨e | ⟨a, d⟩, c₁⟩ <;> rfl
  · rw [exec_bind, exec_checkContext_cancelled hl]
    simp only [Check.live, hl, Check.verdict_failIf_cons, if_true, reported_error,
      Failure.firstCoded?_wrapCoded]
    rfl

/-- A reputation transaction refuses a cancelled request, then reports what its body reports. -/
theorem reported_reputationTx (hz : c.faults.countOf "rep.RunInTx" = 0) (ctx : Context)
    (body : OnReputation α) :
    reported ((reputationTx ctx body).exec c).1 =
      Check.verdict [Check.live ctx] >>= fun _ => reported ((body c.reputation).exec c).1 := by
  unfold reputationTx
  rw [exec_bind, exec_faultAt_zero hz]
  dsimp only
  cases hl : ctx.cancelled
  · rw [exec_bind, exec_checkContext_live hl]
    dsimp only
    rw [exec_bind, exec_get]
    dsimp only
    rw [exec_bind, show StateT.run body c.reputation = body c.reputation from rfl]
    simp only [Check.live, hl, Check.verdict_failIf_cons, Bool.false_eq_true, if_false,
      Check.verdict_nil]
    rcases (body c.reputation).exec c with ⟨e | ⟨a, d⟩, c₁⟩ <;> rfl
  · rw [exec_bind, exec_checkContext_cancelled hl]
    simp only [Check.live, hl, Check.verdict_failIf_cons, if_true, reported_error,
      Failure.firstCoded?_wrapCoded]
    rfl

end Act

end CampusLedger
