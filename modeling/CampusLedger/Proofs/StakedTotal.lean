import CampusLedger.Proofs.Calls
import CampusLedger.Proofs.Books
/-!
# The total staked is the sum of the stakes

The staking books stay balanced through every run of calls on a campus: the registry holds one
record per account, filed under it, and the configuration's total staked is the sum of the
staked balances of the registered accounts, which fits a word. A registration adds a record
with nothing staked; a launch leaves the total; a stake adds its amount to one record and to the
total, each within the word range; a withdrawal covered by a balance subtracts it from both.
A failed operation commits nothing, and the calls of the other ledger, the reads and the bank
leave the staking books alone.

So the two subtractions of a withdrawal never go below zero: the amount is covered by the
balance, and the balance by the total.
-/

namespace CampusLedger

namespace Staking

open Act Ledger

/-- The staking books balance: one record per account, filed under it; the total staked is the
sum of the staked balances; and it fits a word. -/
structure Balanced (b : Book) : Prop where
  keyed : b.accounts.Keyed Account.id
  total : b.config.totalStaked = (b.accounts.records.map (·.2.staked)).sum
  bounded : b.config.totalStaked ≤ Word.max

theorem fresh_balanced (controller escrow : AccountId) :
    Balanced (Book.fresh controller escrow) :=
  ⟨Registry.empty_keyed _, rfl, Nat.zero_le _⟩

variable {b d : Book} {c c' : Campus}

/-- One account's stake is at most the total. -/
theorem Balanced.staked_le (hb : Balanced b) {id : AccountId} {a : Account}
    (h : b.findAccount id = .ok a) : a.staked ≤ b.config.totalStaked := by
  rw [hb.total]
  exact List.le_sum_of_mem (List.mem_map.mpr ⟨(id, a), Book.findAccount_ok h, rfl⟩)

theorem Balanced.registerTx {ctx : Context} {caller : AccountId} {r : Account × Nat}
    (hb : Balanced b) (h : (Tx.register ctx caller b).exec c = (.ok (r, d), c')) : Balanced d := by
  obtain ⟨hcreate, -, -⟩ := registerTx_ok h
  obtain ⟨reg, hreg, rfl⟩ := Book.createAccount_ok hcreate
  obtain ⟨-, hrec, -⟩ := Registry.register_ok hreg
  refine ⟨Registry.keyed_register hb.keyed rfl hreg, ?_, hb.bounded⟩
  -- the new record stakes nothing
  simp only [hrec, List.map_append, List.sum_append, List.map_cons, List.map_nil,
    List.sum_cons, List.sum_nil]
  simpa [Account.fresh] using hb.total

theorem Balanced.launchTx {caller : AccountId} {asset : AssetId} {threshold : Nat} {cfg : Config}
    (hb : Balanced b) (h : (Tx.launch caller asset threshold b).exec c = (.ok (cfg, d), c')) :
    Balanced d := by
  obtain ⟨-, -, rfl, hsave, -⟩ := launchTx_ok h
  obtain rfl := Book.saveConfig_ok hsave
  exact ⟨hb.keyed, hb.total, hb.bounded⟩

theorem Balanced.stakeTx {ctx : Context} {caller : AccountId} {t : Transfer} {r : Nat × Nat}
    (hb : Balanced b) (h : (Tx.stake ctx caller t b).exec c = (.ok (r, d), c')) : Balanced d := by
  obtain ⟨a, a', cfg', b₂, b₃, -, -, hfind, -, hrec, hst, hsave, hconf, -, -⟩ := stakeTx_ok h
  obtain ⟨-, rfl⟩ := Book.recordDeposit_ok hrec
  obtain ⟨reg, hput, rfl⟩ := Book.saveAccount_ok hsave
  obtain rfl := Book.saveConfig_ok hconf
  obtain ⟨rfl, rfl, -, hfits⟩ := Account.stake_ok hst
  have hmem := Book.findAccount_ok hfind
  have hid : a.id = caller := hb.keyed.key_eq _ hmem
  obtain ⟨-, hreg, -⟩ := Registry.put_ok hput
  have hsum := Registry.sum_replaced (·.staked)
    { a with staked := a.staked + t.amount, updatedAt := ctx.now } hb.keyed.nodup hmem
  refine ⟨Registry.keyed_put hb.keyed rfl hput, ?_, hfits⟩
  simp only [hid] at hreg hsum
  simp only [Book.loadConfig_totalStaked, hreg]
  have := hb.total
  omega

theorem Balanced.withdrawTx {ctx : Context} {caller : AccountId} {amount : Nat} {r : Nat × Nat}
    (hb : Balanced b) (h : (Tx.withdraw ctx caller amount b).exec c = (.ok (r, d), c')) :
    Balanced d := by
  obtain ⟨a, b₁, bank, t, -, hfind, hcan, hsave, hconf, -, -, -⟩ := withdrawTx_ok h
  obtain ⟨reg, hput, rfl⟩ := Book.saveAccount_ok hsave
  obtain rfl := Book.saveConfig_ok hconf
  obtain ⟨-, hcover⟩ := Account.canWithdraw_ok hcan
  have hmem := Book.findAccount_ok hfind
  have hid : a.id = caller := hb.keyed.key_eq _ hmem
  have hle := hb.staked_le hfind
  obtain ⟨-, hreg, -⟩ := Registry.put_ok hput
  have hsum := Registry.sum_replaced (·.staked)
    { a with staked := a.staked - amount, updatedAt := ctx.now } hb.keyed.nodup hmem
  refine ⟨Registry.keyed_put hb.keyed rfl hput, ?_, ?_⟩
  · simp only [Account.withdraw_fst, hid] at hreg hsum
    simp only [Account.withdraw_snd, Book.loadConfig_totalStaked, hreg]
    have := hb.total
    omega
  · simp only [Account.withdraw_snd, Book.loadConfig_totalStaked]
    have := hb.bounded
    omega

/-- Every staking body that succeeds keeps the books balanced. -/
theorem Op.balanced (k : Op) (hb : Balanced b) (h : (k.body b).exec c = (.ok ((), d), c')) :
    Balanced d := by
  cases k with
  | register ctx caller =>
    obtain ⟨r, h⟩ := step_drop_ok.mp h
    exact hb.registerTx h
  | launch _ caller asset threshold =>
    obtain ⟨r, h⟩ := step_drop_ok.mp h
    exact hb.launchTx h
  | stake ctx caller t =>
    obtain ⟨r, h⟩ := step_drop_ok.mp h
    exact hb.stakeTx h
  | withdraw ctx caller amount =>
    obtain ⟨r, h⟩ := step_drop_ok.mp h
    exact hb.withdrawTx h

end Staking

open Staking in
/-- Every call keeps the staking books balanced, whatever its outcome. -/
theorem Call.keeps_balanced (k : Call) {c : Campus} (hb : Balanced c.staking) :
    Balanced (k.next c).staking := by
  rcases k.staking_next c with heq | ⟨o, d, c₁, -, hbody, heq⟩
  · rw [heq]
    exact hb
  · rw [heq]
    exact o.balanced hb hbody

open Staking in
/-- Through every run of calls from fresh staking books, whatever each call's outcome, the
registry files one record per account, the total staked is the sum of the staked balances and
fits a word, and a withdrawal that passes its check subtracts exactly its amount from the
balance and from the total. -/
theorem staked_total_is_sum_of_stakes {controller escrow : AccountId} {c : Campus}
    (hc : c.staking = Book.fresh controller escrow) (calls : List Call) :
    let b := (c.after calls).staking
    (b.accounts.records.map Prod.fst).Nodup ∧
      b.config.totalStaked = (b.accounts.records.map (·.2.staked)).sum ∧
      b.config.totalStaked ≤ Word.max ∧
      ∀ (caller : AccountId) (a : Account) (amount : Nat) (now : Instant),
        b.findAccount caller = .ok a → a.canWithdraw amount = .ok () →
          (a.withdraw b.loadConfig amount now).1.staked + amount = a.staked ∧
          (a.withdraw b.loadConfig amount now).2.totalStaked + amount = b.loadConfig.totalStaked := by
  intro b
  have hb : Balanced b := Campus.after_induction (fun c => Balanced c.staking)
    (fun k _ hb => k.keeps_balanced hb) (hc ▸ fresh_balanced controller escrow) calls
  refine ⟨hb.keyed.nodup, hb.total, hb.bounded, fun caller a amount now hfind hcan => ?_⟩
  obtain ⟨-, hcover⟩ := Account.canWithdraw_ok hcan
  have hle := hb.staked_le hfind
  simp only [Account.withdraw_fst, Account.withdraw_snd, Book.loadConfig_totalStaked]
  omega

open Staking in
theorem staked_total_after_registration :
    (Campus.fresh {} 0).staking = Book.fresh ⟨"controller"⟩ ⟨"escrow"⟩ ∧
      let b := ((Campus.fresh {} 0).after [.staking (.register { now := ⟨0⟩ } ⟨"ann"⟩)]).staking
      (b.accounts.records.map Prod.fst).Nodup ∧
        b.config.totalStaked = (b.accounts.records.map (·.2.staked)).sum ∧
        b.config.totalStaked ≤ Word.max ∧
        ∀ (caller : AccountId) (a : Account) (amount : Nat) (now : Instant),
          b.findAccount caller = .ok a → a.canWithdraw amount = .ok () →
            (a.withdraw b.loadConfig amount now).1.staked + amount = a.staked ∧
            (a.withdraw b.loadConfig amount now).2.totalStaked + amount =
              b.loadConfig.totalStaked :=
  ⟨rfl, staked_total_is_sum_of_stakes rfl _⟩

end CampusLedger
