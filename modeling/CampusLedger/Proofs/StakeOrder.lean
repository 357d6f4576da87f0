import CampusLedger.Proofs.ScoreOrder
import CampusLedger.Proofs.StakedTotal
/-!
# Deposits may arrive in any order

Stakes commute too. A run of stakes succeeds exactly when the campus lets stakes through, every
request is live, every receipt passes the ledger's checks, has settled and was never credited,
no two receipts share a transfer, every caller is registered, and each caller's balance and the
total, with all of the run's amounts added, fit a word (`StakesFit`). After such a run each
account holds its balance plus the amounts it staked, and the total holds the sum of all.

As for score updates, both descriptions depend on the stakes only through sums and sets, so two
runs of the same stakes in different orders succeed together or fail together, and when they
succeed they leave the same balances and the same total. Together with the score updates this
is the ledgers' order independence: the final state does not depend on the order in which
deltas or deposits arrive.
-/

namespace CampusLedger

open Act Ledger

namespace Staking

/-- A stake: the request it serves, the caller and the receipt it presents. -/
structure Stake where
  ctx : Context
  caller : AccountId
  deposit : Transfer

namespace Stake

/-- The caller's record `a` after the stake: its amount added and the time of the request. -/
def credited (s : Stake) (a : Account) : Account :=
  { a with staked := a.staked + s.deposit.amount, updatedAt := s.ctx.now }

/-- The books `b'` are `b` after the stake `s` credited the caller's record `a`: the guard, asset
and escrow stay, the total took the amount, the registry stays keyed with only the caller's
record changed, and the receipt joined the credited deposits. -/
structure Wrote (s : Stake) (a : Account) (b b' : Book) : Prop where
  guard : b'.config.guard = b.config.guard
  asset : b'.config.asset = b.config.asset
  escrow : b'.config.escrow = b.config.escrow
  total : b'.config.totalStaked = b.config.totalStaked + s.deposit.amount
  keyed : b'.accounts.Keyed Account.id
  find : ∀ id, b'.accounts.find? id =
    if id = s.caller then some (s.credited a) else b.accounts.find? id
  deposits : b'.deposits = b.deposits ++ [s.deposit]

variable {s : Stake} {a a' : Account} {b b' b₂ b₃ : Book} {cfg' : Config}

theorem wrote_of_credit (hk : b.accounts.Keyed Account.id)
    (hfind : b.accounts.find? s.caller = some a)
    (hrec : b.recordDeposit .readWrite s.deposit = .ok b₂)
    (hst : a.stake b.loadConfig s.deposit.amount s.ctx.now = .ok (a', cfg'))
    (hsave : b₂.saveAccount .readWrite a' = .ok b₃) (hconf : b₃.saveConfig .readWrite cfg' = .ok b') :
    Wrote s a b b' := by
  obtain ⟨-, rfl⟩ := Book.recordDeposit_ok hrec
  obtain ⟨rfl, rfl, -, -⟩ := Account.stake_ok hst
  obtain ⟨r, hput, rfl⟩ := Book.saveAccount_ok hsave
  obtain rfl := Book.saveConfig_ok hconf
  -- the caller's record is filed under the caller, so the credit lands there
  have hid : (s.credited a).id = s.caller := hk.key_eq _ (Registry.mem_of_find? hfind)
  rw [show { a with staked := a.staked + s.deposit.amount, updatedAt := s.ctx.now } = s.credited a
    from rfl, hid] at hput
  refine ⟨rfl, rfl, rfl, rfl, Registry.keyed_put hk hid hput, fun id => ?_, rfl⟩
  by_cases he : id = s.caller
  · rw [if_pos he, he]
    exact Registry.find?_put_self hput
  · rw [if_neg he]
    exact Registry.find?_put_ne hput he

theorem Wrote.isSome_find (hw : Wrote s a b b') (hfind : b.accounts.find? s.caller = some a)
    (id : AccountId) : (b'.accounts.find? id).isSome = (b.accounts.find? id).isSome := by
  rw [hw.find id]
  split
  · rename_i he
    rw [he, hfind]
    rfl
  · rfl

/-- A receipt is checked only against the asset and the escrow, which a stake keeps. -/
theorem Wrote.checkDeposit (hw : Wrote s a b b') (caller : AccountId) (t : Transfer) :
    b'.loadConfig.checkDeposit caller t = b.loadConfig.checkDeposit caller t := by
  have ha : b'.loadConfig.asset = b.loadConfig.asset := hw.asset
  have he : b'.loadConfig.escrow = b.loadConfig.escrow := hw.escrow
  unfold Config.checkDeposit
  rw [ha, he]

/-- The steps a stake's transaction writes, each of which goes through for a fresh receipt, a
registered caller and amounts that fit. -/
theorem credit_ok (hk : b.accounts.Keyed Account.id) (hfind : b.accounts.find? s.caller = some a)
    (hfresh : b.deposits.any (·.id == s.deposit.id) = false)
    (hbal : a.staked + s.deposit.amount ≤ Word.max)
    (htot : b.config.totalStaked + s.deposit.amount ≤ Word.max) :
    ∃ b₂ b₃ b', b.recordDeposit .readWrite s.deposit = .ok b₂ ∧
      a.stake b.loadConfig s.deposit.amount s.ctx.now =
        .ok (s.credited a, { b.loadConfig with totalStaked := b.config.totalStaked + s.deposit.amount }) ∧
      b₂.saveAccount .readWrite (s.credited a) = .ok b₃ ∧
      b₃.saveConfig .readWrite
        { b.loadConfig with totalStaked := b.config.totalStaked + s.deposit.amount } = .ok b' := by
  have hid : (s.credited a).id = s.caller := hk.key_eq _ (Registry.mem_of_find? hfind)
  have hc : b.accounts.contains s.caller = true :=
    Registry.contains_iff.mpr (List.mem_map.mpr ⟨_, Registry.mem_of_find? hfind, rfl⟩)
  have hrec : b.recordDeposit .readWrite s.deposit = .ok { b with deposits := b.deposits ++ [s.deposit] } := by
    simp only [Book.recordDeposit, Access.write, hfresh, Bool.false_eq_true, if_false]
  have hsave : ∃ b₃, ({ b with deposits := b.deposits ++ [s.deposit] } : Book).saveAccount .readWrite
      (s.credited a) = .ok b₃ := by
    simp only [Book.saveAccount, Access.write, Registry.put, hid, hc, if_true]
    exact ⟨_, rfl⟩
  obtain ⟨b₃, hsave⟩ := hsave
  refine ⟨_, b₃, _, hrec, ?_, hsave, rfl⟩
  simp only [Account.stake, Word.add_eq, hbal, if_true, Book.loadConfig_totalStaked, htot]
  rfl

end Stake

variable {s : Stake} {a : Account} {c c₁ : Campus}

/-- A stake keeps the wiring and arms no site, whatever its outcome. -/
theorem wired_stake (s : Stake) (c : Campus) :
    Frame.wired.rel c ((stake s.ctx s.caller s.deposit).exec c).2 := by
  have hw := (Op.stake s.ctx s.caller s.deposit).within Frame.wired_untouched c
  unfold Op.act at hw
  rwa [exec_drop] at hw

/-- What a successful stake needed and what it wrote. -/
theorem Stake.step_ok (hk : c.staking.accounts.Keyed Account.id) {r : Nat}
    (h : (stake s.ctx s.caller s.deposit).exec c = (.ok r, c₁)) :
    s.ctx.cancelled = false ∧ StakeOpen c ∧
      c.staking.loadConfig.checkDeposit s.caller s.deposit = .ok () ∧
      c.bank.settled s.deposit = true ∧ c.staking.deposits.any (·.id == s.deposit.id) = false ∧
      ∃ a, c.staking.accounts.find? s.caller = some a ∧ a.staked + s.deposit.amount ≤ Word.max ∧
        c.staking.config.totalStaked + s.deposit.amount ≤ Word.max ∧
        Stake.Wrote s a c.staking c₁.staking ∧ c₁.bank = c.bank ∧ Frame.wired.rel c c₁ := by
  obtain ⟨hl, ho, hbank, a, a', cfg', b₂, b₃, hdep, hfind, hset, hrec, hst, hsave, hconf⟩ :=
    stake_ok h
  have hfind' := Registry.find?_of_lookup hfind
  obtain ⟨-, -, hbal, htot⟩ := Account.stake_ok hst
  have hw := wired_stake s c
  rw [h] at hw
  exact ⟨hl, ho, hdep, hset, (Book.recordDeposit_ok hrec).1, a, hfind', hbal, htot,
    Stake.wrote_of_credit hk hfind' hrec hst hsave hconf, hbank, hw⟩

/-- A stake on a campus open to stakes, for a live request, a receipt that passes the checks,
has settled and is fresh, and a registered caller whose balance and the total take the amount,
succeeds. -/
theorem Stake.step_ok_of (hk : c.staking.accounts.Keyed Account.id)
    (hl : s.ctx.cancelled = false) (ho : StakeOpen c)
    (hdep : c.staking.loadConfig.checkDeposit s.caller s.deposit = .ok ())
    (hset : c.bank.settled s.deposit = true)
    (hfresh : c.staking.deposits.any (·.id == s.deposit.id) = false)
    (hfind : c.staking.accounts.find? s.caller = some a)
    (hbal : a.staked + s.deposit.amount ≤ Word.max)
    (htot : c.staking.config.totalStaked + s.deposit.amount ≤ Word.max) :
    ∃ r c₁, (stake s.ctx s.caller s.deposit).exec c = (.ok r, c₁) ∧
      Stake.Wrote s a c.staking c₁.staking ∧ c₁.bank = c.bank ∧ Frame.wired.rel c c₁ := by
  obtain ⟨b₂, b₃, b', hrec, hst, hsave, hconf⟩ := Stake.credit_ok hk hfind hfresh hbal htot
  obtain ⟨c₁, h, hstk, hbank⟩ := stake_ok_of hl ho hdep (Registry.lookup_of_find? hfind) hset hrec
    hst hsave hconf
  have hw := wired_stake s c
  rw [h] at hw
  exact ⟨_, c₁, h, hstk ▸ Stake.wrote_of_credit hk hfind hrec hst hsave hconf, hbank, hw⟩

namespace Stake

def touches (ss : List Stake) (id : AccountId) : Bool := ss.any (·.caller == id)

/-- The amounts the account stakes in the run, added up. -/
def stakedBy (ss : List Stake) (id : AccountId) : Nat :=
  ((ss.filter (·.caller == id)).map (·.deposit.amount)).sum

/-- The amounts of all the stakes of the run, added up. -/
def amount (ss : List Stake) : Nat := (ss.map (·.deposit.amount)).sum

/-- Every caller's balance, with all the amounts it stakes in the run added, fits a word. -/
def BalancesFit (b : Book) (ss : List Stake) : Prop :=
  ∀ id a, b.accounts.find? id = some a → touches ss id = true →
    a.staked + stakedBy ss id ≤ Word.max

/-- No receipt of the run was credited before, and no two share a transfer. -/
def Fresh (b : Book) (ss : List Stake) : Prop :=
  (∀ s ∈ ss, b.deposits.any (·.id == s.deposit.id) = false) ∧ (ss.map (·.deposit.id)).Nodup

variable {s : Stake} {ss ts rest : List Stake} {id : AccountId} {a : Account} {b b' : Book}

theorem touches_cons : touches (s :: ss) id = (s.caller == id || touches ss id) := rfl

theorem stakedBy_cons :
    stakedBy (s :: ss) id = (if s.caller = id then s.deposit.amount else 0) + stakedBy ss id := by
  by_cases he : s.caller = id
  · simp [stakedBy, he]
  · simp [stakedBy, he]

theorem stakedBy_of_touches_false (h : touches ss id = false) : stakedBy ss id = 0 := by
  have : ss.filter (·.caller == id) = [] := by
    rw [List.filter_eq_nil_iff]
    intro t ht
    simpa using List.any_eq_false.mp h t ht
  rw [stakedBy, this]
  rfl

theorem amount_cons : amount (s :: ss) = s.deposit.amount + amount ss := by
  simp [amount]

theorem touches_perm (hp : ss.Perm ts) : touches ss id = touches ts id := by
  unfold touches
  exact Bool.eq_iff_iff.mpr (by simp only [List.any_eq_true]; exact ⟨fun ⟨t, ht, he⟩ =>
    ⟨t, hp.subset ht, he⟩, fun ⟨t, ht, he⟩ => ⟨t, hp.symm.subset ht, he⟩⟩)

theorem stakedBy_perm (hp : ss.Perm ts) : stakedBy ss id = stakedBy ts id :=
  ((hp.filter _).map _).sum_eq

theorem amount_perm (hp : ss.Perm ts) : amount ss = amount ts := (hp.map _).sum_eq

theorem balancesFit_perm (hp : ss.Perm ts) (h : BalancesFit b ss) : BalancesFit b ts := by
  intro id a hfind ht
  rw [← stakedBy_perm hp]
  exact h id a hfind (touches_perm hp ▸ ht)

theorem fresh_perm (hp : ss.Perm ts) (h : Fresh b ss) : Fresh b ts :=
  ⟨fun t ht => h.1 t (hp.symm.subset ht), (hp.map _).nodup_iff.mp h.2⟩

/-- When the balances of a run fit, so does the first caller's with the first amount alone. -/
theorem BalancesFit.head (h : BalancesFit b (s :: rest)) (hfind : b.accounts.find? s.caller = some a) :
    a.staked + s.deposit.amount ≤ Word.max := by
  have ha := h s.caller a hfind (by simp [touches_cons])
  rw [stakedBy_cons, if_pos rfl] at ha
  omega

/-- The balances of a run fit exactly when the first caller's does with the first amount and the
balances of the rest fit after it. -/
theorem Wrote.balancesFit_shift (hw : Wrote s a b b') (hfind : b.accounts.find? s.caller = some a) :
    BalancesFit b (s :: rest) ↔ a.staked + s.deposit.amount ≤ Word.max ∧ BalancesFit b' rest := by
  constructor
  · intro h
    refine ⟨h.head hfind, fun id a' hfind' ht => ?_⟩
    rw [hw.find id] at hfind'
    split at hfind'
    · rename_i he
      subst he
      cases hfind'
      have ha := h s.caller a hfind (by simp [touches_cons])
      rw [stakedBy_cons, if_pos rfl] at ha
      simp only [credited]
      omega
    · rename_i he
      have hne : (s.caller == id) = false := beq_eq_false_iff_ne.mpr (Ne.symm he)
      have := h id a' hfind' (by simp [touches_cons, hne, ht])
      rwa [stakedBy_cons, if_neg (Ne.symm he), Nat.zero_add] at this
  · rintro ⟨ha, h⟩ id a' hfind' ht
    by_cases he : id = s.caller
    · subst he
      rw [hfind] at hfind'
      cases hfind'
      rw [stakedBy_cons, if_pos rfl]
      cases hrest : touches rest s.caller
      · rw [stakedBy_of_touches_false hrest]
        omega
      · have := h s.caller (s.credited a) (by rw [hw.find, if_pos rfl]) hrest
        simp only [credited] at this
        omega
    · have hne : (s.caller == id) = false := beq_eq_false_iff_ne.mpr (Ne.symm he)
      rw [stakedBy_cons, if_neg (Ne.symm he), Nat.zero_add]
      refine h id a' (by rw [hw.find, if_neg he]; exact hfind') ?_
      simpa [touches_cons, hne] using ht

/-- The receipts of a run are fresh exactly when the first is and the rest are after it was
credited. -/
theorem Wrote.fresh_shift (hw : Wrote s a b b') :
    Fresh b (s :: rest) ↔ b.deposits.any (·.id == s.deposit.id) = false ∧ Fresh b' rest := by
  simp only [Fresh, List.mem_cons, forall_eq_or_imp, List.map_cons, List.nodup_cons, hw.deposits,
    List.any_append, List.any_cons, List.any_nil, Bool.or_false, Bool.or_eq_false_iff,
    List.mem_map, not_exists, not_and]
  constructor
  · rintro ⟨⟨hs, hrest⟩, hnot, hnodup⟩
    refine ⟨hs, fun t ht => ⟨hrest t ht, ?_⟩, hnodup⟩
    simpa using fun he => hnot t ht he.symm
  · rintro ⟨hs, hrest, hnodup⟩
    refine ⟨⟨hs, fun t ht => (hrest t ht).1⟩, fun t ht he => ?_, hnodup⟩
    have := (hrest t ht).2
    simp [he] at this

end Stake

def Book.stakes (b : Book) (id : AccountId) : Option Nat := (b.accounts.find? id).map (·.staked)

/-- After a stake credited its caller, the rest of a run adds to each balance what the whole run
does from before it. -/
theorem Stake.Wrote.stakes_shift {s : Stake} {a : Account} {b b' : Book} {rest : List Stake}
    (hw : Stake.Wrote s a b b') (hfind : b.accounts.find? s.caller = some a) (id : AccountId) :
    (b'.stakes id).map (· + Stake.stakedBy rest id) =
      (b.stakes id).map (· + Stake.stakedBy (s :: rest) id) := by
  unfold Book.stakes
  rw [hw.find id, Stake.stakedBy_cons]
  by_cases he : id = s.caller
  · subst he
    simp only [if_true, hfind, Option.map_some, Stake.credited, Option.some.injEq]
    omega
  · simp only [if_neg he, if_neg (Ne.symm he), Nat.zero_add]

/-- Stakes made one after another; a run stops at the first that fails. -/
def stakeAll : List Stake → Act Unit
  | [] => pure ()
  | s :: ss => do
    let _ ← stake s.ctx s.caller s.deposit
    stakeAll ss

/-- What a run of stakes needs of the campus to succeed throughout: the campus is open to stakes
(when there are any), every request is live, every receipt passes the checks and has settled,
the receipts are fresh, every caller is registered, and every balance and the total, with the
run's amounts added, fit a word (the total only matters when there is a stake). -/
structure StakesFit (c : Campus) (ss : List Stake) : Prop where
  opened : ss ≠ [] → StakeOpen c
  live : ∀ s ∈ ss, s.ctx.cancelled = false
  checked : ∀ s ∈ ss, c.staking.loadConfig.checkDeposit s.caller s.deposit = .ok ()
  settled : ∀ s ∈ ss, c.bank.settled s.deposit = true
  registered : ∀ s ∈ ss, (c.staking.accounts.find? s.caller).isSome
  fresh : Stake.Fresh c.staking ss
  balances : Stake.BalancesFit c.staking ss
  total : ss ≠ [] → c.staking.config.totalStaked + Stake.amount ss ≤ Word.max

theorem StakesFit.perm {ss ts : List Stake} (hp : ss.Perm ts) (h : StakesFit c ss) :
    StakesFit c ts where
  opened hne := h.opened fun he => hne (List.Perm.nil_eq (he ▸ hp)).symm
  live t ht := h.live t (hp.symm.subset ht)
  checked t ht := h.checked t (hp.symm.subset ht)
  settled t ht := h.settled t (hp.symm.subset ht)
  registered t ht := h.registered t (hp.symm.subset ht)
  fresh := Stake.fresh_perm hp h.fresh
  balances := Stake.balancesFit_perm hp h.balances
  total hne := Stake.amount_perm hp ▸ h.total fun he => hne (List.Perm.nil_eq (he ▸ hp)).symm

/-- A run of stakes that succeeds throughout needed what `StakesFit` says, left each balance
with the caller's amounts added, the total with all of them, and the bank as it was. -/
theorem stakeAll_ok : ∀ {ss : List Stake} {c c' : Campus},
    c.staking.accounts.Keyed Account.id → (stakeAll ss).exec c = (.ok (), c') →
      StakesFit c ss ∧ c'.bank = c.bank ∧
        c'.staking.config.totalStaked = c.staking.config.totalStaked + Stake.amount ss ∧
        ∀ id, c'.staking.stakes id = (c.staking.stakes id).map (· + Stake.stakedBy ss id)
  | [], c, c', _, h => by
    obtain rfl : c' = c := by simpa [stakeAll, eq_comm] using h
    refine ⟨⟨fun hne => absurd rfl hne, by simp, by simp, by simp, by simp, ⟨by simp, by simp⟩,
      fun _ _ _ ht => (by cases ht), fun hne => absurd rfl hne⟩, rfl, by simp [Stake.amount],
      fun id => by simp [Stake.stakedBy]⟩
  | s :: ss, c, c', hk, h => by
    obtain ⟨r, c₁, h₁, h⟩ := exec_bind_ok.mp h
    obtain ⟨hl, ho, hdep, hset, hfresh, a, hfind, hbal, htot, hw, hbank, -⟩ := Stake.step_ok hk h₁
    obtain ⟨hf, hbank', htotal, hstakes⟩ := stakeAll_ok hw.keyed h
    refine ⟨⟨fun _ => ho, fun t ht => ?_, fun t ht => ?_, fun t ht => ?_, fun t ht => ?_,
      hw.fresh_shift.mpr ⟨hfresh, hf.fresh⟩, (hw.balancesFit_shift hfind).mpr ⟨hbal, hf.balances⟩,
      ?_⟩, hbank'.trans hbank, ?_, fun id => ?_⟩
    · rcases List.mem_cons.mp ht with rfl | ht
      · exact hl
      · exact hf.live t ht
    · rcases List.mem_cons.mp ht with rfl | ht
      · exact hdep
      · rw [← hw.checkDeposit]
        exact hf.checked t ht
    · rcases List.mem_cons.mp ht with rfl | ht
      · exact hset
      · rw [← hbank]
        exact hf.settled t ht
    · rcases List.mem_cons.mp ht with rfl | ht
      · rw [hfind]
        rfl
      · rw [← hw.isSome_find hfind]
        exact hf.registered t ht
    · intro _
      rw [Stake.amount_cons]
      by_cases hss : ss = []
      · subst hss
        simpa [Stake.amount] using htot
      · have := hf.total hss
        rw [hw.total] at this
        omega
    · rw [htotal, hw.total, Stake.amount_cons]
      omega
    · rw [hstakes, hw.stakes_shift hfind]

/-- A run of stakes whose needs `StakesFit` holds succeeds throughout, leaves each balance with
the caller's amounts added, the total with all of them, and the bank as it was. -/
theorem stakeAll_ok_of : ∀ {ss : List Stake} {c : Campus},
    c.staking.accounts.Keyed Account.id → StakesFit c ss →
      ∃ c', (stakeAll ss).exec c = (.ok (), c') ∧ c'.bank = c.bank ∧
        c'.staking.config.totalStaked = c.staking.config.totalStaked + Stake.amount ss ∧
        ∀ id, c'.staking.stakes id = (c.staking.stakes id).map (· + Stake.stakedBy ss id)
  | [], c, _, _ => ⟨c, rfl, rfl, by simp [Stake.amount], fun id => by simp [Stake.stakedBy]⟩
  | s :: ss, c, hk, hf => by
    have hs : s ∈ s :: ss := List.mem_cons_self
    have ho := hf.opened (List.cons_ne_nil s ss)
    obtain ⟨a, hfind⟩ := Option.isSome_iff_exists.mp (hf.registered s hs)
    have htot : c.staking.config.totalStaked + s.deposit.amount ≤ Word.max := by
      have := hf.total (List.cons_ne_nil s ss)
      rw [Stake.amount_cons] at this
      omega
    obtain ⟨r, c₁, h₁, hw, hbank, hwired⟩ := Stake.step_ok_of hk (hf.live s hs) ho
      (hf.checked s hs) (hf.settled s hs) (hf.fresh.1 s hs) hfind (hf.balances.head hfind) htot
    have hf₁ : StakesFit c₁ ss := by
      refine ⟨fun _ => ho.keep hwired hw.guard, fun t ht => hf.live t (List.mem_cons_of_mem s ht),
        fun t ht => ?_, fun t ht => ?_, fun t ht => ?_, (hw.fresh_shift.mp hf.fresh).2,
        ((hw.balancesFit_shift hfind).mp hf.balances).2, ?_⟩
      · rw [hw.checkDeposit]
        exact hf.checked t (List.mem_cons_of_mem s ht)
      · rw [hbank]
        exact hf.settled t (List.mem_cons_of_mem s ht)
      · rw [hw.isSome_find hfind]
        exact hf.registered t (List.mem_cons_of_mem s ht)
      · intro _
        have := hf.total (List.cons_ne_nil s ss)
        rw [Stake.amount_cons] at this
        rw [hw.total]
        omega
    obtain ⟨c', h, hbank', htotal, hstakes⟩ := stakeAll_ok_of hw.keyed hf₁
    refine ⟨c', exec_bind_ok.mpr ⟨r, c₁, h₁, h⟩, hbank'.trans hbank, ?_, fun id => ?_⟩
    · rw [htotal, hw.total, Stake.amount_cons]
      omega
    · rw [hstakes, hw.stakes_shift hfind]

/-- Two runs of the same stakes in different orders, on a campus whose registry files each
record under its own account: when one succeeds throughout, so does the other, and they leave
every balance, the total and the bank the same. -/
theorem stakes_commute {ss ts : List Stake} {c c₁ : Campus}
    (hk : c.staking.accounts.Keyed Account.id) (hp : ss.Perm ts)
    (h : (stakeAll ss).exec c = (.ok (), c₁)) :
    ∃ c₂, (stakeAll ts).exec c = (.ok (), c₂) ∧ c₂.bank = c₁.bank ∧
      c₂.staking.config.totalStaked = c₁.staking.config.totalStaked ∧
      ∀ id, c₂.staking.stakes id = c₁.staking.stakes id := by
  obtain ⟨hf, hb₁, ht₁, hs₁⟩ := stakeAll_ok hk h
  obtain ⟨c₂, h₂, hb₂, ht₂, hs₂⟩ := stakeAll_ok_of hk (hf.perm hp)
  refine ⟨c₂, h₂, hb₂.trans hb₁.symm, ?_, fun id => ?_⟩
  · rw [ht₂, ht₁, Stake.amount_perm hp]
  · rw [hs₂, hs₁, Stake.stakedBy_perm hp]

end Staking

/-- Neither ledger of the campus depends on the order in which its requests arrive: two runs of
one caller's score updates that reorder each other succeed together and leave every account with
the same scores and composite, and two runs of stakes that reorder each other succeed together
and leave every balance, the total staked and the bank the same. Each side is stated for one
order succeeding; the other direction is the same statement for the reversed reordering. -/
def Campus.OrderFree (c : Campus) : Prop :=
  (∀ (caller : AccountId) (us vs : List Reputation.Update) (c₁ : Campus), us.Perm vs →
    (Reputation.updateAll caller us).exec c = (.ok (), c₁) →
    ∃ c₂, (Reputation.updateAll caller vs).exec c = (.ok (), c₂) ∧
      ∀ id, c₂.reputation.standing id = c₁.reputation.standing id) ∧
  (∀ (ss ts : List Staking.Stake) (c₁ : Campus), ss.Perm ts →
    (Staking.stakeAll ss).exec c = (.ok (), c₁) →
    ∃ c₂, (Staking.stakeAll ts).exec c = (.ok (), c₂) ∧ c₂.bank = c₁.bank ∧
      c₂.staking.config.totalStaked = c₁.staking.config.totalStaked ∧
      ∀ id, c₂.staking.stakes id = c₁.staking.stakes id)

/-- From fresh books, after any run of calls, neither ledger depends on the order in which score
deltas or deposits arrive. -/
theorem ledgers_ignore_arrival_order {controller escrow : AccountId} {c : Campus}
    (hs : c.staking = Staking.Book.fresh controller escrow)
    (hr : c.reputation = Reputation.Book.fresh controller) (calls : List Call) :
    (c.after calls).OrderFree := by
  -- every reachable state files each record of either registry under its own account
  have hreg : Registered (c.after calls) := (registered_start hs hr).after calls
  have hbal : Staking.Balanced (c.after calls).staking :=
    Campus.after_induction (fun c => Staking.Balanced c.staking)
      (fun k _ hb => k.keeps_balanced hb) (hs ▸ Staking.fresh_balanced controller escrow) calls
  exact ⟨fun _ _ _ _ hp h => Reputation.updates_commute hreg.keyed hp h,
    fun _ _ _ hp h => Staking.stakes_commute hbal.keyed hp h⟩

theorem arrival_order_free_after_registration :
    let c := Campus.fresh {} 0
    c.staking = Staking.Book.fresh ⟨"controller"⟩ ⟨"escrow"⟩ ∧
      c.reputation = Reputation.Book.fresh ⟨"controller"⟩ ∧
      (c.after [.reputation (.register { now := ⟨0⟩ } ⟨"ann"⟩),
        .staking (.register { now := ⟨0⟩ } ⟨"ann"⟩)]).OrderFree :=
  ⟨rfl, rfl, ledgers_ignore_arrival_order rfl rfl _⟩

end CampusLedger
