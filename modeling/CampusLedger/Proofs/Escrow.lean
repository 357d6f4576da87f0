import CampusLedger.Proofs.StakedTotal
import CampusLedger.Proofs.BankConservation
/-!
# The escrow covers the stakes

Once the staking ledger is launched on an asset, the escrow's holding of it is the total staked,
plus what was minted to the escrow, plus the receipts of the asset sent to the escrow that were
never credited as deposits. The bank conserves every holder's units; every credited deposit is a
receipt of the asset to the escrow under an identifier of its own; and the credited deposits add
up to the total staked and what the escrow paid out in withdrawals. So a reconciliation always
reports the escrow covered, and a withdrawal that a balance covers is never refused by the bank
for too little funds.

This holds through every run of calls on a campus with fresh staking books and an empty bank
where no client sends from the escrow directly and fewer than 2^48 identifiers are issued, so
that the bank's receipts keep identifiers of their own.
-/

namespace CampusLedger

open Act Asset Staking Ledger

/-- What a call mints to a holder of an asset: a mint's supply, to its issuer, when it
succeeds. -/
def Call.minted (k : Call) (c : Campus) (a : AssetId) (h : AccountId) : Nat :=
  match k with
  | .bank (.mint asset issuer supply) =>
    match (k.act.exec c).1 with
    | .ok _ => Bank.grant asset issuer supply a h
    | .error _ => 0
  | _ => 0

/-- What the mints of a run of calls give a holder of an asset. -/
def Campus.minted (c : Campus) : List Call → AssetId → AccountId → Nat
  | [], _, _ => 0
  | k :: calls, a, h => k.minted c a h + (k.next c).minted calls a h

/-- The deposits of launched staking books against the bank: the asset is minted; every
credited deposit is a receipt of the asset to the escrow, under an identifier of its own; and
the deposits add up to the total staked and what the escrow paid out. -/
structure Credited (escrow : AccountId) (b : Book) (bank : Bank) : Prop where
  minted : (bank.issue? b.config.asset).isSome
  receipts : ∀ d ∈ b.deposits, d ∈ bank.transfers ∧ d.asset = b.config.asset ∧ d.target = escrow
  distinct : (b.deposits.map (·.id)).Nodup
  paid : (b.deposits.map (·.amount)).sum =
    b.config.totalStaked + Bank.outflow bank.transfers b.config.asset escrow

/-- The staking books and the bank of a campus with escrow `escrow`, given what the mints so
far gave each holder: the books balance, the bank conserves, its receipts carry distinct
numbers up to the identifiers issued; before the launch nothing is staked and the escrow never
sent anything, and after it the deposits are credited receipts. -/
structure Escrowed (escrow : AccountId) (minted : AssetId → AccountId → Nat) (c : Campus) :
    Prop where
  escrow_eq : c.staking.config.escrow = escrow
  balanced : Balanced c.staking
  conserves : c.bank.Conserves minted
  numbered : ∀ t ∈ c.bank.transfers, ∃ k ≤ c.issued, t.id = Uuid.numbered k
  distinct : (c.bank.transfers.map (·.id)).Nodup
  idle : c.staking.config.guard.initialized = false →
    c.staking.deposits = [] ∧ c.staking.config.totalStaked = 0 ∧
      ∀ t ∈ c.bank.transfers, t.source ≠ escrow
  credited : c.staking.config.guard.initialized = true → Credited escrow c.staking c.bank

variable {escrow : AccountId} {m : AssetId → AccountId → Nat} {c c' : Campus}

theorem escrowed_start {controller : AccountId} (hs : c.staking = Book.fresh controller escrow)
    (hb : c.bank = {}) : Escrowed escrow (fun _ _ => 0) c := by
  have hn : ∀ t ∈ c.bank.transfers, t.source ≠ escrow := by
    intro t ht
    rw [hb] at ht
    cases ht
  refine ⟨by rw [hs]; rfl, hs ▸ fresh_balanced controller escrow, hb ▸ Bank.conserves_empty,
    ?_, by rw [hb]; exact List.nodup_nil, fun _ => ⟨by rw [hs]; rfl, by rw [hs]; rfl, hn⟩, ?_⟩
  · intro t ht
    rw [hb] at ht
    cases ht
  · intro hon
    rw [hs] at hon
    cases hon

/-- The invariant reads only the staking books, the bank and the identifiers issued. -/
theorem Escrowed.transport (he : Escrowed escrow m c) (hs : c'.staking = c.staking)
    (hb : c'.bank = c.bank) (hi : c.issued ≤ c'.issued) : Escrowed escrow m c' := by
  have hn : ∀ t ∈ c'.bank.transfers, ∃ k ≤ c'.issued, t.id = Uuid.numbered k := by
    intro t ht
    obtain ⟨k, hk, hid⟩ := he.numbered t (hb ▸ ht)
    exact ⟨k, Nat.le_trans hk hi, hid⟩
  exact ⟨hs ▸ he.escrow_eq, hs ▸ he.balanced, hb ▸ he.conserves, hn, hb ▸ he.distinct,
    hs ▸ hb ▸ he.idle, hs ▸ hb ▸ he.credited⟩

theorem Escrowed.of_books (he : Escrowed escrow m c) (hf : Frame.books.rel c c') :
    Escrowed escrow m c' :=
  he.transport hf.2.1 hf.2.2.1 hf.2.2.2

theorem Escrowed.of_quiet (he : Escrowed escrow m c) (hf : Frame.quiet.rel c c') :
    Escrowed escrow m c' :=
  he.of_books (Frame.quiet_books hf)

/-- Launched books are never idle. -/
theorem idle_of_launched {b : Book} {P : Prop} (hon : b.config.guard.initialized = true) :
    b.config.guard.initialized = false → P := by
  intro hoff
  rw [hon] at hoff
  cases hoff

/-- A receipt numbered past every earlier one keeps the receipts' identifiers distinct. -/
theorem receipts_numbered_append {ts : List Transfer} {n : Nat} {t : Transfer}
    (hn : ∀ r ∈ ts, ∃ k ≤ n, r.id = Uuid.numbered k) (hd : (ts.map (·.id)).Nodup)
    (hlt : n + 1 < Nat.pow 2 48) (ht : t.id = Uuid.numbered (n + 1)) :
    (∀ r ∈ ts ++ [t], ∃ k ≤ n + 1, r.id = Uuid.numbered k) ∧ ((ts ++ [t]).map (·.id)).Nodup := by
  refine ⟨fun r hr => ?_, ?_⟩
  · rcases List.mem_append.mp hr with hr | hr
    · obtain ⟨k, hk, hid⟩ := hn r hr
      exact ⟨k, Nat.le_succ_of_le hk, hid⟩
    · rw [List.mem_singleton.mp hr]
      exact ⟨n + 1, Nat.le_refl _, ht⟩
  · rw [List.map_append, List.nodup_append]
    refine ⟨hd, List.nodup_singleton _, ?_⟩
    intro x hx y hy hxy
    simp only [List.map_cons, List.map_nil, List.mem_singleton] at hy
    obtain ⟨r, hr, rfl⟩ := List.mem_map.mp hx
    obtain ⟨k, hk, hid⟩ := hn r hr
    -- an earlier receipt's number is at most `n`, the new one's is `n + 1`
    have hsame : Uuid.numbered k = Uuid.numbered (n + 1) := by
      rw [← hid, ← ht, ← hy]
      exact hxy
    have := Uuid.numbered_inj (by omega) hlt hsame
    omega

/-- A transfer whose identifier is not among a list's keeps the identifiers distinct when it is
appended. -/
theorem ids_nodup_append_fresh {ts : List Transfer} {t : Transfer} (hd : (ts.map (·.id)).Nodup)
    (hfresh : ts.any (·.id == t.id) = false) : ((ts ++ [t]).map (·.id)).Nodup := by
  rw [List.map_append, List.nodup_append]
  refine ⟨hd, List.nodup_singleton _, ?_⟩
  intro x hx y hy hxy
  simp only [List.map_cons, List.map_nil, List.mem_singleton] at hy
  obtain ⟨r, hr, rfl⟩ := List.mem_map.mp hx
  have hne := List.any_eq_false.mp hfresh r hr
  simp only [beq_iff_eq] at hne
  exact hne (hxy.trans hy)

/-- A receipt the bank issues under the next identifier keeps the receipts numbered and
distinct. -/
theorem Escrowed.numbered_transfer {asset : AssetId} {source target : AccountId} {amount : Nat}
    {bank : Bank} {t : Transfer} (he : Escrowed escrow m c)
    (hpay : c.bank.transfer asset source target amount (Uuid.numbered (c.issued + 1)) =
      .ok (bank, t)) (hlt : c.issued + 1 < Nat.pow 2 48) :
    (∀ r ∈ bank.transfers, ∃ k ≤ c.issued + 1, r.id = Uuid.numbered k) ∧
      (bank.transfers.map (·.id)).Nodup := by
  obtain ⟨-, -, ht, htransfers, -⟩ := Bank.transfer_ok hpay
  have hid : t.id = Uuid.numbered (c.issued + 1) := by rw [ht]
  rw [htransfers]
  exact receipts_numbered_append he.numbered he.distinct hlt hid

theorem Escrowed.registerTx {ctx : Context} {caller : AccountId} {r : Account × Nat} {d : Book}
    {c₁ : Campus} (he : Escrowed escrow m c)
    (h : (Tx.register ctx caller c.staking).exec c = (.ok (r, d), c₁)) :
    Escrowed escrow m { c₁ with staking := d } := by
  have hbal := he.balanced.registerTx h
  obtain ⟨hcreate, rfl, -⟩ := registerTx_ok h
  obtain ⟨reg, -, rfl⟩ := Book.createAccount_ok hcreate
  -- the registry is the only part of the books that changes
  refine ⟨he.escrow_eq, hbal, he.conserves, he.numbered, he.distinct, he.idle, fun hon => ?_⟩
  have hcr := he.credited hon
  exact ⟨hcr.minted, hcr.receipts, hcr.distinct, hcr.paid⟩

/-- The launch opts the escrow in and starts crediting, from idle books. -/
theorem Escrowed.launchTx {caller : AccountId} {asset : AssetId} {threshold : Nat}
    {cfg : Config} {d : Book} {c₁ : Campus} (he : Escrowed escrow m c)
    (h : (Tx.launch caller asset threshold c.staking).exec c = (.ok (cfg, d), c₁)) :
    Escrowed escrow m { c₁ with staking := d } := by
  have hbal := he.balanced.launchTx h
  obtain ⟨hcan, -, rfl, hsave, bank, hopt, rfl⟩ := launchTx_ok h
  obtain rfl := Book.saveConfig_ok hsave
  obtain ⟨hdep, htotal, hsrc⟩ := he.idle (Guard.canInitialize_ok hcan)
  have htransfers := Bank.optIn_transfers hopt
  refine ⟨he.escrow_eq, hbal, he.conserves.optIn hopt, htransfers ▸ he.numbered,
    htransfers ▸ he.distinct, idle_of_launched rfl, fun _ => ⟨(Bank.isSome_issue?_optIn hopt).1,
    ?_, ?_, ?_⟩⟩
  · intro x hx
    simp [hdep] at hx
  · simp [hdep]
  · -- nothing credited, nothing staked, and the escrow never paid out
    have hzero := Bank.outflow_eq_zero (htransfers ▸ hsrc) asset
    simp [hdep, htotal, hzero]

/-- A stake credits a settled receipt of the asset to the escrow, under a fresh identifier. -/
theorem Escrowed.stakeTx {ctx : Context} {caller : AccountId} {dep : Transfer} {r : Nat × Nat}
    {d : Book} {c₁ : Campus} (he : Escrowed escrow m c)
    (h : (Tx.stake ctx caller dep c.staking).exec c = (.ok (r, d), c₁)) :
    Escrowed escrow m { c₁ with staking := d } := by
  have hbal := he.balanced.stakeTx h
  obtain ⟨a, a', cfg', b₂, b₃, hinit, hdep, -, hsettled, hrec, hst, hsave, hconf, rfl, -⟩ :=
    stakeTx_ok h
  obtain ⟨hfresh, rfl⟩ := Book.recordDeposit_ok hrec
  obtain ⟨reg, -, rfl⟩ := Book.saveAccount_ok hsave
  obtain rfl := Book.saveConfig_ok hconf
  obtain ⟨-, rfl, -, -⟩ := Account.stake_ok hst
  have hon := Guard.requireInitialized_ok hinit
  have hcr := he.credited hon
  obtain ⟨hasset, htarget, -, -, -⟩ := Config.checkDeposit_ok hdep
  refine ⟨he.escrow_eq, hbal, he.conserves, he.numbered, he.distinct, idle_of_launched hon,
    fun _ => ⟨hcr.minted, ?_, ?_, ?_⟩⟩
  · intro x hx
    rcases List.mem_append.mp hx with hx | hx
    · exact hcr.receipts x hx
    · rw [List.mem_singleton.mp hx]
      exact ⟨Bank.settled_mem hsettled, hasset, htarget.trans he.escrow_eq⟩
  · exact ids_nodup_append_fresh hcr.distinct hfresh
  · have := hcr.paid
    simp only [List.map_append, List.map_cons, List.map_nil, List.sum_append, List.sum_cons,
      List.sum_nil, Book.loadConfig_totalStaked, Book.loadConfig_asset]
    omega

/-- A withdrawal pays out of the escrow what it takes off the total. -/
theorem Escrowed.withdrawTx {ctx : Context} {caller : AccountId} {amount : Nat} {r : Nat × Nat}
    {d : Book} {c₁ : Campus} (he : Escrowed escrow m c)
    (h : (Tx.withdraw ctx caller amount c.staking).exec c = (.ok (r, d), c₁))
    (hlt : c₁.issued < Nat.pow 2 48) : Escrowed escrow m { c₁ with staking := d } := by
  have hbal := he.balanced.withdrawTx h
  obtain ⟨a, b₁, bank, t, hinit, hfind, hcan, hsave, hconf, hpay, rfl, -⟩ := withdrawTx_ok h
  obtain ⟨reg, -, rfl⟩ := Book.saveAccount_ok hsave
  obtain rfl := Book.saveConfig_ok hconf
  have hon := Guard.requireInitialized_ok hinit
  have hcr := he.credited hon
  obtain ⟨-, hcover⟩ := Account.canWithdraw_ok hcan
  have hle := he.balanced.staked_le hfind
  obtain ⟨-, -, ht, htransfers, -⟩ := Bank.transfer_ok hpay
  obtain ⟨hnum, hdist⟩ := he.numbered_transfer hpay hlt
  refine ⟨he.escrow_eq, hbal, he.conserves.transfer hpay, hnum, hdist,
    idle_of_launched hon, fun _ => ⟨Bank.isSome_issue?_transfer hpay hcr.minted, ?_, hcr.distinct,
    ?_⟩⟩
  · intro x hx
    obtain ⟨hmem, has, htg⟩ := hcr.receipts x hx
    exact ⟨htransfers ▸ List.mem_append_left _ hmem, has, htg⟩
  · -- the payout leaves the escrow: the total drops by what the outflow gains
    have := hcr.paid
    rw [htransfers, Bank.outflow_append, ht]
    simp only [Account.withdraw_snd, Book.loadConfig_totalStaked, Book.loadConfig_asset,
      Book.loadConfig_escrow, he.escrow_eq, and_self, if_true]
    omega

theorem Escrowed.commit (he : Escrowed escrow m c) (o : Op) {d : Book} {c₁ : Campus}
    (h : (o.body c.staking).exec c = (.ok ((), d), c₁)) (hlt : c₁.issued < Nat.pow 2 48) :
    Escrowed escrow m { c₁ with staking := d } := by
  cases o with
  | register ctx caller =>
    obtain ⟨r, h⟩ := step_drop_ok.mp h
    exact he.registerTx h
  | launch _ caller asset threshold =>
    obtain ⟨r, h⟩ := step_drop_ok.mp h
    exact he.launchTx h
  | stake ctx caller dep =>
    obtain ⟨r, h⟩ := step_drop_ok.mp h
    exact he.stakeTx h
  | withdraw ctx caller amount =>
    obtain ⟨r, h⟩ := step_drop_ok.mp h
    exact he.withdrawTx h hlt

/-- A bank act that records no receipt and drops no asset keeps the invariant, given what it
minted. -/
theorem Escrowed.of_bank {m' : AssetId → AccountId → Nat} {bank : Bank}
    (he : Escrowed escrow m c) (hc : bank.Conserves m') (ht : bank.transfers = c.bank.transfers)
    (hi : ∀ a, (c.bank.issue? a).isSome → (bank.issue? a).isSome) :
    Escrowed escrow m' { c with bank } := by
  refine ⟨he.escrow_eq, he.balanced, hc, ht ▸ he.numbered, ht ▸ he.distinct, ht ▸ he.idle,
    fun hon => ?_⟩
  have hcr := he.credited hon
  exact ⟨hi _ hcr.minted, ht ▸ hcr.receipts, hcr.distinct, ht ▸ hcr.paid⟩

/-- A direct transfer that the escrow does not send moves nothing the books account for. -/
theorem Escrowed.transferCall {asset : AssetId} {source target : AccountId} {amount : Nat}
    {t : Transfer} (he : Escrowed escrow m c)
    (h : (Act.transfer asset source target amount).exec c = (.ok t, c'))
    (hsrc : source ≠ escrow) (hlt : c'.issued < Nat.pow 2 48) : Escrowed escrow m c' := by
  obtain ⟨-, bank, hpay, rfl⟩ := Act.transfer_ok.mp h
  obtain ⟨-, -, ht, htransfers, -⟩ := Bank.transfer_ok hpay
  obtain ⟨hnum, hdist⟩ := he.numbered_transfer hpay hlt
  refine ⟨he.escrow_eq, he.balanced, he.conserves.transfer hpay, hnum, hdist, fun hoff => ?_, fun hon => ?_⟩
  · obtain ⟨hdep, htotal, hout⟩ := he.idle hoff
    refine ⟨hdep, htotal, fun x hx => ?_⟩
    rw [htransfers] at hx
    rcases List.mem_append.mp hx with hx | hx
    · exact hout x hx
    · rw [List.mem_singleton.mp hx, ht]
      exact hsrc
  · have hcr := he.credited hon
    refine ⟨Bank.isSome_issue?_transfer hpay hcr.minted, fun x hx => ?_, hcr.distinct, ?_⟩
    · obtain ⟨hmem, has, htg⟩ := hcr.receipts x hx
      exact ⟨htransfers ▸ List.mem_append_left _ hmem, has, htg⟩
    · rw [htransfers, Bank.outflow_append, hcr.paid, ht]
      simp [hsrc]

/-- A call never takes identifiers back. -/
theorem Call.issued_le (k : Call) (c : Campus) : c.issued ≤ (k.next c).issued := by
  cases k with
  | staking o =>
    rcases o.ended c with ⟨-, hq⟩ | ⟨-, c₁, ⟨d, c₂, hb, rfl⟩, hc⟩
    · exact (Frame.quiet_books hq).2.2.2
    · exact Nat.le_trans (o.body_ledgers hb).2.2 hc.2.2.2
  | reputation o =>
    rcases o.ended c with ⟨-, hq⟩ | ⟨-, c₁, ⟨d, c₂, hb, rfl⟩, hc⟩
    · exact (Frame.quiet_books hq).2.2.2
    · rw [Reputation.Op.body_campus o hb] at hc
      exact hc.2.2.2
  | read o => exact (Frame.quiet_books (o.quiet c)).2.2.2
  | bank o => exact (o.ledgers c).2.2

theorem Campus.issued_le_after (c : Campus) (calls : List Call) :
    c.issued ≤ (c.after calls).issued :=
  Campus.after_induction (fun c' => c.issued ≤ c'.issued)
    (fun k _ hi => Nat.le_trans hi (k.issued_le _)) (Nat.le_refl _) calls

theorem Call.keeps_escrowed (k : Call) (he : Escrowed escrow m c)
    (hk : ∀ asset target amount, k ≠ .bank (.transfer asset escrow target amount))
    (hlt : (k.next c).issued < Nat.pow 2 48) :
    Escrowed escrow (fun a h => m a h + k.minted c a h) (k.next c) := by
  cases k with
  | staking o =>
    show Escrowed escrow m (o.act.exec c).2
    rcases o.ended c with ⟨-, hq⟩ | ⟨-, c₁, ⟨d, c₂, hb, rfl⟩, hc⟩
    · exact he.of_quiet hq
    · exact (he.commit o hb (Nat.lt_of_le_of_lt hc.2.2.2 hlt)).of_books hc
  | reputation o =>
    show Escrowed escrow m (o.act.exec c).2
    rcases o.ended c with ⟨-, hq⟩ | ⟨-, c₁, ⟨d, c₂, hb, rfl⟩, hc⟩
    · exact he.of_quiet hq
    · rw [Reputation.Op.body_campus o hb] at hc
      exact he.transport hc.2.1 hc.2.2.1 hc.2.2.2
  | read o =>
    show Escrowed escrow m (o.act.exec c).2
    exact he.of_quiet (o.quiet c)
  | bank o =>
    cases o with
    | mint asset issuer supply =>
      simp only [Call.minted, Call.next, Call.act, BankCall.act]
      rcases hx : (Act.mint asset issuer supply).exec c with ⟨e | u, c₁⟩
      · exact he.of_quiet (atomic_mint asset issuer supply c e c₁ hx)
      · obtain ⟨-, bank, hm, rfl⟩ := Act.mint_ok.mp hx
        exact he.of_bank (he.conserves.mint hm) (Bank.mint_transfers hm)
          fun _ => Bank.isSome_issue?_mint hm
    | optIn asset holder =>
      show Escrowed escrow m ((Act.optIn asset holder).exec c).2
      rcases hx : (Act.optIn asset holder).exec c with ⟨e | u, c₁⟩
      · exact he.of_quiet (atomic_optIn asset holder c e c₁ hx)
      · obtain ⟨-, bank, ho, rfl⟩ := Act.optIn_ok.mp hx
        exact he.of_bank (he.conserves.optIn ho) (Bank.optIn_transfers ho)
          (Bank.isSome_issue?_optIn ho).2
    | transfer asset source target amount =>
      show Escrowed escrow m ((Act.transfer asset source target amount >>= fun _ => pure ()).exec c).2
      have hsrc : source ≠ escrow := by
        rintro rfl
        exact hk asset target amount rfl
      have hlt' : ((Act.transfer asset source target amount >>= fun _ => pure ()).exec c).2.issued <
          Nat.pow 2 48 := hlt
      rw [exec_drop] at hlt' ⊢
      rcases hx : (Act.transfer asset source target amount).exec c with ⟨e | t, c₁⟩
      · exact he.of_quiet (atomic_transfer asset source target amount c e c₁ hx)
      · rw [hx] at hlt'
        exact he.transferCall hx hsrc hlt'
    | settled t =>
      show Escrowed escrow m ((Act.settled t >>= fun _ => pure ()).exec c).2
      exact he.of_quiet (within_bind (quiet_settled t) (fun _ => within_pure _) c)
    | balance asset holder =>
      show Escrowed escrow m ((Act.balance asset holder >>= fun _ => pure ()).exec c).2
      exact he.of_quiet (within_bind (quiet_balance asset holder) (fun _ => within_pure _) c)

/-- The invariant holds after every run in which the escrow sends nothing directly and fewer
than 2^48 identifiers are issued, given what the run minted. -/
theorem Escrowed.after (he : Escrowed escrow m c) (calls : List Call)
    (hk : ∀ k ∈ calls, ∀ asset target amount, k ≠ .bank (.transfer asset escrow target amount))
    (hlt : (c.after calls).issued < Nat.pow 2 48) :
    Escrowed escrow (fun a h => m a h + c.minted calls a h) (c.after calls) := by
  induction calls generalizing c m with
  | nil => exact he
  | cons k calls ih =>
    have hnext := Nat.lt_of_le_of_lt ((k.next c).issued_le_after calls) hlt
    have he₁ := k.keeps_escrowed he (hk k List.mem_cons_self) hnext
    have := ih he₁ (fun k' hk' => hk k' (List.mem_cons_of_mem _ hk')) hlt
    simpa only [Campus.minted, Campus.after_cons, Nat.add_assoc] using this

/-- A reconciliation that succeeds reads launched books, and the escrow's holding from the
bank. -/
theorem Staking.reconcile_ok {ctx : Context} {r : Reconciliation}
    (h : (Staking.reconcile ctx).exec c = (.ok r, c')) :
    c.staking.config.guard.initialized = true ∧ r.totalStaked = c.staking.config.totalStaked ∧
      c.bank.balance c.staking.config.asset c.staking.config.escrow = .ok r.escrowHolding := by
  unfold Staking.reconcile at h
  obtain ⟨r₁, c₁, hv, h⟩ := exec_bind_ok.mp h
  obtain ⟨d, hb⟩ := stakingView_ok hv
  obtain ⟨cfg, rfl, hb⟩ := step_bind_steady hb fun _ _ _ hx =>
    stakeLoadConfig_ok (internally_ok.mp hx)
  obtain ⟨-, hinit, hb⟩ := step_bind_steady hb fun _ _ _ hx => check_ok hx
  obtain ⟨holding, b₁, c₂, hx, hb⟩ := step_bind_ok.mp hb
  obtain ⟨hlift, rfl⟩ := step_lift_ok.mp (assetAccess_ok.mp hx)
  obtain ⟨-, hbal, rfl⟩ := balance_ok.mp hlift
  simp only [step_pure, Prod.mk.injEq, Except.ok.injEq] at hb
  obtain ⟨⟨rfl, -⟩, rfl⟩ := hb
  obtain ⟨_, c₂, -, h⟩ := exec_bind_ok.mp h
  simp only [exec_pure, Prod.mk.injEq, Except.ok.injEq] at h
  obtain ⟨rfl, -⟩ := h
  exact ⟨Guard.requireInitialized_ok hinit, rfl, hbal⟩

/-- The receipts of an asset to the escrow are the credited deposits and the others. -/
theorem inflow_credited {ts ds : List Transfer} {asset : AssetId}
    (hts : (ts.map (·.id)).Nodup) (hds : (ds.map (·.id)).Nodup)
    (hmem : ∀ d ∈ ds, d ∈ ts ∧ d.asset = asset ∧ d.target = escrow) :
    Bank.inflow ts asset escrow = (ds.map (·.amount)).sum +
      ((ts.filter fun t => t.asset == asset && t.target == escrow &&
        !ds.any (·.id == t.id)).map (·.amount)).sum := by
  let p : Transfer → Bool := fun t => t.asset == asset && t.target == escrow
  let q : Transfer → Bool := fun t => ds.any (·.id == t.id)
  -- the receipts credited are the deposits, in some order
  have hperm : ((ts.filter p).filter q).Perm ds := by
    refine (List.perm_ext_iff_of_nodup (((List.Nodup.of_map _ hts).filter p).filter q)
      (List.Nodup.of_map _ hds)).mpr fun t => ?_
    simp only [List.mem_filter]
    constructor
    · rintro ⟨⟨hin, -⟩, hq⟩
      obtain ⟨d, hd, hid⟩ := List.any_eq_true.mp hq
      have hdt : d = t := List.inj_on_of_nodup_map hts (hmem d hd).1 hin (by simpa using hid)
      exact hdt ▸ hd
    · intro hd
      obtain ⟨hin, ha, htg⟩ := hmem t hd
      exact ⟨⟨hin, by simp [p, ha, htg]⟩, List.any_eq_true.mpr ⟨t, hd, by simp⟩⟩
  have hrest : (ts.filter p).filter (fun t => !q t) =
      ts.filter fun t => t.asset == asset && t.target == escrow && !ds.any (·.id == t.id) := by
    rw [List.filter_filter]
    exact List.filter_congr fun t _ => Bool.and_comm _ _
  have hsplit := ((List.filter_append_perm q (ts.filter p)).map (·.amount)).sum_eq
  rw [List.map_append, List.sum_append, (hperm.map _).sum_eq, hrest] at hsplit
  exact hsplit.symm

/-- Through every run of calls from fresh staking books and an empty bank, in which the escrow
never sends a transfer directly and fewer than 2^48 identifiers are issued: once the ledger is
launched, the escrow holds exactly the total staked, plus what was minted to it, plus the
receipts of the asset to it that were never credited; so a reconciliation reports it covered,
and the bank never refuses a withdrawal that a balance covers for too little funds. -/
theorem escrow_holding_covers_stakes {controller : AccountId} {c : Campus}
    (hs : c.staking = Book.fresh controller escrow) (hb : c.bank = {}) (calls : List Call)
    (hdirect : ∀ k ∈ calls, ∀ asset target amount,
      k ≠ .bank (.transfer asset escrow target amount))
    (hlt : (c.after calls).issued < Nat.pow 2 48) :
    let c' := c.after calls
    let b := c'.staking
    b.config.guard.initialized = true →
      c'.bank.balance b.config.asset escrow = .ok (b.config.totalStaked +
        c.minted calls b.config.asset escrow +
        ((c'.bank.transfers.filter fun t => t.asset == b.config.asset && t.target == escrow &&
          !b.deposits.any (·.id == t.id)).map (·.amount)).sum) ∧
      (∀ (ctx : Context) (r : Reconciliation) (c'' : Campus),
        (Staking.reconcile ctx).exec c' = (.ok r, c'') → r.covered = true) ∧
      (∀ (caller : AccountId) (a : Account) (amount : Nat) (id : Uuid),
        b.findAccount caller = .ok a → a.canWithdraw amount = .ok () →
          c'.bank.transfer b.config.asset escrow caller amount id ≠ .error .insufficientFunds) := by
  dsimp only
  intro hon
  have he : Escrowed escrow (fun a h => 0 + c.minted calls a h) (c.after calls) :=
    (escrowed_start hs hb).after calls hdirect hlt
  generalize c.after calls = c' at he hon ⊢
  have hcr := he.credited hon
  have hcons : c'.bank.holding c'.staking.config.asset escrow +
      Bank.outflow c'.bank.transfers c'.staking.config.asset escrow =
      0 + c.minted calls c'.staking.config.asset escrow +
        Bank.inflow c'.bank.transfers c'.staking.config.asset escrow :=
    he.conserves _ _
  have hsplit := inflow_credited he.distinct hcr.distinct hcr.receipts
  have hpaid := hcr.paid
  -- what the escrow holds: conservation, with the credited receipts taken as the deposits
  have hholding : c'.bank.holding c'.staking.config.asset escrow = c'.staking.config.totalStaked +
      c.minted calls c'.staking.config.asset escrow +
      ((c'.bank.transfers.filter fun t => t.asset == c'.staking.config.asset && t.target == escrow &&
        !c'.staking.deposits.any (·.id == t.id)).map (·.amount)).sum := by
    omega
  refine ⟨?_, fun ctx r c'' hr => ?_, fun caller a amount id hfind hcan => ?_⟩
  · rw [Bank.balance_eq hcr.minted, hholding]
  · obtain ⟨-, htotal, hbal⟩ := Staking.reconcile_ok hr
    rw [he.escrow_eq, Bank.balance_eq hcr.minted, Except.ok.injEq] at hbal
    simp only [Reconciliation.covered, decide_eq_true_eq]
    omega
  · obtain ⟨-, hcover⟩ := Account.canWithdraw_ok hcan
    have hle := he.balanced.staked_le hfind
    exact Bank.transfer_ne_insufficientFunds (by omega)

theorem escrow_covers_after_mint_and_launch :
    let c := Campus.fresh {} 0
    let calls : List Call := [.bank (.mint ⟨7⟩ ⟨"escrow"⟩ 100),
      .staking (.launch { now := ⟨0⟩ } ⟨"controller"⟩ ⟨7⟩ 10)]
    c.staking = Book.fresh ⟨"controller"⟩ ⟨"escrow"⟩ ∧ c.bank = {} ∧
      (∀ k ∈ calls, ∀ asset target amount,
        k ≠ .bank (.transfer asset ⟨"escrow"⟩ target amount)) ∧
      (c.after calls).issued < Nat.pow 2 48 ∧
      let c' := c.after calls
      let b := c'.staking
      (b.config.guard.initialized = true →
        c'.bank.balance b.config.asset ⟨"escrow"⟩ = .ok (b.config.totalStaked +
          c.minted calls b.config.asset ⟨"escrow"⟩ +
          ((c'.bank.transfers.filter fun t => t.asset == b.config.asset &&
            t.target == ⟨"escrow"⟩ && !b.deposits.any (·.id == t.id)).map (·.amount)).sum) ∧
        (∀ (ctx : Context) (r : Reconciliation) (c'' : Campus),
          (Staking.reconcile ctx).exec c' = (.ok r, c'') → r.covered = true) ∧
        (∀ (caller : AccountId) (a : Account) (amount : Nat) (id : Uuid),
          b.findAccount caller = .ok a → a.canWithdraw amount = .ok () →
            c'.bank.transfer b.config.asset ⟨"escrow"⟩ caller amount id ≠
              .error .insufficientFunds)) := by
  intro c calls
  have hdirect : ∀ k ∈ calls, ∀ asset target amount,
      k ≠ .bank (.transfer asset ⟨"escrow"⟩ target amount) := by
    simp [calls]
  have hlt : (c.after calls).issued < Nat.pow 2 48 := by decide
  exact ⟨rfl, rfl, hdirect, hlt, escrow_holding_covers_stakes rfl rfl calls hdirect hlt⟩

end CampusLedger
