import CampusLedger.Proofs.Registration
/-!
# Credited deposits

A stake credits a receipt of the bank: the staking books record it among their deposits, and an
identifier they record is refused ever after. Along every run from fresh staking books with the
audit queue open, the deposits are exactly the receipts of the stakes that succeeded, in the
order they succeeded, under distinct identifiers; each is a transfer the bank executed, field
for field, of the staked asset and a positive amount, sent to the escrow by the registered
account it was credited to, never by the escrow. A stake that fails changes nothing, so its
receipt stays creditable; a stake of an identifier already credited never succeeds, and a live
one that presents a credited receipt on a campus where no fault is armed is refused as an
invalid deposit. A cancelled one is refused as timed out before the deposits are read.
-/

namespace CampusLedger

open Act Asset Ledger

namespace Ledger.Registry

variable {α : Type} {r : Registry α} {id : AccountId}

theorem lookup_of_contains (h : r.contains id = true) : ∃ x, r.lookup id = .ok x := by
  obtain ⟨p, hp, hid⟩ := List.any_eq_true.mp h
  have hsome : (r.records.find? (·.1 == id)).isSome := List.find?_isSome.mpr ⟨p, hp, hid⟩
  obtain ⟨q, hq⟩ := Option.isSome_iff_exists.mp hsome
  exact ⟨q.2, by simp [lookup, find?, hq]⟩

theorem contains_of_lookup {x : α} (h : r.lookup id = .ok x) : r.contains id = true :=
  contains_iff.mpr (List.mem_map.mpr ⟨_, lookup_ok h, rfl⟩)

end Ledger.Registry

namespace Staking

variable {b d : Book} {c c₁ : Campus}

/-- Books that are not launched had not been launched before either. -/
theorem Book.Keeps.idle (hk : b.Keeps d) (hoff : d.config.guard.initialized = false) :
    b.config.guard.initialized = false := by
  cases hon : b.config.guard.initialized
  · rfl
  · rw [(hk.launched hon).1] at hoff
    cases hoff

/-- A committed staking body adds at most the receipt of a withdrawal's payout to the bank. -/
theorem Op.body_receipts (k : Op) (h : (k.body b).exec c = (.ok ((), d), c₁)) :
    c.bank.transfers <+: c₁.bank.transfers := by
  cases k with
  | register ctx caller =>
    obtain ⟨r, h⟩ := step_drop_ok.mp h
    obtain ⟨-, rfl, -⟩ := registerTx_ok h
    exact List.prefix_refl _
  | launch _ caller asset threshold =>
    obtain ⟨r, h⟩ := step_drop_ok.mp h
    obtain ⟨-, -, -, -, bank, hopt, rfl⟩ := launchTx_ok h
    show c.bank.transfers <+: bank.transfers
    rw [Bank.optIn_transfers hopt]
  | stake ctx caller deposit =>
    obtain ⟨r, h⟩ := step_drop_ok.mp h
    obtain ⟨-, -, -, -, -, -, -, -, -, -, -, -, -, rfl, -⟩ := stakeTx_ok h
    exact List.prefix_refl _
  | withdraw ctx caller amount =>
    obtain ⟨r, h⟩ := step_drop_ok.mp h
    obtain ⟨-, -, bank, t, -, -, -, -, -, hpay, rfl, -⟩ := withdrawTx_ok h
    obtain ⟨-, -, -, htransfers, -⟩ := Bank.transfer_ok hpay
    show c.bank.transfers <+: bank.transfers
    rw [htransfers]
    exact List.prefix_append _ _

/-- A committed stake credits its receipt, checked on launched books, on a registered caller
and settled by the bank, under an identifier not credited before; every other committed body
leaves the deposits alone. -/
theorem Op.deposits_cases (k : Op) (h : (k.body b).exec c = (.ok ((), d), c₁)) :
    (d.deposits = b.deposits ∧ ∀ ctx caller t, k ≠ .stake ctx caller t) ∨
      ∃ ctx caller t, k = .stake ctx caller t ∧ d.deposits = b.deposits ++ [t] ∧
        b.deposits.any (·.id == t.id) = false ∧ b.config.guard.initialized = true ∧
        b.loadConfig.checkDeposit caller t = .ok () ∧ b.accounts.contains caller = true ∧
        c.bank.settled t = true := by
  cases k with
  | register ctx caller =>
    obtain ⟨r, h⟩ := step_drop_ok.mp h
    obtain ⟨hcreate, -, -⟩ := registerTx_ok h
    obtain ⟨reg, -, rfl⟩ := Book.createAccount_ok hcreate
    exact .inl ⟨rfl, fun _ _ _ => Op.noConfusion⟩
  | launch ctx caller asset threshold =>
    obtain ⟨r, h⟩ := step_drop_ok.mp h
    obtain ⟨-, -, -, hsave, -⟩ := launchTx_ok h
    obtain rfl := Book.saveConfig_ok hsave
    exact .inl ⟨rfl, fun _ _ _ => Op.noConfusion⟩
  | stake ctx caller t =>
    obtain ⟨r, h⟩ := step_drop_ok.mp h
    obtain ⟨a, a', cfg', b₂, b₃, hinit, hdep, hfind, hset, hrec, -, hsave, hconf, -, -⟩ :=
      stakeTx_ok h
    obtain ⟨hfresh, rfl⟩ := Book.recordDeposit_ok hrec
    obtain ⟨reg, -, rfl⟩ := Book.saveAccount_ok hsave
    obtain rfl := Book.saveConfig_ok hconf
    exact .inr ⟨ctx, caller, t, rfl, rfl, hfresh, Guard.requireInitialized_ok hinit, hdep,
      Registry.contains_of_lookup hfind, hset⟩
  | withdraw ctx caller amount =>
    obtain ⟨r, h⟩ := step_drop_ok.mp h
    obtain ⟨a, b₁, bank, t, -, -, -, hsave, hconf, -, -, -⟩ := withdrawTx_ok h
    obtain ⟨reg, -, rfl⟩ := Book.saveAccount_ok hsave
    obtain rfl := Book.saveConfig_ok hconf
    exact .inl ⟨rfl, fun _ _ _ => Op.noConfusion⟩

/-- With the audit queue open, an operation that fails leaves the campus alone. -/
theorem Op.quiet_of_fails (k : Op) (hq : c.outbox.closed = false)
    (h : (k.act.exec c).1 ≠ .ok ()) : Frame.quiet.rel c (k.act.exec c).2 := by
  rcases (k.outcome hq).1 with ⟨-, hquiet⟩ | ⟨hr, -⟩
  · exact hquiet
  · exact absurd hr h

/-- A stake of an identifier already credited never succeeds: the books it would commit record
the identifier a second time. -/
theorem Op.stake_used_fails {t : Transfer} (hused : c.staking.deposits.any (·.id == t.id) = true)
    (ctx : Context) (caller : AccountId) : ((Op.stake ctx caller t).act.exec c).1 ≠ .ok () := by
  intro hok
  obtain ⟨d, c₁, hb, -⟩ := (Op.stake ctx caller t).commits_of_ok hok
  rcases (Op.stake ctx caller t).deposits_cases hb with ⟨-, hne⟩ | ⟨_, _, _, heq, -, hfresh, -⟩
  · exact hne ctx caller t rfl
  · cases heq
    rw [hused] at hfresh
    cases hfresh

end Staking

/-- What a call credits: the caller and the receipt of a stake that succeeds. -/
def Call.credit (k : Call) (c : Campus) : List (AccountId × Transfer) :=
  match k with
  | .staking (.stake ctx caller deposit) =>
    match ((Staking.Op.stake ctx caller deposit).act.exec c).1 with
    | .ok () => [(caller, deposit)]
    | .error _ => []
  | _ => []

/-- What the stakes of a run of calls credit, in the order they succeed. -/
def Campus.credits (c : Campus) : List Call → List (AccountId × Transfer)
  | [] => []
  | k :: calls => k.credit c ++ (k.next c).credits calls

variable {c c' : Campus}

theorem receipts_of_books (h : Frame.books.rel c c') : c.bank.transfers <+: c'.bank.transfers := by
  rw [h.2.2.1]

/-- No call takes a receipt back from the bank. -/
theorem Call.receipts_grow (k : Call) (c : Campus) :
    c.bank.transfers <+: (k.next c).bank.transfers := by
  cases k with
  | staking o =>
    rcases o.ended c with ⟨-, hq⟩ | ⟨-, c₁, ⟨d, c₂, hb, rfl⟩, hc⟩
    · exact receipts_of_books (Frame.quiet_books hq)
    · exact (o.body_receipts hb).trans (receipts_of_books (c := { c₂ with staking := d }) hc)
  | reputation o =>
    rcases o.ended c with ⟨-, hq⟩ | ⟨-, c₁, ⟨d, c₂, hb, rfl⟩, hc⟩
    · exact receipts_of_books (Frame.quiet_books hq)
    · rw [Reputation.Op.body_campus o hb] at hc
      exact receipts_of_books (c := { c with reputation := d }) hc
  | read o => exact receipts_of_books (Frame.quiet_books (o.quiet c))
  | bank o =>
    cases o with
    | mint asset issuer supply =>
      show c.bank.transfers <+: ((Act.mint asset issuer supply).exec c).2.bank.transfers
      rcases hx : (Act.mint asset issuer supply).exec c with ⟨e | u, c₁⟩
      · exact receipts_of_books (Frame.quiet_books (atomic_mint asset issuer supply c e c₁ hx))
      · obtain ⟨-, bank, hm, rfl⟩ := Act.mint_ok.mp hx
        show c.bank.transfers <+: bank.transfers
        rw [Bank.mint_transfers hm]
    | optIn asset holder =>
      show c.bank.transfers <+: ((Act.optIn asset holder).exec c).2.bank.transfers
      rcases hx : (Act.optIn asset holder).exec c with ⟨e | u, c₁⟩
      · exact receipts_of_books (Frame.quiet_books (atomic_optIn asset holder c e c₁ hx))
      · obtain ⟨-, bank, ho, rfl⟩ := Act.optIn_ok.mp hx
        show c.bank.transfers <+: bank.transfers
        rw [Bank.optIn_transfers ho]
    | transfer asset source target amount =>
      show c.bank.transfers <+:
        ((Act.transfer asset source target amount >>= fun _ => pure ()).exec c).2.bank.transfers
      rw [exec_drop]
      rcases hx : (Act.transfer asset source target amount).exec c with ⟨e | t, c₁⟩
      · exact receipts_of_books
          (Frame.quiet_books (atomic_transfer asset source target amount c e c₁ hx))
      · obtain ⟨-, bank, hpay, rfl⟩ := Act.transfer_ok.mp hx
        obtain ⟨-, -, -, htransfers, -⟩ := Bank.transfer_ok hpay
        show c.bank.transfers <+: bank.transfers
        rw [htransfers]
        exact List.prefix_append _ _
    | settled t =>
      exact receipts_of_books
        (Frame.quiet_books (within_bind (quiet_settled t) (fun _ => within_pure _) c))
    | balance asset holder =>
      exact receipts_of_books
        (Frame.quiet_books (within_bind (quiet_balance asset holder) (fun _ => within_pure _) c))

/-- What a call does to the deposits, with the audit queue open: a stake that succeeds credits
its receipt, checked on launched books, on a registered caller and settled by the bank, under
an identifier not credited before; every other call credits nothing and leaves the deposits
alone. -/
theorem Call.deposits_cases (k : Call) (hq : c.outbox.closed = false) :
    ((k.next c).staking.deposits = c.staking.deposits ∧ k.credit c = []) ∨
      ∃ caller t, k.credit c = [(caller, t)] ∧
        (k.next c).staking.deposits = c.staking.deposits ++ [t] ∧
        c.staking.deposits.any (·.id == t.id) = false ∧
        c.staking.config.guard.initialized = true ∧
        c.staking.loadConfig.checkDeposit caller t = .ok () ∧
        c.staking.accounts.contains caller = true ∧ c.bank.settled t = true := by
  cases k with
  | staking o =>
    rcases (o.outcome hq).1 with ⟨⟨e, he⟩, hquiet⟩ | ⟨hr, c₁, ⟨d, c₂, hb, rfl⟩, hc⟩
    · -- a failed operation credits nothing and leaves the books alone
      refine .inl ⟨congrArg Staking.Book.deposits (Frame.quiet_books hquiet).2.1, ?_⟩
      cases o with
      | stake ctx caller t => simp only [Call.credit, he]
      | _ => rfl
    · rcases o.deposits_cases hb with ⟨hd, hne⟩ |
        ⟨ctx, caller, t, rfl, hd, hfresh, hon, hdep, hreg, hset⟩
      · refine .inl ⟨(congrArg Staking.Book.deposits hc.2.1).trans hd, ?_⟩
        cases o with
        | stake ctx caller t => exact absurd rfl (hne ctx caller t)
        | _ => rfl
      · exact .inr ⟨caller, t, by simp only [Call.credit, hr],
          (congrArg Staking.Book.deposits hc.2.1).trans hd, hfresh, hon, hdep, hreg, hset⟩
  | _ =>
    -- no other call reaches the staking books
    rcases Call.staking_next _ c with h | ⟨_, _, _, hk, -⟩
    · exact .inl ⟨congrArg Staking.Book.deposits h, rfl⟩
    · cases hk

/-- A receipt credited to `holder` on a campus: the bank executed exactly this transfer, of the
staked asset and a positive amount, sent to the escrow by `holder`, a registered account other
than the escrow. -/
structure Receipt (c : Campus) (holder : AccountId) (t : Transfer) : Prop where
  executed : t ∈ c.bank.transfers
  asset : t.asset = c.staking.config.asset
  escrow : t.target = c.staking.config.escrow
  positive : 0 < t.amount
  sender : t.source = holder
  not_escrow : holder ≠ c.staking.config.escrow
  registered : c.staking.accounts.contains holder = true

/-- A receipt that passes the deposit check, presented by a registered caller and settled by
the bank, is one credited to the caller. -/
theorem Receipt.of_check {caller : AccountId} {t : Transfer}
    (hdep : c.staking.loadConfig.checkDeposit caller t = .ok ())
    (hreg : c.staking.accounts.contains caller = true) (hset : c.bank.settled t = true) :
    Receipt c caller t := by
  obtain ⟨hasset, htarget, hpos, hsrc, rfl⟩ := Staking.Config.checkDeposit_ok hdep
  exact ⟨Bank.settled_mem hset, hasset, htarget, hpos, rfl, hsrc, hreg⟩

/-- A receipt credited on launched books stays credited in every later state: the bank keeps
its receipts, the launch keeps the asset and the escrow, and the registry only grows. -/
theorem Receipt.mono {holder : AccountId} {t : Transfer} (h : Receipt c holder t)
    (hon : c.staking.config.guard.initialized = true) (hk : c.staking.Keeps c'.staking)
    (hg : c.staking.accounts.Grows c'.staking.accounts)
    (hr : c.bank.transfers <+: c'.bank.transfers) : Receipt c' holder t where
  executed := hr.subset h.executed
  asset := h.asset.trans (hk.launched hon).2.1.symm
  escrow := h.escrow.trans hk.escrow.symm
  positive := h.positive
  sender := h.sender
  not_escrow := hk.escrow ▸ h.not_escrow
  registered := hg.contains h.registered

/-- The deposits of a campus's staking books, given what the stakes so far credited: they are
those stakes' receipts in order, under distinct identifiers, none before the launch, each
credited to the account that staked it. -/
structure Deposited (credits : List (AccountId × Transfer)) (c : Campus) : Prop where
  deposits : c.staking.deposits = credits.map Prod.snd
  distinct : (c.staking.deposits.map (·.id)).Nodup
  idle : c.staking.config.guard.initialized = false → credits = []
  receipts : ∀ p ∈ credits, Receipt c p.1 p.2

variable {cr : List (AccountId × Transfer)}

theorem deposited_start {controller escrow : AccountId}
    (hs : c.staking = Staking.Book.fresh controller escrow) : Deposited [] c where
  deposits := by rw [hs]; rfl
  distinct := by rw [hs]; exact List.nodup_nil
  idle _ := rfl
  receipts _ hp := absurd hp List.not_mem_nil

theorem Deposited.launched {p : AccountId × Transfer} (h : Deposited cr c) (hp : p ∈ cr) :
    c.staking.config.guard.initialized = true := by
  cases hon : c.staking.config.guard.initialized
  · rw [h.idle hon] at hp
    cases hp
  · rfl

theorem Call.keeps_deposited (k : Call) (hq : c.outbox.closed = false) (h : Deposited cr c) :
    Deposited (cr ++ k.credit c) (k.next c) := by
  have hk := k.keeps_staking c
  have hg := k.staking_grows c
  have hr := k.receipts_grow c
  have hold : ∀ p ∈ cr, Receipt (k.next c) p.1 p.2 := fun p hp =>
    (h.receipts p hp).mono (h.launched hp) hk hg hr
  rcases k.deposits_cases hq with ⟨hd, hcr⟩ |
    ⟨caller, t, hcr, hd, hfresh, hon, hdep, hreg, hset⟩
  · rw [hcr, List.append_nil]
    exact ⟨hd.trans h.deposits, hd ▸ h.distinct, fun hoff => h.idle (hk.idle hoff), hold⟩
  · -- the stake credits its receipt on launched books, which stay launched
    have hon' := (hk.launched hon).1
    rw [hcr]
    refine ⟨by rw [hd, h.deposits, List.map_append]; rfl,
      hd ▸ ids_nodup_append_fresh h.distinct hfresh,
      fun hoff => absurd (hon'.symm.trans hoff) Bool.noConfusion, fun p hp => ?_⟩
    rcases List.mem_append.mp hp with hp | hp
    · exact hold p hp
    · rw [List.mem_singleton.mp hp]
      exact (Receipt.of_check hdep hreg hset).mono hon hk hg hr

theorem Deposited.after (h : Deposited cr c) (hq : c.outbox.closed = false) (calls : List Call) :
    Deposited (cr ++ c.credits calls) (c.after calls) := by
  induction calls generalizing c cr with
  | nil => simpa only [Campus.credits, List.append_nil, Campus.after_nil] using h
  | cons k calls ih =>
    have := ih (k.keeps_deposited hq h) (k.keeps_open hq)
    simpa only [Campus.credits, Campus.after_cons, List.append_assoc] using this

/-- A credited receipt presented again, live, on a campus where no fault is armed, is refused
as an invalid deposit, whoever presents it. -/
theorem Deposited.replay_invalid {ctx : Context} {t : Transfer} (h : Deposited cr c)
    (ht : t ∈ c.staking.deposits) (hf : c.faults.armed = []) (hl : ctx.cancelled = false)
    (caller : AccountId) :
    ∃ e, ((Staking.Op.stake ctx caller t).act.exec c).1 = .error e ∧ e.code = .invalidDeposit := by
  have hused : c.staking.deposits.any (·.id == t.id) = true :=
    List.any_eq_true.mpr ⟨t, ht, beq_self_eq_true _⟩
  rw [h.deposits] at ht
  obtain ⟨p, hp, rfl⟩ := List.mem_map.mp ht
  have hr := h.receipts p hp
  refine Staking.Op.stake_credited hf hl (h.launched hp) hused fun hdep => ?_
  -- a caller that passes the deposit check sent the receipt, so it is its registered holder
  obtain ⟨-, -, -, -, hsrc⟩ := Staking.Config.checkDeposit_ok hdep
  have hcaller : caller = p.1 := hsrc.symm.trans hr.sender
  rw [hcaller]
  exact Registry.lookup_of_contains hr.registered

/-- Along every run from fresh staking books with the audit queue open, the deposits are the
receipts of the stakes that succeeded, in order and under distinct identifiers, each one the
bank executed, credited to the account that sent it (see `Receipt`). A stake that fails changes
nothing, so its receipt stays creditable; a stake of a credited identifier never succeeds; and a
credited receipt presented again is refused: as an invalid deposit when the request is live and
no fault is armed, while the transaction first refuses a cancelled request with a timeout and a
fault armed at its site with that fault. -/
theorem deposits_are_credited_receipts {controller escrow : AccountId}
    (hs : c.staking = Staking.Book.fresh controller escrow) (hq : c.outbox.closed = false)
    (calls : List Call) :
    let c' := c.after calls
    c'.staking.deposits = (c.credits calls).map Prod.snd ∧
      (c'.staking.deposits.map (·.id)).Nodup ∧
      (∀ p ∈ c.credits calls, Receipt c' p.1 p.2) ∧
      (∀ ctx caller t, ((Staking.Op.stake ctx caller t).act.exec c').1 ≠ .ok () →
        Frame.quiet.rel c' ((Staking.Op.stake ctx caller t).act.exec c').2) ∧
      (∀ ctx caller t, c'.staking.deposits.any (·.id == t.id) = true →
        ((Staking.Op.stake ctx caller t).act.exec c').1 ≠ .ok ()) ∧
      (∀ ctx caller t, t ∈ c'.staking.deposits → ctx.cancelled = false → c'.faults.armed = [] →
        ∃ e, ((Staking.Op.stake ctx caller t).act.exec c').1 = .error e ∧
          e.code = .invalidDeposit) ∧
      (∀ ctx caller t, ctx.cancelled = true → (c'.faults.trip "stake.RunInTx").1 = false →
        ((Staking.Op.stake ctx caller t).act.exec c').1 = .error (.wrapCoded .timeout
          "transaction aborted: context cancelled" (.context .canceled))) ∧
      (∀ ctx caller t, (c'.faults.trip "stake.RunInTx").1 = true →
        ((Staking.Op.stake ctx caller t).act.exec c').1 = .error (.injected "stake.RunInTx")) := by
  intro c'
  have h : Deposited (c.credits calls) c' := by
    simpa using (deposited_start hs).after hq calls
  have hq' : c'.outbox.closed = false := Campus.open_after hq calls
  exact ⟨h.deposits, h.distinct, h.receipts,
    fun ctx caller t hx => (Staking.Op.stake ctx caller t).quiet_of_fails hq' hx,
    fun ctx caller t hused => Staking.Op.stake_used_fails hused ctx caller,
    fun ctx caller t ht hl hf => h.replay_invalid ht hf hl caller,
    fun ctx caller t hl ht => service_error (stakingTx_cancelled ht hl),
    fun ctx caller t ht => service_error (stakingTx_faulted ht)⟩

theorem deposits_after_launch_and_stake :
    let c := Campus.fresh {} 0
    let calls : List Call := [.bank (.mint ⟨7⟩ ⟨"alice"⟩ 100),
      .staking (.launch { now := ⟨0⟩ } ⟨"controller"⟩ ⟨7⟩ 10),
      .staking (.register { now := ⟨0⟩ } ⟨"alice"⟩),
      .bank (.transfer ⟨7⟩ ⟨"alice"⟩ ⟨"escrow"⟩ 5),
      .staking (.stake { now := ⟨0⟩ } ⟨"alice"⟩
        { id := Uuid.numbered 3, asset := ⟨7⟩, source := ⟨"alice"⟩, target := ⟨"escrow"⟩,
          amount := 5 })]
    c.staking = Staking.Book.fresh ⟨"controller"⟩ ⟨"escrow"⟩ ∧ c.outbox.closed = false ∧
      let c' := c.after calls
      c'.staking.deposits = (c.credits calls).map Prod.snd ∧
        (c'.staking.deposits.map (·.id)).Nodup ∧
        (∀ p ∈ c.credits calls, Receipt c' p.1 p.2) ∧
        (∀ ctx caller t, ((Staking.Op.stake ctx caller t).act.exec c').1 ≠ .ok () →
          Frame.quiet.rel c' ((Staking.Op.stake ctx caller t).act.exec c').2) ∧
        (∀ ctx caller t, c'.staking.deposits.any (·.id == t.id) = true →
          ((Staking.Op.stake ctx caller t).act.exec c').1 ≠ .ok ()) ∧
        (∀ ctx caller t, t ∈ c'.staking.deposits → ctx.cancelled = false → c'.faults.armed = [] →
          ∃ e, ((Staking.Op.stake ctx caller t).act.exec c').1 = .error e ∧
            e.code = .invalidDeposit) ∧
        (∀ ctx caller t, ctx.cancelled = true → (c'.faults.trip "stake.RunInTx").1 = false →
          ((Staking.Op.stake ctx caller t).act.exec c').1 = .error (.wrapCoded .timeout
            "transaction aborted: context cancelled" (.context .canceled))) ∧
        (∀ ctx caller t, (c'.faults.trip "stake.RunInTx").1 = true →
          ((Staking.Op.stake ctx caller t).act.exec c').1 = .error (.injected "stake.RunInTx")) :=
  ⟨rfl, rfl, deposits_are_credited_receipts rfl rfl _⟩

/-- A credited receipt presented again is not told that it was credited when the request was
cancelled, or when a fault is armed at the staking ledger's transactions: the transaction
refuses it before the deposits are read. -/
theorem stake_replay_refused_before_credit_check :
    let t : Transfer :=
      { id := Uuid.numbered 3, asset := ⟨7⟩, source := ⟨"alice"⟩, target := ⟨"escrow"⟩, amount := 5 }
    let c := (Campus.fresh {} 0).after [.bank (.mint ⟨7⟩ ⟨"alice"⟩ 100),
      .staking (.launch { now := ⟨0⟩ } ⟨"controller"⟩ ⟨7⟩ 10),
      .staking (.register { now := ⟨0⟩ } ⟨"alice"⟩),
      .bank (.transfer ⟨7⟩ ⟨"alice"⟩ ⟨"escrow"⟩ 5),
      .staking (.stake { now := ⟨0⟩ } ⟨"alice"⟩ t)]
    t ∈ c.staking.deposits ∧
      ((Staking.Op.stake { now := ⟨0⟩, cancelled := true } ⟨"alice"⟩ t).act.exec c).1 =
        .error (.wrapCoded .timeout "transaction aborted: context cancelled" (.context .canceled)) ∧
      ((Staking.Op.stake { now := ⟨0⟩ } ⟨"alice"⟩ t).act.exec
        { c with faults := c.faults.arm "stake.RunInTx" 1 }).1 =
        .error (.injected "stake.RunInTx") := by
  intro t c
  have ht : (c.faults.trip "stake.RunInTx").1 = false := by decide +kernel
  exact ⟨by decide +kernel, service_error (stakingTx_cancelled ht rfl),
    service_error (stakingTx_faulted (by decide +kernel))⟩

end CampusLedger
