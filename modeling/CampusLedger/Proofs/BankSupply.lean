import CampusLedger.Proofs.Escrow
/-!
# The bank keeps every asset's supply

An issue's holdings name each holder once and add up to the supply its asset was minted with:
a mint starts the issue with the whole supply at the issuer, an opt-in adds a holder with
nothing, and a transfer takes its amount from one holder and gives it to another. So no holding
passes its asset's supply and, the supply being a word, a receiver's holding never overflows. A
failed transfer changes neither the holdings nor the receipts; one that succeeds moves its
amount from the sender to the receiver and records its receipt, which is then settled, while a
receipt equal to none recorded is not settled. Receipts carry the identifiers the campus
issues, so a new one is settled as long as fewer than 2^48 identifiers are issued.
-/

namespace CampusLedger

open Asset

namespace Asset

section Rows

variable {l : List (AccountId × Nat)} {h : AccountId} {n : Nat}

/-- Rewriting the row of a holder keeps every row's holder. -/
theorem keys_replace :
    ((l.map fun p => if p.1 == h then (h, n) else p).map (·.1)) = l.map (·.1) := by
  rw [List.map_map]
  refine List.map_congr_left fun p _ => ?_
  by_cases hp : p.1 = h <;> simp [hp]

theorem replace_absent (hl : ∀ p ∈ l, p.1 ≠ h) :
    (l.map fun p => if p.1 == h then (h, n) else p) = l := by
  conv_rhs => rw [← List.map_id l]
  exact List.map_congr_left fun p hp => by simp [hl p hp]

/-- Rewriting the row of a holder that has one changes the sum by the new value less the one it
replaces. -/
theorem sum_replace (hk : (l.map (·.1)).Nodup) (hany : l.any (·.1 == h)) :
    ((l.map fun p => if p.1 == h then (h, n) else p).map (·.2)).sum +
        ((l.find? (·.1 == h)).map (·.2)).getD 0 = (l.map (·.2)).sum + n := by
  induction l with
  | nil => simp at hany
  | cons p l ih =>
    rw [List.map_cons, List.nodup_cons] at hk
    by_cases hp : p.1 = h
    · -- the holder's only row is the first
      have hph : (p.1 == h) = true := by simpa using hp
      have hl : ∀ q ∈ l, q.1 ≠ h := fun q hq hqh => hk.1 (hp ▸ hqh ▸ List.mem_map_of_mem hq)
      simp only [List.map_cons, List.sum_cons, List.find?_cons, hph, if_true, replace_absent hl,
        Option.map_some, Option.getD_some]
      omega
    · have hph : (p.1 == h) = false := by simpa using hp
      have hany' : l.any (·.1 == h) := by simpa [hp] using hany
      have := ih hk.2 hany'
      simp only [List.map_cons, List.sum_cons, List.find?_cons, hph, Bool.false_eq_true, if_false]
      omega

/-- Two different rows add up to at most the sum. -/
theorem add_le_sum {p q : AccountId × Nat} (hp : p ∈ l) (hq : q ∈ l) (hne : p ≠ q) :
    p.2 + q.2 ≤ (l.map (·.2)).sum := by
  induction l with
  | nil => cases hp
  | cons x l ih =>
    rw [List.map_cons, List.sum_cons]
    rcases List.mem_cons.mp hp with rfl | hp'
    · have hq' : q ∈ l := (List.mem_cons.mp hq).resolve_left (Ne.symm hne)
      have hle : q.2 ≤ (l.map (·.2)).sum := List.le_sum_of_mem (List.mem_map_of_mem hq')
      omega
    · rcases List.mem_cons.mp hq with rfl | hq'
      · have hle : p.2 ≤ (l.map (·.2)).sum := List.le_sum_of_mem (List.mem_map_of_mem hp')
        omega
      · have := ih hp' hq'
        omega

end Rows

namespace Issue

variable {i : Issue} {h s t : AccountId} {n v w : Nat}

def total (i : Issue) : Nat := (i.holdings.map (·.2)).sum

/-- Each holder has one row among an issue's holdings. -/
def Keyed (i : Issue) : Prop := (i.holdings.map (·.1)).Nodup

theorem balance?_mem (hv : i.balance? h = some v) : (h, v) ∈ i.holdings := by
  unfold balance? at hv
  obtain ⟨p, hp, rfl⟩ := Option.map_eq_some_iff.mp hv
  have hkey : p.1 = h := by simpa using List.find?_some hp
  rw [← hkey]
  exact List.mem_of_find?_eq_some hp

theorem balance?_le_total (hv : i.balance? h = some v) : v ≤ i.total := by
  have hmem : (h, v).2 ∈ i.holdings.map (·.2) := List.mem_map_of_mem (balance?_mem hv)
  exact List.le_sum_of_mem hmem

/-- Two holders' balances add up to at most the issue's units. -/
theorem add_le_total (hs : i.balance? s = some v) (ht : i.balance? t = some w) (hne : s ≠ t) :
    v + w ≤ i.total :=
  add_le_sum (balance?_mem hs) (balance?_mem ht) fun heq => hne (congrArg Prod.fst heq)

theorem keyed_setBalance (hk : i.Keyed) : (i.setBalance h n).Keyed := by
  unfold setBalance Keyed
  split
  · rw [keys_replace]
    exact hk
  · rename_i hany
    rw [List.map_append, List.nodup_append]
    refine ⟨hk, List.nodup_singleton _, ?_⟩
    intro x hx y hy hxy
    simp only [List.map_cons, List.map_nil, List.mem_singleton] at hy
    obtain ⟨p, hp, rfl⟩ := List.mem_map.mp hx
    exact hany (List.any_eq_true.mpr ⟨p, hp, by simp [hxy, hy]⟩)

/-- Setting a balance changes the units by the new balance less the one it replaces. -/
theorem total_setBalance (hk : i.Keyed) :
    (i.setBalance h n).total + (i.balance? h).getD 0 = i.total + n := by
  unfold setBalance total balance?
  split
  · rename_i hany
    exact sum_replace hk hany
  · rename_i hany
    have hnone : i.holdings.find? (·.1 == h) = none :=
      List.find?_eq_none.mpr fun p hp hph => hany (List.any_eq_true.mpr ⟨p, hp, hph⟩)
    simp [hnone]

end Issue

namespace Bank

variable {b b' : Bank} {s : AssetId → Nat} {asset : AssetId} {holder source target : AccountId}
  {i j : Issue} {amount : Nat} {id : Uuid} {t : Transfer}

/-- Each issue names every holder once, and its holdings add up to its asset's supply. -/
structure Supplied (s : AssetId → Nat) (b : Bank) : Prop where
  keyed : ∀ i ∈ b.issues, i.Keyed
  total : ∀ i ∈ b.issues, i.total = s i.asset

theorem supplied_empty (s : AssetId → Nat) : Supplied s {} where
  keyed _ hi := by cases hi
  total _ hi := by cases hi

/-- The invariant reads only the issues. -/
theorem Supplied.of_issues (hs : Supplied s b) (h : b'.issues = b.issues) : Supplied s b' :=
  ⟨h ▸ hs.keyed, h ▸ hs.total⟩

theorem mem_of_issue? (hj : b.issue? asset = some j) : j ∈ b.issues :=
  List.mem_of_find?_eq_some hj

theorem mem_setIssue (hj : j ∈ (b.setIssue i).issues) : j = i ∨ j ∈ b.issues := by
  unfold setIssue at hj
  obtain ⟨j', hj', rfl⟩ := List.mem_map.mp hj
  split
  · exact Or.inl rfl
  · exact Or.inr hj'

theorem Supplied.setIssue (hs : Supplied s b) (hk : i.Keyed) (ht : i.total = s i.asset) :
    Supplied s (b.setIssue i) where
  keyed j hj := (mem_setIssue hj).elim (fun h => h ▸ hk) (hs.keyed j)
  total j hj := (mem_setIssue hj).elim (fun h => h ▸ ht) (hs.total j)

/-- A mint sets its asset's supply: the new issue holds it whole, at the issuer, and every
other issue is of another asset. -/
theorem Supplied.mint {issuer : AccountId} {supply : Nat} (hs : Supplied s b)
    (hm : b.mint asset issuer supply = .ok b') : Supplied (Function.update s asset supply) b' := by
  obtain ⟨hnew, rfl⟩ := mint_ok hm
  have hother : ∀ j ∈ b.issues, j.asset ≠ asset := fun j hj hja =>
    (List.find?_eq_none.mp hnew) j hj (by simp [hja])
  constructor
  · intro j hj
    rcases List.mem_append.mp hj with hj | hj
    · exact hs.keyed j hj
    · rw [List.mem_singleton.mp hj]
      exact List.nodup_singleton _
  · intro j hj
    rcases List.mem_append.mp hj with hj | hj
    · rw [Function.update_of_ne (hother j hj)]
      exact hs.total j hj
    · rw [List.mem_singleton.mp hj]
      simp [Issue.total]

/-- An opt-in adds a holder with nothing. -/
theorem Supplied.optIn (hs : Supplied s b) (ho : b.optIn asset holder = .ok b') : Supplied s b' := by
  obtain ⟨j, hj, rfl | ⟨hnone, rfl⟩⟩ := optIn_ok ho
  · exact hs
  have hk := hs.keyed j (mem_of_issue? hj)
  have ht := Issue.total_setBalance (h := holder) (n := 0) hk
  rw [hnone] at ht
  refine hs.setIssue (Issue.keyed_setBalance hk) ?_
  rw [Issue.setBalance_asset, ← hs.total j (mem_of_issue? hj)]
  simpa using ht

/-- A transfer takes its amount from the sender's row and gives it to the receiver's. -/
theorem Supplied.transfer (hs : Supplied s b)
    (ht : b.transfer asset source target amount id = .ok (b', t)) : Supplied s b' := by
  obtain ⟨hpos, hne, -, -, j, toBalance, hj, hto, hle, hissues⟩ := transfer_ok ht
  have hk := hs.keyed j (mem_of_issue? hj)
  have hk₁ := Issue.keyed_setBalance (h := source) (n := (j.balance? source).getD 0 - amount) hk
  have ht₁ := Issue.total_setBalance (h := source) (n := (j.balance? source).getD 0 - amount) hk
  have ht₂ := Issue.total_setBalance (h := target) (n := toBalance + amount) hk₁
  rw [Issue.balance?_setBalance_ne (Ne.symm hne), hto, Option.getD_some] at ht₂
  refine (hs.setIssue (Issue.keyed_setBalance hk₁) ?_).of_issues hissues
  rw [Issue.setBalance_asset, Issue.setBalance_asset, ← hs.total j (mem_of_issue? hj)]
  omega

/-- No holding passes its asset's supply. -/
theorem Supplied.holding_le (hs : Supplied s b) (a : AssetId) (h : AccountId) :
    b.holding a h ≤ s a := by
  cases hi : b.issue? a with
  | none => simp [holding, hi]
  | some j =>
    rw [holding_of_issue hi]
    have htotal := hs.total j (mem_of_issue? hi)
    rw [issue?_asset hi] at htotal
    cases hv : j.balance? h with
    | none => exact Nat.zero_le _
    | some v =>
      have := Issue.balance?_le_total hv
      rw [Option.getD_some]
      omega

/-- With a supply that is a word, a transfer never overflows its receiver: the sender's and the
receiver's rows together hold at most the supply. -/
theorem Supplied.transfer_ne_supplyOverflow (hs : Supplied s b) (hw : s asset ≤ Word.max) :
    b.transfer asset source target amount id ≠ .error .supplyOverflow := by
  unfold Bank.transfer
  split
  · simp
  rename_i hzero
  split
  · simp
  rename_i hself
  split
  · simp
  rename_i j hj
  split
  · simp
  rename_i toBalance hto
  split
  · simp
  rename_i fromBalance hfrom
  obtain ⟨hle, -⟩ := (Word.sub_ok_iff _ _ _).mp hfrom
  have hpos : amount ≠ 0 := by simpa using hzero
  have hne : source ≠ target := by simpa using hself
  -- the sender holds at least the amount, so it has a row
  cases hsrc : j.balance? source with
  | none =>
    rw [hsrc, Option.getD_none] at hle
    omega
  | some v =>
    rw [hsrc, Option.getD_some] at hle
    have hsum := Issue.add_le_total hsrc hto hne
    have htotal := hs.total j (mem_of_issue? hj)
    rw [issue?_asset hj] at htotal
    have hadd : Word.add toBalance amount = .ok (toBalance + amount) :=
      (Word.add_ok_iff _ _ _).mpr ⟨by omega, rfl⟩
    rw [hadd]
    simp

/-- A receipt under an identifier that no earlier receipt carries is settled once its transfer
is made. -/
theorem settled_transfer (ht : b.transfer asset source target amount id = .ok (b', t))
    (hfresh : ∀ r ∈ b.transfers, r.id ≠ id) : b'.settled t = true := by
  obtain ⟨-, -, rfl, htransfers, -⟩ := transfer_ok ht
  have hnone : b.transfers.find? (·.id == id) = none :=
    List.find?_eq_none.mpr fun r hr => by simpa using hfresh r hr
  unfold Bank.settled
  rw [htransfers, List.find?_append, hnone]
  simp

/-- A receipt equal to none the bank recorded is not settled. -/
theorem settled_eq_false (h : t ∉ b.transfers) : b.settled t = false := by
  cases hs : b.settled t
  · rfl
  · exact absurd (settled_mem hs) h

end Bank

end Asset

open Act

/-- What a call's mint sets: its asset's supply, when the mint succeeds. -/
def Call.supplies (k : Call) (c : Campus) (s : AssetId → Nat) : AssetId → Nat :=
  match k with
  | .bank (.mint asset _ supply) =>
    match (k.act.exec c).1 with
    | .ok _ => Function.update s asset supply
    | .error _ => s
  | _ => s

/-- Every asset's supply after a run of calls, from the supplies `s` before it. -/
def Campus.supplies (c : Campus) (s : AssetId → Nat) : List Call → AssetId → Nat
  | [] => s
  | k :: calls => (k.next c).supplies (k.supplies c s) calls

/-- The bank of a campus keeps the supplies `s`, and its receipts carry identifiers the campus
has issued. -/
structure SupplyKept (s : AssetId → Nat) (c : Campus) : Prop where
  supplied : c.bank.Supplied s
  numbered : ∀ t ∈ c.bank.transfers, ∃ k ≤ c.issued, t.id = Uuid.numbered k

variable {s : AssetId → Nat} {c c' : Campus} {asset : AssetId} {holder source target : AccountId}
  {amount : Nat} {bank : Bank} {t : Transfer}

theorem supplyKept_start (hb : c.bank = {}) : SupplyKept s c where
  supplied := hb ▸ Bank.supplied_empty s
  numbered r hr := by
    rw [hb] at hr
    cases hr

/-- The invariant reads only the bank and the identifiers issued. -/
theorem SupplyKept.transport (hk : SupplyKept s c) (hb : c'.bank = c.bank)
    (hi : c.issued ≤ c'.issued) : SupplyKept s c' where
  supplied := hb ▸ hk.supplied
  numbered r hr := by
    obtain ⟨k, hle, hid⟩ := hk.numbered r (hb ▸ hr)
    exact ⟨k, Nat.le_trans hle hi, hid⟩

theorem SupplyKept.of_books (hk : SupplyKept s c) (hf : Frame.books.rel c c') : SupplyKept s c' :=
  hk.transport hf.2.2.1 hf.2.2.2

theorem SupplyKept.optIn (hk : SupplyKept s c) (ho : c.bank.optIn asset holder = .ok bank) :
    SupplyKept s { c with bank } :=
  ⟨hk.supplied.optIn ho, fun r hr => hk.numbered r (Bank.optIn_transfers ho ▸ hr)⟩

/-- A receipt under the next identifier keeps the receipts numbered by what was issued. -/
theorem SupplyKept.transfer (hk : SupplyKept s c)
    (hpay : c.bank.transfer asset source target amount (Uuid.numbered (c.issued + 1)) =
      .ok (bank, t)) : SupplyKept s { c with bank, issued := c.issued + 1 } := by
  obtain ⟨-, -, rfl, htransfers, -⟩ := Bank.transfer_ok hpay
  refine ⟨hk.supplied.transfer hpay, fun r hr => ?_⟩
  change r ∈ bank.transfers at hr
  rw [htransfers] at hr
  rcases List.mem_append.mp hr with hr | hr
  · obtain ⟨k, hle, hid⟩ := hk.numbered r hr
    exact ⟨k, Nat.le_succ_of_le hle, hid⟩
  · rw [List.mem_singleton.mp hr]
    exact ⟨c.issued + 1, Nat.le_refl _, rfl⟩

/-- A committed staking body moves the bank only by the launch's opt-in of the escrow and the
withdrawal's payout. -/
theorem SupplyKept.commit (hk : SupplyKept s c) (o : Staking.Op) {d : Staking.Book} {c₁ : Campus}
    (h : (o.body c.staking).exec c = (.ok ((), d), c₁)) : SupplyKept s { c₁ with staking := d } := by
  cases o with
  | register ctx caller =>
    obtain ⟨r, h⟩ := step_drop_ok.mp h
    obtain ⟨-, rfl, -⟩ := Staking.registerTx_ok h
    exact hk.transport rfl (Nat.le_refl _)
  | launch _ caller asset threshold =>
    obtain ⟨r, h⟩ := step_drop_ok.mp h
    obtain ⟨-, -, -, -, bank, hopt, rfl⟩ := Staking.launchTx_ok h
    exact (hk.optIn hopt).transport rfl (Nat.le_refl _)
  | stake ctx caller dep =>
    obtain ⟨r, h⟩ := step_drop_ok.mp h
    obtain ⟨-, -, -, -, -, -, -, -, -, -, -, -, -, rfl, -⟩ := Staking.stakeTx_ok h
    exact hk.transport rfl (Nat.le_refl _)
  | withdraw ctx caller amount =>
    obtain ⟨r, h⟩ := step_drop_ok.mp h
    obtain ⟨a, b₁, bank, t, -, -, -, -, -, hpay, rfl, -⟩ := Staking.withdrawTx_ok h
    exact (hk.transfer hpay).transport rfl (Nat.le_refl _)

theorem Call.keeps_supply (k : Call) (hk : SupplyKept s c) :
    SupplyKept (k.supplies c s) (k.next c) := by
  cases k with
  | staking o =>
    show SupplyKept s (o.act.exec c).2
    rcases o.ended c with ⟨-, hq⟩ | ⟨-, c₁, ⟨d, c₂, hb, rfl⟩, hc⟩
    · exact hk.of_books (Frame.quiet_books hq)
    · exact (hk.commit o hb).of_books hc
  | reputation o =>
    show SupplyKept s (o.act.exec c).2
    rcases o.ended c with ⟨-, hq⟩ | ⟨-, c₁, ⟨d, c₂, hb, rfl⟩, hc⟩
    · exact hk.of_books (Frame.quiet_books hq)
    · rw [Reputation.Op.body_campus o hb] at hc
      exact hk.transport hc.2.2.1 hc.2.2.2
  | read o =>
    show SupplyKept s (o.act.exec c).2
    exact hk.of_books (Frame.quiet_books (o.quiet c))
  | bank o =>
    cases o with
    | mint asset issuer supply =>
      simp only [Call.supplies, Call.next, Call.act, BankCall.act]
      rcases hx : (Act.mint asset issuer supply).exec c with ⟨e | u, c₁⟩
      · exact hk.of_books (Frame.quiet_books (atomic_mint asset issuer supply c e c₁ hx))
      · obtain ⟨-, bank, hm, rfl⟩ := Act.mint_ok.mp hx
        exact ⟨hk.supplied.mint hm, fun r hr => hk.numbered r (Bank.mint_transfers hm ▸ hr)⟩
    | optIn asset holder =>
      show SupplyKept s ((Act.optIn asset holder).exec c).2
      rcases hx : (Act.optIn asset holder).exec c with ⟨e | u, c₁⟩
      · exact hk.of_books (Frame.quiet_books (atomic_optIn asset holder c e c₁ hx))
      · obtain ⟨-, bank, ho, rfl⟩ := Act.optIn_ok.mp hx
        exact hk.optIn ho
    | transfer asset source target amount =>
      show SupplyKept s ((Act.transfer asset source target amount >>= fun _ => pure ()).exec c).2
      rw [exec_drop]
      rcases hx : (Act.transfer asset source target amount).exec c with ⟨e | t, c₁⟩
      · exact hk.of_books (Frame.quiet_books (atomic_transfer asset source target amount c e c₁ hx))
      · obtain ⟨-, bank, hpay, rfl⟩ := Act.transfer_ok.mp hx
        exact hk.transfer hpay
    | settled t =>
      show SupplyKept s ((Act.settled t >>= fun _ => pure ()).exec c).2
      exact hk.of_books (Frame.quiet_books (within_bind (quiet_settled t) (fun _ => within_pure _) c))
    | balance asset holder =>
      show SupplyKept s ((Act.balance asset holder >>= fun _ => pure ()).exec c).2
      exact hk.of_books
        (Frame.quiet_books (within_bind (quiet_balance asset holder) (fun _ => within_pure _) c))

theorem SupplyKept.after (hk : SupplyKept s c) (calls : List Call) :
    SupplyKept (c.supplies s calls) (c.after calls) := by
  induction calls generalizing c s with
  | nil => exact hk
  | cons k calls ih => exact ih (k.keeps_supply hk)

/-- A call sets no supply beyond a word unless it mints one. -/
theorem Call.supplies_le (k : Call) (hs : ∀ a, s a ≤ Word.max)
    (hw : ∀ asset issuer supply, k = .bank (.mint asset issuer supply) → supply ≤ Word.max)
    (a : AssetId) : k.supplies c s a ≤ Word.max := by
  cases k
  case bank o =>
    cases o
    case mint asset issuer supply =>
      simp only [Call.supplies]
      generalize ((Call.bank (.mint asset issuer supply)).act.exec c).1 = r
      cases r with
      | error => exact hs a
      | ok =>
        dsimp only
        rw [Function.update_apply]
        split_ifs
        · exact hw asset issuer supply rfl
        · exact hs a
    all_goals exact hs a
  all_goals exact hs a

theorem Campus.supplies_le (hs : ∀ a, s a ≤ Word.max) (calls : List Call)
    (hw : ∀ k ∈ calls, ∀ asset issuer supply, k = .bank (.mint asset issuer supply) →
      supply ≤ Word.max) (a : AssetId) : c.supplies s calls a ≤ Word.max := by
  induction calls generalizing c s with
  | nil => exact hs a
  | cons k calls ih =>
    exact ih (k.supplies_le hs (hw k List.mem_cons_self)) (fun k' hk' => hw k' (List.mem_cons_of_mem _ hk'))

/-- A transfer that fails leaves the bank, holdings and receipts, as it was. -/
theorem transfer_error_bank {e : Failure}
    (h : (Act.transfer asset source target amount).exec c = (.error e, c')) : c'.bank = c.bank :=
  (Frame.quiet_books (atomic_transfer asset source target amount c e c' h)).2.2.1

/-- A transfer that succeeds records its receipt under the next identifier and moves its amount
from the sender to the receiver; while identifiers stay below 2^48 the receipt is settled. -/
theorem SupplyKept.transfer_moves (hk : SupplyKept s c)
    (h : (Act.transfer asset source target amount).exec c = (.ok t, c'))
    (hlt : c.issued + 1 < Nat.pow 2 48) :
    t = { id := Uuid.numbered (c.issued + 1), asset, source, target, amount } ∧
      c'.bank.transfers = c.bank.transfers ++ [t] ∧
      (∀ a h, c'.bank.holding a h + (if asset = a ∧ source = h then amount else 0) =
        c.bank.holding a h + (if asset = a ∧ target = h then amount else 0)) ∧
      c'.bank.settled t = true := by
  obtain ⟨-, bank, hpay, rfl⟩ := Act.transfer_ok.mp h
  obtain ⟨-, -, ht, htransfers, -⟩ := Bank.transfer_ok hpay
  refine ⟨ht, htransfers, Bank.holding_transfer hpay, Bank.settled_transfer hpay fun r hr hid => ?_⟩
  -- every earlier receipt carries a number already issued
  obtain ⟨k, hle, hrk⟩ := hk.numbered r hr
  have := Uuid.numbered_inj (by omega) hlt (hrk.symm.trans hid)
  omega

/-- An opt-in, whatever its outcome, changes no holding. -/
theorem optIn_holding {r : Except Failure Unit} (h : (Act.optIn asset holder).exec c = (r, c'))
    (a : AssetId) (h' : AccountId) : c'.bank.holding a h' = c.bank.holding a h' := by
  cases r with
  | error e => rw [(Frame.quiet_books (atomic_optIn asset holder c e c' h)).2.2.1]
  | ok u =>
    obtain ⟨-, bank, ho, rfl⟩ := Act.optIn_ok.mp h
    exact Bank.holding_optIn ho a h'

/-- Through every run of calls on a campus whose bank starts empty, in which every mint's supply
is a word: each issue's holdings add up to the supply its asset was minted with, so no holding
passes it and no transfer overflows its receiver; a failed transfer leaves the bank as it was; a
successful one moves its amount from the sender to the receiver and records its receipt, which
is settled while identifiers stay below 2^48; a receipt equal to none recorded is not settled;
and an opt-in changes no holding. -/
theorem bank_keeps_every_supply (hb : c.bank = {}) (calls : List Call)
    (hw : ∀ k ∈ calls, ∀ asset issuer supply, k = .bank (.mint asset issuer supply) →
      supply ≤ Word.max) :
    let c' := c.after calls
    let supply := c.supplies (fun _ => 0) calls
    (∀ i ∈ c'.bank.issues, (i.holdings.map (·.2)).sum = supply i.asset) ∧
    (∀ a h, c'.bank.holding a h ≤ supply a) ∧
    (∀ asset source target amount id,
      c'.bank.transfer asset source target amount id ≠ .error .supplyOverflow) ∧
    (∀ asset source target amount e c'',
      (Act.transfer asset source target amount).exec c' = (.error e, c'') → c''.bank = c'.bank) ∧
    (∀ asset source target amount t c'',
      (Act.transfer asset source target amount).exec c' = (.ok t, c'') →
      c'.issued + 1 < Nat.pow 2 48 →
      t = { id := Uuid.numbered (c'.issued + 1), asset, source, target, amount } ∧
        c''.bank.transfers = c'.bank.transfers ++ [t] ∧
        (∀ a h, c''.bank.holding a h + (if asset = a ∧ source = h then amount else 0) =
          c'.bank.holding a h + (if asset = a ∧ target = h then amount else 0)) ∧
        c''.bank.settled t = true) ∧
    (∀ t, t ∉ c'.bank.transfers → c'.bank.settled t = false) ∧
    (∀ asset holder r c'', (Act.optIn asset holder).exec c' = (r, c'') →
      ∀ a h, c''.bank.holding a h = c'.bank.holding a h) := by
  intro c' supply
  have hk : SupplyKept supply c' := (supplyKept_start hb).after calls
  have hwords : ∀ a, supply a ≤ Word.max :=
    Campus.supplies_le (fun _ => Nat.zero_le _) calls hw
  refine ⟨hk.supplied.total, hk.supplied.holding_le, fun asset _ _ _ _ => ?_,
    fun _ _ _ _ _ _ h => transfer_error_bank h, fun _ _ _ _ _ _ h hlt => hk.transfer_moves h hlt,
    fun _ ht => Bank.settled_eq_false ht, fun _ _ _ _ h => optIn_holding h⟩
  exact hk.supplied.transfer_ne_supplyOverflow (hwords asset)

theorem supply_kept_after_mint_and_transfer :
    let c := Campus.fresh {} 0
    let calls : List Call := [.bank (.mint ⟨7⟩ ⟨"ann"⟩ 100), .bank (.optIn ⟨7⟩ ⟨"bob"⟩),
      .bank (.transfer ⟨7⟩ ⟨"ann"⟩ ⟨"bob"⟩ 40)]
    c.bank = {} ∧
      (∀ k ∈ calls, ∀ asset issuer supply, k = .bank (.mint asset issuer supply) →
        supply ≤ Word.max) ∧
      let c' := c.after calls
      let supply := c.supplies (fun _ => 0) calls
      (∀ i ∈ c'.bank.issues, (i.holdings.map (·.2)).sum = supply i.asset) ∧
      (∀ a h, c'.bank.holding a h ≤ supply a) ∧
      (∀ asset source target amount id,
        c'.bank.transfer asset source target amount id ≠ .error .supplyOverflow) ∧
      (∀ asset source target amount e c'',
        (Act.transfer asset source target amount).exec c' = (.error e, c'') → c''.bank = c'.bank) ∧
      (∀ asset source target amount t c'',
        (Act.transfer asset source target amount).exec c' = (.ok t, c'') →
        c'.issued + 1 < Nat.pow 2 48 →
        t = { id := Uuid.numbered (c'.issued + 1), asset, source, target, amount } ∧
          c''.bank.transfers = c'.bank.transfers ++ [t] ∧
          (∀ a h, c''.bank.holding a h + (if asset = a ∧ source = h then amount else 0) =
            c'.bank.holding a h + (if asset = a ∧ target = h then amount else 0)) ∧
          c''.bank.settled t = true) ∧
      (∀ t, t ∉ c'.bank.transfers → c'.bank.settled t = false) ∧
      (∀ asset holder r c'', (Act.optIn asset holder).exec c' = (r, c'') →
        ∀ a h, c''.bank.holding a h = c'.bank.holding a h) := by
  intro c calls
  have hw : ∀ k ∈ calls, ∀ asset issuer supply, k = .bank (.mint asset issuer supply) →
      supply ≤ Word.max := by
    intro k hk asset issuer supply h
    simp only [calls, List.mem_cons, List.not_mem_nil, or_false] at hk
    rcases hk with rfl | rfl | rfl <;> simp only [Call.bank.injEq, BankCall.mint.injEq,
      reduceCtorEq] at h
    obtain ⟨-, -, rfl⟩ := h
    decide
  exact ⟨rfl, hw, bank_keeps_every_supply rfl calls hw⟩

end CampusLedger
