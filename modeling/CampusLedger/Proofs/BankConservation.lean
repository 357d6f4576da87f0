import Mathlib
import CampusLedger.Asset.Bank
import CampusLedger.Uuid
/-!
# The bank conserves every holder's units

What a holder holds of an asset, plus what its receipts show it sent, is what was minted to it
plus what its receipts show it received. Minting gives the whole supply to the issuer, opting in
adds a holder with nothing, and a transfer moves its amount from the sender to the receiver while
its receipt records the same amount on both sides; so each act keeps the balance of every holder
of every asset, given the supply it minted.

Receipts issued under numbered identifiers are told apart by their numbers below 2^48.
-/

namespace CampusLedger

theorem Word.sub_ok_iff (a b v : Nat) : Word.sub a b = .ok v ↔ b ≤ a ∧ v = a - b := by
  unfold Word.sub
  by_cases h : b > a
  · simp [h]
  · simp only [h, if_false, Except.ok.injEq]
    constructor
    · rintro rfl
      exact ⟨by omega, rfl⟩
    · rintro ⟨-, rfl⟩
      rfl

theorem Uuid.octet_eq {a b : Nat} (h : UInt8.ofNat a = UInt8.ofNat b) : a % 256 = b % 256 := by
  simpa [UInt8.toNat_ofNat] using congrArg UInt8.toNat h

/-- Numbered identifiers below 2^48 carry their number whole, so they differ when it does. -/
theorem Uuid.numbered_inj {j k : Nat} (hj : j < Nat.pow 2 48) (hk : k < Nat.pow 2 48)
    (h : Uuid.numbered j = Uuid.numbered k) : j = k := by
  simp only [Uuid.numbered, Uuid.mk.injEq, List.append_cancel_left_eq] at h
  simp [List.range_succ] at h
  obtain ⟨h5, h4, h3, h2, h1, h0⟩ := h
  -- the six low octets are the base-256 digits of the number
  have e5 := Uuid.octet_eq h5
  have e4 := Uuid.octet_eq h4
  have e3 := Uuid.octet_eq h3
  have e2 := Uuid.octet_eq h2
  have e1 := Uuid.octet_eq h1
  have e0 := Uuid.octet_eq h0
  simp only [Nat.pow_eq, Nat.reducePow] at hj hk e5 e4 e3 e2 e1 e0
  omega

namespace Asset

section Keyed

variable {β κ : Type} [BEq κ] [LawfulBEq κ] (key : β → κ) {l : List β} {k k' : κ} {x : β}

theorem find?_replace_self (hx : key x = k) (hl : l.any (key · == k)) :
    (l.map fun y => if key y == k then x else y).find? (key · == k) = some x := by
  induction l with
  | nil => simp at hl
  | cons y l ih =>
    by_cases hy : key y = k
    · simp [hy, hx]
    · have hl' : l.any (key · == k) := by simpa [hy] using hl
      simpa [hy] using ih hl'

theorem find?_replace_ne (hx : key x = k) (hk : k' ≠ k) :
    (l.map fun y => if key y == k then x else y).find? (key · == k') = l.find? (key · == k') := by
  induction l with
  | nil => rfl
  | cons y l ih =>
    by_cases hy : key y = k
    · simp [hy, hx, Ne.symm hk, ih]
    · rw [List.map_cons, if_neg (by simpa using hy), List.find?_cons, List.find?_cons, ih]

theorem find?_append_self (hx : key x = k) (hl : l.find? (key · == k) = none) :
    (l ++ [x]).find? (key · == k) = some x := by
  simp [List.find?_append, hl, hx]

theorem find?_append_ne (hx : key x ≠ k) :
    (l ++ [x]).find? (key · == k) = l.find? (key · == k) := by
  simp [List.find?_append, hx]

end Keyed

namespace Issue

variable {i : Issue} {holder other : AccountId} {n : Nat}

theorem balance?_setBalance_self : (i.setBalance holder n).balance? holder = some n := by
  have hkey : Prod.fst (holder, n) = holder := rfl
  unfold setBalance balance?
  split
  · rename_i hin
    dsimp only
    rw [find?_replace_self Prod.fst hkey hin]
    rfl
  · rename_i hin
    have hnone : i.holdings.find? (·.1 == holder) = none := by
      rw [List.find?_eq_none]
      exact List.any_eq_false.mp (Bool.eq_false_iff.mpr hin)
    dsimp only
    rw [find?_append_self Prod.fst hkey hnone]
    rfl

theorem balance?_setBalance_ne (hne : other ≠ holder) :
    (i.setBalance holder n).balance? other = i.balance? other := by
  have hkey : Prod.fst (holder, n) = holder := rfl
  unfold setBalance balance?
  split
  · dsimp only
    rw [find?_replace_ne Prod.fst hkey hne]
  · dsimp only
    rw [find?_append_ne Prod.fst (hkey ▸ Ne.symm hne)]

@[simp] theorem setBalance_asset : (i.setBalance holder n).asset = i.asset := by
  unfold setBalance
  split <;> rfl

end Issue

namespace Bank

variable {b b' : Bank} {asset a : AssetId} {holder h source target : AccountId} {i : Issue}

/-- What a holder holds of an asset: nothing for an asset never minted or a holder never
opted in. -/
def holding (b : Bank) (asset : AssetId) (holder : AccountId) : Nat :=
  ((b.issue? asset).bind (·.balance? holder)).getD 0

theorem issue?_asset (hi : b.issue? asset = some i) : i.asset = asset := by
  simpa using List.find?_some hi

theorem issue?_setIssue_self (hi : (b.issue? i.asset).isSome) :
    (b.setIssue i).issue? i.asset = some i := by
  unfold setIssue issue?
  refine find?_replace_self Issue.asset rfl ?_
  obtain ⟨j, hj⟩ := Option.isSome_iff_exists.mp hi
  exact List.any_eq_true.mpr ⟨j, List.mem_of_find?_eq_some hj, by simpa using List.find?_some hj⟩

theorem issue?_setIssue_ne (ha : a ≠ i.asset) : (b.setIssue i).issue? a = b.issue? a :=
  find?_replace_ne Issue.asset rfl ha

theorem balance_eq (hi : (b.issue? asset).isSome) : b.balance asset holder = .ok (b.holding asset holder) := by
  obtain ⟨j, hj⟩ := Option.isSome_iff_exists.mp hi
  simp [balance, holding, hj]

/-- What minting gives: the whole supply of a new asset to its issuer. -/
def grant (asset : AssetId) (issuer : AccountId) (supply : Nat) (a : AssetId) (h : AccountId) : Nat :=
  if a = asset ∧ h = issuer then supply else 0

theorem mint_ok {issuer : AccountId} {supply : Nat} (hm : b.mint asset issuer supply = .ok b') :
    b.issue? asset = none ∧
      b' = { b with issues := b.issues ++ [{ asset, issuer, holdings := [(issuer, supply)] }] } := by
  unfold mint at hm
  split at hm
  · cases hm
  · rename_i hnew
    cases hm
    exact ⟨by simpa using hnew, rfl⟩

theorem holding_mint {issuer : AccountId} {supply : Nat} (hm : b.mint asset issuer supply = .ok b')
    (a : AssetId) (h : AccountId) : b'.holding a h = b.holding a h + grant asset issuer supply a h := by
  obtain ⟨hnew, rfl⟩ := mint_ok hm
  have hkey : Issue.asset { asset, issuer, holdings := [(issuer, supply)] } = asset := rfl
  unfold holding issue? grant
  dsimp only
  by_cases ha : a = asset
  · subst ha
    have hnew' : b.issues.find? (·.asset == a) = none := hnew
    rw [find?_append_self Issue.asset hkey hnew', hnew']
    by_cases hh : h = issuer
    · simp [Issue.balance?, hh]
    · simp [Issue.balance?, Ne.symm hh, hh]
  · rw [find?_append_ne Issue.asset (hkey ▸ Ne.symm ha)]
    simp [ha]

theorem optIn_ok (ho : b.optIn asset holder = .ok b') :
    ∃ j, b.issue? asset = some j ∧
      (b' = b ∨ j.balance? holder = none ∧ b' = b.setIssue (j.setBalance holder 0)) := by
  unfold optIn at ho
  split at ho
  · cases ho
  · rename_i j hj
    refine ⟨j, hj, ?_⟩
    split at ho
    · cases ho
      exact Or.inl rfl
    · rename_i hnone
      cases ho
      exact Or.inr ⟨by simpa using hnone, rfl⟩

/-- Replacing the issue of an asset by one of the same asset changes only that asset's
holdings, to the new issue's balances. -/
theorem holding_setIssue (hj : b.issue? asset = some j) (hi : i.asset = j.asset) (a : AssetId)
    (h : AccountId) :
    (b.setIssue i).holding a h = if a = asset then (i.balance? h).getD 0 else b.holding a h := by
  have hia : i.asset = asset := hi.trans (issue?_asset hj)
  unfold holding
  by_cases ha : a = asset
  · subst ha
    rw [← hia, issue?_setIssue_self (by simp [hia, hj])]
    simp
  · rw [issue?_setIssue_ne (hia ▸ ha)]
    simp [ha]

theorem holding_of_issue (hj : b.issue? asset = some j) (h : AccountId) :
    b.holding asset h = (j.balance? h).getD 0 := by
  simp [holding, hj]

theorem holding_optIn (ho : b.optIn asset holder = .ok b') (a : AssetId) (h : AccountId) :
    b'.holding a h = b.holding a h := by
  obtain ⟨j, hj, rfl | ⟨hnone, rfl⟩⟩ := optIn_ok ho
  · rfl
  rw [holding_setIssue hj Issue.setBalance_asset]
  split
  · rename_i ha
    subst ha
    rw [holding_of_issue hj]
    by_cases hh : h = holder
    · subst hh
      simp [Issue.balance?_setBalance_self, hnone]
    · rw [Issue.balance?_setBalance_ne hh]
  · rfl

theorem transfer_ok {amount : Nat} {id : Uuid} {t : Transfer}
    (ht : b.transfer asset source target amount id = .ok (b', t)) :
    0 < amount ∧ source ≠ target ∧ t = { id, asset, source, target, amount } ∧
      b'.transfers = b.transfers ++ [t] ∧
      ∃ j toBalance, b.issue? asset = some j ∧ j.balance? target = some toBalance ∧
        amount ≤ (j.balance? source).getD 0 ∧
        b'.issues = (b.setIssue ((j.setBalance source ((j.balance? source).getD 0 - amount)).setBalance
          target (toBalance + amount))).issues := by
  unfold transfer at ht
  split at ht
  · cases ht
  split at ht
  · cases ht
  rename_i hzero hself
  split at ht
  · cases ht
  rename_i j hj
  split at ht
  · cases ht
  rename_i toBalance hto
  split at ht
  · cases ht
  rename_i fromBalance hfrom
  split at ht
  · cases ht
  rename_i toBalance' hto'
  obtain ⟨hle, rfl⟩ := (Word.sub_ok_iff _ _ _).mp hfrom
  obtain ⟨-, rfl⟩ := (Word.add_ok_iff _ _ _).mp hto'
  cases ht
  refine ⟨by simpa [Nat.pos_iff_ne_zero] using hzero, by simpa using hself, rfl, rfl, j, toBalance,
    hj, hto, hle, rfl⟩

theorem holding_transfer {amount : Nat} {id : Uuid} {t : Transfer}
    (ht : b.transfer asset source target amount id = .ok (b', t)) (a : AssetId) (h : AccountId) :
    b'.holding a h + (if asset = a ∧ source = h then amount else 0) =
      b.holding a h + (if asset = a ∧ target = h then amount else 0) := by
  obtain ⟨-, hne, -, -, j, toBalance, hj, hto, hle, hissues⟩ := transfer_ok ht
  -- the bank after the transfer holds what the replaced issue holds
  have hb' : b'.holding a h = (b.setIssue ((j.setBalance source ((j.balance? source).getD 0 - amount)).setBalance
      target (toBalance + amount))).holding a h := by
    simp only [holding, issue?, hissues]
  rw [hb', holding_setIssue hj (by simp)]
  by_cases ha : asset = a
  · subst ha
    simp only [if_true, true_and]
    rw [holding_of_issue hj]
    by_cases hs : source = h
    · -- the sender: its balance less the amount
      subst hs
      rw [Issue.balance?_setBalance_ne hne, Issue.balance?_setBalance_self]
      simp only [Option.getD_some, if_neg (Ne.symm hne), ↓reduceIte]
      omega
    · by_cases htg : target = h
      · -- the receiver: its balance and the amount
        subst htg
        simp [Issue.balance?_setBalance_self, hs, hto]
      · rw [Issue.balance?_setBalance_ne (Ne.symm htg), Issue.balance?_setBalance_ne (Ne.symm hs)]
        simp [hs, htg]
  · simp [ha, Ne.symm ha]

theorem mint_transfers {issuer : AccountId} {supply : Nat} (hm : b.mint asset issuer supply = .ok b') :
    b'.transfers = b.transfers := by
  obtain ⟨-, rfl⟩ := mint_ok hm
  rfl

theorem optIn_transfers (ho : b.optIn asset holder = .ok b') : b'.transfers = b.transfers := by
  obtain ⟨j, -, rfl | ⟨-, rfl⟩⟩ := optIn_ok ho <;> rfl

/-- Replacing the issue of an asset by one of the same asset keeps every asset minted. -/
theorem isSome_issue?_setIssue (hj : b.issue? asset = some j) (hi : i.asset = j.asset)
    (ha : (b.issue? a).isSome) : ((b.setIssue i).issue? a).isSome := by
  have hia : i.asset = asset := hi.trans (issue?_asset hj)
  by_cases h : a = i.asset
  · subst h
    rw [issue?_setIssue_self (by simp [hia, hj])]
    rfl
  · rw [issue?_setIssue_ne h]
    exact ha

theorem isSome_issue?_mint {issuer : AccountId} {supply : Nat}
    (hm : b.mint asset issuer supply = .ok b') (ha : (b.issue? a).isSome) : (b'.issue? a).isSome := by
  obtain ⟨-, rfl⟩ := mint_ok hm
  obtain ⟨j, hj⟩ := Option.isSome_iff_exists.mp ha
  have hj' : b.issues.find? (·.asset == a) = some j := hj
  simp [issue?, List.find?_append, hj']

/-- After an opt-in the asset is minted, and every asset minted before still is. -/
theorem isSome_issue?_optIn (ho : b.optIn asset holder = .ok b') :
    (b'.issue? asset).isSome ∧ ∀ a, (b.issue? a).isSome → (b'.issue? a).isSome := by
  have hsome : (b.issue? asset).isSome := by
    obtain ⟨j, hj, -⟩ := optIn_ok ho
    simp [hj]
  obtain ⟨j, hj, rfl | ⟨-, rfl⟩⟩ := optIn_ok ho
  · exact ⟨hsome, fun _ ha => ha⟩
  · have hi : (j.setBalance holder 0).asset = j.asset := Issue.setBalance_asset
    exact ⟨isSome_issue?_setIssue hj hi hsome, fun _ ha => isSome_issue?_setIssue hj hi ha⟩

theorem isSome_issue?_transfer {amount : Nat} {id : Uuid} {t : Transfer}
    (ht : b.transfer asset source target amount id = .ok (b', t)) (ha : (b.issue? a).isSome) :
    (b'.issue? a).isSome := by
  obtain ⟨-, -, -, -, j, toBalance, hj, -, -, hissues⟩ := transfer_ok ht
  have hkeep : ((b.setIssue ((j.setBalance source ((j.balance? source).getD 0 - amount)).setBalance
      target (toBalance + amount))).issue? a).isSome := isSome_issue?_setIssue hj (by simp) ha
  simpa [issue?, hissues] using hkeep

/-- The units of an asset that a list of receipts shows sent to a holder. -/
def inflow (ts : List Transfer) (asset : AssetId) (holder : AccountId) : Nat :=
  ((ts.filter fun t => t.asset == asset && t.target == holder).map (·.amount)).sum

/-- The units of an asset that a list of receipts shows sent by a holder. -/
def outflow (ts : List Transfer) (asset : AssetId) (holder : AccountId) : Nat :=
  ((ts.filter fun t => t.asset == asset && t.source == holder).map (·.amount)).sum

theorem inflow_append (ts : List Transfer) (t : Transfer) (a : AssetId) (h : AccountId) :
    inflow (ts ++ [t]) a h = inflow ts a h + if t.asset = a ∧ t.target = h then t.amount else 0 := by
  unfold inflow
  by_cases ht : t.asset = a ∧ t.target = h
  · simp [List.filter_append, ht]
  · have hf : (t.asset == a && t.target == h) = false := by simpa using ht
    simp [List.filter_append, hf, ht]

theorem outflow_append (ts : List Transfer) (t : Transfer) (a : AssetId) (h : AccountId) :
    outflow (ts ++ [t]) a h = outflow ts a h + if t.asset = a ∧ t.source = h then t.amount else 0 := by
  unfold outflow
  by_cases ht : t.asset = a ∧ t.source = h
  · simp [List.filter_append, ht]
  · have hf : (t.asset == a && t.source == h) = false := by simpa using ht
    simp [List.filter_append, hf, ht]

theorem outflow_eq_zero {ts : List Transfer} (hs : ∀ t ∈ ts, t.source ≠ h) (a : AssetId) :
    outflow ts a h = 0 := by
  unfold outflow
  rw [List.filter_eq_nil_iff.mpr]
  · rfl
  · intro t ht
    simp [hs t ht]

/-- Every holder holds what was minted to it and what it received, less what it sent. -/
def Conserves (minted : AssetId → AccountId → Nat) (b : Bank) : Prop :=
  ∀ a h, b.holding a h + outflow b.transfers a h = minted a h + inflow b.transfers a h

variable {m : AssetId → AccountId → Nat}

theorem conserves_empty : Conserves (fun _ _ => 0) {} := by
  intro a h
  simp [holding, issue?, outflow, inflow]

theorem Conserves.mint {issuer : AccountId} {supply : Nat} (hc : Conserves m b)
    (hm : b.mint asset issuer supply = .ok b') :
    Conserves (fun a h => m a h + grant asset issuer supply a h) b' := by
  intro a h
  have hh := holding_mint hm a h
  obtain ⟨-, rfl⟩ := mint_ok hm
  have := hc a h
  simp only at hh ⊢
  omega

theorem Conserves.optIn (hc : Conserves m b) (ho : b.optIn asset holder = .ok b') : Conserves m b' := by
  intro a h
  rw [holding_optIn ho]
  obtain ⟨j, -, rfl | ⟨-, rfl⟩⟩ := optIn_ok ho
  · exact hc a h
  · exact hc a h

theorem Conserves.transfer {amount : Nat} {id : Uuid} {t : Transfer} (hc : Conserves m b)
    (ht : b.transfer asset source target amount id = .ok (b', t)) : Conserves m b' := by
  intro a h
  have hh := holding_transfer ht a h
  obtain ⟨-, -, rfl, htransfers, -⟩ := transfer_ok ht
  have := hc a h
  simp only [htransfers, inflow_append, outflow_append]
  -- the receipt's amount leaves the sender's side and reaches the receiver's
  split_ifs at hh ⊢ <;> omega

/-- A transfer is refused for too little funds only when the sender holds less than its amount. -/
theorem transfer_ne_insufficientFunds {amount : Nat} {id : Uuid} (hle : amount ≤ b.holding asset source) :
    b.transfer asset source target amount id ≠ .error .insufficientFunds := by
  unfold transfer
  split
  · simp
  split
  · simp
  split
  · simp
  rename_i j hj
  split
  · simp
  rw [holding_of_issue hj] at hle
  have hsub : Word.sub ((j.balance? source).getD 0) amount = .ok ((j.balance? source).getD 0 - amount) :=
    (Word.sub_ok_iff _ _ _).mpr ⟨hle, rfl⟩
  rw [hsub]
  dsimp only
  split <;> simp

theorem settled_mem {t : Transfer} (hs : b.settled t = true) : t ∈ b.transfers := by
  unfold settled at hs
  split at hs
  · rename_i r hr
    have hrt : r = t := by simpa using hs
    subst hrt
    exact List.mem_of_find?_eq_some hr
  · cases hs

end Bank

end Asset

end CampusLedger
