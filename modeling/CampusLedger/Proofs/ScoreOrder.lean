import CampusLedger.Proofs.CallConditions
/-!
# Score deltas may arrive in any order

The controller's score updates commute. A run of updates succeeds exactly when the campus lets
the controller through, every request is live, every account is registered, and each account's
scores with all of its deltas added up fit, pillar by pillar and in the weighted composite
(`UpdatesFit`). After such a run each account holds its scores plus its deltas and the
composite of that sum; an account no update names is left as it was (`Update.outcome`).

Both descriptions depend on the updates only through each account's sum of deltas, so two runs
of the same updates in different orders succeed together and leave every account with the same
scores and composite. The point is that a sum that fits bounds every partial sum on the way to
it: pillar sums and the weighted composite only grow as deltas are added.
-/

namespace CampusLedger

open Act Ledger

theorem Ledger.Registry.lookup_of_find? {α : Type} {r : Registry α} {id : AccountId} {x : α}
    (h : r.find? id = some x) : r.lookup id = .ok x := by
  unfold Registry.lookup
  rw [h]

namespace Scores

/-- The pillarwise sum, before any check against the word range. -/
def plus (s d : Scores) : Scores :=
  ⟨s.attendance + d.attendance, s.voting + d.voting, s.feedback + d.feedback,
    s.certification + d.certification⟩

def total (ds : List Scores) : Scores := ds.foldr plus {}

/-- The weighted sum of the scores under weights `w`, computed exactly. -/
def weighted (w s : Scores) : Nat := Word.dot s.values w.values

/-- Scores that fit: every pillar, and the weighted sum under `w`, fit a word. -/
def Fits (w s : Scores) : Prop := (∀ p, s.get p ≤ Word.max) ∧ weighted w s ≤ Word.max

@[simp] theorem get_plus (s d : Scores) (p : Pillar) : (s.plus d).get p = s.get p + d.get p := by
  cases p <;> rfl

@[simp] theorem get_empty (p : Pillar) : ({} : Scores).get p = 0 := by
  cases p <;> rfl

theorem ext_get {s t : Scores} (h : ∀ p, s.get p = t.get p) : s = t := by
  have ha := h .attendance
  have hv := h .voting
  have hf := h .feedback
  have hc := h .certification
  cases s
  cases t
  simp_all [get]

theorem plus_assoc (s d e : Scores) : (s.plus d).plus e = s.plus (d.plus e) :=
  ext_get fun p => by simp [Nat.add_assoc]

theorem plus_empty (s : Scores) : s.plus {} = s := ext_get fun p => by simp

theorem total_cons (d : Scores) (ds : List Scores) : total (d :: ds) = d.plus (total ds) := rfl

/-- Deltas add up to the same sum in any order. -/
theorem total_perm {ds es : List Scores} (h : ds.Perm es) : total ds = total es :=
  h.foldr_eq' (fun _ _ _ _ _ => ext_get fun p => by simp; omega) {}

theorem weighted_eq (w s : Scores) :
    weighted w s = s.attendance * w.attendance + s.voting * w.voting +
      s.feedback * w.feedback + s.certification * w.certification := by
  simp only [weighted, values, Word.dot]
  omega

/-- Scores below scores that fit fit too. -/
theorem Fits.mono {w s t : Scores} (ht : Fits w t) (hle : ∀ p, s.get p ≤ t.get p) : Fits w s := by
  refine ⟨fun p => Nat.le_trans (hle p) (ht.1 p), ?_⟩
  rw [weighted_eq]
  exact Nat.le_trans (weighted_le hle) (weighted_eq w t ▸ ht.2)

theorem add_eq_ok_of {s d : Scores} (h : ∀ p, (s.plus d).get p ≤ Word.max) :
    s.add d = .ok (s.plus d) := by
  have ha : s.attendance + d.attendance ≤ Word.max := h .attendance
  have hv : s.voting + d.voting ≤ Word.max := h .voting
  have hf : s.feedback + d.feedback ≤ Word.max := h .feedback
  have hc : s.certification + d.certification ≤ Word.max := h .certification
  simp only [add, addPillar, Word.add_eq, ha, hv, hf, hc, if_true, bind, Except.bind, pure,
    Except.pure]
  rfl

theorem add_eq_ok_iff {s d v : Scores} :
    s.add d = .ok v ↔ (∀ p, (s.plus d).get p ≤ Word.max) ∧ v = s.plus d := by
  constructor
  · intro h
    unfold add addPillar at h
    simp only [Word.add_eq] at h
    -- every pillar that passes the word range is checked before the sum is built
    by_cases ha : s.attendance + d.attendance ≤ Word.max <;>
      by_cases hv : s.voting + d.voting ≤ Word.max <;>
      by_cases hf : s.feedback + d.feedback ≤ Word.max <;>
      by_cases hc : s.certification + d.certification ≤ Word.max <;>
      simp [ha, hv, hf, hc, bind, Except.bind, pure, Except.pure] at h
    refine ⟨fun p => ?_, h.symm⟩
    cases p <;> assumption
  · rintro ⟨hb, rfl⟩
    exact add_eq_ok_of hb

theorem weightedSum_values {w s : Scores} (h : weighted w s ≤ Word.max) :
    Word.weightedSum s.values w.values = .ok (weighted w s) := by
  rw [Word.weightedSum_eq]
  have hlen : (s.values.length != w.values.length) = false := rfl
  rw [if_neg (by simp [hlen]), if_pos (show Word.dot s.values w.values ≤ Word.max from h)]
  rfl

theorem composite_eq_ok_iff {w s : Scores} {v : Nat} :
    composite w s = .ok v ↔ weighted w s ≤ Word.max ∧ v = weighted w s := by
  constructor
  · intro h
    obtain ⟨rfl, hle⟩ := composite_ok h
    rw [weighted_eq]
    exact ⟨hle, rfl⟩
  · rintro ⟨hle, rfl⟩
    unfold composite
    rw [weightedSum_values hle]

end Scores

namespace Reputation

/-- A score update of the reputation ledger: the request it serves, the account and the
delta. -/
structure Update where
  ctx : Context
  account : AccountId
  delta : Scores

namespace Update

/-- The record `a` after the update under weights `w`: the delta added, the composite
recomputed, and the time of the request. -/
def applied (w : Scores) (u : Update) (a : Account) : Account :=
  { a with scores := a.scores.plus u.delta, composite := Scores.weighted w (a.scores.plus u.delta),
           updatedAt := u.ctx.now }

/-- A record takes a delta exactly when the sum fits, and then becomes the applied record. -/
theorem applyDelta_eq_ok_iff {w : Scores} {u : Update} {a a' : Account} :
    a.applyDelta u.delta w u.ctx.now = .ok a' ↔
      Scores.Fits w (a.scores.plus u.delta) ∧ a' = u.applied w a := by
  unfold Account.applyDelta
  rcases hadd : a.scores.add u.delta with e | s'
  · -- a pillar passes the word range
    simp only [bind, Except.bind, reduceCtorEq, false_iff]
    rintro ⟨hfit, -⟩
    rw [Scores.add_eq_ok_of hfit.1] at hadd
    cases hadd
  obtain ⟨hb, rfl⟩ := Scores.add_eq_ok_iff.mp hadd
  rcases hc : Scores.composite w (a.scores.plus u.delta) with e | v
  · -- the composite passes the word range
    simp only [bind, Except.bind, hc, reduceCtorEq, false_iff]
    rintro ⟨hfit, -⟩
    rw [(Scores.composite_eq_ok_iff (v := Scores.weighted w _)).mpr ⟨hfit.2, rfl⟩] at hc
    cases hc
  obtain ⟨hw, rfl⟩ := Scores.composite_eq_ok_iff.mp hc
  simp only [bind, Except.bind, hc, pure, Except.pure, Except.ok.injEq]
  exact ⟨fun h => ⟨⟨hb, hw⟩, h.symm⟩, fun h => h.2.symm⟩

/-- The books `b'` are `b` after the update `u` under weights `w` wrote the record `a` of its
account: the configuration stays, the registry stays keyed, and only the account's record
changed, to the applied record. -/
structure Wrote (w : Scores) (u : Update) (a : Account) (b b' : Book) : Prop where
  config : b'.config = b.config
  keyed : b'.accounts.Keyed Account.id
  find : ∀ id, b'.accounts.find? id =
    if id = u.account then some (u.applied w a) else b.accounts.find? id

variable {w : Scores} {u : Update} {a : Account} {b b' : Book}

theorem wrote_of_save (hk : b.accounts.Keyed Account.id) (hfind : b.accounts.find? u.account = some a)
    (hsave : b.saveAccount .readWrite (u.applied w a) = .ok b') : Wrote w u a b b' := by
  obtain ⟨r, hput, rfl⟩ := Book.saveAccount_ok hsave
  -- the record is filed under its own account, so the write lands on the update's account
  have hid : (u.applied w a).id = u.account := hk.key_eq _ (Registry.mem_of_find? hfind)
  rw [hid] at hput
  refine ⟨rfl, Registry.keyed_put hk hid hput, fun id => ?_⟩
  by_cases he : id = u.account
  · rw [if_pos he, he]
    exact Registry.find?_put_self hput
  · rw [if_neg he]
    exact Registry.find?_put_ne hput he

theorem save_ok (hfind : b.accounts.find? u.account = some a) (hk : b.accounts.Keyed Account.id) :
    ∃ b', b.saveAccount .readWrite (u.applied w a) = .ok b' := by
  have hid : (u.applied w a).id = u.account := hk.key_eq _ (Registry.mem_of_find? hfind)
  have hc : b.accounts.contains u.account = true :=
    Registry.contains_iff.mpr (List.mem_map.mpr ⟨_, Registry.mem_of_find? hfind, rfl⟩)
  unfold Book.saveAccount Access.write Registry.put
  rw [hid, if_pos hc]
  exact ⟨_, rfl⟩

theorem Wrote.isSome_find (hw : Wrote w u a b b') (hfind : b.accounts.find? u.account = some a)
    (id : AccountId) : (b'.accounts.find? id).isSome = (b.accounts.find? id).isSome := by
  rw [hw.find id]
  split
  · rename_i he
    rw [he, hfind]
    rfl
  · rfl

end Update


variable {caller : AccountId} {u : Update} {a : Account} {c c₁ : Campus}

/-- What a successful score update needed and what it wrote. -/
theorem Update.step_ok (hk : c.reputation.accounts.Keyed Account.id) {r : Nat}
    (h : (updateScores u.ctx caller u.account u.delta).exec c = (.ok r, c₁)) :
    u.ctx.cancelled = false ∧ UpdateOpen caller c ∧ ∃ a,
      c.reputation.accounts.find? u.account = some a ∧
      Scores.Fits c.reputation.config.weights (a.scores.plus u.delta) ∧
      Update.Wrote c.reputation.config.weights u a c.reputation c₁.reputation ∧
      Frame.wired.rel c c₁ := by
  obtain ⟨hl, ho, a, a', hfind, hd, hsave⟩ := updateScores_ok h
  obtain ⟨hfit, rfl⟩ := Update.applyDelta_eq_ok_iff.mp hd
  have hfind' := Registry.find?_of_lookup hfind
  have hw := within_updateScores Frame.wired_untouched u.ctx caller u.account u.delta c
  rw [h] at hw
  exact ⟨hl, ho, a, hfind', hfit, Update.wrote_of_save hk hfind' hsave, hw⟩

/-- A score update on a campus open to the caller, for a live request and a registered account
whose scores with the delta fit, succeeds. -/
theorem Update.step_ok_of (hk : c.reputation.accounts.Keyed Account.id)
    (hl : u.ctx.cancelled = false) (ho : UpdateOpen caller c)
    (hfind : c.reputation.accounts.find? u.account = some a)
    (hfit : Scores.Fits c.reputation.config.weights (a.scores.plus u.delta)) :
    ∃ r c₁, (updateScores u.ctx caller u.account u.delta).exec c = (.ok r, c₁) ∧
      Update.Wrote c.reputation.config.weights u a c.reputation c₁.reputation ∧
      Frame.wired.rel c c₁ := by
  obtain ⟨b', hsave⟩ := Update.save_ok (w := c.reputation.config.weights) hfind hk
  obtain ⟨c₁, h, hrep⟩ := updateScores_ok_of hl ho (Registry.lookup_of_find? hfind)
    (Update.applyDelta_eq_ok_iff.mpr ⟨hfit, rfl⟩) hsave
  have hw := within_updateScores Frame.wired_untouched u.ctx caller u.account u.delta c
  rw [h] at hw
  exact ⟨_, c₁, h, hrep ▸ Update.wrote_of_save hk hfind hsave, hw⟩

namespace Update

def touches (us : List Update) (id : AccountId) : Bool := us.any (·.account == id)

/-- The deltas the updates bring to one account, added up. -/
def gain (us : List Update) (id : AccountId) : Scores :=
  Scores.total ((us.filter (·.account == id)).map (·.delta))

/-- The scores and composite of an account, from `s`, after the updates `us` under weights `w`:
its deltas added up and the composite of the sum, when an update names it; as they were
otherwise. -/
def outcome (w : Scores) (us : List Update) (id : AccountId) (s : Scores × Nat) : Scores × Nat :=
  if touches us id then (s.1.plus (gain us id), Scores.weighted w (s.1.plus (gain us id))) else s

/-- Every account that an update names fits, with all of its deltas added up. -/
def GainsFit (w : Scores) (b : Book) (us : List Update) : Prop :=
  ∀ id a, b.accounts.find? id = some a → touches us id = true →
    Scores.Fits w (a.scores.plus (gain us id))

variable {u : Update} {us vs : List Update} {id : AccountId}

theorem touches_cons : touches (u :: us) id = (u.account == id || touches us id) := rfl

/-- No update leaves every account as it was. -/
@[simp] theorem outcome_nil {w : Scores} : outcome w [] id = fun s => s := rfl

theorem gain_cons :
    gain (u :: us) id = if u.account = id then u.delta.plus (gain us id) else gain us id := by
  by_cases he : u.account = id
  · simp [gain, he, Scores.total_cons]
  · simp [gain, he]

theorem gain_of_touches_false (h : touches us id = false) : gain us id = {} := by
  have : us.filter (·.account == id) = [] := by
    rw [List.filter_eq_nil_iff]
    intro v hv
    simpa using List.any_eq_false.mp h v hv
  rw [gain, this]
  rfl

theorem touches_perm (hp : us.Perm vs) : touches us id = touches vs id := by
  unfold touches
  exact Bool.eq_iff_iff.mpr (by simp only [List.any_eq_true]; exact ⟨fun ⟨v, hv, he⟩ =>
    ⟨v, hp.subset hv, he⟩, fun ⟨v, hv, he⟩ => ⟨v, hp.symm.subset hv, he⟩⟩)

/-- An account's deltas add up to the same sum in any order of the updates. -/
theorem gain_perm (hp : us.Perm vs) : gain us id = gain vs id :=
  Scores.total_perm ((hp.filter _).map _)

theorem outcome_perm {w : Scores} (hp : us.Perm vs) : outcome w us id = outcome w vs id := by
  funext s
  simp only [outcome, touches_perm hp, gain_perm hp]

theorem gainsFit_perm {w : Scores} {b : Book} (hp : us.Perm vs) (h : GainsFit w b us) :
    GainsFit w b vs := by
  intro id a hfind ht
  rw [← gain_perm hp]
  exact h id a hfind (touches_perm hp ▸ ht)

end Update

/-- The scores and composite of an account, as the books hold them. -/
def Book.standing (b : Book) (id : AccountId) : Option (Scores × Nat) :=
  (b.accounts.find? id).map fun a => (a.scores, a.composite)

namespace Update

variable {w : Scores} {u : Update} {a : Account} {b b' : Book} {rest : List Update}

/-- After an update wrote its record, the rest of a run adds to each account what the whole run
does from before it. -/
theorem Wrote.outcome_shift (hw : Wrote w u a b b') (hfind : b.accounts.find? u.account = some a)
    (id : AccountId) :
    (b'.standing id).map (outcome w rest id) = (b.standing id).map (outcome w (u :: rest) id) := by
  unfold Book.standing
  rw [hw.find id]
  by_cases he : id = u.account
  · subst he
    rw [if_pos rfl, hfind]
    simp only [Option.map_some, outcome, touches_cons, beq_self_eq_true, Bool.true_or, if_true,
      gain_cons, applied]
    cases ht : touches rest u.account
    · simp [gain_of_touches_false ht, Scores.plus_empty]
    · simp [Scores.plus_assoc]
  · rw [if_neg he]
    have hne : (u.account == id) = false := beq_eq_false_iff_ne.mpr (Ne.symm he)
    have hsame : outcome w (u :: rest) id = outcome w rest id := by
      funext s
      simp only [outcome, touches_cons, hne, Bool.false_or, gain_cons, if_neg (Ne.symm he)]
    rw [hsame]

/-- When the sums of a run fit, so does the first account with the first delta alone. -/
theorem GainsFit.head (h : GainsFit w b (u :: rest)) (hfind : b.accounts.find? u.account = some a) :
    Scores.Fits w (a.scores.plus u.delta) := by
  have ha := h u.account a hfind (by simp [touches_cons])
  rw [gain_cons, if_pos rfl, ← Scores.plus_assoc] at ha
  exact ha.mono fun p => by simp

/-- The sums of a run fit exactly when the first update's sum fits and the sums of the rest fit
after it. -/
theorem Wrote.gainsFit_shift (hw : Wrote w u a b b') (hfind : b.accounts.find? u.account = some a) :
    GainsFit w b (u :: rest) ↔ Scores.Fits w (a.scores.plus u.delta) ∧ GainsFit w b' rest := by
  constructor
  · intro h
    have ha := h u.account a hfind (by simp [touches_cons])
    rw [gain_cons, if_pos rfl, ← Scores.plus_assoc] at ha
    refine ⟨h.head hfind, fun id a' hfind' ht => ?_⟩
    rw [hw.find id] at hfind'
    split at hfind'
    · rename_i he
      subst he
      cases hfind'
      simpa [applied] using ha
    · rename_i he
      have hne : (u.account == id) = false := beq_eq_false_iff_ne.mpr (Ne.symm he)
      have := h id a' hfind' (by simp [touches_cons, hne, ht])
      rwa [gain_cons, if_neg (Ne.symm he)] at this
  · rintro ⟨ha, h⟩ id a' hfind' ht
    by_cases he : id = u.account
    · subst he
      rw [hfind] at hfind'
      cases hfind'
      rw [gain_cons, if_pos rfl, ← Scores.plus_assoc]
      cases hrest : touches rest u.account
      · rw [gain_of_touches_false hrest, Scores.plus_empty]
        exact ha
      · have := h u.account (u.applied w a) (by rw [hw.find, if_pos rfl]) hrest
        simpa [applied] using this
    · have hne : (u.account == id) = false := beq_eq_false_iff_ne.mpr (Ne.symm he)
      rw [gain_cons, if_neg (Ne.symm he)]
      refine h id a' (by rw [hw.find, if_neg he]; exact hfind') ?_
      simpa [touches_cons, hne] using ht

end Update

/-- Score updates made by `caller` one after another; a run stops at the first that fails. -/
def updateAll (caller : AccountId) : List Update → Act Unit
  | [] => pure ()
  | u :: us => do
    let _ ← updateScores u.ctx caller u.account u.delta
    updateAll caller us

/-- What a run of the caller's updates needs of the campus to succeed throughout: the campus is
open to the caller's updates (when there are any), every request is live, every account named
is registered, and every account's sum of deltas fits. -/
structure UpdatesFit (caller : AccountId) (c : Campus) (us : List Update) : Prop where
  opened : us ≠ [] → UpdateOpen caller c
  live : ∀ u ∈ us, u.ctx.cancelled = false
  registered : ∀ u ∈ us, (c.reputation.accounts.find? u.account).isSome
  gains : Update.GainsFit c.reputation.config.weights c.reputation us

theorem UpdatesFit.perm {us vs : List Update} (hp : us.Perm vs) (h : UpdatesFit caller c us) :
    UpdatesFit caller c vs where
  opened hne := h.opened fun he => hne (List.Perm.nil_eq (he ▸ hp)).symm
  live v hv := h.live v (hp.symm.subset hv)
  registered v hv := h.registered v (hp.symm.subset hv)
  gains := Update.gainsFit_perm hp h.gains

/-- A run of updates that succeeds throughout needed what `UpdatesFit` says, kept the
configuration, and left each account with its deltas added up. -/
theorem updateAll_ok : ∀ {us : List Update} {c c' : Campus},
    c.reputation.accounts.Keyed Account.id → (updateAll caller us).exec c = (.ok (), c') →
      UpdatesFit caller c us ∧ c'.reputation.config = c.reputation.config ∧
        ∀ id, c'.reputation.standing id =
          (c.reputation.standing id).map (Update.outcome c.reputation.config.weights us id)
  | [], c, c', _, h => by
    obtain rfl : c' = c := by simpa [updateAll, eq_comm] using h
    refine ⟨⟨fun hne => absurd rfl hne, by simp, by simp, fun _ _ _ ht => by cases ht⟩, rfl,
      fun id => ?_⟩
    simp
  | u :: us, c, c', hk, h => by
    obtain ⟨r, c₁, h₁, h⟩ := exec_bind_ok.mp h
    obtain ⟨hl, ho, a, hfind, hfit, hw, -⟩ := Update.step_ok hk h₁
    obtain ⟨hf, hcfg, hstand⟩ := updateAll_ok hw.keyed h
    rw [hw.config] at hstand
    have hgains := hf.gains
    rw [hw.config] at hgains
    refine ⟨⟨fun _ => ho, fun v hv => ?_, fun v hv => ?_,
      (hw.gainsFit_shift hfind).mpr ⟨hfit, hgains⟩⟩, hcfg.trans hw.config, fun id => ?_⟩
    · rcases List.mem_cons.mp hv with rfl | hv
      · exact hl
      · exact hf.live v hv
    · rcases List.mem_cons.mp hv with rfl | hv
      · rw [hfind]
        rfl
      · rw [← hw.isSome_find hfind]
        exact hf.registered v hv
    · rw [hstand, hw.outcome_shift hfind]

/-- A run of updates whose needs `UpdatesFit` holds succeeds throughout, keeps the configuration
and leaves each account with its deltas added up. -/
theorem updateAll_ok_of : ∀ {us : List Update} {c : Campus},
    c.reputation.accounts.Keyed Account.id → UpdatesFit caller c us →
      ∃ c', (updateAll caller us).exec c = (.ok (), c') ∧
        c'.reputation.config = c.reputation.config ∧ ∀ id, c'.reputation.standing id =
          (c.reputation.standing id).map (Update.outcome c.reputation.config.weights us id)
  | [], c, _, _ => ⟨c, rfl, rfl, fun id => by simp⟩
  | u :: us, c, hk, hf => by
    have ho := hf.opened (List.cons_ne_nil u us)
    obtain ⟨a, hfind⟩ := Option.isSome_iff_exists.mp (hf.registered u List.mem_cons_self)
    obtain ⟨r, c₁, h₁, hw, hwired⟩ :=
      Update.step_ok_of hk (hf.live u List.mem_cons_self) ho hfind (hf.gains.head hfind)
    have hgains := ((hw.gainsFit_shift hfind).mp hf.gains).2
    rw [← hw.config] at hgains
    have hf₁ : UpdatesFit caller c₁ us :=
      ⟨fun _ => ho.keep hwired hw.config, fun v hv => hf.live v (List.mem_cons_of_mem u hv),
        fun v hv => (hw.isSome_find hfind v.account).symm ▸ hf.registered v
          (List.mem_cons_of_mem u hv), hgains⟩
    obtain ⟨c', h, hcfg, hstand⟩ := updateAll_ok_of hw.keyed hf₁
    rw [hw.config] at hstand
    refine ⟨c', exec_bind_ok.mpr ⟨r, c₁, h₁, h⟩, hcfg.trans hw.config, fun id => ?_⟩
    rw [hstand, hw.outcome_shift hfind]

/-- Two runs of the same score updates in different orders, on a campus whose registry files
each record under its own account: when one succeeds throughout, so does the other, and they
leave every account with the same scores and composite. -/
theorem updates_commute {us vs : List Update} {c c₁ : Campus}
    (hk : c.reputation.accounts.Keyed Account.id) (hp : us.Perm vs)
    (h : (updateAll caller us).exec c = (.ok (), c₁)) :
    ∃ c₂, (updateAll caller vs).exec c = (.ok (), c₂) ∧
      ∀ id, c₂.reputation.standing id = c₁.reputation.standing id := by
  obtain ⟨hf, -, hs₁⟩ := updateAll_ok hk h
  obtain ⟨c₂, h₂, -, hs₂⟩ := updateAll_ok_of hk (hf.perm hp)
  exact ⟨c₂, h₂, fun id => by rw [hs₂, hs₁, Update.outcome_perm hp]⟩

end Reputation

end CampusLedger
