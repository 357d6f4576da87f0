import CampusLedger.Proofs.Untouched
import CampusLedger.Proofs.Registration
import CampusLedger.Campus.Activity
/-!
# Activity events are applied once per time to live

An activity consumer delivers event texts to the handler, redelivering an event as often as it
likes and retrying after a reported failure, while the services go on serving their clients.
The handler claims an event's identifier before applying its award and releases the claim when
the ledger refuses the award. Over every such run, on a campus whose audit queue is open and
whose claim store can always release, and with a clock that never goes back:

* every delivery ends with a result, and the only change it makes to the reputation books is
  the award's delta (`Scores.deltaFor` of its pillar and points) added to the award's account
  by the ledger's controller, exactly when the event is reported applied;
* two applications of one event were claimed at least the claims' time to live apart;
* a delivery whose update was refused leaves no claim on its event;
* a failure is reported only when the claim store fails, or when the ledger refuses the award
  for a reason that may pass.

The invariant that carries the run is `Claims.Covers`: every event applied so far still holds
a claim that lasts its time to live, or the clock has passed the end of that time. The handler
passes a fault of the program on and reports every other failure of the score update; on an open
audit queue no step of the update's transaction raises such a fault.
-/

namespace CampusLedger

/-- The first entry of a name survives a filter that keeps it. -/
theorem keyed_find?_filter_of {β : Type} {l : List (String × β)} {k : String}
    {r : String × β → Bool} {x : String × β} (h : l.find? (·.1 == k) = some x) (hr : r x = true) :
    (l.filter r).find? (·.1 == k) = some x := by
  induction l with
  | nil => simp at h
  | cons a l ih =>
    by_cases ha : a.1 = k
    · have hx : a = x := by simpa [ha] using h
      subst hx
      simp [hr, ha]
    · have h' : l.find? (·.1 == k) = some x := by simpa [ha] using h
      by_cases hra : r a = true <;> simp [hra, ha, ih h']

namespace Activity

namespace Claims

variable {cl : Claims} {id k : String} {now e : Instant}

@[simp] theorem ttl_release : (cl.release id).ttl = cl.ttl := rfl

theorem expiry?_release_self : (cl.release id).expiry? id = none := by
  simp only [release, expiry?, keyed_find?_drop_self, Option.map_none]

theorem expiry?_release_ne (h : k ≠ id) : (cl.release id).expiry? k = cl.expiry? k := by
  simp only [release, expiry?, keyed_find?_drop_ne h]

/-- Sweeping keeps every claim that has not expired. -/
theorem expiry?_sweep (h : cl.expiry? k = some e) (hlive : now < e) :
    (cl.sweep now).expiry? k = some e := by
  simp only [expiry?, Option.map_eq_some_iff] at h
  obtain ⟨x, hx, rfl⟩ := h
  have hkept := keyed_find?_filter_of (r := fun p : String × Instant => decide (now < p.2)) hx
    (decide_eq_true hlive)
  simp only [sweep, expiry?, hkept, Option.map_some]

@[simp] theorem ttl_grant : (claim.grant id now cl).2.ttl = cl.ttl := by
  unfold claim.grant
  dsimp only
  split <;> rfl

/-- A granted claim lasts its time to live, when that is positive. -/
theorem expiry?_grant_self (hpos : 0 < cl.ttl) :
    (claim.grant id now cl).2.expiry? id = some (now.addNanos cl.ttl) := by
  unfold claim.grant
  dsimp only
  split
  · refine expiry?_sweep ?_ (by rw [Instant.lt_def, Instant.addNanos_nanos]; omega)
    simp only [expiry?, keyed_find?_put_self, Option.map_some]
  · simp only [expiry?, keyed_find?_put_self, Option.map_some]

/-- Granting a claim keeps the unexpired claims of the other events. -/
theorem expiry?_grant_ne (hk : k ≠ id) (h : cl.expiry? k = some e) (hlive : now < e) :
    (claim.grant id now cl).2.expiry? k = some e := by
  unfold claim.grant
  dsimp only
  split
  · refine expiry?_sweep ?_ hlive
    simpa only [expiry?, keyed_find?_put_ne _ hk] using h
  · simpa only [expiry?, keyed_find?_put_ne _ hk] using h

/-- A refused claim changes nothing, and is refused only while an earlier claim holds. -/
theorem claim_refused (h : (cl.claim id now).1 = false) :
    (cl.claim id now).2 = cl ∧ ∃ e, cl.expiry? id = some e ∧ now < e := by
  cases he : cl.expiry? id with
  | none => simp [claim, he, claim.grant] at h
  | some e =>
    by_cases hlt : now < e
    · exact ⟨by simp [claim, he, hlt], e, rfl, hlt⟩
    · simp [claim, he, hlt, claim.grant] at h

/-- A granted claim is the grant, made when no earlier claim held. -/
theorem claim_granted (h : (cl.claim id now).1 = true) :
    (cl.claim id now).2 = (claim.grant id now cl).2 ∧ ∀ e, cl.expiry? id = some e → e ≤ now := by
  cases he : cl.expiry? id with
  | none => exact ⟨by simp [claim, he], fun e' he' => by cases he'⟩
  | some e =>
    by_cases hlt : now < e
    · simp [claim, he, hlt] at h
    · refine ⟨by simp [claim, he, hlt], fun e' he' => ?_⟩
      cases he'
      rw [Instant.lt_def] at hlt
      rw [Instant.le_def]
      omega

@[simp] theorem ttl_claim : (cl.claim id now).2.ttl = cl.ttl := by
  cases h : (cl.claim id now).1
  · rw [(claim_refused h).1]
  · rw [(claim_granted h).1, ttl_grant]

/-- No two applications of one event in a log, each with the time its claim was made, are less
than `ttl` apart. -/
def Spaced (ttl : Int) (L : List (String × Instant)) : Prop :=
  L.Pairwise fun p q => p.1 = q.1 → p.2.addNanos ttl ≤ q.2

/-- The claims cover a log of applications as of `clock`: each event applied at `t` still holds
a claim expiring no earlier than `t + ttl`, or the clock has reached `t + ttl`. -/
def Covers (cl : Claims) (clock : Instant) (L : List (String × Instant)) : Prop :=
  ∀ p ∈ L, (∃ e, cl.expiry? p.1 = some e ∧ p.2.addNanos cl.ttl ≤ e) ∨ p.2.addNanos cl.ttl ≤ clock

theorem Covers.later {clock : Instant} {L : List (String × Instant)} (h : cl.Covers clock L)
    (hle : clock ≤ now) : cl.Covers now L := by
  intro p hp
  rcases h p hp with hc | hc
  · exact Or.inl hc
  · right
    rw [Instant.le_def] at hc hle ⊢
    omega

/-- An event granted a claim at `now` was last applied at least `ttl` before. -/
theorem Covers.due {clock : Instant} {L : List (String × Instant)} (h : cl.Covers clock L)
    (hle : clock ≤ now) (hg : (cl.claim id now).1 = true) :
    ∀ p ∈ L, p.1 = id → p.2.addNanos cl.ttl ≤ now := by
  intro p hp hid
  rcases h p hp with ⟨e, he, hte⟩ | hc
  · rw [hid] at he
    have hen := (claim_granted hg).2 e he
    rw [Instant.le_def] at hte hen ⊢
    omega
  · rw [Instant.le_def] at hc hle ⊢
    omega

/-- A claim, granted or refused, keeps the log covered as the clock moves on. -/
theorem Covers.claim {clock : Instant} {L : List (String × Instant)} (h : cl.Covers clock L)
    (hle : clock ≤ now) : (cl.claim id now).2.Covers now L := by
  cases hg : (cl.claim id now).1
  · rw [(claim_refused hg).1]
    exact h.later hle
  · rw [(claim_granted hg).1]
    intro p hp
    rw [ttl_grant]
    by_cases hid : p.1 = id
    · exact Or.inr (h.due hle hg p hp hid)
    · rcases h p hp with ⟨e, he, hte⟩ | hc
      · by_cases hlive : now < e
        · exact Or.inl ⟨e, expiry?_grant_ne hid he hlive, hte⟩
        · right
          rw [Instant.lt_def] at hlive
          rw [Instant.le_def] at hte ⊢
          omega
      · right
        rw [Instant.le_def] at hc hle ⊢
        omega

/-- Releasing a claim just granted keeps the log covered. -/
theorem Covers.release {clock : Instant} {L : List (String × Instant)} (h : cl.Covers clock L)
    (hle : clock ≤ now) (hg : (cl.claim id now).1 = true) :
    ((cl.claim id now).2.release id).Covers now L := by
  intro p hp
  rw [ttl_release, ttl_claim]
  by_cases hid : p.1 = id
  · exact Or.inr (h.due hle hg p hp hid)
  · rw [expiry?_release_ne hid]
    simpa only [ttl_claim] using h.claim hle p hp

/-- A claim granted at `now` covers its application at `now`. -/
theorem covers_granted (hg : (cl.claim id now).1 = true) :
    (cl.claim id now).2.Covers now [(id, now)] := by
  intro p hp
  rw [List.mem_singleton] at hp
  subst hp
  rw [ttl_claim]
  by_cases hpos : 0 < cl.ttl
  · left
    refine ⟨now.addNanos cl.ttl, ?_, Instant.le_def.mpr (le_refl _)⟩
    rw [(claim_granted hg).1]
    exact expiry?_grant_self hpos
  · right
    dsimp only
    rw [Instant.le_def, Instant.addNanos_nanos]
    omega

theorem Spaced.append_option {ttl : Int} {L : List (String × Instant)}
    {o : Option (String × Instant)} (h : Spaced ttl L)
    (ho : ∀ q ∈ o, ∀ p ∈ L, p.1 = q.1 → p.2.addNanos ttl ≤ q.2) : Spaced ttl (L ++ o.toList) := by
  cases o with
  | none => simpa using h
  | some q =>
    refine List.pairwise_append.mpr ⟨h, List.pairwise_singleton _ _, fun p hp q' hq' hid => ?_⟩
    rw [Option.toList_some, List.mem_singleton] at hq'
    subst hq'
    exact ho _ rfl p hp hid

theorem Covers.append {clock : Instant} {L M : List (String × Instant)} (hL : cl.Covers clock L)
    (hM : cl.Covers clock M) : cl.Covers clock (L ++ M) := by
  intro p hp
  rcases List.mem_append.mp hp with hp | hp
  · exact hL p hp
  · exact hM p hp

end Claims

end Activity


/-- A failure other than a fault of the program: one that the services report to the caller. -/
def Failure.Recoverable (e : Failure) : Prop := ∀ t, e ≠ .panic t

theorem Failure.recoverable_coded (code : Code) (m : String) (cause : Option Failure) :
    (Failure.coded code m cause).Recoverable := fun _ h => by cases h

theorem Failure.recoverable_injected (site : String) : (Failure.injected site).Recoverable :=
  fun _ h => by cases h

theorem Ledger.Guard.requirePrivileged_recoverable {g : Ledger.Guard} {caller : AccountId}
    {e : Failure} (h : g.requirePrivileged caller = .error e) : e.Recoverable := by
  unfold Ledger.Guard.requirePrivileged Ledger.Guard.requireController
    Ledger.Guard.requireInitialized at h
  split_ifs at h <;> simp only [bind, Except.bind, Except.error.injEq, reduceCtorEq] at h <;>
    exact h ▸ Failure.recoverable_coded _ _ _

/-- A privileged call passes the guard only for the ledger's controller. -/
theorem Ledger.Guard.requirePrivileged_controller {g : Ledger.Guard} {caller : AccountId}
    (h : g.requirePrivileged caller = .ok ()) : caller = g.controller := by
  unfold Ledger.Guard.requirePrivileged Ledger.Guard.requireController at h
  by_contra hne
  have hrefused : (caller.isZero || caller != g.controller) = true := by simp [hne]
  simp [hrefused, bind, Except.bind] at h

theorem Scores.addPillar_recoverable {p : Pillar} {a b : Nat} {e : Failure}
    (h : Scores.addPillar p a b = .error e) : e.Recoverable := by
  unfold Scores.addPillar at h
  split at h
  · cases h
  · cases h
    exact Failure.recoverable_coded _ _ _

theorem Scores.add_recoverable {s d : Scores} {e : Failure} (h : s.add d = .error e) :
    e.Recoverable := by
  unfold Scores.add at h
  rcases ha : Scores.addPillar .attendance s.attendance d.attendance with e₁ | a
  · simp only [ha, bind, Except.bind, Except.error.injEq] at h
    exact h ▸ Scores.addPillar_recoverable ha
  rcases hv : Scores.addPillar .voting s.voting d.voting with e₁ | v
  · simp only [ha, hv, bind, Except.bind, Except.error.injEq] at h
    exact h ▸ Scores.addPillar_recoverable hv
  rcases hf : Scores.addPillar .feedback s.feedback d.feedback with e₁ | f
  · simp only [ha, hv, hf, bind, Except.bind, Except.error.injEq] at h
    exact h ▸ Scores.addPillar_recoverable hf
  rcases hc : Scores.addPillar .certification s.certification d.certification with e₁ | c
  · simp only [ha, hv, hf, hc, bind, Except.bind, Except.error.injEq] at h
    exact h ▸ Scores.addPillar_recoverable hc
  simp [ha, hv, hf, hc, bind, Except.bind, pure, Except.pure] at h

theorem Scores.composite_recoverable {w s : Scores} {e : Failure}
    (h : Scores.composite w s = .error e) : e.Recoverable := by
  unfold Scores.composite at h
  split at h
  · cases h
  · cases h
    exact Failure.recoverable_coded _ _ _

theorem Reputation.Account.applyDelta_recoverable {a : Reputation.Account} {d w : Scores}
    {now : Instant} {e : Failure} (h : a.applyDelta d w now = .error e) : e.Recoverable := by
  unfold Reputation.Account.applyDelta at h
  rcases hs : a.scores.add d with e₁ | s
  · simp only [hs, bind, Except.bind, Except.error.injEq] at h
    exact h ▸ Scores.add_recoverable hs
  rcases hc : Scores.composite w s with e₁ | v
  · simp only [hs, hc, bind, Except.bind, Except.error.injEq] at h
    exact h ▸ Scores.composite_recoverable hc
  simp [hs, hc, bind, Except.bind, pure, Except.pure] at h

namespace Act

variable {α β σ : Type} {P : Failure → Prop}

theorem raises_step_pure (a : α) (b : σ) : Raises P ((pure a : StateT σ Act α) b) := by
  intro c e c' h
  cases h

theorem raises_step_bind {x : StateT σ Act α} {f : α → StateT σ Act β}
    (hx : ∀ b, Raises P (x b)) (hf : ∀ a b, Raises P (f a b)) (b : σ) :
    Raises P ((x >>= f) b) := by
  intro c e c' h
  rw [step_bind] at h
  rcases hx₁ : (x b).exec c with ⟨e₁ | ⟨a, b₁⟩, c₁⟩ <;> rw [hx₁] at h
  · cases h
    exact hx b c _ _ hx₁
  · exact hf a b₁ c₁ e c' h

theorem raises_step_throw_bind {e : Failure} (he : P e) (f : α → StateT σ Act β) (b : σ) :
    Raises P ((throw e >>= f : StateT σ Act β) b) := by
  intro c e' c' h
  rw [step_bind, step_throw] at h
  cases h
  exact he

/-- A step that reports every failure of its part as `g` of it raises only what `g` gives. -/
theorem raises_step_rethrow {x : StateT σ Act α} {g : Failure → Failure} (hg : ∀ e, P (g e))
    (b : σ) : Raises P ((tryCatch x fun e => throw (g e) : StateT σ Act α) b) := by
  intro c e c' h
  rw [step_tryCatch] at h
  rcases hx : (x b).exec c with ⟨e₁ | p, c₁⟩ <;> rw [hx] at h
  · dsimp only at h
    rw [step_throw] at h
    cases h
    exact hg e₁
  · cases h

theorem raises_instrumented {l o : String} {x : Act α} (hx : Raises P x) :
    Raises P (instrumented l o x) := by
  intro c e c' h
  obtain ⟨c₁, hx₁, -⟩ := instrumented_error h
  exact hx c e c₁ hx₁

theorem recoverable_faultAt (site : String) : Raises Failure.Recoverable (faultAt site) :=
  raises_bind (raises_modifyGet _) fun hit => by
    cases hit
    · exact raises_pure ()
    · exact raises_throw (Failure.recoverable_injected site)

theorem recoverable_checkContext (ctx : Context) (what : String) :
    Raises Failure.Recoverable (checkContext ctx what) := by
  unfold checkContext
  split
  · exact raises_throw (Failure.recoverable_coded _ _ _)
  · exact raises_pure ()

theorem recoverable_reputationTx (ctx : Context) {body : OnReputation α}
    (hb : ∀ b, Raises Failure.Recoverable (body b)) :
    Raises Failure.Recoverable (reputationTx ctx body) := by
  unfold reputationTx
  refine raises_bind (recoverable_faultAt _) fun _ =>
    raises_bind (recoverable_checkContext ctx _) fun _ => raises_get_bind fun c => ?_
  exact raises_bind (hb c.reputation) fun _ => raises_bind (raises_modify _) fun _ =>
    raises_pure _

end Act

namespace Reputation

open Act

variable {ctx : Context} {caller account : AccountId} {delta : Scores}

theorem recoverable_updateTx (ctx : Context) (caller account : AccountId) (delta : Scores)
    (b : Book) : Raises Failure.Recoverable (Tx.update ctx caller account delta b) := by
  unfold Tx.update
  refine raises_step_bind (fun b => raises_step_rethrow (fun _ => Failure.recoverable_coded _ _ _) b)
    (fun cfg b => ?_) b
  dsimp only
  rcases hp : cfg.guard.requirePrivileged caller with e | u
  · exact raises_step_throw_bind (Ledger.Guard.requirePrivileged_recoverable hp) _ b
  refine raises_step_bind (fun b => raises_step_rethrow (fun e => ?_) b) (fun a b => ?_) b
  · unfold accountFailure
    split
    · exact Failure.recoverable_coded _ _ _
    · exact Failure.recoverable_coded _ _ _
  rcases ha : a.applyDelta delta cfg.weights ctx.now with e | a'
  · exact raises_step_throw_bind (Account.applyDelta_recoverable ha) _ b
  refine raises_step_bind (fun b => raises_step_pure _ b) (fun a b => ?_) b
  refine raises_step_bind (fun b => raises_step_rethrow (fun e => ?_) b)
    (fun _ b => raises_step_pure _ b) b
  unfold accountFailure
  split
  · exact Failure.recoverable_coded _ _ _
  · exact Failure.recoverable_coded _ _ _

/-- A score update on an open audit queue fails only as its transaction fails, never with a
fault of the program. -/
theorem updateScores_recoverable {c c' : Campus} {e : Failure} (hc : c.outbox.closed = false)
    (h : (updateScores ctx caller account delta).exec c = (.error e, c')) : e.Recoverable := by
  unfold updateScores at h
  rcases exec_bind_error.mp h with h | ⟨r, c₁, hi, hp⟩
  · exact raises_instrumented (recoverable_reputationTx ctx
      (recoverable_updateTx ctx caller account delta)) c e c' h
  -- the transaction committed, and publishing through an open queue succeeds
  obtain ⟨c₂, hx, hq⟩ := instrumented_ok hi
  have hq₂ := (reputationTx_outcome (.update ctx caller account delta) rfl hx).2
  have hc₁ : c₁.outbox.closed = false := ((Frame.quiet_queue hq).trans hq₂).trans hc
  obtain ⟨c₃, hok⟩ := emit_pure_ok ctx
    { ledger := .reputation, action := "scores_updated", account := account, actor := caller,
      value := r } r hc₁
  rw [hok] at hp
  cases hp

/-- The reputation books `b'` are `b` with the delta `δ` applied at `now` to `account` by
`caller`, the controller of the initialized ledger: the account's record is saved with `δ` added
to its scores and its composite recomputed under the ledger's weights. -/
def Awarded (b b' : Book) (caller account : AccountId) (δ : Scores) (now : Instant) : Prop :=
  caller = b.config.guard.controller ∧ b.config.guard.initialized = true ∧
    ∃ r r', b.findAccount account = .ok r ∧ r.applyDelta δ b.config.weights now = .ok r' ∧
      b.saveAccount .readWrite r' = .ok b'

/-- A score update on an open audit queue either fails with a failure it reports, leaving the
reputation books alone, or applies its delta as the controller and succeeds. -/
theorem updateScores_outcome {c c' : Campus} {r : Except Failure Nat}
    (hc : c.outbox.closed = false) (h : (updateScores ctx caller account delta).exec c = (r, c')) :
    (∃ e, r = .error e ∧ e.Recoverable ∧ c'.reputation = c.reputation) ∨
      ((∃ v, r = .ok v) ∧ Awarded c.reputation c'.reputation caller account delta ctx.now) := by
  have hop := (Op.outcome (.update ctx caller account delta) hc).1
  have hact : (Op.update ctx caller account delta).act.exec c = (r.map fun _ => (), c') := by
    show (updateScores ctx caller account delta >>= fun _ => pure ()).exec c = _
    rw [exec_drop, h]
  rw [hact] at hop
  rcases r with e | v
  · left
    refine ⟨e, rfl, updateScores_recoverable hc h, ?_⟩
    rcases hop with ⟨-, hq⟩ | ⟨hr, -⟩
    · exact congrArg Campus.Core.reputation hq
    · cases hr
  · right
    refine ⟨⟨v, rfl⟩, ?_⟩
    rcases hop with ⟨⟨e, he⟩, -⟩ | ⟨-, c₁, ⟨d, c₂, hb, rfl⟩, hbooks⟩
    · cases he
    obtain ⟨u, hb⟩ := step_drop_ok.mp hb
    obtain ⟨a, a', hpriv, hfind, happly, hsave, -, -⟩ := updateTx_ok hb
    have hrep : c'.reputation = d := hbooks.1
    refine ⟨Ledger.Guard.requirePrivileged_controller hpriv,
      Ledger.Guard.requirePrivileged_ok hpriv, a, a', hfind, happly, ?_⟩
    rw [hrep]
    exact hsave

end Reputation

namespace Act

theorem exec_meter_metrics (g : Metrics.Registry → Metrics.Registry) (c : Campus) :
    ∃ m, (meter g).exec c = (.ok (), { c with metrics := m }) := by
  unfold meter
  rw [exec_modify]
  split
  · exact ⟨_, rfl⟩
  · exact ⟨c.metrics, rfl⟩

end Act

namespace Activity

open Act

variable {ctx : Context} {text : List UInt8} {c c₂ : Campus} {a : Award}

/-- The campus once the claim on the event `id` is made at `now`. -/
def claimed (c : Campus) (id : String) (now : Instant) : Campus :=
  { c with claims := (c.claims.claim id now).2 }

/-- Counting an outcome moves only the metrics. -/
theorem exec_observe (o : Outcome) (c : Campus) :
    ∃ m, (observe o).exec c = (.ok (), { c with metrics := m }) := by
  unfold observe
  rw [exec_bind, exec_get]
  dsimp only
  split
  · exact exec_meter_metrics _ c
  · exact ⟨c.metrics, rfl⟩

/-- Whatever follows the count of an outcome runs on the campus with only its metrics moved. -/
theorem exec_observe_bind {β : Type} (o : Outcome) (f : Unit → Act β) (c : Campus) :
    ∃ m, (observe o >>= f).exec c = (f ()).exec { c with metrics := m } := by
  obtain ⟨m, hm⟩ := exec_observe o c
  exact ⟨m, by rw [exec_bind, hm]⟩

theorem handle_malformed (ctx : Context) (c : Campus) (hd : decode text = none) :
    ∃ m, (handle ctx text).exec c = (.ok { outcome := some .malformed }, { c with metrics := m }) := by
  unfold handle
  rw [hd]
  exact exec_observe_bind .malformed _ c

theorem handle_claim_fault (hd : decode text = some a)
    (ht : (c.faults.trip "dedup.Claim").1 = true) :
    (handle ctx text).exec c = (.ok { failure := some (.wrap ("claim activity event " ++
      a.eventId.toText) (.injected "dedup.Claim")) },
      { c with faults := (c.faults.trip "dedup.Claim").2 }) := by
  unfold handle
  rw [hd]
  dsimp only
  rw [exec_bind, exec_tripped, ht]
  rfl

theorem handle_duplicate (ctx : Context) (c : Campus) (hd : decode text = some a)
    (ht : (c.faults.trip "dedup.Claim").1 = false)
    (hr : (c.claims.claim a.eventId.toText ctx.now).1 = false) :
    ∃ m, (handle ctx text).exec c = (.ok { outcome := some .duplicate },
      { claimed c a.eventId.toText ctx.now with metrics := m }) := by
  unfold handle
  rw [hd]
  dsimp only
  rw [exec_bind, exec_tripped, ht, trip_keeps_faults ht]
  simp only [Bool.false_eq_true, ↓reduceIte]
  rw [exec_bind, exec_get]
  dsimp only
  rw [exec_bind, exec_set, hr]
  simp only [Bool.not_false, ↓reduceIte]
  exact exec_observe_bind .duplicate _ (claimed c a.eventId.toText ctx.now)

/-- Once the claim is granted, the handler's result is that of the score update: applied when it
succeeds, and otherwise rejected or failed, with the claim released. -/
theorem handle_granted (ctx : Context) (hd : decode text = some a)
    (ht : (c.faults.trip "dedup.Claim").1 = false)
    (hg : (c.claims.claim a.eventId.toText ctx.now).1 = true)
    (hc : c.outbox.closed = false) (hrel : c.faults.countOf "dedup.Release" = 0) :
    ∃ m, (handle ctx text).exec c =
      match (Reputation.updateScores ctx c.wiring.controller a.account a.delta).exec
          (claimed c a.eventId.toText ctx.now) with
      | (.ok _, c₂) => (.ok { outcome := some .applied }, { c₂ with metrics := m })
      | (.error e, c₂) => (.ok (if permanent e then { outcome := some .rejected } else
          { outcome := some .failed,
            failure := some (.wrap ("apply activity event " ++ a.eventId.toText) e) }),
          { c₂ with claims := c₂.claims.release a.eventId.toText, metrics := m }) := by
  unfold handle
  rw [hd]
  dsimp only
  rw [exec_bind, exec_tripped, ht, trip_keeps_faults ht]
  simp only [Bool.false_eq_true, ↓reduceIte]
  rw [exec_bind, exec_get]
  dsimp only
  rw [exec_bind, exec_set, hg]
  simp only [Bool.not_true, Bool.false_eq_true, ↓reduceIte]
  rw [exec_bind, exec_get]
  dsimp only
  rw [show ({ c with claims := (c.claims.claim a.eventId.toText ctx.now).2 } : Campus) =
    claimed c a.eventId.toText ctx.now from rfl]
  have hfix := Reputation.within_updateScores Frame.fixture_untouched ctx c.wiring.controller
    a.account a.delta (claimed c a.eventId.toText ctx.now)
  rw [exec_bind, exec_tryCatch, exec_bind]
  rcases hu : (Reputation.updateScores ctx c.wiring.controller a.account a.delta).exec
    (claimed c a.eventId.toText ctx.now) with ⟨e | v, c₂⟩
  · -- refused: the handler passes on only a fault of the program, which the update never raises
    -- here; it then releases the claim, since releasing cannot fail
    have hp := Reputation.updateScores_recoverable (c := claimed c a.eventId.toText ctx.now) hc hu
    rw [hu] at hfix
    have hrel₂ : c₂.faults.countOf "dedup.Release" = 0 := hfix.1.2 _ hrel
    dsimp only
    split
    next r c' hr =>
      split at hr
      · exact absurd rfl (hp _)
      simp only [exec_pure, Prod.mk.injEq, Except.ok.injEq] at hr
      obtain ⟨rfl, rfl⟩ := hr
      dsimp only
      rw [exec_bind, exec_tripped, Faults.trip_of_countOf_zero hrel₂]
      simp only [Bool.not_false, ↓reduceIte]
      rw [exec_bind, exec_modify]
      dsimp only
      by_cases hperm : permanent e = true
      · simp only [hperm, ↓reduceIte]
        exact exec_observe_bind .rejected _ _
      · simp only [hperm, Bool.false_eq_true, ↓reduceIte]
        exact exec_observe_bind .failed _ _
    next e' c' hr =>
      split at hr
      · exact absurd rfl (hp _)
      · cases hr
  · -- applied: the outcome is counted, and the points when the handler meters them
    dsimp only
    rw [exec_pure]
    dsimp only
    obtain ⟨m, hm⟩ := exec_observe_bind .applied _ c₂
    rw [hm, exec_bind, exec_get]
    dsimp only
    split
    · rw [exec_bind]
      obtain ⟨m', hm'⟩ := exec_meter_metrics
        (fun r => r.add "ccms_activity_points_total" [a.pillar.name] (Float.ofNat a.points))
        { c₂ with metrics := m }
      rw [hm']
      exact ⟨m', rfl⟩
    · exact ⟨m, rfl⟩

/-- An award's delta is the one its pillar's name and its points give. -/
theorem Award.deltaFor_delta (a : Award) : Scores.deltaFor a.pillar.name a.points = .ok a.delta := by
  cases a with
  | mk id account pillar points => cases pillar <;> rfl

/-- What befalls a campus: an activity event's text is delivered to the handler, or a client
calls a service. -/
inductive Visit where
  | deliver (ctx : Context) (text : List UInt8)
  | call (k : Call)

def Visit.time? : Visit → Option Instant
  | .deliver ctx _ => some ctx.now
  | .call _ => none

/-- One delivery: what was delivered, the campus it found, the handler's result and the campus
it left. -/
structure Delivery where
  ctx : Context
  text : List UInt8
  before : Campus
  result : Except Failure Handled
  after : Campus

def Delivery.of (ctx : Context) (text : List UInt8) (c : Campus) : Delivery :=
  ⟨ctx, text, c, ((handle ctx text).exec c).1, ((handle ctx text).exec c).2⟩

/-- The application a delivery made, if its event was applied: the event's identifier and the
time of its claim. -/
def Delivery.application? (d : Delivery) : Option (String × Instant) :=
  match d.result, decode d.text with
  | .ok h, some a => if h.outcome = some .applied then some (a.eventId.toText, d.ctx.now) else none
  | _, _ => none

theorem Delivery.application?_eq_none {d : Delivery} {H : Handled} (hr : d.result = .ok H)
    (hnot : H.outcome ≠ some .applied) : d.application? = none := by
  unfold Delivery.application?
  rw [hr]
  cases decode d.text <;> simp [hnot]

theorem Delivery.application?_eq_some {d : Delivery} {H : Handled} {a : Award}
    (hr : d.result = .ok H) (ho : H.outcome = some .applied) (hd : decode d.text = some a) :
    d.application? = some (a.eventId.toText, d.ctx.now) := by
  unfold Delivery.application?
  rw [hr, hd]
  simp [ho]

/-- What the handler promises of one delivery. -/
structure Delivery.Kept (d : Delivery) : Prop where
  /-- Handling ends with a result. -/
  returns : ∃ h, d.result = .ok h
  /-- An event reported applied had the delta of its pillar and points added to its account,
  by the handler's controller. -/
  applied : ∀ h, d.result = .ok h → h.outcome = some .applied →
    ∃ a δ, decode d.text = some a ∧ Scores.deltaFor a.pillar.name a.points = .ok δ ∧
      Reputation.Awarded d.before.reputation d.after.reputation d.before.wiring.controller
        a.account δ d.ctx.now
  /-- Every other delivery leaves the reputation books alone. -/
  unchanged : ∀ h, d.result = .ok h → h.outcome ≠ some .applied →
    d.after.reputation = d.before.reputation
  /-- A refused update leaves no claim on its event. -/
  released : ∀ h, d.result = .ok h → (h.outcome = some .rejected ∨ h.outcome = some .failed) →
    ∃ a, decode d.text = some a ∧ d.after.claims.expiry? a.eventId.toText = none
  /-- A failure is reported only when the claim store fails, or when the ledger refuses the
  award for a reason that may pass. -/
  reported : ∀ h f, d.result = .ok h → h.failure = some f →
    ∃ a, decode d.text = some a ∧
      (f = .wrap ("claim activity event " ++ a.eventId.toText) (.injected "dedup.Claim") ∨
        ∃ e, f = .wrap ("apply activity event " ++ a.eventId.toText) e ∧ permanent e = false ∧
          h.outcome = some .failed)

/-- What a campus keeps while it serves, with `L` the applications made so far and `clock` the
time of the last delivery: its audit queue is open, releasing a claim cannot fail, the claims
live `ttl`, and they cover `L`. -/
structure Serving (ttl : Int) (clock : Instant) (L : List (String × Instant)) (c : Campus) :
    Prop where
  queue : c.outbox.closed = false
  release : c.faults.countOf "dedup.Release" = 0
  ttl : c.claims.ttl = ttl
  covers : c.claims.Covers clock L

variable {ttl : Int} {clock : Instant} {L : List (String × Instant)}

/-- A call of the services keeps what a serving campus keeps. -/
theorem Serving.call (h : Serving ttl clock L c) (k : Call) : Serving ttl clock L (k.next c) := by
  obtain ⟨⟨hq, hs⟩, hcl⟩ : Frame.fixture.rel c (k.next c) := k.within Frame.fixture_untouched c
  refine ⟨hq.trans h.queue, hs _ h.release, ?_, ?_⟩
  · rw [hcl]
    exact h.ttl
  · rw [hcl]
    exact h.covers

/-- What one delivery `d` to a serving campus comes to, `L` being the applications made before
it: the delivery keeps the handler's promises, the campus it leaves serves on with the clock at
the delivery's time, and an application it makes comes `ttl` after every earlier application
of its event. -/
structure Delivery.Step (ttl : Int) (L : List (String × Instant)) (d : Delivery) : Prop where
  kept : d.Kept
  serving : Serving ttl d.ctx.now (L ++ d.application?.toList) d.after
  spaced : ∀ q ∈ d.application?, ∀ p ∈ L, p.1 = q.1 → p.2.addNanos ttl ≤ q.2

/-- A delivery that makes no update: its result counts no update's outcome, reports at most a
failure of the claim store, and the campus it leaves differs only where no promise looks. -/
theorem Serving.deliver_aside (hS : Serving ttl clock L c) (hle : clock ≤ ctx.now)
    {H : Handled} {c' : Campus} (hx : (handle ctx text).exec c = (.ok H, c'))
    (hout : H.outcome = some .malformed ∨ H.outcome = some .duplicate ∨ H.outcome = none)
    (hfail : ∀ f, H.failure = some f → ∃ a, decode text = some a ∧
      f = .wrap ("claim activity event " ++ a.eventId.toText) (.injected "dedup.Claim"))
    (hrep : c'.reputation = c.reputation) (hq : c'.outbox.closed = c.outbox.closed)
    (hrel : c'.faults.countOf "dedup.Release" = 0) (hcl : c'.claims = c.claims) :
    (Delivery.of ctx text c).Step ttl L := by
  have hdl : Delivery.of ctx text c = ⟨ctx, text, c, .ok H, c'⟩ := by
    simp only [Delivery.of, hx]
  have hnot : H.outcome ≠ some .applied := by
    rcases hout with ho | ho | ho <;> rw [ho] <;> simp
  have happ : (⟨ctx, text, c, .ok H, c'⟩ : Delivery).application? = none :=
    Delivery.application?_eq_none rfl hnot
  rw [hdl]
  refine ⟨⟨⟨H, rfl⟩, ?_, ?_, ?_, ?_⟩, ?_, ?_⟩
  · intro h hh ho
    cases hh
    exact absurd ho hnot
  · intro _ _ _
    exact hrep
  · intro h hh ho
    cases hh
    rcases hout with h₁ | h₁ | h₁ <;> rcases ho with h₂ | h₂ <;> rw [h₁] at h₂ <;> cases h₂
  · intro h f hh hf
    cases hh
    obtain ⟨a, hd, rfl⟩ := hfail f hf
    exact ⟨a, hd, Or.inl rfl⟩
  · rw [happ, Option.toList_none, List.append_nil]
    refine ⟨hq.trans hS.queue, hrel, ?_, ?_⟩
    · rw [hcl]
      exact hS.ttl
    · rw [hcl]
      exact hS.covers.later hle
  · rw [happ]
    intro q hq
    cases hq

theorem Serving.deliver_malformed (hS : Serving ttl clock L c) (hle : clock ≤ ctx.now)
    (hd : decode text = none) : (Delivery.of ctx text c).Step ttl L := by
  obtain ⟨m, hm⟩ := handle_malformed ctx c hd
  refine hS.deliver_aside hle hm (Or.inl rfl) (fun f hf => ?_) rfl rfl hS.release rfl
  cases hf

theorem Serving.deliver_claim_fault (hS : Serving ttl clock L c) (hle : clock ≤ ctx.now)
    (hd : decode text = some a) (ht : (c.faults.trip "dedup.Claim").1 = true) :
    (Delivery.of ctx text c).Step ttl L := by
  refine hS.deliver_aside hle (handle_claim_fault hd ht) (Or.inr (Or.inr rfl)) (fun f hf => ?_)
    rfl rfl (Faults.countOf_trip_zero hS.release _) rfl
  cases hf
  exact ⟨a, hd, rfl⟩

theorem Serving.deliver_duplicate (hS : Serving ttl clock L c) (hle : clock ≤ ctx.now)
    (hd : decode text = some a) (ht : (c.faults.trip "dedup.Claim").1 = false)
    (hr : (c.claims.claim a.eventId.toText ctx.now).1 = false) :
    (Delivery.of ctx text c).Step ttl L := by
  obtain ⟨m, hm⟩ := handle_duplicate ctx c hd ht hr
  refine hS.deliver_aside hle hm (Or.inr (Or.inl rfl)) (fun f hf => ?_) rfl rfl hS.release
    (Claims.claim_refused hr).1
  cases hf

/-- A delivery whose claim is granted: the event is applied when the update succeeds, and the
claim is released when it is refused. -/
theorem Serving.deliver_granted (hS : Serving ttl clock L c) (hle : clock ≤ ctx.now)
    (hd : decode text = some a) (ht : (c.faults.trip "dedup.Claim").1 = false)
    (hg : (c.claims.claim a.eventId.toText ctx.now).1 = true) :
    (Delivery.of ctx text c).Step ttl L := by
  obtain ⟨m, hm⟩ := handle_granted ctx hd ht hg hS.queue hS.release
  have hfix := Reputation.within_updateScores Frame.fixture_untouched ctx c.wiring.controller
    a.account a.delta (claimed c a.eventId.toText ctx.now)
  rcases hu : (Reputation.updateScores ctx c.wiring.controller a.account a.delta).exec
    (claimed c a.eventId.toText ctx.now) with ⟨e | v, c₂⟩ <;> rw [hu] at hm hfix
  · -- refused: nothing is applied and the claim is released
    obtain ⟨⟨hq, hs⟩, hcl⟩ := hfix
    have hrep : c₂.reputation = c.reputation := by
      rcases Reputation.updateScores_outcome (c := claimed c a.eventId.toText ctx.now) hS.queue hu
        with ⟨e', -, -, hrep⟩ | ⟨⟨v, hv⟩, -⟩
      · exact hrep
      · cases hv
    obtain ⟨H, hH⟩ : ∃ H : Handled, H = if permanent e then { outcome := some .rejected } else
      { outcome := some .failed,
        failure := some (.wrap ("apply activity event " ++ a.eventId.toText) e) } := ⟨_, rfl⟩
    have hnot : H.outcome ≠ some .applied := by
      rw [hH]
      split <;> simp
    have hdl : Delivery.of ctx text c = ⟨ctx, text, c, .ok H,
        { c₂ with claims := c₂.claims.release a.eventId.toText, metrics := m }⟩ := by
      simp only [Delivery.of, hm, hH]
    rw [hdl]
    refine ⟨⟨⟨H, rfl⟩, ?_, ?_, ?_, ?_⟩, ?_, ?_⟩
    · intro h hh ho
      cases hh
      exact absurd ho hnot
    · intro _ _ _
      exact hrep
    · intro _ _ _
      exact ⟨a, hd, Claims.expiry?_release_self⟩
    · intro h f hh hf
      cases hh
      refine ⟨a, hd, Or.inr ⟨e, ?_⟩⟩
      by_cases hperm : permanent e = true
      · simp [hH, hperm] at hf
      · simp only [hH, hperm, Bool.false_eq_true, ↓reduceIte, Option.some.injEq] at hf
        exact ⟨hf.symm, by simpa using hperm, by simp [hH, hperm]⟩
    · rw [Delivery.application?_eq_none rfl hnot, Option.toList_none, List.append_nil]
      refine ⟨hq.trans hS.queue, hs _ hS.release, ?_, ?_⟩
      · show (c₂.claims.release a.eventId.toText).ttl = ttl
        rw [Claims.ttl_release, hcl]
        exact (Claims.ttl_claim).trans hS.ttl
      · show (c₂.claims.release a.eventId.toText).Covers ctx.now L
        rw [hcl]
        exact hS.covers.release hle hg
    · rw [Delivery.application?_eq_none rfl hnot]
      intro q hq
      cases hq
  · -- applied: the award is added, and the claim covers its application
    obtain ⟨⟨hq, hs⟩, hcl⟩ := hfix
    have haward : Reputation.Awarded c.reputation c₂.reputation c.wiring.controller a.account
        a.delta ctx.now := by
      rcases Reputation.updateScores_outcome (c := claimed c a.eventId.toText ctx.now) hS.queue hu
        with ⟨e', he, -, -⟩ | ⟨-, haward⟩
      · cases he
      · exact haward
    have hdl : Delivery.of ctx text c = ⟨ctx, text, c, .ok { outcome := some .applied },
        { c₂ with metrics := m }⟩ := by
      simp only [Delivery.of, hm]
    have happ := Delivery.application?_eq_some (d := ⟨ctx, text, c, .ok { outcome := some .applied },
      { c₂ with metrics := m }⟩) rfl rfl hd
    rw [hdl]
    refine ⟨⟨⟨_, rfl⟩, ?_, ?_, ?_, ?_⟩, ?_, ?_⟩
    · intro _ _ _
      exact ⟨a, a.delta, hd, Award.deltaFor_delta a, haward⟩
    · intro h hh ho
      cases hh
      exact absurd rfl ho
    · intro h hh ho
      cases hh
      rcases ho with ho | ho <;> cases ho
    · intro h f hh hf
      cases hh
      cases hf
    · rw [happ]
      refine ⟨hq.trans hS.queue, hs _ hS.release, ?_, ?_⟩
      · show c₂.claims.ttl = ttl
        rw [hcl]
        exact (Claims.ttl_claim).trans hS.ttl
      · show c₂.claims.Covers ctx.now (L ++ [(a.eventId.toText, ctx.now)])
        rw [hcl]
        exact (hS.covers.claim hle).append (Claims.covers_granted hg)
    · rw [happ]
      intro q hq p hp hid
      cases hq
      have hdue := hS.covers.due hle hg p hp hid
      rwa [hS.ttl] at hdue

/-- One delivery to a serving campus keeps the handler's promises, leaves a campus that serves
on, and applies its event only `ttl` after every earlier application of it. -/
theorem Serving.deliver (hS : Serving ttl clock L c) (ctx : Context) (text : List UInt8)
    (hle : clock ≤ ctx.now) :
    (Delivery.of ctx text c).Step ttl L := by
  rcases hd : decode text with _ | a
  · exact hS.deliver_malformed hle hd
  cases ht : (c.faults.trip "dedup.Claim").1
  · cases hg : (c.claims.claim a.eventId.toText ctx.now).1
    · exact hS.deliver_duplicate hle hd ht hg
    · exact hS.deliver_granted hle hd ht hg
  · exact hS.deliver_claim_fault hle hd ht

end Activity

open Activity in
/-- Serves visits in order: the campus reached, and the deliveries made on the way. -/
def Campus.serve (c : Campus) : List Visit → Campus × List Delivery
  | [] => (c, [])
  | .call k :: vs => (k.next c).serve vs
  | .deliver ctx text :: vs =>
    let d := Delivery.of ctx text c
    ((d.after.serve vs).1, d :: (d.after.serve vs).2)

namespace Activity

variable {ttl : Int} {clock : Instant} {L : List (String × Instant)}

theorem filterMap_application?_cons (d : Delivery) (ds : List Delivery) :
    (d :: ds).filterMap Delivery.application? =
      d.application?.toList ++ ds.filterMap Delivery.application? := by
  cases h : d.application? <;> simp [h]

/-- Serving keeps the handler's promises at every delivery, and spaces the applications of each
event by `ttl`. -/
theorem Serving.serve {c : Campus} (hS : Serving ttl clock L c) (hsp : Claims.Spaced ttl L)
    {vs : List Visit} (hclock : (vs.filterMap Visit.time?).Pairwise (· ≤ ·))
    (hfirst : ∀ t ∈ vs.filterMap Visit.time?, clock ≤ t) :
    (∀ d ∈ (c.serve vs).2, d.Kept) ∧
      Claims.Spaced ttl (L ++ (c.serve vs).2.filterMap Delivery.application?) := by
  induction vs generalizing c clock L with
  | nil => simpa [Campus.serve] using hsp
  | cons v vs ih =>
    cases v with
    | call k => exact ih (hS.call k) hsp hclock hfirst
    | deliver ctx text =>
      simp only [List.filterMap_cons, Visit.time?, List.pairwise_cons, List.mem_cons,
        forall_eq_or_imp] at hclock hfirst
      -- the delivery's step, then the rest of the run from the campus it leaves
      have hstep := hS.deliver ctx text hfirst.1
      obtain ⟨hkept, hspaced⟩ := ih hstep.serving (hsp.append_option hstep.spaced) hclock.2 hclock.1
      refine ⟨fun d hd => ?_, ?_⟩
      · rcases List.mem_cons.mp hd with rfl | hd
        · exact hstep.kept
        · exact hkept d hd
      · show Claims.Spaced ttl (L ++ (Delivery.of ctx text c ::
          ((Delivery.of ctx text c).after.serve vs).2).filterMap Delivery.application?)
        rw [filterMap_application?_cons, ← List.append_assoc]
        exact hspaced

end Activity

open Activity

/-- An activity consumer's deliveries, redelivered and retried at will and interleaved with any
calls of the services, on a campus whose audit queue is open and whose claim store can always
release, with a clock that never goes back: every delivery keeps the handler's promises (it
ends with a result, it changes the reputation books only by adding its award's delta as the
controller and exactly when it reports the event applied, it leaves no claim when the update is
refused, and it reports a failure only of the claim store or of a refusal that may pass), and
no two applications of one event were claimed less than the claims' time to live apart. -/
theorem redelivery_applies_once_per_ttl {c : Campus} (hopen : c.outbox.closed = false)
    (hrel : c.faults.countOf "dedup.Release" = 0) (vs : List Visit)
    (hclock : (vs.filterMap Visit.time?).Pairwise (· ≤ ·)) :
    (∀ d ∈ (c.serve vs).2, d.Kept) ∧
      Claims.Spaced c.claims.ttl ((c.serve vs).2.filterMap Delivery.application?) := by
  -- the clock starts at the first delivery's time
  obtain ⟨clock, hfirst⟩ : ∃ clock, ∀ t ∈ vs.filterMap Visit.time?, clock ≤ t := by
    cases hts : vs.filterMap Visit.time? with
    | nil => exact ⟨⟨0⟩, by simp⟩
    | cons t ts =>
      rw [hts, List.pairwise_cons] at hclock
      refine ⟨t, fun u hu => ?_⟩
      rcases List.mem_cons.mp hu with rfl | hu
      · exact Instant.le_def.mpr le_rfl
      · exact hclock.1 u hu
  have hS : Serving c.claims.ttl clock [] c := ⟨hopen, hrel, rfl, fun p hp => by cases hp⟩
  simpa using hS.serve List.Pairwise.nil hclock hfirst

theorem redelivery_on_fresh_campus :
    (Campus.fresh {} 60).outbox.closed = false ∧
      (Campus.fresh {} 60).faults.countOf "dedup.Release" = 0 ∧
      ([Visit.deliver { now := ⟨0⟩ } [], .deliver { now := ⟨1⟩ } []].filterMap
        Visit.time?).Pairwise (· ≤ ·) ∧
      let run := (Campus.fresh {} 60).serve
        [Visit.deliver { now := ⟨0⟩ } [], .deliver { now := ⟨1⟩ } []]
      (∀ d ∈ run.2, d.Kept) ∧ Claims.Spaced 60 (run.2.filterMap Delivery.application?) :=
  ⟨rfl, rfl, by decide, redelivery_applies_once_per_ttl rfl rfl _ (by decide)⟩

end CampusLedger
