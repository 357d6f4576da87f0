import CampusLedger.Proofs.Untouched
import CampusLedger.Proofs.Registration
import CampusLedger.Proofs.StakedTotal
/-!
# The audit journal replays the books

A campus publishes at once when its services are audited, its audit queue has no capacity and
no fault is armed at the journal's store. On such a campus every run of calls adds to the
journal exactly one event for each registration, launch, score update, stake and withdrawal
that succeeds, in call order, and none for a call that fails, a read or a bank call. Each event
records the operation's ledger, action, account, actor and amount, and as value what the
operation returned: the new composite of a score update, the new staked balance of a stake or
a withdrawal.

So the journal replays the books. From fresh books and an empty journal, through every run,
each staking account's balance is what its stakes less its withdrawals in the journal add up
to, and each reputation account's composite is the value of its last score update.
-/

namespace CampusLedger

open Act

namespace Audit

/-- What an event says of the operation it records: all but the identifier, the category, the
time and the request, which publishing stamps. -/
structure Record where
  ledger : LedgerName
  action : String
  account : AccountId := ⟨""⟩
  actor : AccountId := ⟨""⟩
  amount : Nat := 0
  value : Nat := 0
  deriving DecidableEq, Repr

def Event.record (e : Event) : Record :=
  ⟨e.ledger, e.action, e.account, e.actor, e.amount, e.value⟩

/-- The records of the stored events, oldest first. -/
def Journal.records (j : Journal) : List Record := j.events.map Event.record

@[simp] theorem Journal.records_append (j : Journal) (e : Event) :
    (j.append e).records = j.records ++ [e.record] := by
  simp [Journal.records, Journal.append]

/-- The amounts that an account's records of one staking action move, added up. -/
def moved (action : String) (a : AccountId) (rs : List Record) : Nat :=
  ((rs.filter fun r => r.ledger == .staking && r.action == action && r.account == a).map
    (·.amount)).sum

/-- The value of an account's last score update, or zero when it has none. -/
def lastScore (a : AccountId) (rs : List Record) : Nat :=
  (((rs.filter fun r => r.ledger == .reputation && r.action == "scores_updated" &&
    r.account == a).getLast?).map (·.value)).getD 0

variable {action : String} {a : AccountId} {rs ts : List Record}

@[simp] theorem moved_append : moved action a (rs ++ ts) = moved action a rs + moved action a ts := by
  simp [moved, List.filter_append]

theorem moved_of_reputation (h : ∀ r ∈ ts, r.ledger = .reputation) : moved action a ts = 0 := by
  rw [moved, List.filter_eq_nil_iff.mpr fun r hr => by simp [h r hr]]
  rfl

theorem lastScore_of_staking (h : ∀ r ∈ ts, r.ledger = .staking) :
    lastScore a (rs ++ ts) = lastScore a rs := by
  have hnil : ts.filter (fun r => r.ledger == .reputation && r.action == "scores_updated" &&
      r.account == a) = [] := List.filter_eq_nil_iff.mpr fun r hr => by simp [h r hr]
  rw [lastScore, lastScore, List.filter_append, hnil, List.append_nil]

theorem lastScore_concat (r : Record) :
    lastScore a (rs ++ [r]) = if r.ledger == .reputation && r.action == "scores_updated" &&
      r.account == a then r.value else lastScore a rs := by
  unfold lastScore
  split
  · rename_i hr
    simp [List.filter_append, hr]
  · rename_i hr
    simp [List.filter_append, hr]

end Audit

namespace Ledger.Registry

variable {α : Type} {r r' : Registry α} {id id' : AccountId} {x : α}

/-- An account's figure in a registry: `f` of its record, or zero when it has none. -/
def figure (f : α → Nat) (r : Registry α) (id : AccountId) : Nat := ((r.find? id).map f).getD 0

theorem figure_of_find? (f : α → Nat) (h : r.find? id = some x) : r.figure f id = f x := by
  simp [figure, h]

theorem find?_eq_none (h : id ∉ r.records.map Prod.fst) : r.find? id = none := by
  unfold find?
  rw [Option.map_eq_none_iff, List.find?_eq_none]
  intro p hp hid
  exact h (List.mem_map.mpr ⟨p, hp, by simpa using hid⟩)

/-- Registering a record that counts zero changes no account's figure. -/
theorem figure_register (f : α → Nat) (h : r.register id x = .ok r') (hx : f x = 0)
    (id' : AccountId) : r'.figure f id' = r.figure f id' := by
  obtain ⟨hnew, hrec, -⟩ := register_ok h
  by_cases hid : id' = id
  · subst hid
    have hself : r'.find? id' = some x := by
      unfold find?
      rw [hrec, List.find?_append, show r.records.find? (·.1 == id') = none from by
        simpa [find?] using find?_eq_none hnew]
      simp
    rw [figure_of_find? f hself, figure, find?_eq_none hnew, hx]
    rfl
  · unfold figure find?
    rw [hrec, List.find?_append]
    cases hfind : r.records.find? (·.1 == id') with
    | some p => rfl
    | none => simp [Ne.symm hid]

theorem figure_put_self (f : α → Nat) (h : r.put id x = .ok r') : r'.figure f id = f x :=
  figure_of_find? f (find?_put_self h)

theorem figure_put_ne (f : α → Nat) (h : r.put id x = .ok r') (hne : id' ≠ id) :
    r'.figure f id' = r.figure f id' := by
  simp only [figure, find?_put_ne h hne]

/-- Putting a record sets its account's figure and keeps every other account's. -/
theorem figure_put (f : α → Nat) (h : r.put id x = .ok r') (id' : AccountId) :
    r'.figure f id' = if id' = id then f x else r.figure f id' := by
  split
  · next hid =>
    rw [hid]
    exact figure_put_self f h
  · next hne => exact figure_put_ne f h hne

end Ledger.Registry

/-- A campus whose services publish at once to the journal: they are audited, the audit queue
has no capacity, and no fault is armed at the journal's store. -/
structure Campus.Publishing (c : Campus) : Prop where
  audited : c.wiring.audited = true
  sync : c.outbox.capacity = 0
  store : c.faults.countOf "audit.Append" = 0

namespace Act

variable {α β : Type} {c c' : Campus}

def Frame.journal : Frame where
  rel c c' := c'.journal = c.journal
  refl _ := rfl
  trans h₁ h₂ := h₂.trans h₁

theorem Frame.journal_relays : Frame.journal.Relays where
  tripped _ _ := rfl
  metrics _ _ := rfl
  streamed _ _ := rfl
  hub _ _ := rfl

theorem Frame.journal_steps : Frame.journal.Steps where
  tripped _ _ := rfl
  metrics _ _ := rfl
  issued _ _ := rfl
  bank _ _ := rfl
  reputation _ _ := rfl
  staking _ _ := rfl

theorem Frame.quiet_journal (h : Frame.quiet.rel c c') : c'.journal = c.journal :=
  congrArg Campus.Core.journal h

/-- The wiring and the capacity of the audit queue stay, and no call site is armed that was
not. -/
def Frame.wired : Frame where
  rel c c' := c'.wiring = c.wiring ∧ c'.outbox.capacity = c.outbox.capacity ∧
    Frame.steady.rel c c'
  refl c := ⟨rfl, rfl, Frame.steady.refl c⟩
  trans h₁ h₂ := ⟨h₂.1.trans h₁.1, h₂.2.1.trans h₁.2.1, Frame.steady.trans h₁.2.2 h₂.2.2⟩

theorem accept_capacity (o : Audit.Outbox) (e : Audit.Event) :
    (o.accept e).2.capacity = o.capacity := by
  unfold Audit.Outbox.accept
  split_ifs <;> rfl

theorem Frame.wired_untouched : Frame.wired.Untouched where
  tripped c site := ⟨rfl, rfl, Frame.steady_untouched.tripped c site⟩
  metrics c m := ⟨rfl, rfl, Frame.steady_untouched.metrics c m⟩
  streamed c s := ⟨rfl, rfl, Frame.steady_untouched.streamed c s⟩
  hub c h := ⟨rfl, rfl, Frame.steady_untouched.hub c h⟩
  issued c n := ⟨rfl, rfl, Frame.steady_untouched.issued c n⟩
  bank c b := ⟨rfl, rfl, Frame.steady_untouched.bank c b⟩
  reputation c b := ⟨rfl, rfl, Frame.steady_untouched.reputation c b⟩
  staking c b := ⟨rfl, rfl, Frame.steady_untouched.staking c b⟩
  journal c j := ⟨rfl, rfl, Frame.steady_untouched.journal c j⟩
  outbox c e := ⟨rfl, accept_capacity c.outbox e, Frame.steady_untouched.outbox c e⟩
  dropped c n := ⟨rfl, rfl, Frame.steady_untouched.dropped c n⟩

end Act

theorem Campus.Publishing.wired (hc : c.Publishing) (h : Frame.wired.rel c c') :
    c'.Publishing where
  audited := by rw [h.1]; exact hc.audited
  sync := by rw [h.2.1]; exact hc.sync
  store := h.2.2.2 _ hc.store

namespace Act

variable {α β : Type} {c c' : Campus}

/-- Without a queue, every event is delivered at once. -/
theorem accept_sync {o : Audit.Outbox} (e : Audit.Event) (h : o.capacity = 0) :
    o.accept e = (.deliver, o) := by
  simp [Audit.Outbox.accept, Audit.Outbox.queued, h]

/-- With no fault armed at the store, storing an event appends it to the journal. -/
theorem write_stores (e : Audit.Event) (hc : c.faults.countOf "audit.Append" = 0) :
    ∃ c', (write e).exec c = (.ok (), c') ∧ c'.journal = c.journal.append e := by
  unfold write
  rw [exec_bind, exec_tripped, Faults.trip_of_countOf_zero hc]
  simp only [Bool.false_eq_true, ↓reduceIte]
  rw [exec_bind, exec_modify]
  obtain ⟨u, c', hd⟩ := exec_ok_of_raises (deliver_raises e) _
  refine ⟨c', hd, ?_⟩
  have hj := within_relayed Frame.journal_relays e
    { c with faults := c.faults, journal := c.journal.append e }
  rw [hd] at hj
  exact hj

/-- On a campus that publishes at once, publishing an event stores it, stamped, at the end of
the journal. -/
theorem emit_stores (ctx : Context) (e : Audit.Event) (hc : c.Publishing) :
    ∃ c', (emit ctx e).exec c = (.ok (), c') ∧
      c'.journal.records = c.journal.records ++ [e.record] := by
  unfold emit
  rw [exec_bind, exec_get]
  simp only [hc.audited, Bool.not_true, Bool.false_eq_true, ↓reduceIte]
  rw [exec_bind]
  simp only [nextUuid, exec_modifyGet]
  rw [exec_bind, exec_get]
  dsimp only
  rw [accept_sync _ hc.sync]
  dsimp only
  rw [exec_bind, exec_modify]
  dsimp only
  obtain ⟨c', hw, hj⟩ := write_stores (c := { c with issued := c.issued + 1 }) _ hc.store
  exact ⟨c', hw, by rw [hj, Audit.Journal.records_append]; rfl⟩

theorem report_stores (g : Metrics.Registry → Metrics.Registry) (ctx : Context)
    (e : Audit.Event) (a : α) (hc : c.Publishing) :
    ∃ c', (do meter g; emit ctx e; pure a : Act α).exec c = (.ok a, c') ∧
      c'.journal.records = c.journal.records ++ [e.record] := by
  have hm : (meter g).exec c = (.ok (), ((meter g).exec c).2) := rfl
  have hj : ((meter g).exec c).2.journal = c.journal :=
    within_meter Frame.journal_steps.toPasses g c
  have hc' : ((meter g).exec c).2.Publishing :=
    hc.wired (within_meter Frame.wired_untouched.toPasses g c)
  obtain ⟨c', he, hr⟩ := emit_stores ctx e hc'
  exact ⟨c', by rw [exec_bind, hm]; dsimp only; rw [exec_bind, he]; rfl, by rw [hr, hj]⟩

theorem emit_pure_stores (ctx : Context) (e : Audit.Event) (a : α) (hc : c.Publishing) :
    ∃ c', (do emit ctx e; pure a : Act α).exec c = (.ok a, c') ∧
      c'.journal.records = c.journal.records ++ [e.record] := by
  obtain ⟨c', he, hr⟩ := emit_stores ctx e hc
  exact ⟨c', by rw [exec_bind, he]; rfl, hr⟩

/-- How a call of the services ended on a campus `c` that publishes at once, with outcome and
campus `y`: it failed and left everything the services own as it was; or its transaction `x`
succeeded with `a`, reaching `c₁`, the call returned `f a` and kept the books of `c₁`, and the
journal gained the one record `r (f a)`. -/
def Published (x : Act α) (f : α → β) (r : β → Audit.Record) (c : Campus)
    (y : Except Failure β × Campus) : Prop :=
  ((∃ e, y.1 = .error e) ∧ Frame.quiet.rel c y.2) ∨
    ∃ a c₁, x.exec c = (.ok a, c₁) ∧ y.1 = .ok (f a) ∧ Frame.books.rel c₁ y.2 ∧
      y.2.journal.records = c.journal.records ++ [r (f a)]

/-- The records an act run on `c` publishes when it succeeds: `r` of its result. -/
def trail (x : Act α) (r : α → Audit.Record) (c : Campus) : List Audit.Record :=
  ((x.exec c).1.toOption.map r).toList

theorem Published.records {x : Act α} {f : α → β} {r : β → Audit.Record}
    {y : Except Failure β × Campus} (h : Published x f r c y) :
    y.2.journal.records = c.journal.records ++ (y.1.toOption.map r).toList := by
  rcases h with ⟨⟨e, he⟩, hq⟩ | ⟨a, c₁, -, hy, -, hj⟩
  · rw [he, Frame.quiet_journal hq]
    simp [Except.toOption]
  · rw [hy, hj]
    rfl

theorem service_published {l o : String} {x : Act α} {post : α → Act β} {f : α → β}
    {r : β → Audit.Record} (hx : Atomic x) (hxj : Within Frame.journal x)
    (hxw : Within Frame.wired x) (hpost : ∀ a, Within .books (post a))
    (hpub : ∀ a c, c.Publishing → ∃ c', (post a).exec c = (.ok (f a), c') ∧
      c'.journal.records = c.journal.records ++ [r (f a)])
    (hc : c.Publishing) : Published x f r c ((instrumented l o x >>= post).exec c) := by
  rw [exec_bind]
  rcases hi : (instrumented l o x).exec c with ⟨e | a, c₁⟩
  · obtain ⟨c₂, hx₂, hq⟩ := instrumented_error hi
    exact Or.inl ⟨⟨e, rfl⟩, Frame.quiet.trans (hx c e c₂ hx₂) hq⟩
  · obtain ⟨c₂, hx₂, hq⟩ := instrumented_ok hi
    -- the transaction and the count of its outcome keep the journal and the wiring
    have hj : c₁.journal = c.journal := by
      have := within_instrumented (l := l) (o := o) Frame.journal_steps.toPasses hxj c
      rwa [hi] at this
    have hc₁ : c₁.Publishing := by
      have := within_instrumented (l := l) (o := o) Frame.wired_untouched.toPasses hxw c
      rw [hi] at this
      exact hc.wired this
    obtain ⟨c₃, hp, hr⟩ := hpub a c₁ hc₁
    dsimp only
    rw [hp]
    refine Or.inr ⟨a, c₂, hx₂, rfl, ?_, by rw [hr, hj]⟩
    have := Frame.books.trans (Frame.quiet_books hq) (hpost a c₁)
    rwa [hp] at this

theorem Published.mono {x x' : Act α} {f : α → β} {r : β → Audit.Record}
    {y : Except Failure β × Campus} (h : Published x f r c y)
    (hx : ∀ a c₁, x.exec c = (.ok a, c₁) → x'.exec c = (.ok a, c₁)) : Published x' f r c y := by
  rcases h with he | ⟨a, c₁, hx₁, hy, hb, hj⟩
  · exact Or.inl he
  · exact Or.inr ⟨a, c₁, hx a c₁ hx₁, hy, hb, hj⟩

theorem next_drop (x : Act α) (c : Campus) : ((x >>= fun _ => pure ()).exec c).2 = (x.exec c).2 := by
  rw [exec_drop]

end Act

namespace Staking

variable {c : Campus}

theorem register_published (ctx : Context) (caller : AccountId) (hc : c.Publishing) :
    Published (stakingTx ctx (Tx.register ctx caller)) Prod.fst
      (fun _ => { ledger := .staking, action := "account_registered", account := caller })
      c ((Staking.register ctx caller).exec c) := by
  unfold Staking.register
  apply Published.mono
  · refine service_published ?_ ?_ ?_ (fun _ => books_report _ _ _ _)
      (fun _ _ hc => report_stores _ _ _ _ hc) hc
    · split
      · exact atomic_bind (within_throw _) fun _ => atomic_stakingTx ctx (atomic_registerTx ctx caller)
      · exact atomic_stakingTx ctx (atomic_registerTx ctx caller)
    · split
      · exact within_bind (within_throw _) fun _ =>
          within_stakingTx Frame.journal_steps ctx (within_registerTx Frame.journal_steps ctx caller)
      · exact within_stakingTx Frame.journal_steps ctx (within_registerTx Frame.journal_steps ctx caller)
    · have hF := Frame.wired_untouched.toSteps
      split
      · exact within_bind (within_throw _) fun _ =>
          within_stakingTx hF ctx (within_registerTx hF ctx caller)
      · exact within_stakingTx hF ctx (within_registerTx hF ctx caller)
  · intro a c₁ h
    split at h
    · simp at h
    · exact h

theorem launch_published (ctx : Context) (caller : AccountId) (asset : AssetId) (threshold : Nat)
    (hc : c.Publishing) :
    Published (stakingTx ctx (Tx.launch caller asset threshold)) id
      (fun _ => { ledger := .staking, action := "ledger_initialized", actor := caller,
                  value := threshold })
      c ((Staking.launch ctx caller asset threshold).exec c) :=
  service_published (atomic_stakingTx ctx (atomic_launchTx caller asset threshold))
    (within_stakingTx Frame.journal_steps ctx (within_launchTx Frame.journal_steps caller asset threshold))
    (within_stakingTx Frame.wired_untouched.toSteps ctx
      (within_launchTx Frame.wired_untouched.toSteps caller asset threshold))
    (fun _ => within_bind (books_emit _ _) fun _ => within_pure _)
    (fun _ _ hc => emit_pure_stores _ _ _ hc) hc

theorem stake_published (ctx : Context) (caller : AccountId) (d : Transfer) (hc : c.Publishing) :
    Published (stakingTx ctx (Tx.stake ctx caller d)) Prod.fst
      (fun v => { ledger := .staking, action := "staked", account := caller, amount := d.amount,
                  value := v })
      c ((Staking.stake ctx caller d).exec c) :=
  service_published (atomic_stakingTx ctx (atomic_stakeTx ctx caller d))
    (within_stakingTx Frame.journal_steps ctx (within_stakeTx Frame.journal_steps ctx caller d))
    (within_stakingTx Frame.wired_untouched.toSteps ctx
      (within_stakeTx Frame.wired_untouched.toSteps ctx caller d))
    (fun _ => books_report _ _ _ _) (fun _ _ hc => report_stores _ _ _ _ hc) hc

theorem withdraw_published (ctx : Context) (caller : AccountId) (amount : Nat)
    (hc : c.Publishing) :
    Published (stakingTx ctx (Tx.withdraw ctx caller amount)) Prod.fst
      (fun v => { ledger := .staking, action := "withdrawn", account := caller, amount := amount,
                  value := v })
      c ((Staking.withdraw ctx caller amount).exec c) :=
  service_published (atomic_stakingTx ctx (atomic_withdrawTx ctx caller amount))
    (within_stakingTx Frame.journal_steps ctx (within_withdrawTx Frame.journal_steps ctx caller amount))
    (within_stakingTx Frame.wired_untouched.toSteps ctx
      (within_withdrawTx Frame.wired_untouched.toSteps ctx caller amount))
    (fun _ => books_report _ _ _ _) (fun _ _ hc => report_stores _ _ _ _ hc) hc

end Staking

namespace Reputation

variable {c : Campus}

theorem register_published (ctx : Context) (caller : AccountId) (hc : c.Publishing) :
    Published (reputationTx ctx (Tx.register ctx caller)) Prod.fst
      (fun _ => { ledger := .reputation, action := "account_registered", account := caller })
      c ((Reputation.register ctx caller).exec c) := by
  unfold Reputation.register
  apply Published.mono
  · refine service_published ?_ ?_ ?_ (fun _ => books_report _ _ _ _)
      (fun _ _ hc => report_stores _ _ _ _ hc) hc
    · split
      · exact atomic_bind (within_throw _) fun _ =>
          atomic_reputationTx ctx (atomic_registerTx ctx caller)
      · exact atomic_reputationTx ctx (atomic_registerTx ctx caller)
    · split
      · exact within_bind (within_throw _) fun _ =>
          within_reputationTx Frame.journal_steps ctx (within_registerTx Frame.journal_steps ctx caller)
      · exact within_reputationTx Frame.journal_steps ctx
          (within_registerTx Frame.journal_steps ctx caller)
    · have hF := Frame.wired_untouched.toSteps
      split
      · exact within_bind (within_throw _) fun _ =>
          within_reputationTx hF ctx (within_registerTx hF ctx caller)
      · exact within_reputationTx hF ctx (within_registerTx hF ctx caller)
  · intro a c₁ h
    split at h
    · simp at h
    · exact h

theorem launch_published (ctx : Context) (caller : AccountId) (weights : Scores)
    (hc : c.Publishing) :
    Published (reputationTx ctx (Tx.launch caller weights)) id
      (fun _ => { ledger := .reputation, action := "ledger_initialized", actor := caller })
      c ((Reputation.launch ctx caller weights).exec c) :=
  service_published (atomic_reputationTx ctx (atomic_launchTx caller weights))
    (within_reputationTx Frame.journal_steps ctx (within_launchTx Frame.journal_steps caller weights))
    (within_reputationTx Frame.wired_untouched.toSteps ctx
      (within_launchTx Frame.wired_untouched.toSteps caller weights))
    (fun _ => within_bind (books_emit _ _) fun _ => within_pure _)
    (fun _ _ hc => emit_pure_stores _ _ _ hc) hc

theorem update_published (ctx : Context) (caller account : AccountId) (delta : Scores)
    (hc : c.Publishing) :
    Published (reputationTx ctx (Tx.update ctx caller account delta)) id
      (fun v => { ledger := .reputation, action := "scores_updated", account := account,
                  actor := caller, value := v })
      c ((updateScores ctx caller account delta).exec c) :=
  service_published (atomic_reputationTx ctx (atomic_updateTx ctx caller account delta))
    (within_reputationTx Frame.journal_steps ctx
      (within_updateTx Frame.journal_steps ctx caller account delta))
    (within_reputationTx Frame.wired_untouched.toSteps ctx
      (within_updateTx Frame.wired_untouched.toSteps ctx caller account delta))
    (fun _ => within_bind (books_emit _ _) fun _ => within_pure _)
    (fun _ _ hc => emit_pure_stores _ _ _ hc) hc

end Reputation

/-- The records a call publishes: one for a registration, a launch, a score update, a stake or
a withdrawal that succeeds, with the ledger, the action, the account, the actor, the amount and,
as value, what it returned (the new composite or staked balance); none for a call that fails,
a read or a bank call. -/
def Call.trail (k : Call) (c : Campus) : List Audit.Record :=
  match k with
  | .staking (.register ctx caller) => Act.trail (Staking.register ctx caller)
      (fun _ => { ledger := .staking, action := "account_registered", account := caller }) c
  | .staking (.launch ctx caller asset threshold) =>
    Act.trail (Staking.launch ctx caller asset threshold)
      (fun _ => { ledger := .staking, action := "ledger_initialized", actor := caller,
                  value := threshold }) c
  | .staking (.stake ctx caller d) => Act.trail (Staking.stake ctx caller d)
      (fun v => { ledger := .staking, action := "staked", account := caller, amount := d.amount,
                  value := v }) c
  | .staking (.withdraw ctx caller amount) => Act.trail (Staking.withdraw ctx caller amount)
      (fun v => { ledger := .staking, action := "withdrawn", account := caller, amount := amount,
                  value := v }) c
  | .reputation (.register ctx caller) => Act.trail (Reputation.register ctx caller)
      (fun _ => { ledger := .reputation, action := "account_registered", account := caller }) c
  | .reputation (.launch ctx caller weights) => Act.trail (Reputation.launch ctx caller weights)
      (fun _ => { ledger := .reputation, action := "ledger_initialized", actor := caller }) c
  | .reputation (.update ctx caller account delta) =>
    Act.trail (Reputation.updateScores ctx caller account delta)
      (fun v => { ledger := .reputation, action := "scores_updated", account := account,
                  actor := caller, value := v }) c
  | .read _ => []
  | .bank _ => []

/-- The records a run of calls publishes, in call order. -/
def Campus.trail (c : Campus) : List Call → List Audit.Record
  | [] => []
  | k :: calls => k.trail c ++ (k.next c).trail calls

namespace Act

variable {α β : Type} {c : Campus}

theorem Published.records_next {x : Act α} {y : Act β} {f : α → β} {r : β → Audit.Record}
    (h : Published x f r c (y.exec c)) :
    ((y >>= fun _ => pure ()).exec c).2.journal.records = c.journal.records ++ trail y r c := by
  rw [next_drop]
  exact h.records

end Act

/-- On a campus that publishes at once, a call adds its trail to the journal. -/
theorem Call.records_next (k : Call) {c : Campus} (hc : c.Publishing) :
    (k.next c).journal.records = c.journal.records ++ k.trail c := by
  cases k with
  | staking o =>
    cases o with
    | register ctx caller => exact (Staking.register_published ctx caller hc).records_next
    | launch ctx caller asset threshold =>
      exact (Staking.launch_published ctx caller asset threshold hc).records_next
    | stake ctx caller d => exact (Staking.stake_published ctx caller d hc).records_next
    | withdraw ctx caller amount =>
      exact (Staking.withdraw_published ctx caller amount hc).records_next
  | reputation o =>
    cases o with
    | register ctx caller => exact (Reputation.register_published ctx caller hc).records_next
    | launch ctx caller weights =>
      exact (Reputation.launch_published ctx caller weights hc).records_next
    | update ctx caller account delta =>
      exact (Reputation.update_published ctx caller account delta hc).records_next
  | read o =>
    show (o.act.exec c).2.journal.records = c.journal.records ++ []
    rw [Frame.quiet_journal (o.quiet c), List.append_nil]
  | bank o =>
    show (o.act.exec c).2.journal.records = c.journal.records ++ []
    rw [show (o.act.exec c).2.journal = c.journal from o.within Frame.journal_steps c,
      List.append_nil]

/-- On a campus that publishes at once, every run of calls adds its trail to the journal. -/
theorem Campus.records_after {c : Campus} (hc : c.Publishing) (calls : List Call) :
    (c.after calls).journal.records = c.journal.records ++ c.trail calls := by
  induction calls generalizing c with
  | nil => simp [Campus.trail]
  | cons k calls ih =>
    rw [Campus.after_cons, ih (c := k.next c) (hc.wired (k.within Frame.wired_untouched c)),
      k.records_next hc,
      Campus.trail, List.append_assoc]

/-- The records `rs` replay the books of `c`: each account's staked balance, with its
withdrawals in `rs` added, is what its stakes in `rs` add up to, and its composite is the value
of its last score update in `rs`. -/
structure Replays (rs : List Audit.Record) (c : Campus) : Prop where
  staked : ∀ a, c.staking.accounts.figure (·.staked) a + Audit.moved "withdrawn" a rs =
    Audit.moved "staked" a rs
  composite : ∀ a, c.reputation.accounts.figure (·.composite) a = Audit.lastScore a rs

namespace Replays

variable {rs t : List Audit.Record} {c c' : Campus}

theorem of_ledgers (h : Replays rs c) (hrep : c'.reputation = c.reputation)
    (hst : c'.staking = c.staking) : Replays rs c' where
  staked a := by rw [hst]; exact h.staked a
  composite a := by rw [hrep]; exact h.composite a

/-- Records of the staking ledger that move the staked balances as the books do keep the
replay. -/
theorem staking_step (h : Replays rs c) (hrep : c'.reputation = c.reputation)
    (ht : ∀ r ∈ t, r.ledger = .staking)
    (hs : ∀ a, c'.staking.accounts.figure (·.staked) a + Audit.moved "withdrawn" a t =
      c.staking.accounts.figure (·.staked) a + Audit.moved "staked" a t) :
    Replays (rs ++ t) c' where
  staked a := by
    have h₁ := h.staked a
    have h₂ := hs a
    simp only [Audit.moved_append]
    omega
  composite a := by
    rw [hrep, Audit.lastScore_of_staking ht]
    exact h.composite a

/-- Records of the reputation ledger whose last score updates are the composites of the books
keep the replay. -/
theorem reputation_step (h : Replays rs c) (hst : c'.staking = c.staking)
    (ht : ∀ r ∈ t, r.ledger = .reputation)
    (hr : ∀ a, c'.reputation.accounts.figure (·.composite) a = Audit.lastScore a (rs ++ t)) :
    Replays (rs ++ t) c' where
  staked a := by
    rw [hst, Audit.moved_append, Audit.moved_append, Audit.moved_of_reputation ht,
      Audit.moved_of_reputation ht]
    exact h.staked a
  composite := hr

end Replays

namespace Act

variable {α β : Type} {c : Campus} {rs : List Audit.Record}

/-- A call that failed keeps the replay; one whose transaction succeeded keeps it when its
record, added to the replay, is what the books after it show. -/
theorem Published.replays {x : Act α} {y : Act β} {f : α → β} {r : β → Audit.Record}
    (hp : Published x f r c (y.exec c)) (h : Replays rs c)
    (hok : ∀ a c₁, x.exec c = (.ok a, c₁) → Frame.books.rel c₁ (y.exec c).2 →
      Replays (rs ++ [r (f a)]) (y.exec c).2) :
    Replays (rs ++ trail y r c) ((y >>= fun _ => pure ()).exec c).2 := by
  rw [next_drop]
  rcases hp with ⟨⟨e, he⟩, hq⟩ | ⟨a, c₁, hx, hy, hb, -⟩
  · rw [trail, he]
    show Replays (rs ++ []) _
    rw [List.append_nil]
    exact h.of_ledgers (Frame.quiet_books hq).1 (Frame.quiet_books hq).2.1
  · rw [trail, hy]
    exact hok a c₁ hx hb

end Act

namespace Staking

variable {c : Campus} {rs : List Audit.Record}

open Ledger.Registry in
/-- A staking operation on a campus that publishes at once keeps the journal replaying the
books: a registration adds a record with nothing staked, and a stake or a withdrawal moves the
caller's balance by the amount its record carries. -/
theorem Op.replays (k : Op) (hc : c.Publishing) (hb : Balanced c.staking) (h : Replays rs c) :
    Replays (rs ++ (Call.staking k).trail c) ((Call.staking k).next c) := by
  cases k with
  | register ctx caller =>
    refine (register_published ctx caller hc).replays h fun p c₁ hx hbk => ?_
    obtain ⟨d, c₂, hbody, rfl⟩ := stakingTx_ok hx
    obtain ⟨hcreate, rfl, -⟩ := registerTx_ok hbody
    obtain ⟨reg, hreg, rfl⟩ := Book.createAccount_ok hcreate
    refine h.staking_step hbk.1 (by simp) fun a => ?_
    rw [hbk.2.1]
    simp [figure_register (·.staked) hreg rfl a, Audit.moved]
  | launch ctx caller asset threshold =>
    refine (launch_published ctx caller asset threshold hc).replays h fun cfg c₁ hx hbk => ?_
    obtain ⟨d, c₂, hbody, rfl⟩ := stakingTx_ok hx
    obtain ⟨-, -, -, hsave, bank, -, rfl⟩ := launchTx_ok hbody
    obtain rfl := Book.saveConfig_ok hsave
    refine h.staking_step hbk.1 (by simp) fun a => ?_
    rw [hbk.2.1]
    simp [Audit.moved]
  | stake ctx caller t =>
    refine (stake_published ctx caller t hc).replays h fun p c₁ hx hbk => ?_
    obtain ⟨d, c₂, hbody, rfl⟩ := stakingTx_ok hx
    obtain ⟨a, a', cfg', b₂, b₃, -, -, hfind, -, hrec, hst, hsave, hconf, hc₂, -⟩ :=
      stakeTx_ok hbody
    subst c₂
    obtain ⟨-, rfl⟩ := Book.recordDeposit_ok hrec
    obtain ⟨reg, hput, rfl⟩ := Book.saveAccount_ok hsave
    obtain rfl := Book.saveConfig_ok hconf
    obtain ⟨rfl, -, -, -⟩ := Account.stake_ok hst
    have hid : a.id = caller := hb.keyed.key_eq _ (Book.findAccount_ok hfind)
    have h₀ : c.staking.accounts.figure (·.staked) caller = a.staked :=
      figure_of_find? _ (find?_of_lookup hfind)
    refine h.staking_step hbk.1 (by simp) fun a₀ => ?_
    rw [hbk.2.1, figure_put _ hput, hid]
    by_cases ha : a₀ = caller
    · simp [ha, h₀, Audit.moved]
    · simp [ha, Audit.moved, Ne.symm ha]
  | withdraw ctx caller amount =>
    refine (withdraw_published ctx caller amount hc).replays h fun p c₁ hx hbk => ?_
    obtain ⟨d, c₂, hbody, rfl⟩ := stakingTx_ok hx
    obtain ⟨a, b₁, bank, t, -, hfind, hcan, hsave, hconf, -, rfl, -⟩ := withdrawTx_ok hbody
    obtain ⟨reg, hput, rfl⟩ := Book.saveAccount_ok hsave
    obtain rfl := Book.saveConfig_ok hconf
    obtain ⟨-, hcover⟩ := Account.canWithdraw_ok hcan
    simp only [Account.withdraw_fst] at hput
    have hid : a.id = caller := hb.keyed.key_eq _ (Book.findAccount_ok hfind)
    have h₀ : c.staking.accounts.figure (·.staked) caller = a.staked :=
      figure_of_find? _ (find?_of_lookup hfind)
    refine h.staking_step hbk.1 (by simp) fun a₀ => ?_
    rw [hbk.2.1, figure_put _ hput, hid]
    by_cases ha : a₀ = caller
    · simp [ha, h₀, Audit.moved]
      omega
    · simp [ha, Audit.moved, Ne.symm ha]

end Staking

namespace Reputation

variable {c : Campus} {rs : List Audit.Record}

open Ledger.Registry in
/-- A reputation operation on a campus whose records are filed under their own accounts keeps
the journal replaying the books: a registration adds a record with no composite, and a score
update sets the account's composite to the value its record carries. -/
theorem Op.replays (k : Op) (hc : c.Publishing) (hk : c.reputation.accounts.Keyed Account.id)
    (h : Replays rs c) : Replays (rs ++ (Call.reputation k).trail c) ((Call.reputation k).next c) := by
  cases k with
  | register ctx caller =>
    refine (register_published ctx caller hc).replays h fun p c₁ hx hbk => ?_
    obtain ⟨d, c₂, hbody, rfl⟩ := reputationTx_ok hx
    obtain ⟨hcreate, rfl, -⟩ := registerTx_ok hbody
    obtain ⟨reg, hreg, rfl⟩ := Book.createAccount_ok hcreate
    refine h.reputation_step hbk.2.1 (by simp) fun a => ?_
    rw [hbk.1, Audit.lastScore_concat]
    simp [figure_register (·.composite) hreg rfl a, h.composite a]
  | launch ctx caller weights =>
    refine (launch_published ctx caller weights hc).replays h fun cfg c₁ hx hbk => ?_
    obtain ⟨d, c₂, hbody, rfl⟩ := reputationTx_ok hx
    obtain ⟨-, -, hsave, rfl⟩ := launchTx_ok hbody
    obtain rfl := Book.saveConfig_ok hsave
    refine h.reputation_step hbk.2.1 (by simp) fun a => ?_
    rw [hbk.1, Audit.lastScore_concat]
    simp [h.composite a]
  | update ctx caller account delta =>
    refine (update_published ctx caller account delta hc).replays h fun v c₁ hx hbk => ?_
    obtain ⟨d, c₂, hbody, rfl⟩ := reputationTx_ok hx
    obtain ⟨a, a', -, hfind, hd, hsave, hc₂, rfl⟩ := updateTx_ok hbody
    subst c₂
    obtain ⟨reg, hput, rfl⟩ := Book.saveAccount_ok hsave
    -- the record found under the account names it, and the update keeps its name
    have hid : a'.id = account :=
      (Account.applyDelta_ok hd).1.trans (hk.key_eq _ (lookup_ok hfind))
    refine h.reputation_step hbk.2.1 (by simp) fun a₀ => ?_
    rw [hbk.1, Audit.lastScore_concat, figure_put _ hput, hid]
    by_cases ha : a₀ = account
    · simp [ha]
    · simp [ha, Ne.symm ha, h.composite a₀]

end Reputation

/-- Every call on a campus that publishes at once keeps the journal replaying the books. -/
theorem Call.replays (k : Call) {c : Campus} {rs : List Audit.Record} (hc : c.Publishing)
    (hb : Staking.Balanced c.staking) (hk : Registered c) (h : Replays rs c) :
    Replays (rs ++ k.trail c) (k.next c) := by
  cases k with
  | staking o => exact o.replays hc hb h
  | reputation o => exact o.replays hc hk.keyed h
  | read o =>
    show Replays (rs ++ []) (o.act.exec c).2
    rw [List.append_nil]
    exact h.of_ledgers (Frame.quiet_books (o.quiet c)).1 (Frame.quiet_books (o.quiet c)).2.1
  | bank o =>
    show Replays (rs ++ []) (o.act.exec c).2
    rw [List.append_nil]
    exact h.of_ledgers (o.ledgers c).1 (o.ledgers c).2.1

/-- Along every run from a campus that publishes at once, with balanced staking books and
registered accounts, the journal keeps replaying the books. -/
theorem Campus.replays_after {c : Campus} {rs : List Audit.Record} (hc : c.Publishing)
    (hb : Staking.Balanced c.staking) (hk : Registered c) (h : Replays rs c) (calls : List Call) :
    Replays (rs ++ c.trail calls) (c.after calls) := by
  induction calls generalizing c rs with
  | nil => simpa [Campus.trail] using h
  | cons k calls ih =>
    rw [Campus.after_cons, Campus.trail, ← List.append_assoc]
    exact ih (c := k.next c) (hc.wired (k.within Frame.wired_untouched c)) (k.keeps_balanced hb)
      (k.keeps_registered hk) (k.replays hc hb hk h)

/-- Fresh books are replayed by no records. -/
theorem replays_fresh (controller escrow : AccountId) {c : Campus}
    (hs : c.staking = Staking.Book.fresh controller escrow)
    (hr : c.reputation = Reputation.Book.fresh controller) : Replays [] c where
  staked a := by
    simp [hs, Staking.Book.fresh, Ledger.Registry.figure, Ledger.Registry.find?, Audit.moved]
  composite a := by
    simp [hr, Reputation.Book.fresh, Ledger.Registry.figure, Ledger.Registry.find?,
      Audit.lastScore]

/-- On a campus whose services publish at once, starting from fresh books and an empty
journal, after every run of calls the journal's records are exactly the trail of the run: one
record for each registration, launch, score update, stake and withdrawal that succeeded, in
call order. And the journal replays the books: each staking account's balance is the sum of
its stakes less the sum of its withdrawals in the journal, and each reputation account's
composite is the value of its last score update in the journal. -/
theorem journal_replays_the_books {controller escrow : AccountId} {c : Campus}
    (hc : c.Publishing) (hs : c.staking = Staking.Book.fresh controller escrow)
    (hr : c.reputation = Reputation.Book.fresh controller) (hj : c.journal.events = [])
    (calls : List Call) :
    let c' := c.after calls
    c'.journal.records = c.trail calls ∧
      (∀ a s, c'.staking.findAccount a = .ok s →
        (Audit.moved "staked" a c'.journal.records : ℤ) -
          Audit.moved "withdrawn" a c'.journal.records = s.staked) ∧
      (∀ a s, c'.reputation.findAccount a = .ok s →
        Audit.lastScore a c'.journal.records = s.composite) := by
  intro c'
  have hrec : c'.journal.records = c.trail calls := by
    rw [Campus.records_after hc calls, Audit.Journal.records, hj, List.map_nil, List.nil_append]
  have hR := Campus.replays_after hc (hs ▸ Staking.fresh_balanced controller escrow)
    (registered_start hs hr) (replays_fresh controller escrow hs hr) calls
  rw [List.nil_append, ← hrec] at hR
  refine ⟨hrec, fun a s hfind => ?_, fun a s hfind => ?_⟩
  · have h := hR.staked a
    rw [Ledger.Registry.figure_of_find? _ (Ledger.Registry.find?_of_lookup hfind)] at h
    omega
  · rw [← hR.composite a, Ledger.Registry.figure_of_find? _ (Ledger.Registry.find?_of_lookup hfind)]

theorem journal_replays_after_registration :
    (Campus.fresh {} 0).Publishing ∧
      (Campus.fresh {} 0).staking = Staking.Book.fresh ⟨"controller"⟩ ⟨"escrow"⟩ ∧
      (Campus.fresh {} 0).reputation = Reputation.Book.fresh ⟨"controller"⟩ ∧
      (Campus.fresh {} 0).journal.events = [] ∧
      let calls : List Call := [.staking (.register { now := ⟨0⟩ } ⟨"ann"⟩)]
      let c' := (Campus.fresh {} 0).after calls
      c'.journal.records = (Campus.fresh {} 0).trail calls ∧
        (∀ a s, c'.staking.findAccount a = .ok s →
          (Audit.moved "staked" a c'.journal.records : ℤ) -
            Audit.moved "withdrawn" a c'.journal.records = s.staked) ∧
        (∀ a s, c'.reputation.findAccount a = .ok s →
          Audit.lastScore a c'.journal.records = s.composite) :=
  ⟨⟨rfl, rfl, rfl⟩, rfl, rfl, rfl, journal_replays_the_books ⟨rfl, rfl, rfl⟩ rfl rfl rfl _⟩

end CampusLedger
