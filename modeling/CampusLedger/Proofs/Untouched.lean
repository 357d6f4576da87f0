import CampusLedger.Proofs.Outcomes
/-!
# What the services leave alone

The services write the books of both ledgers, the bank, the identifiers issued and the audit
trail with its sinks; they spend armed faults and move metrics. Nothing else: a relation
between campuses that every one of those writes keeps holds across every call a client makes,
and across every score update, whatever its outcome. `Frame.fixture` is such a relation: the
wiring, the activity claims and the shape of the audit queue stay, and no call site is armed
that was not armed before. Armed faults and activity claims keep one entry per name: writing a
name drops its entries and appends the new one.
-/

namespace CampusLedger

open Act

namespace Act

variable {α β σ : Type} {F : Frame}

/-- A frame that passing a call site and moving the metrics keep. -/
structure Frame.Passes (F : Frame) : Prop where
  tripped : ∀ (c : Campus) site, F.rel c { c with faults := (c.faults.trip site).2 }
  metrics : ∀ (c : Campus) m, F.rel c { c with metrics := m }

/-- A frame that delivering a stored event keeps: besides passing call sites and moving the
metrics, the writes of the feed and of the stream sink. -/
structure Frame.Relays (F : Frame) : Prop extends F.Passes where
  streamed : ∀ (c : Campus) s, F.rel c { c with streamed := s }
  hub : ∀ (c : Campus) h, F.rel c { c with hub := h }

/-- A frame that the steps of a transaction keep: besides passing call sites and moving the
metrics, identifiers issued, the bank's own writes and committing the books of either ledger. -/
structure Frame.Steps (F : Frame) : Prop extends F.Passes where
  issued : ∀ (c : Campus) n, F.rel c { c with issued := n }
  bank : ∀ (c : Campus) b, F.rel c { c with bank := b }
  reputation : ∀ (c : Campus) b, F.rel c { c with reputation := b }
  staking : ∀ (c : Campus) b, F.rel c { c with staking := b }

/-- A frame that every write of the services keeps: besides delivering events and the steps of
transactions, storing an event in the journal and what the audit queue does with it. -/
structure Frame.Untouched (F : Frame) : Prop extends F.Relays, F.Steps where
  journal : ∀ (c : Campus) j, F.rel c { c with journal := j }
  outbox : ∀ (c : Campus) e, F.rel c { c with outbox := (c.outbox.accept e).2 }
  dropped : ∀ (c : Campus) n, F.rel c { c with dropped := n }

section Passes

variable (hF : F.Passes)
include hF

theorem within_tripped (site : String) : Within F (tripped site) := fun c => hF.tripped c site

theorem within_faultAt (site : String) : Within F (faultAt site) :=
  within_bind (within_tripped hF site) fun hit => by
    cases hit
    · exact within_pure ()
    · exact within_throw _

theorem within_meter (g : Metrics.Registry → Metrics.Registry) : Within F (meter g) := by
  intro c
  show F.rel c (if c.wiring.metered then { c with metrics := g c.metrics } else c)
  split
  · exact hF.metrics c _
  · exact F.refl c

theorem within_instrumented {l o : String} {x : Act α} (hx : Within F x) :
    Within F (instrumented l o x) := by
  unfold instrumented observeOperation
  refine within_bind (within_tryCatch hx fun e => ?_) fun _ =>
    within_bind (within_meter hF _) fun _ => within_pure _
  exact within_bind (within_meter hF _) fun _ => within_throw _

theorem within_guarded {site : String} {f : Unit → StateT σ Act α} (hf : ∀ b, Within F (f () b))
    (b : σ) : Within F ((liftM (faultAt site) >>= f : StateT σ Act α) b) :=
  within_step_bind (within_lift (within_faultAt hF site)) (fun _ => hf) b

omit hF in
theorem within_reputationStored (r : Except RecordFault α) (b : Reputation.Book) :
    Within F ((OnReputation.stored r) b) := by
  cases r
  · exact within_throw _
  · exact within_pure _

omit hF in
theorem within_stakingStored (r : Except RecordFault α) (b : Staking.Book) :
    Within F ((OnStaking.stored r) b) := by
  cases r
  · exact within_throw _
  · exact within_pure _

omit hF in
theorem within_reputationWrite (w : Reputation.Book → Except RecordFault Reputation.Book)
    (b : Reputation.Book) :
    Within F ((get >>= fun x => OnReputation.stored (w x) >>= fun y => set y : OnReputation PUnit) b) :=
  within_step_bind within_step_get (fun _ => within_step_bind (within_reputationStored _)
    fun y b => within_step_set b y) b

omit hF in
theorem within_stakingWrite (w : Staking.Book → Except RecordFault Staking.Book) (b : Staking.Book) :
    Within F ((get >>= fun x => OnStaking.stored (w x) >>= fun y => set y : OnStaking PUnit) b) :=
  within_step_bind within_step_get (fun _ => within_step_bind (within_stakingStored _)
    fun y b => within_step_set b y) b

theorem within_repLoadConfig (b : Reputation.Book) : Within F (OnReputation.loadConfig b) :=
  within_guarded hF (fun b => within_step_bind within_step_get (fun _ _ => within_pure _) b) b

theorem within_repSaveConfig (acc : Ledger.Access) (cfg : Reputation.Config) (b : Reputation.Book) :
    Within F (OnReputation.saveConfig acc cfg b) :=
  within_guarded hF (within_reputationWrite _) b

theorem within_repCreateAccount (acc : Ledger.Access) (a : Reputation.Account)
    (b : Reputation.Book) : Within F (OnReputation.createAccount acc a b) :=
  within_guarded hF (within_reputationWrite _) b

theorem within_repSaveAccount (acc : Ledger.Access) (a : Reputation.Account)
    (b : Reputation.Book) : Within F (OnReputation.saveAccount acc a b) :=
  within_guarded hF (within_reputationWrite _) b

theorem within_repFindAccount (id : AccountId) (b : Reputation.Book) :
    Within F (OnReputation.findAccount id b) :=
  within_guarded hF (fun b => within_step_bind within_step_get
    (fun _ => within_reputationStored _) b) b

theorem within_repFindAccounts (ids : List AccountId) (b : Reputation.Book) :
    Within F (OnReputation.findAccounts ids b) :=
  within_guarded hF (fun b => within_step_bind within_step_get (fun _ _ => within_pure _) b) b

theorem within_stakeLoadConfig (b : Staking.Book) : Within F (OnStaking.loadConfig b) :=
  within_guarded hF (fun b => within_step_bind within_step_get (fun _ _ => within_pure _) b) b

theorem within_stakeSaveConfig (acc : Ledger.Access) (cfg : Staking.Config) (b : Staking.Book) :
    Within F (OnStaking.saveConfig acc cfg b) :=
  within_guarded hF (within_stakingWrite _) b

theorem within_stakeCreateAccount (acc : Ledger.Access) (a : Staking.Account) (b : Staking.Book) :
    Within F (OnStaking.createAccount acc a b) :=
  within_guarded hF (within_stakingWrite _) b

theorem within_stakeSaveAccount (acc : Ledger.Access) (a : Staking.Account) (b : Staking.Book) :
    Within F (OnStaking.saveAccount acc a b) :=
  within_guarded hF (within_stakingWrite _) b

theorem within_stakeRecordDeposit (acc : Ledger.Access) (t : Transfer) (b : Staking.Book) :
    Within F (OnStaking.recordDeposit acc t b) :=
  within_guarded hF (within_stakingWrite _) b

theorem within_stakeFindAccount (id : AccountId) (b : Staking.Book) :
    Within F (OnStaking.findAccount id b) :=
  within_guarded hF (fun b => within_step_bind within_step_get
    (fun _ => within_stakingStored _) b) b

end Passes

theorem within_relayed (hF : F.Relays) (e : Audit.Event) : Within F (deliver e) := by
  unfold deliver
  refine within_get_bind fun c => ?_
  dsimp only
  -- what follows the feed: the stream sink may record the event
  have stream : ∀ (p : Campus → Bool), Within F (get >>= fun d =>
      if p d = true then tripped "producer.Produce" >>= fun _ =>
        modify fun c => { c with streamed := c.streamed ++ [e] }
      else pure ()) := by
    intro p
    refine within_get_bind fun d => ?_
    split
    · exact within_bind (within_tripped hF.toPasses _)
        (fun _ => within_modify fun c => hF.streamed c _) d
    · exact within_pure _ d
  split
  · refine rel_bind (hF.hub c _) fun _ => ?_
    refine within_bind (within_forIn fun _ _ => ?_) fun _ => stream _
    exact within_bind (within_meter hF.toPasses _) fun _ => within_pure _
  · exact stream _ c

section Publishing

variable (hF : F.Untouched)
include hF

theorem within_stored (e : Audit.Event) : Within F (write e) := by
  unfold write
  refine within_bind (within_tripped hF.toPasses _) fun hit => ?_
  cases hit
  · exact within_bind (within_modify fun c => hF.journal c _) fun _ => within_relayed hF.toRelays e
  · exact within_pure _

theorem within_published (ctx : Context) (e : Audit.Event) : Within F (emit ctx e) := by
  unfold emit
  refine within_get_bind fun c => ?_
  split
  · exact within_pure _ c
  · refine within_bind (fun c => hF.issued c _) (fun id => within_get_bind fun d => ?_) c
    dsimp only
    refine rel_bind (hF.outbox d _) fun _ => ?_
    split
    · exact within_stored hF _
    · exact within_pure _
    · exact within_modify fun c => hF.dropped c _
    · exact within_throw _

/-- Counting an outcome, publishing its event and giving a result. -/
theorem within_reported (g : Metrics.Registry → Metrics.Registry) (ctx : Context)
    (e : Audit.Event) (a : α) : Within F (do meter g; emit ctx e; pure a) :=
  within_bind (within_meter hF.toPasses g) fun _ =>
    within_bind (within_published hF ctx e) fun _ => within_pure a

end Publishing

theorem within_internally {msg : String} {x : StateT σ Act α} (hx : ∀ b, Within F (x b))
    (b : σ) : Within F ((internally msg x : StateT σ Act α) b) :=
  within_step_tryCatch hx (fun _ _ => within_throw _) b

theorem within_accountAccess {x : StateT σ Act α} (hx : ∀ b, Within F (x b)) (b : σ) :
    Within F ((accountAccess x : StateT σ Act α) b) :=
  within_step_tryCatch hx (fun _ _ => within_throw _) b

theorem within_assetAccess {msg : String} {x : StateT σ Act α} (hx : ∀ b, Within F (x b))
    (b : σ) : Within F ((assetAccess msg x : StateT σ Act α) b) :=
  within_step_tryCatch hx (fun _ _ => within_throw _) b

theorem within_check (r : Except Failure Unit) (b : σ) :
    Within F ((check r : StateT σ Act Unit) b) := by
  cases r
  · exact within_throw _
  · exact within_pure _

theorem within_step_throw_bind (e : Failure) (f : α → StateT σ Act β) (b : σ) :
    Within F ((throw e >>= f : StateT σ Act β) b) := by
  intro c
  rw [step_bind, step_throw]
  exact F.refl c

theorem within_checkContext (ctx : Context) (what : String) : Within F (checkContext ctx what) := by
  unfold checkContext
  split
  · exact within_throw _
  · exact within_pure _

section Steps

variable (hF : F.Steps)
include hF

omit hF in
theorem within_bankResult (r : Except BankFault α) : Within F (bankResult r) := by
  cases r
  · exact within_throw _
  · exact within_pure _

theorem within_mint (asset : AssetId) (issuer : AccountId) (supply : Nat) :
    Within F (mint asset issuer supply) :=
  within_bind (within_faultAt hF.toPasses _) fun _ => within_get_bind fun c =>
    within_bind (within_bankResult _) (fun _ => within_modify fun c => hF.bank c _) c

theorem within_optIn (asset : AssetId) (holder : AccountId) : Within F (optIn asset holder) :=
  within_bind (within_faultAt hF.toPasses _) fun _ => within_get_bind fun c =>
    within_bind (within_bankResult _) (fun _ => within_modify fun c => hF.bank c _) c

theorem within_transfer (asset : AssetId) (source target : AccountId) (amount : Nat) :
    Within F (transfer asset source target amount) := by
  refine within_bind (within_faultAt hF.toPasses _) fun _ => within_get_bind fun c =>
    within_bind (within_bankResult _) (fun p => ?_) c
  obtain ⟨b, t⟩ := p
  exact within_bind (within_modify fun c => F.trans (hF.bank c b) (hF.issued _ (c.issued + 1)))
    fun _ => within_pure _

theorem within_settled (t : Transfer) : Within F (settled t) :=
  within_bind (within_faultAt hF.toPasses _) fun _ => within_get_bind fun c => within_pure _ c

theorem within_balance (asset : AssetId) (holder : AccountId) : Within F (balance asset holder) :=
  within_bind (within_faultAt hF.toPasses _) fun _ => within_get_bind fun c =>
    within_bankResult _ c

theorem within_reputationTx (ctx : Context) {body : OnReputation α}
    (hb : ∀ b, Within F (body b)) : Within F (reputationTx ctx body) := by
  unfold reputationTx
  refine within_bind (within_faultAt hF.toPasses _) fun _ =>
    within_bind (within_checkContext ctx _) fun _ => within_get_bind fun c => ?_
  exact within_bind (hb c.reputation) (fun p => within_bind
    (within_modify fun c => hF.reputation c _) fun _ => within_pure _) c

theorem within_stakingTx (ctx : Context) {body : OnStaking α} (hb : ∀ b, Within F (body b)) :
    Within F (stakingTx ctx body) := by
  unfold stakingTx
  refine within_bind (within_faultAt hF.toPasses _) fun _ =>
    within_bind (within_checkContext ctx _) fun _ => within_get_bind fun c => ?_
  exact within_bind (hb c.staking) (fun p => within_bind
    (within_modify fun c => hF.staking c _) fun _ => within_pure _) c

theorem within_reputationView (ctx : Context) {body : OnReputation α}
    (hb : ∀ b, Within F (body b)) : Within F (reputationView ctx body) := by
  unfold reputationView
  refine within_bind (within_faultAt hF.toPasses _) fun _ =>
    within_bind (within_checkContext ctx _) fun _ => within_get_bind fun c => ?_
  exact within_bind (hb c.reputation) (fun _ => within_pure _) c

theorem within_stakingView (ctx : Context) {body : OnStaking α} (hb : ∀ b, Within F (body b)) :
    Within F (stakingView ctx body) := by
  unfold stakingView
  refine within_bind (within_faultAt hF.toPasses _) fun _ =>
    within_bind (within_checkContext ctx _) fun _ => within_get_bind fun c => ?_
  exact within_bind (hb c.staking) (fun _ => within_pure _) c

end Steps

end Act

namespace Reputation

section Steps

variable {F : Frame} (hF : F.Steps)
include hF

theorem within_registerTx (ctx : Context) (caller : AccountId) (b : Book) :
    Within F (Tx.register ctx caller b) := by
  unfold Tx.register
  refine within_step_bind (within_step_tryCatch (within_repCreateAccount hF.toPasses _ _)
    fun e b => ?_) (fun _ b => ?_) b
  · split <;> exact within_throw _
  · exact within_step_bind (within_internally (within_repLoadConfig hF.toPasses))
      (fun _ _ => within_pure _) b

theorem within_launchTx (caller : AccountId) (weights : Scores) (b : Book) :
    Within F (Tx.launch caller weights b) := by
  unfold Tx.launch
  refine within_step_bind (within_internally (within_repLoadConfig hF.toPasses))
    (fun cfg b => ?_) b
  dsimp only
  cases cfg.guard.canInitialize caller with
  | error e => exact within_step_throw_bind _ _ b
  | ok u =>
    exact within_step_bind (within_internally (within_repSaveConfig hF.toPasses _ _))
      (fun _ _ => within_pure _) b

theorem within_updateTx (ctx : Context) (caller account : AccountId) (delta : Scores) (b : Book) :
    Within F (Tx.update ctx caller account delta b) := by
  unfold Tx.update
  refine within_step_bind (within_internally (within_repLoadConfig hF.toPasses))
    (fun cfg b => ?_) b
  dsimp only
  cases cfg.guard.requirePrivileged caller with
  | error e => exact within_step_throw_bind _ _ b
  | ok u =>
    refine within_step_bind (within_accountAccess (within_repFindAccount hF.toPasses _))
      (fun a b => ?_) b
    cases a.applyDelta delta cfg.weights ctx.now with
    | error e => exact within_step_throw_bind _ _ b
    | ok a' =>
      refine within_step_bind (fun _ => within_pure _) (fun a b => ?_) b
      exact within_step_bind (within_accountAccess (within_repSaveAccount hF.toPasses _ _))
        (fun _ _ => within_pure _) b

end Steps

variable {F : Frame} (hF : F.Untouched)
include hF

/-- A score update keeps every frame that the services' writes keep, whatever its outcome. -/
theorem within_updateScores (ctx : Context) (caller account : AccountId) (delta : Scores) :
    Within F (updateScores ctx caller account delta) :=
  within_bind (within_instrumented hF.toPasses (within_reputationTx hF.toSteps ctx
    (within_updateTx hF.toSteps ctx caller account delta))) fun _ =>
      within_bind (within_published hF _ _) fun _ => within_pure _

theorem Op.within (k : Op) : Within F k.act := by
  cases k with
  | register ctx caller =>
    refine within_bind ?_ fun _ => within_pure _
    unfold Reputation.register
    refine within_bind (within_instrumented hF.toPasses ?_) fun p =>
      within_reported hF _ _ _ _
    split
    · exact within_bind (within_throw _) fun _ =>
        within_reputationTx hF.toSteps ctx (within_registerTx hF.toSteps ctx caller)
    · exact within_reputationTx hF.toSteps ctx (within_registerTx hF.toSteps ctx caller)
  | launch ctx caller weights =>
    refine within_bind ?_ fun _ => within_pure _
    exact within_bind (within_instrumented hF.toPasses (within_reputationTx hF.toSteps ctx
      (within_launchTx hF.toSteps caller weights))) fun _ =>
        within_bind (within_published hF _ _) fun _ => within_pure _
  | update ctx caller account delta =>
    exact within_bind (within_updateScores hF ctx caller account delta) fun _ => within_pure _

end Reputation

namespace Staking

section Steps

variable {F : Frame} (hF : F.Steps)
include hF

theorem within_registerTx (ctx : Context) (caller : AccountId) (b : Book) :
    Within F (Tx.register ctx caller b) := by
  unfold Tx.register
  refine within_step_bind (within_step_tryCatch (within_stakeCreateAccount hF.toPasses _ _)
    fun e b => ?_) (fun _ b => ?_) b
  · split <;> exact within_throw _
  · exact within_step_bind (within_internally (within_stakeLoadConfig hF.toPasses))
      (fun _ _ => within_pure _) b

theorem within_launchTx (caller : AccountId) (asset : AssetId) (threshold : Nat) (b : Book) :
    Within F (Tx.launch caller asset threshold b) := by
  unfold Tx.launch
  refine within_step_bind (within_internally (within_stakeLoadConfig hF.toPasses))
    (fun cfg b => within_step_bind (within_check _) (fun _ b => ?_) b) b
  dsimp only
  split
  · exact within_step_throw_bind _ _ b
  · refine within_step_bind (within_internally (within_stakeSaveConfig hF.toPasses _ _))
      (fun _ b => ?_) b
    exact within_step_bind (within_assetAccess (within_lift (within_optIn hF _ _)))
      (fun _ _ => within_pure _) b

theorem within_stakeTx (ctx : Context) (caller : AccountId) (d : Transfer) (b : Book) :
    Within F (Tx.stake ctx caller d b) := by
  unfold Tx.stake
  refine within_step_bind (within_internally (within_stakeLoadConfig hF.toPasses))
    (fun cfg b => ?_) b
  refine within_step_bind (within_check _) (fun _ b => ?_) b
  refine within_step_bind (within_check _) (fun _ b => ?_) b
  refine within_step_bind (within_accountAccess (within_stakeFindAccount hF.toPasses _))
    (fun a b => ?_) b
  refine within_step_bind (within_assetAccess (within_lift (within_settled hF _)))
    (fun ok b => ?_) b
  dsimp only
  split
  · exact within_step_throw_bind _ _ b
  refine within_step_bind (within_step_tryCatch (within_stakeRecordDeposit hF.toPasses _ _)
    fun e b => ?_) (fun _ b => ?_) b
  · split <;> exact within_throw _
  cases a.stake cfg d.amount ctx.now with
  | error e => exact within_step_throw_bind _ _ b
  | ok p =>
    refine within_step_bind (fun _ => within_pure _) (fun p b => ?_) b
    refine within_step_bind (within_accountAccess (within_stakeSaveAccount hF.toPasses _ _))
      (fun _ b => ?_) b
    exact within_step_bind (within_internally (within_stakeSaveConfig hF.toPasses _ _))
      (fun _ _ => within_pure _) b

theorem within_withdrawTx (ctx : Context) (caller : AccountId) (amount : Nat) (b : Book) :
    Within F (Tx.withdraw ctx caller amount b) := by
  unfold Tx.withdraw
  refine within_step_bind (within_internally (within_stakeLoadConfig hF.toPasses))
    (fun cfg b => ?_) b
  refine within_step_bind (within_check _) (fun _ b => ?_) b
  dsimp only
  split
  · exact within_step_throw_bind _ _ b
  refine within_step_bind (within_accountAccess (within_stakeFindAccount hF.toPasses _))
    (fun a b => ?_) b
  refine within_step_bind (within_check _) (fun _ b => ?_) b
  refine within_step_bind (within_accountAccess (within_stakeSaveAccount hF.toPasses _ _))
    (fun _ b => ?_) b
  refine within_step_bind (within_internally (within_stakeSaveConfig hF.toPasses _ _))
    (fun _ b => ?_) b
  exact within_step_bind (within_assetAccess (within_lift (within_transfer hF _ _ _ _)))
    (fun _ _ => within_pure _) b

end Steps

variable {F : Frame} (hF : F.Untouched)
include hF

theorem Op.within (k : Op) : Within F k.act := by
  cases k with
  | register ctx caller =>
    refine within_bind ?_ fun _ => within_pure _
    unfold Staking.register
    refine within_bind (within_instrumented hF.toPasses ?_) fun p =>
      within_reported hF _ _ _ _
    split
    · exact within_bind (within_throw _) fun _ =>
        within_stakingTx hF.toSteps ctx (within_registerTx hF.toSteps ctx caller)
    · exact within_stakingTx hF.toSteps ctx (within_registerTx hF.toSteps ctx caller)
  | launch ctx caller asset threshold =>
    refine within_bind ?_ fun _ => within_pure _
    exact within_bind (within_instrumented hF.toPasses (within_stakingTx hF.toSteps ctx
      (within_launchTx hF.toSteps caller asset threshold))) fun _ =>
        within_bind (within_published hF _ _) fun _ => within_pure _
  | stake ctx caller d =>
    refine within_bind ?_ fun _ => within_pure _
    exact within_bind (within_instrumented hF.toPasses (within_stakingTx hF.toSteps ctx
      (within_stakeTx hF.toSteps ctx caller d))) fun _ => within_reported hF _ _ _ _
  | withdraw ctx caller amount =>
    refine within_bind ?_ fun _ => within_pure _
    exact within_bind (within_instrumented hF.toPasses (within_stakingTx hF.toSteps ctx
      (within_withdrawTx hF.toSteps ctx caller amount))) fun _ => within_reported hF _ _ _ _

end Staking

section Calls

variable {F : Frame}

theorem Read.within (hF : F.Steps) (k : Read) : Within F k.act := by
  cases k <;> refine within_bind ?_ fun _ => within_pure _
  case scores ctx account =>
    exact within_reputationView hF ctx
      (within_accountAccess (within_repFindAccount hF.toPasses _))
  case composites ctx ids =>
    unfold Reputation.composites
    split
    · exact within_pure _
    · exact within_bind (within_reputationView hF ctx
        (within_internally (within_repFindAccounts hF.toPasses _))) fun _ => within_pure _
  case reputationConfig ctx =>
    exact within_reputationView hF ctx (within_internally (within_repLoadConfig hF.toPasses))
  case stake ctx account =>
    exact within_stakingView hF ctx (within_step_bind
      (within_accountAccess (within_stakeFindAccount hF.toPasses _)) fun _ _ => within_pure _)
  case voteWeight ctx account =>
    refine within_stakingView hF ctx (within_step_bind
      (within_internally (within_stakeLoadConfig hF.toPasses)) fun _ => ?_)
    exact within_step_bind (within_accountAccess (within_stakeFindAccount hF.toPasses _))
      fun _ _ => within_pure _
  case stakingConfig ctx =>
    exact within_stakingView hF ctx (within_internally (within_stakeLoadConfig hF.toPasses))
  case reconcile ctx =>
    unfold Staking.reconcile
    refine within_bind (within_stakingView hF ctx (within_step_bind
      (within_internally (within_stakeLoadConfig hF.toPasses)) fun _ =>
        within_step_bind (within_check _) fun _ => ?_)) fun _ =>
          within_bind (within_meter hF.toPasses _) fun _ => within_pure _
    exact within_step_bind (within_assetAccess (within_lift (within_balance hF _ _)))
      fun _ _ => within_pure _

theorem BankCall.within (hF : F.Steps) (k : BankCall) : Within F k.act := by
  cases k with
  | mint asset issuer supply => exact within_mint hF asset issuer supply
  | optIn asset holder => exact within_optIn hF asset holder
  | transfer asset source target amount =>
    exact within_bind (within_transfer hF asset source target amount) fun _ => within_pure _
  | settled t => exact within_bind (within_settled hF t) fun _ => within_pure _
  | balance asset holder => exact within_bind (within_balance hF asset holder) fun _ => within_pure _

/-- Every call keeps every frame that the services' writes keep, whatever its outcome. -/
theorem Call.within (hF : F.Untouched) (k : Call) : Within F k.act := by
  cases k with
  | staking o => exact o.within hF
  | reputation o => exact o.within hF
  | read o => exact o.within hF.toSteps
  | bank o => exact o.within hF.toSteps

end Calls


section Keyed

variable {β : Type} {l : List (String × β)} {k s : String}

theorem keyed_find?_drop_ne (h : s ≠ k) :
    (l.filter (·.1 != k)).find? (·.1 == s) = l.find? (·.1 == s) := by
  rw [List.find?_filter]
  refine List.find?_congr fun x _ => ?_
  by_cases hx : x.1 = s
  · subst hx
    simp [h]
  · simp [hx]

theorem keyed_find?_drop_self : (l.filter (·.1 != k)).find? (·.1 == k) = none := by
  rw [List.find?_filter, List.find?_eq_none]
  intro x _
  simp

theorem keyed_find?_put_self (v : β) :
    (l.filter (·.1 != k) ++ [(k, v)]).find? (·.1 == k) = some (k, v) := by
  rw [List.find?_append, keyed_find?_drop_self]
  simp

theorem keyed_find?_put_ne (v : β) (h : s ≠ k) :
    (l.filter (·.1 != k) ++ [(k, v)]).find? (·.1 == s) = l.find? (·.1 == s) := by
  have hk : ([(k, v)] : List (String × β)).find? (·.1 == s) = none := by
    simp [Ne.symm h]
  rw [List.find?_append, keyed_find?_drop_ne h, hk, Option.or_none]

end Keyed

namespace Faults

variable {f : Faults} {site s : String}

theorem countOf_heal_ne (h : s ≠ site) : (f.heal site).countOf s = f.countOf s := by
  simp only [countOf, heal, keyed_find?_drop_ne h]

theorem countOf_arm_ne (n : Int) (h : s ≠ site) : (f.arm site n).countOf s = f.countOf s := by
  simp only [countOf, arm, keyed_find?_put_ne _ h]

/-- Calling a site leaves the counts of the other sites. -/
theorem countOf_trip_ne (h : s ≠ site) : (f.trip site).2.countOf s = f.countOf s := by
  unfold trip
  dsimp only
  split_ifs
  · rfl
  · rfl
  · exact countOf_heal_ne h
  · exact countOf_arm_ne _ h

/-- Calling a site that is not armed changes nothing. -/
theorem trip_of_countOf_zero (h : f.countOf site = 0) : f.trip site = (false, f) := by
  simp [trip, h]

/-- A call never arms a site. -/
theorem countOf_trip_zero (h : f.countOf s = 0) (site : String) : (f.trip site).2.countOf s = 0 := by
  by_cases hs : s = site
  · subst hs
    rw [trip_of_countOf_zero h]
    exact h
  · rw [countOf_trip_ne hs]
    exact h

end Faults

namespace Act

/-- No call site is armed that was not, and the audit queue stays open, or closed, as it was. -/
def Frame.steady : Frame where
  rel c c' := c'.outbox.closed = c.outbox.closed ∧
    ∀ s, c.faults.countOf s = 0 → c'.faults.countOf s = 0
  refl _ := ⟨rfl, fun _ h => h⟩
  trans h₁ h₂ := ⟨h₂.1.trans h₁.1, fun s h => h₂.2 s (h₁.2 s h)⟩

theorem Frame.steady_untouched : Frame.steady.Untouched where
  tripped _ site := ⟨rfl, fun _ h => Faults.countOf_trip_zero h site⟩
  metrics _ _ := Frame.steady.refl _
  issued _ _ := Frame.steady.refl _
  journal _ _ := Frame.steady.refl _
  outbox c e := ⟨accept_closed c.outbox e, fun _ h => h⟩
  dropped _ _ := Frame.steady.refl _
  streamed _ _ := Frame.steady.refl _
  hub _ _ := Frame.steady.refl _
  reputation _ _ := Frame.steady.refl _
  staking _ _ := Frame.steady.refl _
  bank _ _ := Frame.steady.refl _

/-- The steady parts of a campus and its activity claims stay: what the services never touch. -/
def Frame.fixture : Frame where
  rel c c' := Frame.steady.rel c c' ∧ c'.claims = c.claims
  refl c := ⟨Frame.steady.refl c, rfl⟩
  trans h₁ h₂ := ⟨Frame.steady.trans h₁.1 h₂.1, h₂.2.trans h₁.2⟩

theorem Frame.fixture_untouched : Frame.fixture.Untouched where
  tripped c site := ⟨Frame.steady_untouched.tripped c site, rfl⟩
  metrics c m := ⟨Frame.steady_untouched.metrics c m, rfl⟩
  issued c n := ⟨Frame.steady_untouched.issued c n, rfl⟩
  journal c j := ⟨Frame.steady_untouched.journal c j, rfl⟩
  outbox c e := ⟨Frame.steady_untouched.outbox c e, rfl⟩
  dropped c n := ⟨Frame.steady_untouched.dropped c n, rfl⟩
  streamed c s := ⟨Frame.steady_untouched.streamed c s, rfl⟩
  hub c h := ⟨Frame.steady_untouched.hub c h, rfl⟩
  reputation c b := ⟨Frame.steady_untouched.reputation c b, rfl⟩
  staking c b := ⟨Frame.steady_untouched.staking c b, rfl⟩
  bank c b := ⟨Frame.steady_untouched.bank c b, rfl⟩

end Act

end CampusLedger
