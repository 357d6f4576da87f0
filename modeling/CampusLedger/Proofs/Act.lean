import Mathlib
import CampusLedger.Campus.Staking

/-!
# Running an act

An act of the campus runs to a result or a failure and a new campus (`Act.exec`); a step of a
transaction runs the same way on the books of one ledger beside the campus. A `Frame` is a
relation between campuses that every run of an act keeps (`Within`), and `Raises` bounds the
failures a run may end with. Armed faults fail their call site and only spend themselves;
metrics move without touching anything the services own; publishing an event keeps both ledgers
and the bank, and fails only when the queue is closed.
-/

namespace CampusLedger

/-- The parts of a campus that the services write: the books of both ledgers, the bank, the
identifiers issued and the audit trail with its sinks. -/
structure Campus.Core where
  reputation : Reputation.Book
  staking : Staking.Book
  bank : Asset.Bank
  issued : Nat
  journal : Audit.Journal
  outbox : Audit.Outbox
  dropped : Nat
  streamed : List Audit.Event
  hub : Feed.Hub

def Campus.core (c : Campus) : Campus.Core :=
  ⟨c.reputation, c.staking, c.bank, c.issued, c.journal, c.outbox, c.dropped, c.streamed, c.hub⟩

namespace Act

variable {α β σ : Type}

/-- Runs an act on a campus: its outcome and the campus after it. -/
def exec (x : Act α) (c : Campus) : Except Failure α × Campus := x.run.run c

@[simp] theorem exec_pure (a : α) (c : Campus) : (pure a : Act α).exec c = (.ok a, c) := rfl

@[simp] theorem exec_throw (e : Failure) (c : Campus) :
    (throw e : Act α).exec c = (.error e, c) := rfl

@[simp] theorem exec_get (c : Campus) : (get : Act Campus).exec c = (.ok c, c) := rfl

@[simp] theorem exec_set (c c' : Campus) : (set c' : Act PUnit).exec c = (.ok ⟨⟩, c') := rfl

@[simp] theorem exec_modify (f : Campus → Campus) (c : Campus) :
    (modify f : Act PUnit).exec c = (.ok ⟨⟩, f c) := rfl

@[simp] theorem exec_modifyGet (f : Campus → α × Campus) (c : Campus) :
    (modifyGet f : Act α).exec c = (.ok (f c).1, (f c).2) := rfl

@[simp] theorem exec_map_get (f : Campus → α) (c : Campus) :
    (f <$> (get : Act Campus)).exec c = (.ok (f c), c) := rfl

theorem exec_bind (x : Act α) (f : α → Act β) (c : Campus) :
    (x >>= f).exec c = match x.exec c with
      | (.ok a, c') => (f a).exec c'
      | (.error e, c') => (.error e, c') := by
  simp only [exec, ExceptT.run_bind, StateT.run_bind]
  rcases x.run.run c with ⟨_ | _, c'⟩ <;> rfl

theorem exec_tryCatch (x : Act α) (h : Failure → Act α) (c : Campus) :
    (tryCatch x h : Act α).exec c = match x.exec c with
      | (.ok a, c') => (.ok a, c')
      | (.error e, c') => (h e).exec c' := by
  show exec (ExceptT.tryCatch x h) c = _
  simp only [exec, ExceptT.tryCatch, ExceptT.mk, ExceptT.run, StateT.run, bind, StateT.bind]
  rcases x c with ⟨_ | _, c'⟩ <;> rfl

theorem exec_bind_ok {x : Act α} {f : α → Act β} {c c' : Campus} {v : β} :
    (x >>= f).exec c = (.ok v, c') ↔ ∃ a c₁, x.exec c = (.ok a, c₁) ∧ (f a).exec c₁ = (.ok v, c') := by
  rw [exec_bind]
  rcases hx : x.exec c with ⟨_ | a, c₁⟩ <;> simp

theorem exec_bind_error {x : Act α} {f : α → Act β} {c c' : Campus} {e : Failure} :
    (x >>= f).exec c = (.error e, c') ↔
      x.exec c = (.error e, c') ∨ ∃ a c₁, x.exec c = (.ok a, c₁) ∧ (f a).exec c₁ = (.error e, c') := by
  rw [exec_bind]
  rcases hx : x.exec c with ⟨_ | a, c₁⟩ <;> simp

@[simp] theorem step_pure (a : α) (b : σ) (c : Campus) :
    ((pure a : StateT σ Act α) b).exec c = (.ok (a, b), c) := rfl

@[simp] theorem step_throw (e : Failure) (b : σ) (c : Campus) :
    ((throw e : StateT σ Act α) b).exec c = (.error e, c) := rfl

@[simp] theorem step_get (b : σ) (c : Campus) :
    ((get : StateT σ Act σ) b).exec c = (.ok (b, b), c) := rfl

@[simp] theorem step_set (b b' : σ) (c : Campus) :
    ((set b' : StateT σ Act PUnit) b).exec c = (.ok (⟨⟩, b'), c) := rfl

@[simp] theorem step_map_get (f : σ → α) (b : σ) (c : Campus) :
    ((f <$> (get : StateT σ Act σ)) b).exec c = (.ok (f b, b), c) := rfl

theorem step_bind (x : StateT σ Act α) (f : α → StateT σ Act β) (b : σ) (c : Campus) :
    ((x >>= f) b).exec c = match (x b).exec c with
      | (.ok (a, b'), c') => (f a b').exec c'
      | (.error e, c') => (.error e, c') := by
  show (x b >>= fun p => f p.1 p.2).exec c = _
  rw [exec_bind]
  rcases (x b).exec c with ⟨_ | ⟨a, b'⟩, c'⟩ <;> rfl

theorem step_lift (x : Act α) (b : σ) (c : Campus) :
    ((liftM x : StateT σ Act α) b).exec c = match x.exec c with
      | (.ok a, c') => (.ok (a, b), c')
      | (.error e, c') => (.error e, c') := by
  show (x >>= fun a => pure (a, b)).exec c = _
  rw [exec_bind]
  rcases x.exec c with ⟨_ | a, c'⟩ <;> rfl

theorem step_tryCatch (x : StateT σ Act α) (h : Failure → StateT σ Act α) (b : σ) (c : Campus) :
    ((tryCatch x h : StateT σ Act α) b).exec c = match (x b).exec c with
      | (.ok p, c') => (.ok p, c')
      | (.error e, c') => (h e b).exec c' := by
  show exec (ExceptT.tryCatch (x b) (fun e => h e b)) c = _
  simp only [exec, ExceptT.tryCatch, ExceptT.mk, ExceptT.run, StateT.run, bind, StateT.bind]
  rcases x b c with ⟨_ | _, c'⟩ <;> rfl

theorem step_bind_ok {x : StateT σ Act α} {f : α → StateT σ Act β} {b b' : σ} {c c' : Campus}
    {v : β} : ((x >>= f) b).exec c = (.ok (v, b'), c') ↔
      ∃ a b₁ c₁, (x b).exec c = (.ok (a, b₁), c₁) ∧ (f a b₁).exec c₁ = (.ok (v, b'), c') := by
  rw [step_bind]
  rcases hx : (x b).exec c with ⟨_ | ⟨a, b₁⟩, c₁⟩ <;> simp

theorem step_lift_ok {x : Act α} {b b' : σ} {c c' : Campus} {v : α} :
    ((liftM x : StateT σ Act α) b).exec c = (.ok (v, b'), c') ↔
      x.exec c = (.ok v, c') ∧ b' = b := by
  rw [step_lift]
  rcases hx : x.exec c with ⟨_ | a, c₁⟩
  · simp
  · simp only [Prod.mk.injEq, Except.ok.injEq]
    constructor
    · rintro ⟨⟨rfl, rfl⟩, rfl⟩; exact ⟨⟨rfl, rfl⟩, rfl⟩
    · rintro ⟨⟨rfl, rfl⟩, rfl⟩; exact ⟨⟨rfl, rfl⟩, rfl⟩

/-- A relation between a campus and a later one that every campus has with itself and that
composes: what a kind of act may change. -/
structure Frame where
  rel : Campus → Campus → Prop
  refl : ∀ c, rel c c
  trans : ∀ {a b c}, rel a b → rel b c → rel a c

/-- Nothing the services own changes. -/
def Frame.quiet : Frame where
  rel c c' := c'.core = c.core
  refl _ := rfl
  trans h₁ h₂ := h₂.trans h₁

/-- Both ledgers and the bank stay, and identifiers are only issued: what publishing an event
may do. -/
def Frame.books : Frame where
  rel c c' := c'.reputation = c.reputation ∧ c'.staking = c.staking ∧ c'.bank = c.bank ∧
    c.issued ≤ c'.issued
  refl _ := ⟨rfl, rfl, rfl, Nat.le_refl _⟩
  trans h₁ h₂ := ⟨h₂.1.trans h₁.1, h₂.2.1.trans h₁.2.1, h₂.2.2.1.trans h₁.2.2.1,
    Nat.le_trans h₁.2.2.2 h₂.2.2.2⟩

/-- Neither ledger's books change and identifiers are only issued: what the bank's acts may do. -/
def Frame.ledgers : Frame where
  rel c c' := c'.reputation = c.reputation ∧ c'.staking = c.staking ∧ c.issued ≤ c'.issued
  refl _ := ⟨rfl, rfl, Nat.le_refl _⟩
  trans h₁ h₂ := ⟨h₂.1.trans h₁.1, h₂.2.1.trans h₁.2.1, Nat.le_trans h₁.2.2 h₂.2.2⟩

/-- Every run of `x` moves the campus along `F`, whatever its outcome. -/
def Within (F : Frame) (x : Act α) : Prop := ∀ c, F.rel c (x.exec c).2

variable {F : Frame}

theorem within_pure (a : α) : Within F (pure a : Act α) := fun c => F.refl c

theorem within_throw (e : Failure) : Within F (throw e : Act α) := fun c => F.refl c

theorem within_bind {x : Act α} {f : α → Act β} (hx : Within F x) (hf : ∀ a, Within F (f a)) :
    Within F (x >>= f) := by
  intro c
  rw [exec_bind]
  rcases h : x.exec c with ⟨_ | a, c₁⟩
  · simpa [h] using hx c
  · exact F.trans (by simpa [h] using hx c) (hf a c₁)

theorem within_tryCatch {x : Act α} {h : Failure → Act α} (hx : Within F x)
    (hh : ∀ e, Within F (h e)) : Within F (tryCatch x h) := by
  intro c
  rw [exec_tryCatch]
  rcases hc : x.exec c with ⟨_ | a, c₁⟩
  · exact F.trans (by simpa [hc] using hx c) (hh _ c₁)
  · simpa [hc] using hx c

theorem within_mono {G : Frame} {x : Act α} (hx : Within F x) (hFG : ∀ c c', F.rel c c' → G.rel c c') :
    Within G x := fun c => hFG _ _ (hx c)

theorem Frame.quiet_books {c c' : Campus} (h : Frame.quiet.rel c c') : Frame.books.rel c c' := by
  have h' : c'.core = c.core := h
  simp only [Campus.core, Campus.Core.mk.injEq] at h'
  exact ⟨h'.1, h'.2.1, h'.2.2.1, h'.2.2.2.1.ge⟩

theorem within_quiet {x : Act α} (hx : Within .quiet x) : Within .books x :=
  within_mono hx fun _ _ => Frame.quiet_books

theorem Frame.books_ledgers {c c' : Campus} (h : Frame.books.rel c c') : Frame.ledgers.rel c c' :=
  ⟨h.1, h.2.1, h.2.2.2⟩

theorem ledgers_of_quiet {x : Act α} (hx : Within .quiet x) : Within .ledgers x :=
  within_mono hx fun _ _ h => Frame.books_ledgers (Frame.quiet_books h)

theorem rel_bind {x : Act α} {f : α → Act β} {c : Campus} (hx : F.rel c (x.exec c).2)
    (hf : ∀ a, Within F (f a)) : F.rel c ((x >>= f).exec c).2 := by
  rw [exec_bind]
  rcases h : x.exec c with ⟨_ | a, c₁⟩
  · simpa [h] using hx
  · exact F.trans (by simpa [h] using hx) (hf a c₁)

theorem within_get_bind {f : Campus → Act α} (hf : ∀ c, F.rel c ((f c).exec c).2) :
    Within F (get >>= f) := by
  intro c
  simpa only [exec_bind, exec_get] using hf c

theorem within_modify {g : Campus → Campus} (hg : ∀ c, F.rel c (g c)) : Within F (modify g) :=
  fun c => hg c

theorem within_forIn {γ : Type} {l : List γ} {f : γ → PUnit → Act (ForInStep PUnit)}
    (hf : ∀ a u, Within F (f a u)) : Within F (forIn l ⟨⟩ f) := by
  induction l with
  | nil => exact within_pure _
  | cons a l ih =>
    rw [List.forIn_cons]
    refine within_bind (hf a ⟨⟩) fun r => ?_
    cases r with
    | done u => exact within_pure u
    | yield u => exact ih

/-- Every failure of `x` satisfies `P`. -/
def Raises (P : Failure → Prop) (x : Act α) : Prop :=
  ∀ c e c', x.exec c = (.error e, c') → P e

variable {P : Failure → Prop}

theorem raises_pure (a : α) : Raises P (pure a : Act α) := by
  intro c e c' h; cases h

theorem raises_throw {e : Failure} (he : P e) : Raises P (throw e : Act α) := by
  intro c e' c' h
  cases h
  exact he

theorem raises_modify (g : Campus → Campus) : Raises P (modify g) := by
  intro c e c' h; cases h

theorem raises_modifyGet (g : Campus → α × Campus) : Raises P (modifyGet g) := by
  intro c e c' h; cases h

theorem raises_bind {x : Act α} {f : α → Act β} (hx : Raises P x) (hf : ∀ a, Raises P (f a)) :
    Raises P (x >>= f) := by
  intro c e c' h
  rcases exec_bind_error.mp h with h | ⟨a, c₁, -, h⟩
  · exact hx c e c' h
  · exact hf a c₁ e c' h

theorem raises_get_bind {f : Campus → Act α} (hf : ∀ c, Raises P (f c)) :
    Raises P (get >>= f) := by
  intro c e c' h
  rw [exec_bind, exec_get] at h
  exact hf c c e c' h

theorem raises_forIn {γ : Type} {l : List γ} {f : γ → PUnit → Act (ForInStep PUnit)}
    (hf : ∀ a u, Raises P (f a u)) : Raises P (forIn l ⟨⟩ f) := by
  induction l with
  | nil => exact raises_pure _
  | cons a l ih =>
    rw [List.forIn_cons]
    refine raises_bind (hf a ⟨⟩) fun r => ?_
    cases r with
    | done u => exact raises_pure u
    | yield u => exact ih

theorem trip_keeps_faults {f : Faults} {site : String} (h : (f.trip site).1 = false) :
    (f.trip site).2 = f := by
  simp only [Faults.trip] at *
  split_ifs at *
  simp_all

theorem exec_tripped (site : String) (c : Campus) :
    (tripped site).exec c =
      (.ok (c.faults.trip site).1, { c with faults := (c.faults.trip site).2 }) := rfl

theorem quiet_tripped (site : String) : Within .quiet (tripped site) := fun _ => rfl

theorem quiet_faultAt (site : String) : Within .quiet (faultAt site) :=
  within_bind (quiet_tripped site) fun hit => by
    cases hit
    · exact within_pure ()
    · exact within_throw _

theorem exec_faultAt (site : String) (c : Campus) :
    (faultAt site).exec c = if (c.faults.trip site).1 then
      (.error (.injected site), { c with faults := (c.faults.trip site).2 }) else (.ok (), c) := by
  unfold faultAt
  rw [exec_bind, exec_tripped]
  cases ht : (c.faults.trip site).1
  · simp only [trip_keeps_faults ht, Bool.false_eq_true, ↓reduceIte, exec_pure]
  · rfl

theorem faultAt_ok {site : String} {c c' : Campus} {u : Unit} :
    (faultAt site).exec c = (.ok u, c') ↔ (c.faults.trip site).1 = false ∧ c' = c := by
  unfold faultAt
  rw [exec_bind, exec_tripped]
  cases ht : (c.faults.trip site).1
  · simp only [trip_keeps_faults ht, Bool.false_eq_true, ↓reduceIte, exec_pure, Prod.mk.injEq,
      true_and]
    exact ⟨fun h => h.symm, fun h => h.symm⟩
  · simp

theorem quiet_meter (g : Metrics.Registry → Metrics.Registry) : Within .quiet (meter g) := by
  intro c
  show (if c.wiring.metered then { c with metrics := g c.metrics } else c).core = c.core
  split <;> rfl

/-- A frame that allows what publishing writes: spent faults and moved metrics, the feed and
the stream sink, the journal, one more identifier issued, an event accepted by the queue, and
an event dropped by it. -/
structure Frame.Publishes (F : Frame) : Prop where
  quiet : ∀ c c', Frame.quiet.rel c c' → F.rel c c'
  hub : ∀ (c : Campus) hub, F.rel c { c with hub }
  streamed : ∀ (c : Campus) s, F.rel c { c with streamed := s }
  journal : ∀ (c : Campus) j, F.rel c { c with journal := j }
  issued : ∀ c : Campus, F.rel c { c with issued := c.issued + 1 }
  outbox : ∀ (c : Campus) e, F.rel c { c with outbox := (c.outbox.accept e).2 }
  dropped : ∀ c : Campus, F.rel c { c with dropped := c.dropped + 1 }

section Publishing

variable (hF : F.Publishes)
include hF

theorem Frame.Publishes.within {x : Act α} (hx : Within .quiet x) : Within F x :=
  within_mono hx hF.quiet

theorem within_deliver (e : Audit.Event) : Within F (deliver e) := by
  unfold deliver
  refine within_get_bind fun c => ?_
  dsimp only
  -- what follows the feed: the stream sink may record the event
  have stream : ∀ (p : Campus → Bool), Within F (get >>= fun d =>
      if p d = true then tripped "producer.Produce" >>= fun _ =>
        modify fun c => { c with streamed := c.streamed ++ [e] }
      else pure ()) := by
    intro p
    refine within_get_bind fun d => ?_
    split
    · exact within_bind (hF.within (quiet_tripped _)) (fun _ => within_modify fun c => hF.streamed c _) d
    · exact within_pure _ d
  split
  · refine rel_bind (hF.hub c _) fun _ => ?_
    refine within_bind (within_forIn fun _ _ => ?_) fun _ => stream _
    exact within_bind (hF.within (quiet_meter _)) fun _ => within_pure _
  · exact stream _ c

theorem within_write (e : Audit.Event) : Within F (write e) := by
  unfold write
  refine within_bind (hF.within (quiet_tripped _)) fun hit => ?_
  cases hit
  · exact within_bind (within_modify fun c => hF.journal c _) fun _ => within_deliver hF e
  · exact within_pure _

theorem within_emit (ctx : Context) (e : Audit.Event) : Within F (emit ctx e) := by
  unfold emit
  refine within_get_bind fun c => ?_
  split
  · exact within_pure _ c
  · refine within_bind (fun c => hF.issued c) (fun id => within_get_bind fun d => ?_) c
    dsimp only
    refine rel_bind (hF.outbox d _) fun _ => ?_
    split
    · exact within_write hF _
    · exact within_pure _
    · exact within_modify fun c => hF.dropped c
    · exact within_throw _

theorem within_report (g : Metrics.Registry → Metrics.Registry) (ctx : Context) (e : Audit.Event)
    (a : α) : Within F (do meter g; emit ctx e; pure a) :=
  within_bind (hF.within (quiet_meter g)) fun _ => within_bind (within_emit hF ctx e) fun _ =>
    within_pure a

end Publishing

/-- Publishing writes none of the books: both ledgers and the bank stay. -/
theorem Frame.books_publishes : Frame.books.Publishes where
  quiet _ _ := Frame.quiet_books
  hub _ _ := ⟨rfl, rfl, rfl, Nat.le_refl _⟩
  streamed _ _ := ⟨rfl, rfl, rfl, Nat.le_refl _⟩
  journal _ _ := ⟨rfl, rfl, rfl, Nat.le_refl _⟩
  issued c := ⟨rfl, rfl, rfl, Nat.le_succ c.issued⟩
  outbox _ _ := ⟨rfl, rfl, rfl, Nat.le_refl _⟩
  dropped _ := ⟨rfl, rfl, rfl, Nat.le_refl _⟩

theorem books_emit (ctx : Context) (e : Audit.Event) : Within .books (emit ctx e) :=
  within_emit Frame.books_publishes ctx e

theorem deliver_raises (e : Audit.Event) : Raises P (deliver e) := by
  unfold deliver
  refine raises_get_bind fun c => ?_
  have stream : ∀ (p : Campus → Bool), Raises P (get >>= fun d =>
      if p d = true then tripped "producer.Produce" >>= fun _ =>
        modify fun c => { c with streamed := c.streamed ++ [e] }
      else pure ()) := by
    intro p
    refine raises_get_bind fun d => ?_
    split
    · exact raises_bind (raises_modifyGet _) fun _ => raises_modify _
    · exact raises_pure _
  dsimp only
  split
  · refine raises_bind (raises_modify _) fun _ => raises_bind (raises_forIn fun _ _ => ?_)
      fun _ => stream _
    exact raises_bind (raises_modify _) fun _ => raises_pure _
  · exact stream _

/-- Publishing an event fails only as a fault of the program: a send on a closed queue. -/
theorem emit_raises_panic (ctx : Context) (e : Audit.Event) :
    Raises (fun f => ∃ t, f = .panic t) (emit ctx e) := by
  unfold emit
  refine raises_get_bind fun c => ?_
  split
  · exact raises_pure _
  · refine raises_bind (raises_modifyGet _) fun id => raises_get_bind fun d => ?_
    dsimp only
    refine raises_bind (raises_modify _) fun _ => ?_
    split
    · unfold write
      refine raises_bind (raises_modifyGet _) fun hit => ?_
      cases hit
      · exact raises_bind (raises_modify _) fun _ => deliver_raises _
      · exact raises_pure _
    · exact raises_pure _
    · exact raises_modify _
    · exact raises_throw ⟨_, rfl⟩

end Act

end CampusLedger
