import CampusLedger.Proofs.FeedHub
import CampusLedger.Proofs.WholeFloat
import CampusLedger.Proofs.Act
import CampusLedger.Campus.Feed
/-!
# The subscriber gauge counts the feed's subscribers

On a metered campus with a feed, every subscribe, read, client close, delivery and shutdown
moves the gauge `ccms_feed_subscribers` by what the hub reports: one up for a subscription on
an open hub, one down for each subscriber a delivery drops and for each subscription a client
ends, and the whole count down at a shutdown. The hub's count moves by the same amounts
(`Hub.size_deliver`, `Hub.size_closeClient`, ...), and whole numbers below `2 ^ 53` add and
subtract exactly in doubles (`WholeFloat.ofNat_add_ofNat`). So after every run of feed ops the
gauge reads exactly the number of subscribers.
-/

namespace CampusLedger

open Act Metrics Feed

namespace Metrics

@[simp] theorem Family.name_update (f : Family) (labels : List String) (g : Series → Series) :
    (f.update labels g).name = f.name := by
  unfold Family.update; split <;> rfl

@[simp] theorem Family.kind_update (f : Family) (labels : List String) (g : Series → Series) :
    (f.update labels g).kind = f.kind := by
  unfold Family.update; split <;> rfl

namespace Registry

variable {r : Registry} {name : String} {v : Float}

/-- The registry's first family named `name` is a gauge whose label-less series holds `v` in
its double and nothing in its whole part. -/
def Shows (r : Registry) (name : String) (v : Float) : Prop :=
  ∃ f s, r.families.find? (·.name == name) = some f ∧ f.kind = .gauge ∧
    f.series.find? (·.labels == []) = some s ∧ s.value = v ∧ s.whole = 0

/-- What the registry reports for the label-less series of the first family named `name`. -/
def reading (r : Registry) (name : String) : Option Float :=
  ((r.families.find? (·.name == name)).bind fun f => f.series.find? (·.labels == [])).map
    (·.total)

theorem Shows.reading {n : Nat} (h : r.Shows name (Float.ofNat n)) (hn : n < 2 ^ 53) :
    r.reading name = some (Float.ofNat n) := by
  obtain ⟨f, s, hf, -, hs, hv, hw⟩ := h
  simp only [Registry.reading, hf, Option.bind_some, hs, Option.map_some, Series.total, hv, hw]
  rw [WholeFloat.ofNat_add_ofNat (by omega), Nat.add_zero]

/-- Updating families by a name other than the gauge's, keeping their names, leaves the gauge
as it was. -/
theorem Shows.map_other (h : r.Shows name v) {name' : String} (hne : name' ≠ name)
    (G : Family → Family) (hG : ∀ f, (G f).name = f.name) :
    (⟨r.families.map fun f => if f.name == name' then G f else f⟩ : Registry).Shows name v := by
  obtain ⟨f, s, hf, hk, hs, hv, hw⟩ := h
  have hfn : f.name = name := by simpa using List.find?_some hf
  have hp : ((fun f : Family => f.name == name) ∘ fun f => if f.name == name' then G f else f) =
      fun f => f.name == name := by
    funext f
    simp only [Function.comp]
    split <;> simp [hG]
  refine ⟨f, s, ?_, hk, hs, hv, hw⟩
  rw [List.find?_map, hp, hf, Option.map_some, if_neg (by simp [hfn, Ne.symm hne])]

theorem Shows.add_other (h : r.Shows name v) {name' : String} (hne : name' ≠ name)
    (labels : List String) (x : Float) : (r.add name' labels x).Shows name v :=
  h.map_other hne _ fun f => Family.name_update f labels _

theorem Shows.observe_other (h : r.Shows name v) {name' : String} (hne : name' ≠ name)
    (labels : List String) : (r.observe name' labels).Shows name v :=
  h.map_other hne _ fun f => Family.name_update f labels _

/-- Adding to a gauge adds to the double of its label-less series. -/
theorem Shows.add_self (h : r.Shows name v) (x : Float) : (r.add name [] x).Shows name (v + x) := by
  obtain ⟨f, s, hf, hk, hs, hv, hw⟩ := h
  have hfn : f.name = name := by simpa using List.find?_some hf
  have hsl : s.labels = [] := by simpa using List.find?_some hs
  have hp : ((fun f : Family => f.name == name) ∘ fun f =>
      if f.name == name then f.update [] (Series.plus f.kind x) else f) = fun f => f.name == name := by
    funext f
    simp only [Function.comp]
    split <;> simp
  have hq : ((fun s : Series => s.labels == []) ∘ fun s =>
      if s.labels == [] then Series.plus .gauge x s else s) = fun s => s.labels == [] := by
    funext s
    simp only [Function.comp]
    split <;> rfl
  have hany : f.series.any (·.labels == []) = true := by
    rw [List.any_eq_true]; exact ⟨s, List.mem_of_find?_eq_some hs, by simp [hsl]⟩
  refine ⟨f.update [] (Series.plus .gauge x), { s with value := s.value + x }, ?_, by simp [hk],
    ?_, by simp [hv], hw⟩
  · simp only [Registry.add, List.find?_map, hp, hf, Option.map_some, hfn, beq_self_eq_true,
      if_true, hk]
  · simp only [Family.update, hany, if_true, List.find?_map, hq, hs, Option.map_some]
    rw [if_pos (by simp [hsl])]
    rfl

end Registry

end Metrics

namespace Feed

def Op.act : Op → Act Unit
  | .subscribe ledger account => do let _ ← subscribeFeed ledger account
  | .read k limit => do let _ ← readFeed k limit
  | .closeClient k => closeFeedClient k
  | .deliver e => Act.deliver e
  | .close => shutdownFeed

end Feed

/-- The campus after feed ops one after another. -/
def Campus.feedRun (c : Campus) (ops : List Op) : Campus :=
  ops.foldl (fun c op => (op.act.exec c).2) c

def Campus.subscriberGauge (c : Campus) : Option Float :=
  c.metrics.reading "ccms_feed_subscribers"

namespace Act

variable {c : Campus} {v : Float}

theorem exec_meter_on (hm : c.wiring.metered = true) (g : Registry → Registry) :
    (meter g).exec c = (.ok (), { c with metrics := g c.metrics }) := by
  simp [meter, hm]

/-- Ending a feed request counts the request, not the subscribers. -/
theorem exec_feedRequestEnded (hm : c.wiring.metered = true)
    (hs : c.metrics.Shows "ccms_feed_subscribers" v) :
    ∃ m, feedRequestEnded.exec c = (.ok (), { c with metrics := m }) ∧
      m.Shows "ccms_feed_subscribers" v :=
  ⟨_, exec_meter_on hm _, (hs.add_other (by decide) _ _).observe_other (by decide) _⟩

/-- Ending a feed request when `ended` holds. -/
theorem exec_endedIf (hm : c.wiring.metered = true)
    (hs : c.metrics.Shows "ccms_feed_subscribers" v) (ended : Bool) :
    ∃ m, ((if ended = true then feedRequestEnded else pure ()) : Act Unit).exec c =
      (.ok (), { c with metrics := m }) ∧ m.Shows "ccms_feed_subscribers" v := by
  split
  · exact exec_feedRequestEnded hm hs
  · exact ⟨c.metrics, rfl, hs⟩

theorem exec_subscribeFeed (hm : c.wiring.metered = true)
    (hs : c.metrics.Shows "ccms_feed_subscribers" v) (ledger : String) (account : AccountId) :
    ∃ m, (subscribeFeed ledger account).exec c =
        (.ok (c.hub.subscribe ledger account).1,
          { c with hub := (c.hub.subscribe ledger account).2, metrics := m }) ∧
      m.Shows "ccms_feed_subscribers" (if c.hub.shut then v else v + 1) := by
  unfold subscribeFeed
  simp only [exec_bind, exec_get, exec_modify]
  split
  · obtain ⟨m, hx, hs'⟩ :=
      exec_feedRequestEnded (c := { c with hub := (c.hub.subscribe ledger account).2 }) hm hs
    exact ⟨m, by rw [exec_bind, hx]; rfl, hs'⟩
  · refine ⟨c.metrics.inc "ccms_feed_subscribers", ?_, hs.add_self 1⟩
    rw [exec_bind, exec_meter_on (c := { c with hub := (c.hub.subscribe ledger account).2 }) hm]
    rfl

theorem exec_readFeed (hm : c.wiring.metered = true)
    (hs : c.metrics.Shows "ccms_feed_subscribers" v) (k : Nat) (limit : Option Nat) :
    ∃ m, (readFeed k limit).exec c =
        (.ok (c.hub.read k limit).1, { c with hub := (c.hub.read k limit).2, metrics := m }) ∧
      m.Shows "ccms_feed_subscribers" v := by
  unfold readFeed
  simp only [exec_bind, exec_get, exec_modify]
  split
  · obtain ⟨m, hx, hs'⟩ :=
      exec_feedRequestEnded (c := { c with hub := (c.hub.read k limit).2 }) hm hs
    exact ⟨m, by rw [exec_bind, hx]; rfl, hs'⟩
  · exact ⟨c.metrics, rfl, hs⟩

theorem exec_closeFeedClient (hm : c.wiring.metered = true)
    (hs : c.metrics.Shows "ccms_feed_subscribers" v) (k : Nat) :
    ∃ m, (closeFeedClient k).exec c = (.ok (), { c with hub := (c.hub.closeClient k).2, metrics := m }) ∧
      m.Shows "ccms_feed_subscribers" (if (c.hub.closeClient k).1.1 then v + -1 else v) := by
  unfold closeFeedClient
  simp only [exec_bind, exec_get, exec_modify]
  generalize c.hub.closeClient k = r
  obtain ⟨⟨was, ended⟩, hub⟩ := r
  -- the gauge moves only when the close ended a subscription; ending the request counts elsewhere
  cases was
  · obtain ⟨m, hx, hs'⟩ := exec_endedIf (c := { c with hub }) hm hs ended
    exact ⟨m, by simpa [exec_bind] using hx, hs'⟩
  · obtain ⟨m, hx, hs'⟩ :=
      exec_endedIf (c := { c with hub, metrics := c.metrics.add "ccms_feed_subscribers" [] (-1) })
        hm (hs.add_self (-1)) ended
    refine ⟨m, ?_, hs'⟩
    simp only [if_true, exec_bind, exec_meter_on (c := { c with hub }) hm]
    exact hx

theorem exec_shutdownFeed (hm : c.wiring.metered = true)
    (hs : c.metrics.Shows "ccms_feed_subscribers" v) :
    ∃ m, shutdownFeed.exec c = (.ok (), { c with hub := c.hub.close.2, metrics := m }) ∧
      m.Shows "ccms_feed_subscribers" (v + -Float.ofNat c.hub.close.1) := by
  refine ⟨_, ?_, hs.add_self _⟩
  unfold shutdownFeed
  simp only [exec_bind, exec_get, exec_modify]
  rw [exec_meter_on (c := { c with hub := c.hub.close.2 }) hm]

/-- Metering the same way once per element of a list. -/
theorem exec_forIn_meter {γ : Type} (l : List γ) (g : Registry → Registry) {c : Campus}
    (hm : c.wiring.metered = true) :
    (forIn l PUnit.unit fun _ _ => do meter g; pure (ForInStep.yield PUnit.unit) : Act PUnit).exec c =
      (.ok ⟨⟩, { c with metrics := g^[l.length] c.metrics }) := by
  induction l generalizing c with
  | nil => rfl
  | cons a l ih =>
    rw [List.forIn_cons, exec_bind, exec_bind, exec_meter_on hm]
    simp only [exec_pure]
    rw [ih (c := { c with metrics := g c.metrics }) hm]
    simp [Function.iterate_succ_apply]

/-- A delivery on a campus with a feed updates the hub, and meters each subscriber that fell
behind: one more dropped, one fewer connected. -/
theorem exec_deliver_feed (hm : c.wiring.metered = true) (hf : c.wiring.feed.isSome = true)
    (e : Audit.Event) :
    ∃ c', (Act.deliver e).exec c = (.ok (), c') ∧ c'.hub = (c.hub.deliver e).2 ∧
      c'.wiring = c.wiring ∧
      c'.metrics = (fun r => (r.inc "ccms_feed_dropped_subscribers_total").add
        "ccms_feed_subscribers" [] (-1))^[(c.hub.deliver e).1] c.metrics := by
  unfold Act.deliver
  simp only [exec_bind, exec_get, hf, if_true, exec_set]
  rw [exec_forIn_meter (c := { c with hub := (c.hub.deliver e).2 }) _ _ hm]
  simp only [List.length_range]
  split
  · simp only [exec_bind, tripped, exec_modifyGet, exec_modify]
    exact ⟨_, rfl, rfl, rfl, rfl⟩
  · exact ⟨_, rfl, rfl, rfl, rfl⟩

/-- Each subscriber a delivery drops takes one off the gauge. -/
theorem shows_dropped {r : Registry} {n : Nat} (hs : r.Shows "ccms_feed_subscribers" (Float.ofNat n))
    (hn : n < 2 ^ 53) (j : Nat) (hj : j ≤ n) :
    ((fun r => (r.inc "ccms_feed_dropped_subscribers_total").add "ccms_feed_subscribers" [] (-1))^[j]
      r).Shows "ccms_feed_subscribers" (Float.ofNat (n - j)) := by
  induction j with
  | zero => exact hs
  | succ j ih =>
    rw [Function.iterate_succ_apply']
    have h := ((ih (by omega)).add_other
      (by decide : "ccms_feed_dropped_subscribers_total" ≠ "ccms_feed_subscribers") [] 1).add_self (-1)
    rwa [show (-1 : Float) = -Float.ofNat 1 from rfl,
      WholeFloat.ofNat_add_neg_ofNat (by omega) (by omega), Nat.sub_sub] at h

end Act

namespace Campus

/-- The subscriber gauge shows the hub's count of subscribers, and the hub numbers its
connections in order. -/
structure Counted (c : Campus) : Prop where
  numbered : c.hub.Numbered
  shows : c.metrics.Shows "ccms_feed_subscribers" (Float.ofNat c.hub.size)

end Campus

namespace Feed

variable {c : Campus}

/-- One feed op on a metered campus with a feed: the hub takes the op, the wiring stays, and
the gauge keeps showing the count. -/
theorem Op.act_counted (hm : c.wiring.metered = true) (hf : c.wiring.feed.isSome = true)
    (hc : c.Counted) (hb : c.hub.subscribers.length + 1 < 2 ^ 53) (op : Op) :
    (op.act.exec c).2.Counted ∧ (op.act.exec c).2.hub = c.hub.step op ∧
      (op.act.exec c).2.wiring = c.wiring := by
  have hsz := c.hub.size_le_length
  have hone : (-1 : Float) = -Float.ofNat 1 := rfl
  cases op with
  | subscribe ledger account =>
    obtain ⟨m, hx, hs⟩ := exec_subscribeFeed hm hc.shows ledger account
    have hx' : ((Op.subscribe ledger account).act.exec c).2 =
        { c with hub := (c.hub.subscribe ledger account).2, metrics := m } := by
      simp only [Op.act, exec_bind, hx]; rfl
    rw [hx']
    refine ⟨⟨hc.numbered.subscribe ledger account, ?_⟩, rfl, rfl⟩
    show m.Shows _ (Float.ofNat (c.hub.subscribe ledger account).2.size)
    rw [Hub.size_subscribe]
    cases hshut : c.hub.shut
    · rw [hshut, if_neg Bool.false_ne_true] at hs
      rwa [if_neg Bool.false_ne_true, ← WholeFloat.ofNat_add_ofNat (by omega)]
    · rwa [hshut, if_pos rfl] at hs
  | read k limit =>
    obtain ⟨m, hx, hs⟩ := exec_readFeed hm hc.shows k limit
    have hx' : ((Op.read k limit).act.exec c).2 =
        { c with hub := (c.hub.read k limit).2, metrics := m } := by
      simp only [Op.act, exec_bind, hx]; rfl
    rw [hx']
    refine ⟨⟨hc.numbered.read k limit, ?_⟩, rfl, rfl⟩
    show m.Shows _ (Float.ofNat (c.hub.read k limit).2.size)
    rwa [Hub.size_read]
  | closeClient k =>
    obtain ⟨m, hx, hs⟩ := exec_closeFeedClient hm hc.shows k
    rw [show (Op.closeClient k).act = closeFeedClient k from rfl, hx]
    refine ⟨⟨hc.numbered.closeClient k, ?_⟩, rfl, rfl⟩
    show m.Shows _ (Float.ofNat (c.hub.closeClient k).2.size)
    have hcount := Hub.size_closeClient hc.numbered k
    split at hs
    · rwa [hone, ← hcount, if_pos ‹_›, WholeFloat.ofNat_add_neg_ofNat (by omega) (by omega),
        Nat.add_sub_cancel] at hs
    · rwa [← hcount, if_neg ‹_›, Nat.add_zero] at hs
  | deliver e =>
    obtain ⟨c', hx, hhub, hw, hmet⟩ := exec_deliver_feed hm hf e
    rw [show (Op.deliver e).act = Act.deliver e from rfl, hx]
    refine ⟨⟨hhub ▸ hc.numbered.deliver e, ?_⟩, hhub, hw⟩
    have hcount := Hub.size_deliver hc.numbered e
    rw [hmet, hhub]
    have h := shows_dropped hc.shows (by omega) (c.hub.deliver e).1 (by omega)
    rwa [show c.hub.size - (c.hub.deliver e).1 = (c.hub.deliver e).2.size by omega] at h
  | close =>
    obtain ⟨m, hx, hs⟩ := exec_shutdownFeed hm hc.shows
    rw [show Op.close.act = shutdownFeed from rfl, hx]
    refine ⟨⟨hc.numbered.close, ?_⟩, rfl, rfl⟩
    show m.Shows _ (Float.ofNat c.hub.close.2.size)
    rwa [show c.hub.close.1 = c.hub.size from rfl,
      WholeFloat.ofNat_add_neg_ofNat (le_refl _) (by omega), Nat.sub_self, ← c.hub.size_close] at hs

end Feed

namespace Campus

/-- A fresh metered campus with a feed has no subscribers and its gauge at zero. -/
theorem counted_fresh {w : Wiring} (ttl : Int) (hm : w.metered = true) (hf : w.feed.isSome = true) :
    (Campus.fresh w ttl).Counted := by
  refine ⟨Hub.numbered_empty _, ?_⟩
  refine ⟨Family.fresh "ccms_feed_subscribers" "Connected event feed subscribers" .gauge,
    { labels := [] }, ?_, rfl, rfl, rfl, rfl⟩
  cases hr : w.rateLimit.isSome <;> simp [Campus.fresh, hm, meteredFamilies, hf, hr, Family.fresh]

/-- Over any run of feed ops, the campus runs the hub through the same ops and the gauge keeps
showing the count. -/
theorem feedRun_counted {c : Campus} (hm : c.wiring.metered = true)
    (hf : c.wiring.feed.isSome = true) (hc : c.Counted) (ops : List Op)
    (hb : c.hub.subscribers.length + ops.length < 2 ^ 53) :
    (c.feedRun ops).Counted ∧ (c.feedRun ops).hub = c.hub.run ops ∧
      (c.feedRun ops).wiring = c.wiring := by
  induction ops generalizing c with
  | nil => exact ⟨hc, rfl, rfl⟩
  | cons op ops ih =>
    simp only [List.length_cons] at hb
    obtain ⟨hc', hhub, hw⟩ := op.act_counted hm hf hc (by omega)
    -- the op added at most one connection, which the rest of the bound pays for
    have hlen := Hub.length_step hc.numbered op
    obtain ⟨h₁, h₂, h₃⟩ := ih (hw ▸ hm) (hw ▸ hf) hc' (by rw [hhub]; omega)
    refine ⟨h₁, ?_, h₃.trans hw⟩
    show ((op.act.exec c).2.feedRun ops).hub = (c.hub.step op).run ops
    rw [h₂, hhub]

end Campus

/-- Over every run of subscribes (with any filter), reads, client closes, deliveries (of any
events) and shutdowns on a fresh metered campus with a feed:

* the campus's hub goes through exactly those ops;
* every connection whose client is still there has been handed, in delivery order, exactly
  the frames of the events it wanted that were delivered while it was subscribed, before the
  delivery and after it: what its client read, then what still waits;
* at every step, a connection that exists and is not subscribed never becomes subscribed, and
  a subscription ends only by its client's close, by the shutdown, or by a delivery of an
  event it wants that finds its buffer full;
* the subscriber gauge reads the number of subscribers.

Counts below `2 ^ 53` are what a double holds exactly; the run's length bounds the count. -/
theorem feed_delivers_in_order_and_counts {w : Wiring} (ttl : Int) (hm : w.metered = true)
    (hf : w.feed.isSome = true) (ops : List Op) (hops : ops.length < 2 ^ 53) :
    let c₀ := Campus.fresh w ttl
    let c := c₀.feedRun ops
    c.hub = c₀.hub.run ops ∧
      (∀ k, c.hub.gone k = false →
        Hub.readBy k c₀.hub ops ++ c.hub.pending k = Hub.sentTo k c₀.hub ops) ∧
      (∀ pre op post, ops = pre ++ op :: post → ∀ k,
        ((c₀.hub.run pre).step op).live k = true →
          (c₀.hub.run pre).live k = true ∨ (c₀.hub.run pre).conn? k = none) ∧
      (∀ pre op post, ops = pre ++ op :: post → ∀ k,
        (c₀.hub.run pre).live k = true → ((c₀.hub.run pre).step op).live k = false →
          op = .close ∨ op = .closeClient k ∨
            ∃ e, op = .deliver e ∧ ∃ s, (c₀.hub.run pre).conn? k = some s ∧
              s.fallsBehind (c₀.hub.run pre).buffer e = true) ∧
      c.subscriberGauge = some (Float.ofNat c.hub.size) := by
  dsimp only
  have hn₀ : (Campus.fresh w ttl).hub.Numbered := Hub.numbered_empty _
  have h₀ : (Campus.fresh w ttl).hub.subscribers.length = 0 := rfl
  obtain ⟨hc, hhub, -⟩ := Campus.feedRun_counted hm hf (Campus.counted_fresh ttl hm hf) ops
    (by omega)
  refine ⟨hhub, fun k hg => ?_, fun pre op _ _ k => Hub.live_step_starts (hn₀.run pre) k op,
    fun pre op _ _ k => Hub.live_step_ends (hn₀.run pre) k op, ?_⟩
  · -- nothing waits on a fresh hub
    have h := Hub.pending_run hn₀ k ops (hhub ▸ hg)
    rw [← hhub] at h
    exact h.symm
  · -- the count is bounded by the connections, and those by the run's length
    have hlen := Hub.length_run hn₀ ops
    have hsz := ((Campus.fresh w ttl).feedRun ops).hub.size_le_length
    rw [h₀, ← hhub] at hlen
    exact hc.shows.reading (by omega)

/-- A run in which a client subscribes to every ledger's events, a stake's event is delivered,
the client reads it, and the server shuts the feed down. -/
theorem feed_promises_on_a_short_run :
    ({ metered := true, feed := some 2 } : Wiring).metered = true ∧
      ({ metered := true, feed := some 2 } : Wiring).feed.isSome = true ∧
      [Op.subscribe "" ⟨""⟩,
          Op.deliver { ledger := .staking, action := "staked", account := ⟨"ann"⟩, amount := 5 },
          Op.read 1 (some 1), Op.close].length < 2 ^ 53 ∧
      let c₀ := Campus.fresh { metered := true, feed := some 2 } 0
      let ops := [Op.subscribe "" ⟨""⟩,
          Op.deliver { ledger := .staking, action := "staked", account := ⟨"ann"⟩, amount := 5 },
          Op.read 1 (some 1), Op.close]
      let c := c₀.feedRun ops
      c.hub = c₀.hub.run ops ∧
        (∀ k, c.hub.gone k = false →
          Hub.readBy k c₀.hub ops ++ c.hub.pending k = Hub.sentTo k c₀.hub ops) ∧
        (∀ pre op post, ops = pre ++ op :: post → ∀ k,
          ((c₀.hub.run pre).step op).live k = true →
            (c₀.hub.run pre).live k = true ∨ (c₀.hub.run pre).conn? k = none) ∧
        (∀ pre op post, ops = pre ++ op :: post → ∀ k,
          (c₀.hub.run pre).live k = true → ((c₀.hub.run pre).step op).live k = false →
            op = .close ∨ op = .closeClient k ∨
              ∃ e, op = .deliver e ∧ ∃ s, (c₀.hub.run pre).conn? k = some s ∧
                s.fallsBehind (c₀.hub.run pre).buffer e = true) ∧
        c.subscriberGauge = some (Float.ofNat c.hub.size) :=
  ⟨rfl, rfl, by norm_num, feed_delivers_in_order_and_counts 0 rfl rfl _ (by norm_num)⟩

end CampusLedger
