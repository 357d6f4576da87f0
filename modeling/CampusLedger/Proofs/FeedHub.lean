import Mathlib
import CampusLedger.Feed.Hub
/-!
# What the feed hub promises its subscribers

The hub keeps every connection it ever made, numbered from one in order. Delivering an event
walks the subscribers as they were when the delivery began and updates each one by its number;
since numbers are distinct, that is the same as updating every subscriber on its own:
`Hub.deliver_eq` says a delivery maps `Subscriber.receive` over the subscribers and reports the
ones that fell behind. Every other operation touches one connection, or all of them alike.

Over any run of subscribes, reads, client closes, deliveries and shutdowns, for every
connection whose client is still there:

* what it had waiting, followed by every event delivered to it while it stayed subscribed
  (`Hub.sentTo`), is what its client read followed by what still waits (`Hub.pending_run`);
* a subscription ends only when its client closes it, the hub shuts down, or a delivery of an
  event it wants finds its buffer full (`Hub.live_step_ends`), and once ended it never starts
  again (`Hub.live_step_starts`);
* the count of subscribers drops by exactly the number each operation reports.
-/

namespace CampusLedger.Feed

namespace Subscriber

/-- Whether a delivery of `e` is for the subscriber: the event has a frame, the subscriber is
subscribed and wants it. -/
def takes (s : Subscriber) (e : Audit.Event) : Bool :=
  e.timestamp.writable && s.subscribed && s.wants e

/-- Whether a delivery of `e` drops the subscriber: it is for it and `buffer + 1` frames
already wait. -/
def fallsBehind (buffer : Nat) (e : Audit.Event) (s : Subscriber) : Bool :=
  s.takes e && decide (buffer + 1 ≤ s.frames.length)

/-- What one delivery of `e` does to a subscriber: one it is for gets the event's frame after
those it has, or is dropped when its buffer is full. -/
def receive (buffer : Nat) (e : Audit.Event) (s : Subscriber) : Subscriber :=
  if s.takes e then
    if buffer + 1 ≤ s.frames.length then { s with subscribed := false }
    else { s with frames := s.frames ++ [e.toJson.settle] }
  else s

@[simp] theorem receive_conn (buffer : Nat) (e : Audit.Event) (s : Subscriber) :
    (s.receive buffer e).conn = s.conn := by
  unfold receive; split_ifs <;> rfl

@[simp] theorem receive_clientClosed (buffer : Nat) (e : Audit.Event) (s : Subscriber) :
    (s.receive buffer e).clientClosed = s.clientClosed := by
  unfold receive; split_ifs <;> rfl

theorem subscribed_receive (buffer : Nat) (e : Audit.Event) (s : Subscriber) :
    (s.receive buffer e).subscribed = (s.subscribed && !s.fallsBehind buffer e) := by
  unfold receive fallsBehind takes
  by_cases hs : s.subscribed <;> by_cases hw : e.timestamp.writable <;>
    by_cases hwant : s.wants e <;> by_cases hb : buffer + 1 ≤ s.frames.length <;> simp [*]

theorem frames_receive (buffer : Nat) (e : Audit.Event) (s : Subscriber) :
    (s.receive buffer e).frames =
      s.frames ++ if s.takes e && !s.fallsBehind buffer e then [e.toJson.settle] else [] := by
  unfold receive fallsBehind
  by_cases ht : s.takes e <;> by_cases hb : buffer + 1 ≤ s.frames.length <;> simp [*]

end Subscriber

namespace Hub

variable {h : Hub}

/-- Connections are numbered from one, in the order they were made. -/
def Numbered (h : Hub) : Prop := h.subscribers.map (·.conn) = List.range' 1 h.subscribers.length

theorem Numbered.nodup (hn : h.Numbered) : (h.subscribers.map (·.conn)).Nodup := by
  rw [hn]; exact List.nodup_range'

theorem Numbered.conn_le (hn : h.Numbered) {s : Subscriber} (hs : s ∈ h.subscribers) :
    s.conn ≤ h.subscribers.length := by
  have : s.conn ∈ h.subscribers.map (·.conn) := List.mem_map_of_mem hs
  rw [hn, List.mem_range'_1] at this
  omega

theorem numbered_empty (buffer : Nat) : ({ buffer } : Hub).Numbered := rfl

/-- A hub whose subscribers are those of a numbered hub, each updated without touching its
number, is numbered. -/
theorem Numbered.of_map (hn : h.Numbered) {h' : Hub} {f : Subscriber → Subscriber}
    (hf : ∀ s, (f s).conn = s.conn) (he : h'.subscribers = h.subscribers.map f) : h'.Numbered := by
  unfold Numbered at hn ⊢
  rw [he, List.map_map, List.length_map, ← hn]
  exact List.map_congr_left fun s _ => hf s

/-- Updating every subscriber without touching its number updates each connection alike. -/
theorem conn?_of_map {h' : Hub} {f : Subscriber → Subscriber} (hf : ∀ s, (f s).conn = s.conn)
    (he : h'.subscribers = h.subscribers.map f) (k : Nat) : h'.conn? k = (h.conn? k).map f := by
  have hp : ((fun s : Subscriber => s.conn == k) ∘ f) = fun s => s.conn == k := by
    funext s
    simp only [Function.comp, hf]
  simp only [conn?, he, List.find?_map, hp]

theorem updateConn_eq_map (k : Nat) (g : Subscriber → Subscriber) :
    h.updateConn k g =
      { h with subscribers := h.subscribers.map fun s => if s.conn == k then g s else s } := rfl

theorem conn_update {g : Subscriber → Subscriber} (hg : ∀ s, (g s).conn = s.conn) (k : Nat)
    (s : Subscriber) : (if s.conn == k then g s else s).conn = s.conn := by
  split <;> simp [hg]

theorem Numbered.updateConn (hn : h.Numbered) {g : Subscriber → Subscriber}
    (hg : ∀ s, (g s).conn = s.conn) (k : Nat) : (h.updateConn k g).Numbered :=
  hn.of_map (conn_update hg k) rfl

/-- A connection reads back updated when it is the one updated, unchanged otherwise. -/
theorem conn?_updateConn {g : Subscriber → Subscriber} (hg : ∀ s, (g s).conn = s.conn)
    (k k' : Nat) :
    (h.updateConn k g).conn? k' = (h.conn? k').map fun s => if k' = k then g s else s := by
  rw [conn?_of_map (conn_update hg k) rfl]
  cases hf : h.conn? k' with
  | none => rfl
  | some s =>
    have hs : s.conn = k' := by simpa using List.find?_some hf
    simp [hs]

/-- An update by a number no subscriber of the list has leaves the list alone. -/
theorem map_update_of_ne {l : List Subscriber} {k : Nat} (g : Subscriber → Subscriber)
    (hl : ∀ t ∈ l, t.conn ≠ k) : l.map (fun s => if s.conn == k then g s else s) = l := by
  rw [List.map_congr_left (g := id) fun t ht => by simp [hl t ht], List.map_id]

theorem updateConn_at (pre post : List Subscriber) {s : Subscriber}
    (hpre : ∀ t ∈ pre, t.conn ≠ s.conn) (hpost : ∀ t ∈ post, t.conn ≠ s.conn)
    (g : Subscriber → Subscriber) :
    ({ h with subscribers := pre ++ s :: post } : Hub).updateConn s.conn g =
      { h with subscribers := pre ++ g s :: post } := by
  simp only [updateConn_eq_map, List.map_append, List.map_cons, beq_self_eq_true, if_true,
    map_update_of_ne g hpre, map_update_of_ne g hpost]

theorem not_mem_conns {l : List Subscriber} {k : Nat} (hk : k ∉ l.map (·.conn)) :
    ∀ t ∈ l, t.conn ≠ k :=
  fun _ ht htk => hk (htk ▸ List.mem_map_of_mem ht)

/-- With distinct numbers, the connection found is the only one an update touches. -/
theorem updateConn_split (hnd : (h.subscribers.map (·.conn)).Nodup) {k : Nat} {s : Subscriber}
    (hk : h.conn? k = some s) (g : Subscriber → Subscriber) :
    ∃ pre post, h.subscribers = pre ++ s :: post ∧
      (h.updateConn k g).subscribers = pre ++ g s :: post := by
  obtain ⟨hs, pre, post, hl, hpre⟩ := List.find?_eq_some_iff_append.mp hk
  have hsk : s.conn = k := by simpa using hs
  rw [hl, List.map_append, List.map_cons, List.nodup_append, List.nodup_cons] at hnd
  obtain ⟨-, ⟨hpost, -⟩, -⟩ := hnd
  refine ⟨pre, post, hl, ?_⟩
  have hh : h = { h with subscribers := pre ++ s :: post } := by rw [← hl]
  rw [hh, ← hsk, updateConn_at pre post (fun t ht => by simpa [hsk] using hpre t ht)
    (not_mem_conns hpost)]

theorem size_eq_countP (h : Hub) : h.size = h.subscribers.countP (·.subscribed) :=
  List.countP_eq_length_filter.symm

/-- Updates that keep every subscription keep the count. -/
theorem size_updateConn_of_keeps {g : Subscriber → Subscriber}
    (hg : ∀ s, (g s).subscribed = s.subscribed) (k : Nat) : (h.updateConn k g).size = h.size := by
  simp only [size_eq_countP, updateConn_eq_map, List.countP_map]
  refine List.countP_congr fun s _ => ?_
  simp only [Function.comp]
  split <;> simp [hg]

theorem size_updateConn (hnd : (h.subscribers.map (·.conn)).Nodup) {k : Nat} {s : Subscriber}
    (hk : h.conn? k = some s) (g : Subscriber → Subscriber) :
    (h.updateConn k g).size + (if s.subscribed then 1 else 0) =
      h.size + if (g s).subscribed then 1 else 0 := by
  obtain ⟨pre, post, hl, hl'⟩ := updateConn_split hnd hk g
  simp only [size_eq_countP, hl, hl', List.countP_append, List.countP_cons]
  omega

def joiner (h : Hub) (ledger : String) (account : AccountId) : Subscriber :=
  { conn := h.subscribers.length + 1, ledger, account, subscribed := !h.shut, finished := h.shut }

theorem subscribe_eq (ledger : String) (account : AccountId) :
    h.subscribe ledger account =
      (h.subscribers.length + 1,
        { h with subscribers := h.subscribers ++ [h.joiner ledger account] }) := rfl

theorem Numbered.subscribe (hn : h.Numbered) (ledger : String) (account : AccountId) :
    (h.subscribe ledger account).2.Numbered := by
  unfold Numbered at hn ⊢
  simp only [subscribe_eq, List.map_append, hn, List.length_append, List.length_cons,
    List.length_nil, List.map_cons, List.map_nil]
  rw [List.range'_1_concat, Nat.add_comm]
  rfl

theorem conn?_subscribe (hn : h.Numbered) (ledger : String) (account : AccountId) (k : Nat) :
    (h.subscribe ledger account).2.conn? k =
      if k = h.subscribers.length + 1 then some (h.joiner ledger account) else h.conn? k := by
  simp only [conn?, subscribe_eq, List.find?_append]
  split
  · rename_i hk
    subst hk
    have hnone : h.subscribers.find? (·.conn == h.subscribers.length + 1) = none := by
      simp only [List.find?_eq_none, beq_iff_eq]
      intro s hs hsk
      have := hn.conn_le hs
      omega
    simp [hnone, joiner]
  · rename_i hk
    cases h.subscribers.find? (·.conn == k) <;> simp [joiner, Ne.symm hk]

theorem size_subscribe (ledger : String) (account : AccountId) :
    (h.subscribe ledger account).2.size = h.size + if h.shut then 0 else 1 := by
  simp only [size_eq_countP, subscribe_eq, List.countP_append, joiner]
  cases h.shut <;> simp

/-- One subscriber's turn in a delivery of `e`. -/
def deliverStep (e : Audit.Event) : Nat × Hub → Subscriber → Nat × Hub := fun (dropped, h) s =>
  if !s.subscribed || !s.wants e then (dropped, h)
  else if s.frames.length ≥ h.buffer + 1 then
    (dropped + 1, h.updateConn s.conn fun s => { s with subscribed := false })
  else (dropped, h.updateConn s.conn fun s => { s with frames := s.frames ++ [e.toJson.settle] })

theorem deliver_eq_foldl (e : Audit.Event) :
    h.deliver e = if !e.timestamp.writable then (0, h) else h.subscribers.foldl (deliverStep e) (0, h) :=
  rfl

/-- The turn of a subscriber that sits between subscribers with other numbers. -/
theorem deliverStep_at {e : Audit.Event} (hw : e.timestamp.writable = true) (n : Nat)
    (pre post : List Subscriber) {s : Subscriber} (hpre : ∀ t ∈ pre, t.conn ≠ s.conn)
    (hpost : ∀ t ∈ post, t.conn ≠ s.conn) :
    deliverStep e (n, { h with subscribers := pre ++ s :: post }) s =
      (n + if s.fallsBehind h.buffer e then 1 else 0,
        { h with subscribers := pre ++ s.receive h.buffer e :: post }) := by
  unfold deliverStep
  simp only [updateConn_at pre post hpre hpost]
  unfold Subscriber.receive Subscriber.fallsBehind Subscriber.takes
  by_cases hs : s.subscribed <;> by_cases hwant : s.wants e <;>
    by_cases hb : h.buffer + 1 ≤ s.frames.length <;> simp [hs, hwant, hb, hw]

/-- The walk of a delivery: after the subscribers in `pre` had their turn, the rest is served
one by one, each by its own number. -/
theorem foldl_deliverStep {e : Audit.Event} (hw : e.timestamp.writable = true)
    (l pre : List Subscriber) (n : Nat) (hnd : ((pre ++ l).map (·.conn)).Nodup) :
    l.foldl (deliverStep e) (n, { h with subscribers := pre.map (·.receive h.buffer e) ++ l }) =
      (n + l.countP (·.fallsBehind h.buffer e),
        { h with subscribers := (pre ++ l).map (·.receive h.buffer e) }) := by
  induction l generalizing pre n with
  | nil => simp
  | cons s l ih =>
    have hnd' : (((pre ++ [s]) ++ l).map (·.conn)).Nodup := by simpa using hnd
    rw [List.map_append, List.map_cons, List.nodup_append, List.nodup_cons] at hnd
    obtain ⟨-, ⟨hpost, -⟩, hdisj⟩ := hnd
    have hpre : ∀ t ∈ pre.map (·.receive h.buffer e), t.conn ≠ s.conn := by
      simp only [List.mem_map]
      rintro _ ⟨t, ht, rfl⟩ hts
      exact hdisj _ (List.mem_map_of_mem ht) _ (List.mem_cons_self ..) (by simpa using hts)
    rw [List.foldl_cons, deliverStep_at hw n _ l hpre (not_mem_conns hpost)]
    have hsplit : pre.map (·.receive h.buffer e) ++ s.receive h.buffer e :: l =
        (pre ++ [s]).map (·.receive h.buffer e) ++ l := by simp
    rw [hsplit, ih (pre ++ [s]) _ hnd', List.countP_cons]
    simp only [List.append_assoc, List.singleton_append, Prod.mk.injEq, and_true]
    omega

/-- A delivery updates every subscriber on its own, and reports those that fell behind. -/
theorem deliver_eq (hnd : (h.subscribers.map (·.conn)).Nodup) (e : Audit.Event) :
    h.deliver e = (h.subscribers.countP (·.fallsBehind h.buffer e),
      { h with subscribers := h.subscribers.map (·.receive h.buffer e) }) := by
  rw [deliver_eq_foldl]
  cases hw : e.timestamp.writable
  · -- an event without a frame is for nobody
    have hid : ∀ s : Subscriber, s.receive h.buffer e = s := by
      simp [Subscriber.receive, Subscriber.takes, hw]
    have hz : ∀ s : Subscriber, s.fallsBehind h.buffer e = false := by
      simp [Subscriber.fallsBehind, Subscriber.takes, hw]
    simp [hid, hz]
  · have := foldl_deliverStep (h := h) hw h.subscribers [] 0 (by simpa using hnd)
    simpa using this

theorem Numbered.deliver (hn : h.Numbered) (e : Audit.Event) : (h.deliver e).2.Numbered := by
  rw [deliver_eq hn.nodup]
  exact hn.of_map (Subscriber.receive_conn _ _) rfl

theorem conn?_deliver (hn : h.Numbered) (e : Audit.Event) (k : Nat) :
    (h.deliver e).2.conn? k = (h.conn? k).map (·.receive h.buffer e) := by
  rw [deliver_eq hn.nodup]
  exact conn?_of_map (Subscriber.receive_conn _ _) rfl k

theorem countP_fallsBehind_add (buffer : Nat) (e : Audit.Event) (l : List Subscriber) :
    l.countP (·.fallsBehind buffer e) + (l.map (·.receive buffer e)).countP (·.subscribed) =
      l.countP (·.subscribed) := by
  induction l with
  | nil => rfl
  | cons s l ih =>
    have hsub : s.fallsBehind buffer e = true → s.subscribed = true := by
      simp +contextual [Subscriber.fallsBehind, Subscriber.takes]
    simp only [List.map_cons, List.countP_cons, Subscriber.subscribed_receive]
    cases hs : s.subscribed <;> cases hf : s.fallsBehind buffer e <;> simp_all <;> omega

/-- A delivery reports as fallen behind exactly the subscribers it drops. -/
theorem size_deliver (hn : h.Numbered) (e : Audit.Event) :
    (h.deliver e).1 + (h.deliver e).2.size = h.size := by
  rw [deliver_eq hn.nodup, size_eq_countP, size_eq_countP]
  exact countP_fallsBehind_add _ _ _

theorem close_eq (h : Hub) :
    h.close =
      (h.size, { h with shut := true,
                        subscribers := h.subscribers.map fun s => { s with subscribed := false } }) :=
  rfl

theorem Numbered.close (hn : h.Numbered) : h.close.2.Numbered :=
  hn.of_map (f := fun s => { s with subscribed := false }) (fun _ => rfl) rfl

theorem conn?_close (k : Nat) :
    h.close.2.conn? k = (h.conn? k).map fun s => { s with subscribed := false } :=
  conn?_of_map (f := fun s => { s with subscribed := false }) (fun _ => rfl) rfl k

theorem size_close (h : Hub) : h.close.2.size = 0 := by
  simp [size_eq_countP, close_eq]

/-- What a client's closing does to its connection. -/
def hangUp (s : Subscriber) : Subscriber :=
  { s with clientClosed := true, subscribed := false, finished := true, frames := [] }

theorem closeClient_eq (k : Nat) :
    h.closeClient k =
      match h.conn? k with
      | none => ((false, false), h)
      | some s =>
        if s.clientClosed then ((false, false), h)
        else ((s.subscribed, !s.finished), h.updateConn k hangUp) := rfl

theorem conn?_closeClient (k k' : Nat) :
    (h.closeClient k).2.conn? k' =
      (h.conn? k').map fun s => if k' = k ∧ s.clientClosed = false then hangUp s else s := by
  rw [closeClient_eq]
  split
  · rename_i hk
    by_cases hkk : k' = k
    · subst hkk; simp [hk]
    · simp [hkk]
  · rename_i s hk
    split
    · by_cases hkk : k' = k
      · subst hkk; simp [*]
      · simp [hkk]
    · rw [conn?_updateConn (g := hangUp) (fun _ => rfl)]
      by_cases hkk : k' = k
      · subst hkk; simp [*]
      · simp [hkk]

theorem Numbered.closeClient (hn : h.Numbered) (k : Nat) : (h.closeClient k).2.Numbered := by
  rw [closeClient_eq]
  split
  · exact hn
  · split
    · exact hn
    · exact hn.updateConn (g := hangUp) (fun _ => rfl) k

/-- A client's closing reports whether it ended a subscription, and the count drops by that. -/
theorem size_closeClient (hn : h.Numbered) (k : Nat) :
    (h.closeClient k).2.size + (if (h.closeClient k).1.1 then 1 else 0) = h.size := by
  rw [closeClient_eq]
  split
  · simp
  · rename_i s hk
    split
    · simp
    · simpa [hangUp] using size_updateConn hn.nodup hk hangUp

theorem updateConn_id (k : Nat) : h.updateConn k id = h := by
  simp [updateConn_eq_map]

/-- A read touches only the connection read, keeps its subscription, and takes frames from the
front of those waiting: the frames read and those left are the frames that waited. -/
theorem read_takes_front (k : Nat) (limit : Option Nat) :
    ∃ g : Subscriber → Subscriber, (h.read k limit).2 = h.updateConn k g ∧
      (∀ s, (g s).conn = s.conn ∧ (g s).subscribed = s.subscribed ∧
        (g s).clientClosed = s.clientClosed) ∧
      (h.conn? k = none → (h.read k limit).1.frames = []) ∧
      ∀ s, h.conn? k = some s → (h.read k limit).1.frames ++ (g s).frames = s.frames := by
  have hkeep : ∀ r : Reading, r.frames = [] → ∀ s, h.conn? k = some s →
      r.frames ++ (id s).frames = s.frames := by
    intro r hr s _; simp [hr]
  unfold read
  split
  · -- no such connection
    exact ⟨id, (updateConn_id k).symm, fun _ => ⟨rfl, rfl, rfl⟩, fun _ => rfl, hkeep {} rfl⟩
  · rename_i s hk
    have hone : ∀ s₀, h.conn? k = some s₀ → s₀ = s := by
      intro s₀ h₀; rw [hk] at h₀; exact (Option.some.inj h₀).symm
    have hnone : h.conn? k ≠ none := by simp [hk]
    split
    · -- the client closed its side
      exact ⟨id, (updateConn_id k).symm, fun _ => ⟨rfl, rfl, rfl⟩, (absurd · hnone), hkeep _ rfl⟩
    split
    · -- an earlier read found silence
      exact ⟨id, (updateConn_id k).symm, fun _ => ⟨rfl, rfl, rfl⟩, (absurd · hnone), hkeep _ rfl⟩
    split
    · -- the close frame was read before
      exact ⟨id, (updateConn_id k).symm, fun _ => ⟨rfl, rfl, rfl⟩, (absurd · hnone), hkeep _ rfl⟩
    -- the frames taken are a prefix, the rest stays
    dsimp only
    split
    · refine ⟨_, rfl, fun _ => ⟨rfl, rfl, rfl⟩, (absurd · hnone), fun s₀ h₀ => ?_⟩
      simp [hone s₀ h₀]
    split
    · refine ⟨_, rfl, fun _ => ⟨rfl, rfl, rfl⟩, (absurd · hnone), fun s₀ h₀ => ?_⟩
      simp [hone s₀ h₀]
    · refine ⟨_, rfl, fun _ => ⟨rfl, rfl, rfl⟩, (absurd · hnone), fun s₀ h₀ => ?_⟩
      simp [hone s₀ h₀]

theorem Numbered.read (hn : h.Numbered) (k : Nat) (limit : Option Nat) :
    (h.read k limit).2.Numbered := by
  obtain ⟨g, hr, hg, -⟩ := h.read_takes_front k limit
  rw [hr]
  exact hn.updateConn (fun s => (hg s).1) k

theorem size_read (k : Nat) (limit : Option Nat) : (h.read k limit).2.size = h.size := by
  obtain ⟨g, hr, hg, -⟩ := h.read_takes_front k limit
  rw [hr]
  exact size_updateConn_of_keeps (fun s => (hg s).2.1) k

end Hub

/-- What happens at the hub: a client subscribes, reads or closes its side, the publisher
delivers an event, or the server shuts the hub down. -/
inductive Op where
  | subscribe (ledger : String) (account : AccountId)
  | read (conn : Nat) (limit : Option Nat)
  | closeClient (conn : Nat)
  | deliver (e : Audit.Event)
  | close

namespace Hub

variable {h : Hub}

def step (h : Hub) : Op → Hub
  | .subscribe ledger account => (h.subscribe ledger account).2
  | .read k limit => (h.read k limit).2
  | .closeClient k => (h.closeClient k).2
  | .deliver e => (h.deliver e).2
  | .close => h.close.2

def run (h : Hub) (ops : List Op) : Hub := ops.foldl step h

def pending (h : Hub) (k : Nat) : List Json := ((h.conn? k).map (·.frames)).getD []

def live (h : Hub) (k : Nat) : Bool := (h.conn? k).any (·.subscribed)

/-- Whether the client of a connection has closed its side. -/
def gone (h : Hub) (k : Nat) : Bool := (h.conn? k).any (·.clientClosed)

/-- The frames an op hands to the client of connection `k`: what a read of `k` returned. -/
def handed (h : Hub) (k : Nat) : Op → List Json
  | .read k' limit => if k' = k then (h.read k' limit).1.frames else []
  | _ => []

/-- What an op owes connection `k`: the frame of a delivered event that has one and that `k`
wants, when `k` is subscribed before the delivery and still after it. -/
def owed (h : Hub) (k : Nat) : Op → List Json
  | .deliver e =>
    if e.timestamp.writable && (h.conn? k).any (·.wants e) && h.live k &&
        (h.step (.deliver e)).live k then [e.toJson.settle]
    else []
  | _ => []

/-- What a run hands to the client of `k`, in order. -/
def readBy (k : Nat) : Hub → List Op → List Json
  | _, [] => []
  | h, op :: ops => h.handed k op ++ readBy k (h.step op) ops

/-- What a run owes `k`, in order. -/
def sentTo (k : Nat) : Hub → List Op → List Json
  | _, [] => []
  | h, op :: ops => h.owed k op ++ sentTo k (h.step op) ops

theorem Numbered.step (hn : h.Numbered) : ∀ op, (h.step op).Numbered
  | .subscribe ledger account => hn.subscribe ledger account
  | .read k limit => hn.read k limit
  | .closeClient k => hn.closeClient k
  | .deliver e => hn.deliver e
  | .close => hn.close

theorem Numbered.run (hn : h.Numbered) (ops : List Op) : (h.run ops).Numbered := by
  induction ops generalizing h with
  | nil => exact hn
  | cons op ops ih => exact ih (hn.step op)

theorem Numbered.conn?_next (hn : h.Numbered) : h.conn? (h.subscribers.length + 1) = none := by
  simp only [conn?, List.find?_eq_none, beq_iff_eq]
  intro s hs hsk
  have := hn.conn_le hs
  omega

/-- The frames waiting on a connection change by what the op owes it and what it hands to its
client: owed frames join at the back, handed frames leave from the front. -/
theorem pending_step (hn : h.Numbered) (k : Nat) :
    ∀ op, (h.step op).gone k = false →
      h.pending k ++ h.owed k op = h.handed k op ++ (h.step op).pending k
  | .subscribe ledger account, _ => by
    simp only [step, owed, handed, pending, conn?_subscribe hn, List.append_nil, List.nil_append]
    split
    · rename_i hk; subst hk; simp [hn.conn?_next, joiner]
    · rfl
  | .read k' limit, _ => by
    obtain ⟨g, hr, hg, hnone, hsome⟩ := h.read_takes_front k' limit
    simp only [step, owed, handed, pending, hr, conn?_updateConn (fun s => (hg s).1),
      List.append_nil]
    by_cases hk : k' = k
    · subst hk
      cases hs : h.conn? k' with
      | none => simp [hnone hs]
      | some s => simp [hsome s hs]
    · simp [hk, Ne.symm hk]
  | .closeClient k', hg => by
    simp only [step, gone, conn?_closeClient] at hg
    simp only [step, owed, handed, pending, conn?_closeClient, List.append_nil, List.nil_append]
    cases hs : h.conn? k with
    | none => rfl
    | some s =>
      rw [hs] at hg
      -- the client of `k` did not just close its side, so its connection is as it was
      by_cases hc : k = k' ∧ s.clientClosed = false
      · simp [hc, hangUp] at hg
      · simp [hc]
  | .deliver e, _ => by
    simp only [step, owed, handed, pending, live, conn?_deliver hn, List.nil_append]
    cases hs : h.conn? k with
    | none => simp
    | some s =>
      have hcond : (e.timestamp.writable && s.wants e && s.subscribed &&
          (s.subscribed && !s.fallsBehind h.buffer e)) = (s.takes e && !s.fallsBehind h.buffer e) := by
        unfold Subscriber.takes
        cases e.timestamp.writable <;> cases s.wants e <;> cases s.subscribed <;> rfl
      simp only [Option.map_some, Option.getD_some, Option.any_some, Subscriber.frames_receive,
        Subscriber.subscribed_receive, hcond]
  | .close, _ => by
    simp only [step, owed, handed, pending, conn?_close, List.append_nil, List.nil_append]
    cases h.conn? k <;> rfl

theorem size_le_length (h : Hub) : h.size ≤ h.subscribers.length := by
  rw [size_eq_countP]; exact List.countP_le_length

/-- Only a subscribe adds a connection, and only one. -/
theorem length_step (hn : h.Numbered) :
    ∀ op, (h.step op).subscribers.length ≤ h.subscribers.length + 1
  | .subscribe ledger account => by simp [step, subscribe_eq]
  | .read k limit => by
    obtain ⟨g, hr, -⟩ := h.read_takes_front k limit
    simp [step, hr, updateConn_eq_map]
  | .closeClient k => by
    rw [step, closeClient_eq]
    split
    · simp
    · split <;> simp [updateConn_eq_map]
  | .deliver e => by simp [step, deliver_eq hn.nodup]
  | .close => by simp [step, close_eq]

theorem length_run (hn : h.Numbered) (ops : List Op) :
    (h.run ops).subscribers.length ≤ h.subscribers.length + ops.length := by
  induction ops generalizing h with
  | nil => simp [run]
  | cons op ops ih =>
    have := ih (hn.step op)
    have := length_step hn op
    simp only [run, List.foldl_cons, List.length_cons] at *
    omega

/-- A client that closed its side stays gone. -/
theorem gone_step (hn : h.Numbered) (k : Nat) :
    ∀ op, h.gone k = true → (h.step op).gone k = true
  | .subscribe ledger account, hg => by
    simp only [gone, step, conn?_subscribe hn] at hg ⊢
    split
    · rename_i hk; subst hk; simp [hn.conn?_next] at hg
    · exact hg
  | .read k' limit, hg => by
    obtain ⟨g, hr, hkeep, -⟩ := h.read_takes_front k' limit
    simp only [gone, step, hr, conn?_updateConn (fun s => (hkeep s).1)] at hg ⊢
    cases hs : h.conn? k <;> simp_all
    split <;> simp_all
  | .closeClient k', hg => by
    simp only [gone, step, conn?_closeClient] at hg ⊢
    cases hs : h.conn? k <;> simp_all [hangUp]
  | .deliver e, hg => by
    simp only [gone, step, conn?_deliver hn] at hg ⊢
    cases hs : h.conn? k <;> simp_all
  | .close, hg => by
    simp only [gone, step, conn?_close] at hg ⊢
    cases hs : h.conn? k <;> simp_all

theorem gone_run (hn : h.Numbered) (k : Nat) (ops : List Op) (hg : h.gone k = true) :
    (h.run ops).gone k = true := by
  induction ops generalizing h with
  | nil => exact hg
  | cons op ops ih => exact ih (hn.step op) (gone_step hn k op hg)

/-- Over any run, a connection whose client is still there has had, in order, what waited on
it and every frame owed to it: its client read them or they still wait. -/
theorem pending_run (hn : h.Numbered) (k : Nat) (ops : List Op) (hg : (h.run ops).gone k = false) :
    h.pending k ++ sentTo k h ops = readBy k h ops ++ (h.run ops).pending k := by
  induction ops generalizing h with
  | nil => simp [sentTo, readBy, run]
  | cons op ops ih =>
    -- the client was still there after the first op, since a gone client stays gone
    have hg₁ : (h.step op).gone k = false := by
      cases h₁ : (h.step op).gone k
      · rfl
      · have := gone_run (hn.step op) k ops h₁
        simp only [run, List.foldl_cons] at hg this
        simp [this] at hg
    have ih₁ := ih (hn.step op) hg
    simp only [sentTo, readBy, run, List.foldl_cons] at ih₁ ⊢
    rw [← List.append_assoc, pending_step hn k op hg₁, List.append_assoc, ih₁, List.append_assoc]

/-- No op starts a subscription on a connection that already exists: only a new connection
can come up subscribed. -/
theorem live_step_starts (hn : h.Numbered) (k : Nat) :
    ∀ op, (h.step op).live k = true → h.live k = true ∨ h.conn? k = none
  | .subscribe ledger account, hl => by
    simp only [live, step, conn?_subscribe hn] at hl ⊢
    split at hl
    · rename_i hk; subst hk; exact .inr hn.conn?_next
    · exact .inl hl
  | .read k' limit, hl => by
    obtain ⟨g, hr, hkeep, -⟩ := h.read_takes_front k' limit
    simp only [live, step, hr, conn?_updateConn (fun s => (hkeep s).1)] at hl ⊢
    left
    cases hs : h.conn? k <;> simp_all
    split at hl <;> simp_all
  | .closeClient k', hl => by
    simp only [live, step, conn?_closeClient] at hl ⊢
    left
    cases hs : h.conn? k <;> simp_all
    split at hl <;> simp_all [hangUp]
  | .deliver e, hl => by
    simp only [live, step, conn?_deliver hn] at hl ⊢
    left
    cases hs : h.conn? k <;> simp_all [Subscriber.subscribed_receive]
  | .close, hl => by
    simp only [live, step, conn?_close] at hl
    cases hs : h.conn? k <;> simp_all

/-- A subscription ends only when its client closes its side, the hub shuts down, or a
delivery finds its buffer full. -/
theorem live_step_ends (hn : h.Numbered) (k : Nat) :
    ∀ op, h.live k = true → (h.step op).live k = false →
      op = .close ∨ op = .closeClient k ∨
        ∃ e, op = .deliver e ∧ ∃ s, h.conn? k = some s ∧ s.fallsBehind h.buffer e = true
  | .subscribe ledger account, hl, hl' => by
    simp only [live, step, conn?_subscribe hn] at hl hl'
    split at hl'
    · rename_i hk; subst hk; simp [hn.conn?_next] at hl
    · simp [hl] at hl'
  | .read k' limit, hl, hl' => by
    obtain ⟨g, hr, hkeep, -⟩ := h.read_takes_front k' limit
    simp only [live, step, hr, conn?_updateConn (fun s => (hkeep s).1)] at hl hl'
    cases hs : h.conn? k <;> simp_all
    split at hl' <;> simp_all
  | .closeClient k', hl, hl' => by
    by_cases hk : k = k'
    · exact .inr (.inl (by rw [hk]))
    · simp only [live, step, conn?_closeClient, hk, false_and, if_false, Option.map_id'] at hl hl'
      simp [hl] at hl'
  | .deliver e, hl, hl' => by
    simp only [live, step, conn?_deliver hn] at hl hl'
    cases hs : h.conn? k with
    | none => simp [hs] at hl
    | some s =>
      simp only [hs, Option.any_some, Option.map_some, Subscriber.subscribed_receive] at hl hl'
      simp only [hl, Bool.true_and, Bool.not_eq_false'] at hl'
      exact .inr (.inr ⟨e, rfl, s, rfl, hl'⟩)
  | .close, _, _ => .inl rfl

end Hub

end CampusLedger.Feed
