import Mathlib
import CampusLedger.Api.ReadRoutes
import CampusLedger.Proofs.CallConditions
import CampusLedger.Proofs.DecimalNumerals
import CampusLedger.Proofs.AccountNames
/-!
# The audit history

The journal keeps its events in the order they were appended. Listed by account, it gives the
account's events in that order; listed for recent events under a limit `k`, it gives the last
`k` of them newest first, all of them when fewer were appended, and all of them when `k` is not
positive.

The history route lists an account's events when its query names one, whatever else the query
holds. Otherwise it reads a limit from the first `limit` value of the query: an absent or empty
value means fifty, and any other value must be one the signed reader of 64-bit integers reads
to one to five hundred, which are exactly the signed numerals of those values. Every other
value is the one bad request, and the campus stays as it was.

Main statement: `recent_history_within_limits`. An empty limit counts as none, and a named
account is listed whatever the limit: `blank_limit_and_named_account_are_listed`.
-/

namespace CampusLedger

open Text Act

namespace Audit.Journal

variable (j : Journal)

/-- Appending events one by one keeps them, in order, after the journal's own. -/
@[simp] theorem events_foldl_append (es : List Event) :
    (es.foldl append j).events = j.events ++ es := by
  induction es generalizing j with
  | nil => simp
  | cons e es ih => simp [ih, append]

/-- A limit that is not positive lists every event, newest first. -/
theorem recent_of_nonpos {k : Int} (hk : k ≤ 0) : j.recent k = j.events.reverse := by
  simp [recent, hk]

/-- A positive limit `k` lists the last `min k n` of the `n` events, newest first. -/
theorem recent_of_pos {k : Int} (hk : 1 ≤ k) :
    j.recent k = (j.events.drop (j.events.length - min k.toNat j.events.length)).reverse := by
  rw [recent, if_neg (by omega), List.take_reverse]
  -- past the journal's length the cut is at its start either way
  congr 2
  omega

/-- An account's listing is its events, in the order they were appended. -/
theorem byAccount_eq_filter (a : AccountId) :
    j.byAccount a = j.events.filter (fun e => e.account = a) := rfl

end Audit.Journal

namespace Act

variable {α β : Type} {c c' : Campus}

theorem exec_map_of_ok {x : Act α} {f : α → β} {a : α} (h : x.exec c = (.ok a, c')) :
    (f <$> x).exec c = (.ok (f a), c') := by
  rw [map_eq_pure_bind, exec_bind, h]
  rfl

theorem exec_tryCatch_of_ok {x : Act α} {k : Failure → Act α} {a : α}
    (h : x.exec c = (.ok a, c')) : (tryCatch x k).exec c = (.ok a, c') := by
  rw [exec_tryCatch, h]

end Act

namespace Api

/-- A limit is read as fifty when none is given, and otherwise as the value the signed reader
gives, when that value is one to five hundred. -/
theorem historyLimit_eq_ok_iff (raw : List UInt8) (n : Int) :
    historyLimit raw = .ok n ↔
      raw = [] ∧ n = defaultHistoryLimit ∨
        raw ≠ [] ∧ Decimal.parseInteger 64 (Utf8.toText raw) = .ok n ∧ 1 ≤ n ∧
          n ≤ maxHistoryLimit := by
  unfold historyLimit
  cases raw with
  | nil => simp [eq_comm]
  | cons b bs =>
    simp only [List.isEmpty_cons, Bool.false_eq_true, if_false, reduceCtorEq, false_and, false_or,
      ne_eq, not_false_eq_true, true_and]
    split
    · next m hm =>
      rw [hm, Except.ok.injEq]
      split_ifs with hrange
      · simp only [Bool.or_eq_true, decide_eq_true_eq] at hrange
        simp only [false_iff, not_and]
        omega
      · simp only [Bool.or_eq_true, decide_eq_true_eq, not_or] at hrange
        simp only [Except.ok.injEq]
        omega
    · next f hm =>
      simp only [hm, reduceCtorEq, false_and]

/-- Every refused limit is the same bad request. -/
theorem historyLimit_eq_error {raw : List UInt8} {e : Failure} (h : historyLimit raw = .error e) :
    e = badRequest "limit must be between 1 and 500" := by
  unfold historyLimit at h
  split_ifs at h
  split at h
  · split_ifs at h
    cases h
    rfl
  · cases h
    rfl

/-- The limits read from a given value are the signed numerals of one to five hundred; no such
value is near the edge of the 64-bit range. -/
theorem historyLimit_eq_ok_iff_numeral (raw : List UInt8) (n : Int) :
    historyLimit raw = .ok n ↔
      raw = [] ∧ n = 50 ∨
        raw ≠ [] ∧ Decimal.SignedNumeral (Utf8.toText raw) n ∧ 1 ≤ n ∧ n ≤ 500 := by
  rw [historyLimit_eq_ok_iff, Decimal.parseInteger_eq_ok_iff (by decide)]
  have hcut : ((Nat.pow 2 (64 - 1) : Nat) : Int) = 9223372036854775808 := by decide
  simp only [defaultHistoryLimit, maxHistoryLimit, hcut]
  constructor
  · rintro (h | ⟨hne, ⟨hnum, -, -⟩, hlo, hhi⟩)
    · exact .inl h
    · exact .inr ⟨hne, hnum, hlo, hhi⟩
  · rintro (h | ⟨hne, hnum, hlo, hhi⟩)
    · exact .inl h
    · exact .inr ⟨hne, ⟨hnum, by omega, by omega⟩, hlo, hhi⟩

/-- A listing that reads the campus past an unarmed call site answers with the events and
changes nothing. -/
theorem exec_listed_unarmed {s : Campus} (site : String) (f : Campus → List Audit.Event)
    (hf : s.faults.countOf site = 0) :
    (ReadRoutes.listed (do faultAt site; pure (f (← get)))).exec s =
      (.ok (.ofJson 200 (.obj [("events", eventsJson (f s))])), s) := by
  have hread : (do faultAt site; pure (f (← get)) : Act (List Audit.Event)).exec s =
      (.ok (f s), s) := by
    rw [exec_bind, exec_faultAt_zero hf]
    rfl
  unfold ReadRoutes.listed respond
  rw [exec_tryCatch_of_ok (exec_map_of_ok (exec_tryCatch_of_ok hread))]

variable {c : Call} {s : Campus}

/-- With no account named and a limit read, the route lists that many recent events. -/
theorem history_lists_recent {n : Int} (hacct : c.queryValue "account" = [])
    (hlim : historyLimit (c.queryValue "limit") = .ok n)
    (hf : s.faults.countOf "audit.ListRecent" = 0) :
    (ReadRoutes.history c).exec s =
      (.ok (.ofJson 200 (.obj [("events", eventsJson (s.journal.recent n))])), s) := by
  unfold ReadRoutes.history
  simp only [hacct, List.isEmpty_nil, Bool.not_true, Bool.false_eq_true, if_false, hlim, checked]
  exact exec_listed_unarmed "audit.ListRecent" (fun c => c.journal.recent n) hf

/-- With no account named, a limit that is not read is answered as the bad request. -/
theorem history_refuses_limit (hacct : c.queryValue "account" = [])
    (hlim : ∀ n, historyLimit (c.queryValue "limit") ≠ .ok n) :
    (ReadRoutes.history c).exec s = (.ok ⟨400, .json (.obj [("error", .str "bad_request"),
      ("error_description", .str "limit must be between 1 and 500")])⟩, s) := by
  obtain ⟨e, he⟩ : ∃ e, historyLimit (c.queryValue "limit") = .error e := by
    cases h : historyLimit (c.queryValue "limit") with
    | error e => exact ⟨e, rfl⟩
    | ok n => exact absurd h (hlim n)
  unfold ReadRoutes.history
  simp only [hacct, List.isEmpty_nil, Bool.not_true, Bool.false_eq_true, if_false, he, checked,
    historyLimit_eq_error he]
  rfl

/-- A named account is listed, whatever limit the query gives. -/
theorem history_lists_account {a : AccountId}
    (hacct : AccountId.parse (c.queryValue "account") = .ok a)
    (hf : s.faults.countOf "audit.ListByAccount" = 0) :
    (ReadRoutes.history c).exec s =
      (.ok (.ofJson 200 (.obj [("events", eventsJson (s.journal.byAccount a))])), s) := by
  have hnamed : (c.queryValue "account").isEmpty = false :=
    List.isEmpty_eq_false_iff.mpr
      (List.ne_nil_of_length_pos ((AccountId.parse_eq_ok_iff _ _).mp hacct).1)
  unfold ReadRoutes.history
  simp only [hnamed, Bool.not_false, if_true, hacct, checked]
  exact exec_listed_unarmed "audit.ListByAccount" (fun c => c.journal.byAccount a) hf

/-- The audit history within its limits. After any appends, a positive limit `k` lists the last
`min k n` of the `n` events and a limit that is not positive lists all of them, both newest
first, and an account's listing is its events in append order. The route's limit is read as
fifty from an absent or empty value, and otherwise exactly from the values the signed reader
reads to one to five hundred, which are the signed numerals of those values. With no account
named, a read limit `n` lists `n` recent events, and any other value is answered as the bad
request; a named account is listed whatever the limit. Every answer leaves the campus as it
was. -/
theorem recent_history_within_limits :
    (∀ (es : List Audit.Event) (k : Int), 1 ≤ k →
        (es.foldl Audit.Journal.append {}).recent k =
          (es.drop (es.length - min k.toNat es.length)).reverse) ∧
      (∀ (es : List Audit.Event) (k : Int), k ≤ 0 →
        (es.foldl Audit.Journal.append {}).recent k = es.reverse) ∧
      (∀ (es : List Audit.Event) (a : AccountId),
        (es.foldl Audit.Journal.append {}).byAccount a = es.filter (fun e => e.account = a)) ∧
      (∀ (raw : List UInt8) (n : Int), historyLimit raw = .ok n ↔
        raw = [] ∧ n = 50 ∨
          raw ≠ [] ∧ Decimal.parseInteger 64 (Utf8.toText raw) = .ok n ∧ 1 ≤ n ∧ n ≤ 500) ∧
      (∀ (raw : List UInt8) (n : Int), historyLimit raw = .ok n ↔
        raw = [] ∧ n = 50 ∨
          raw ≠ [] ∧ Decimal.SignedNumeral (Utf8.toText raw) n ∧ 1 ≤ n ∧ n ≤ 500) ∧
      (∀ (c : Call) (s : Campus) (n : Int), c.queryValue "account" = [] →
        historyLimit (c.queryValue "limit") = .ok n → s.faults.countOf "audit.ListRecent" = 0 →
        (ReadRoutes.history c).exec s =
          (.ok (.ofJson 200 (.obj [("events", eventsJson (s.journal.recent n))])), s)) ∧
      (∀ (c : Call) (s : Campus), c.queryValue "account" = [] →
        (∀ n, historyLimit (c.queryValue "limit") ≠ .ok n) →
        (ReadRoutes.history c).exec s = (.ok ⟨400, .json (.obj [("error", .str "bad_request"),
          ("error_description", .str "limit must be between 1 and 500")])⟩, s)) ∧
      (∀ (c : Call) (s : Campus) (a : AccountId),
        AccountId.parse (c.queryValue "account") = .ok a →
        s.faults.countOf "audit.ListByAccount" = 0 →
        (ReadRoutes.history c).exec s =
          (.ok (.ofJson 200 (.obj [("events", eventsJson (s.journal.byAccount a))])), s)) := by
  refine ⟨fun es k hk => ?_, fun es k hk => ?_, fun es a => ?_, historyLimit_eq_ok_iff,
    historyLimit_eq_ok_iff_numeral, fun _ _ _ hacct hlim hf => history_lists_recent hacct hlim hf,
    fun _ _ hacct hlim => history_refuses_limit hacct hlim,
    fun _ _ _ hacct hf => history_lists_account hacct hf⟩
  · rw [Audit.Journal.recent_of_pos _ hk, Audit.Journal.events_foldl_append, List.nil_append]
  · rw [Audit.Journal.recent_of_nonpos _ hk, Audit.Journal.events_foldl_append, List.nil_append]
  · rw [Audit.Journal.byAccount_eq_filter, Audit.Journal.events_foldl_append, List.nil_append]

/-- An empty limit counts as none, and a named account is listed whatever the limit. On a fresh
campus, a query whose `limit` is present but empty lists the fifty newest events, and a query
naming `ann` with the limit `abc` lists ann's events: both answer 200, although the signed
reader refuses both values. -/
theorem blank_limit_and_named_account_are_listed :
    Http.queryValues [(Utf8.ofText "limit", [])] "limit" = [[]] ∧
      Decimal.parseInteger 64 (Utf8.toText []) = .error ⟨"ParseInt", "", .malformed⟩ ∧
      (ReadRoutes.history { ctx := default, query := [(Utf8.ofText "limit", [])] }).exec
          (Campus.fresh {} 0) =
        (.ok (.ofJson 200 (.obj [("events", eventsJson [])])), Campus.fresh {} 0) ∧
      Decimal.parseInteger 64 (Utf8.toText (Utf8.ofText "abc")) =
        .error ⟨"ParseInt", "abc", .malformed⟩ ∧
      (ReadRoutes.history { ctx := default, query := [(Utf8.ofText "account", Utf8.ofText "ann"),
          (Utf8.ofText "limit", Utf8.ofText "abc")] }).exec (Campus.fresh {} 0) =
        (.ok (.ofJson 200 (.obj [("events", eventsJson [])])), Campus.fresh {} 0) := by
  refine ⟨by decide +kernel, by decide +kernel, ?_, by decide +kernel, ?_⟩
  · have hblank : Http.queryValue [(Utf8.ofText "limit", [])] "limit" = [] := by decide +kernel
    refine history_lists_recent (n := 50) (by decide +kernel) ?_ rfl
    rw [Call.queryValue, hblank]
    rfl
  · have hann : Utf8.ofText "ann" = [97, 110, 110] := by decide +kernel
    have hparse : AccountId.parse (Utf8.ofText "ann") = .ok ⟨"ann"⟩ := by
      apply (AccountId.parse_eq_ok_iff _ _).mpr
      refine ⟨by rw [hann]; decide, by rw [hann]; decide, rfl, ?_⟩
      simp [isBlank, isControl]
    have hnamed : Http.queryValue [(Utf8.ofText "account", Utf8.ofText "ann"),
        (Utf8.ofText "limit", Utf8.ofText "abc")] "account" = Utf8.ofText "ann" := by
      decide +kernel
    refine history_lists_account (a := ⟨"ann"⟩) ?_ rfl
    rw [Call.queryValue, hnamed, hparse]

end Api

end CampusLedger
