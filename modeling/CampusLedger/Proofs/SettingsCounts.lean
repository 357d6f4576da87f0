import Mathlib
import CampusLedger.Settings
/-!
# Counts read from the environment

Seven settings are counts stored in signed fields: the database's open and idle connections,
the cache's pool size and idle connections, and the mutations allowed per window in 64 bits, the
stream's partitions in 32 bits and its replication factor in 16. Each is read as an unsigned
64-bit numeral and stored by its low bits in the field's width, with no check of the field's
range. So settings that read hold the numeral itself only when it is below the field's signed
bound; past it they hold a wrapped value, which can be zero or negative, and nothing is refused.

Every step of the reader only adds messages after those already collected, so a read with no
messages read each variable quietly; a quiet count is unset, or a numeral of at most 64 bits.

Main statement: `signed_counts_keep_low_bits`; a partition count of 2^32 that is read as zero
partitions is `oversized_partitions_read_as_zero`.
-/

namespace CampusLedger.Decimal

/-- An unsigned numeral reads exactly when it is not empty and its digits read within the bound
of the width. -/
theorem parseNatural_eq_ok_iff (bits : Nat) (s : String) (n : Nat) :
    parseNatural bits s = .ok n ↔
      s.isEmpty = false ∧ readDigits (wordBound bits) 0 s.toList = .ok n := by
  unfold parseNatural readNatural
  cases he : s.isEmpty with
  | true => simp [Except.mapError]
  | false =>
    simp only [Bool.false_eq_true, if_false, true_and]
    cases readDigits (wordBound bits) 0 s.toList <;> simp [Except.mapError]

end CampusLedger.Decimal

namespace CampusLedger.Settings

/-- A reader step that only adds messages after those already collected: from any messages it
gives the value of a run from none and adds that run's messages. -/
def Appends {α : Type} (x : Reader α) : Prop :=
  ∀ s, x.run s = ((x.run []).1, s ++ (x.run []).2)

theorem Appends.bind_run {α β : Type} {x : Reader α} (hx : Appends x) (f : α → Reader β)
    (s : List String) : (x >>= f).run s = (f (x.run []).1).run (s ++ (x.run []).2) := by
  rw [StateT.run_bind, hx s]
  rfl

theorem pure_appends {α : Type} (a : α) : Appends (pure a : Reader α) := fun s => by
  show (a, s) = (a, s ++ [])
  rw [List.append_nil]

theorem text_appends (env : Environment) (key fallback : String) :
    Appends (text env key fallback) :=
  pure_appends _

theorem duration_appends (env : Environment) (key : String) (fallback : Int) :
    Appends (duration env key fallback) := by
  unfold duration
  dsimp only
  split
  · exact pure_appends fallback
  · split
    · exact pure_appends _
    · exact fun _ => rfl

theorem count_appends (env : Environment) (key : String) (fallback : Nat) :
    Appends (count env key fallback) := by
  unfold count
  dsimp only
  split
  · exact pure_appends fallback
  · split
    · exact pure_appends _
    · exact fun _ => rfl

theorem readSeedAsset_appends (env : Environment) : Appends (readSeedAsset env) := by
  unfold readSeedAsset
  dsimp only
  split
  · exact pure_appends 0
  · split
    · exact pure_appends _
    · exact fun _ => rfl

/-- An unset count takes its default and adds no message. -/
theorem count_run_unset {env : Environment} {key : String} (fallback : Nat)
    (he : (env.get key).isEmpty = true) : (count env key fallback).run [] = (fallback, []) := by
  unfold count
  simp only [he, if_true]
  rfl

/-- A set count that reads without a message is a numeral of at most 64 bits, and reads as its
value. -/
theorem count_run_quiet {env : Environment} {key : String} {fallback : Nat}
    (he : (env.get key).isEmpty = false) (h : ((count env key fallback).run []).2 = []) :
    (∀ ch ∈ (env.get key).toList, ch.isDigit = true) ∧
      Decimal.digitsValue 0 (env.get key).toList ≤ Decimal.wordBound 64 ∧
      ((count env key fallback).run []).1 = Decimal.digitsValue 0 (env.get key).toList := by
  unfold count at h ⊢
  simp only [he, Bool.false_eq_true, if_false] at h ⊢
  cases hp : Decimal.parseNatural 64 (env.get key) with
  | error e =>
    -- a refused numeral leaves its message
    rw [hp] at h
    cases h
  | ok n =>
    obtain ⟨-, hr⟩ := (Decimal.parseNatural_eq_ok_iff 64 _ n).mp hp
    obtain ⟨hdigits, hle, rfl⟩ :=
      (Decimal.readDigits_ok_iff _ 0 n _ (Nat.zero_le _)).mp hr
    exact ⟨hdigits, hle, rfl⟩

/-- The two's-complement value of a number's low bits is the number itself exactly when the
number is below the signed bound of the width. -/
theorem lowBits_eq_self_iff (bits n : Nat) :
    lowBits bits n = n ↔ n < Nat.pow 2 (bits - 1) := by
  have hbound : Nat.pow 2 (bits - 1) ≤ Nat.pow 2 bits :=
    Nat.pow_le_pow_right (by decide) (Nat.sub_le bits 1)
  have hpos : 0 < Nat.pow 2 bits := Nat.pow_pos (by decide)
  have hmod : n % Nat.pow 2 bits < Nat.pow 2 bits := Nat.mod_lt n hpos
  have hmodle : n % Nat.pow 2 bits ≤ n := Nat.mod_le n _
  unfold lowBits
  dsimp only
  split
  · -- the sign bit is set: the value is negative
    rename_i hsign
    constructor
    · intro h
      omega
    · intro h
      rw [Nat.mod_eq_of_lt (Nat.lt_of_lt_of_le h hbound)] at hsign
      omega
  · rename_i hsign
    constructor
    · intro h
      omega
    · intro h
      rw [Nat.mod_eq_of_lt (Nat.lt_of_lt_of_le h hbound)]

/-- A count setting stored in a signed field: its variable, its default, the width it is
stored in and the field that holds it. -/
structure SignedCount where
  key : String
  fallback : Nat
  bits : Nat
  field : Settings → Int

/-- The count settings stored in signed fields. -/
def signedCounts : List SignedCount :=
  [⟨"DATABASE_MAX_OPEN_CONNS", 10, 64, (·.database.maxOpenConns)⟩,
   ⟨"DATABASE_MAX_IDLE_CONNS", 5, 64, (·.database.maxIdleConns)⟩,
   ⟨"REDIS_POOL_SIZE", 10, 64, (·.cache.poolSize)⟩,
   ⟨"REDIS_MIN_IDLE_CONNS", 2, 64, (·.cache.minIdleConns)⟩,
   ⟨"KAFKA_PARTITIONS", 3, 32, (·.stream.partitions)⟩,
   ⟨"KAFKA_REPLICATION", 1, 16, (·.stream.replication)⟩,
   ⟨"RATE_LIMIT_MUTATIONS", 60, 64, (·.rate.mutations)⟩]

/-- Every default is below the signed bound of its width. -/
theorem signedCounts_fallback_lt : ∀ s ∈ signedCounts, s.fallback < Nat.pow 2 (s.bits - 1) := by
  decide

/-- How a signed count field holds its variable: the default when the variable is unset; when
it is set, the variable is a numeral of at most 64 bits and the field holds the value of its low
bits in the field's width, which is the numeral itself exactly when the numeral is below the
field's signed bound. -/
def SignedCount.Holds (s : SignedCount) (env : Environment) (c : Settings) : Prop :=
  ((env.get s.key).isEmpty = true → s.field c = s.fallback) ∧
    ((env.get s.key).isEmpty = false →
      (∀ ch ∈ (env.get s.key).toList, ch.isDigit = true) ∧
        Decimal.digitsValue 0 (env.get s.key).toList ≤ Decimal.wordBound 64 ∧
        s.field c = lowBits s.bits (Decimal.digitsValue 0 (env.get s.key).toList) ∧
        (s.field c = Decimal.digitsValue 0 (env.get s.key).toList ↔
          Decimal.digitsValue 0 (env.get s.key).toList < Nat.pow 2 (s.bits - 1)))

/-- A read with no messages read every signed count quietly, and stores each by its low bits. -/
theorem read_quiet_counts {env : Environment} {c : Settings} (h : (read env).run [] = (c, [])) :
    ∀ s ∈ signedCounts, ((count env s.key s.fallback).run []).2 = [] ∧
      s.field c = lowBits s.bits ((count env s.key s.fallback).run []).1 := by
  simp only [read, (text_appends _ _ _).bind_run, (duration_appends _ _ _).bind_run,
    (count_appends _ _ _).bind_run, (readSeedAsset_appends _).bind_run, StateT.run_pure] at h
  obtain ⟨rfl, hquiet⟩ := Prod.mk.inj h
  -- the messages of the read are those of its steps in order, so every step was quiet
  simp only [List.append_eq_nil_iff, List.nil_append] at hquiet
  intro s hs
  simp only [signedCounts, List.mem_cons, List.not_mem_nil, or_false] at hs
  rcases hs with rfl | rfl | rfl | rfl | rfl | rfl | rfl <;> exact ⟨by simp only [hquiet], rfl⟩

/-- Settings are given exactly for a read with no messages whose settings violate nothing. -/
theorem ofEnvironment_eq_ok_iff (env : Environment) (c : Settings) :
    ofEnvironment env = .ok c ↔ (read env).run [] = (c, []) ∧ violations c = [] := by
  unfold ofEnvironment
  generalize (read env).run [] = r
  obtain ⟨c', faults⟩ := r
  cases faults with
  | cons m ms =>
    -- malformed values refuse the settings with their messages
    simp only [List.isEmpty_cons, Bool.not_false, if_true, reduceCtorEq, false_iff, not_and]
    intro heq
    exact absurd (Prod.mk.inj heq).2 (List.cons_ne_nil m ms)
  | nil =>
    simp only [List.isEmpty_nil, Bool.not_true, Bool.false_eq_true, if_false]
    split
    · rename_i hv
      simp only [Except.ok.injEq]
      constructor
      · rintro rfl
        exact ⟨rfl, hv⟩
      · rintro ⟨heq, -⟩
        exact (Prod.mk.inj heq).1
    · rename_i hv
      simp only [reduceCtorEq, false_iff, not_and]
      intro heq
      obtain rfl := (Prod.mk.inj heq).1
      exact hv

/-- Counts are stored by their low bits, with no check of their field's range. In settings read
from an environment, each count setting stored in a signed field holds its default when its
variable is unset; when the variable is set it is a numeral of at most 64 bits, and the field
holds the value of the numeral's low bits in its width, which is the numeral itself exactly when
the numeral is below the field's signed bound. -/
theorem signed_counts_keep_low_bits (env : Environment) (c : Settings)
    (h : ofEnvironment env = .ok c) : ∀ s ∈ signedCounts, s.Holds env c := by
  have hread := ((ofEnvironment_eq_ok_iff env c).mp h).1
  intro s hs
  obtain ⟨hquiet, hfield⟩ := read_quiet_counts hread s hs
  constructor
  · intro he
    rw [hfield, count_run_unset s.fallback he]
    exact (lowBits_eq_self_iff s.bits s.fallback).mpr (signedCounts_fallback_lt s hs)
  · intro he
    obtain ⟨hdigits, hle, hvalue⟩ := count_run_quiet he hquiet
    rw [hvalue] at hfield
    exact ⟨hdigits, hle, hfield, hfield ▸ lowBits_eq_self_iff s.bits _⟩

/-- An environment whose partition count is 2^32, one past the unsigned 32-bit range. -/
def oversizedPartitions : Environment :=
  [("CCMS_CONTROLLER", "controller"), ("CCMS_ESCROW", "escrow"),
   ("KAFKA_PARTITIONS", "4294967296")]

/-- The empty list of brokers splits into one empty name. -/
theorem empty_splitOn_comma : ("" : String).splitOn "," = [""] := by
  unfold String.splitOn
  rw [if_neg (by decide), String.splitOnAux]
  decide +kernel

theorem ofEnvironment_oversizedPartitions :
    ofEnvironment oversizedPartitions = .ok ((read oversizedPartitions).run []).1 := by
  rw [ofEnvironment_eq_ok_iff]
  constructor
  · have hquiet : ((read oversizedPartitions).run []).2 = [] := by decide +kernel
    exact Prod.ext rfl hquiet
  · -- the brokers are split by a string function that does not evaluate in the kernel
    have hbrokers : ((read oversizedPartitions).run []).1.stream.brokers =
        Text.distinctTrimmed ((oversizedPartitions.get "KAFKA_BROKERS").splitOn ",") := rfl
    unfold violations
    rw [hbrokers, show oversizedPartitions.get "KAFKA_BROKERS" = "" by decide +kernel,
      empty_splitOn_comma]
    decide +kernel

/-- Settings with a partition count of 2^32 read, and hold its low bits. -/
theorem oversized_partitions_keep_low_bits :
    ofEnvironment oversizedPartitions = .ok ((read oversizedPartitions).run []).1 ∧
      ∀ s ∈ signedCounts, s.Holds oversizedPartitions ((read oversizedPartitions).run []).1 :=
  ⟨ofEnvironment_oversizedPartitions,
    signed_counts_keep_low_bits _ _ ofEnvironment_oversizedPartitions⟩

/-- A partition count of 2^32 is not refused: the settings read, with zero partitions. -/
theorem oversized_partitions_read_as_zero :
    oversizedPartitions.get "KAFKA_PARTITIONS" = "4294967296" ∧
      ∃ c, ofEnvironment oversizedPartitions = .ok c ∧ c.stream.partitions = 0 :=
  ⟨by decide +kernel, _, ofEnvironment_oversizedPartitions, by decide +kernel⟩

end CampusLedger.Settings
