import Mathlib.Algebra.BigOperators.Group.List.Basic
import ScraperProject.Contracts.TypedContracts
import ScraperProject.Database.Repositories

/-!
Contract: a recorded dataset manifest reads back as itself.

Owns the round trip from a manifest through its stored payload to the decoder of
`DatasetBatchRepository.get`: the key lookups, the lists and counts, and the
timestamp that is printed with `Z` and read with an offset.

Does not own the insertion of the row. A stored dictionary is sorted by key, so
the counts come back in that order.
-/

namespace ScraperProject.Database

open Foundation
open Foundation.IsoText
open Contracts

/-! ## Timestamps -/

theorem expandZulu_append (left right : List Char) :
    expandZulu (left ++ right) = expandZulu left ++ expandZulu right :=
  List.flatMap_append

theorem expandZulu_of_notMem {text : List Char} (absent : 'Z' ∉ text) :
    expandZulu text = text := by
  induction text with
  | nil => rfl
  | cons head rest inductionHypothesis =>
      rw [List.mem_cons, not_or] at absent
      rw [expandZulu, List.flatMap_cons, if_neg (Ne.symm absent.1)]
      exact congrArg (head :: ·) (inductionHypothesis absent.2)

theorem zulu_notMem_fixedWidth (width value : Nat) : 'Z' ∉ Digits.fixedWidth width value := by
  induction width generalizing value with
  | zero => simp [Digits.fixedWidth]
  | succ width inductionHypothesis =>
      have digit : ∀ remainder < 10, 'Z' ≠ Nat.digitChar remainder := by decide
      simp only [Digits.fixedWidth, List.mem_append, List.mem_singleton, not_or]
      exact ⟨inductionHypothesis _, digit _ (Nat.mod_lt _ (by decide))⟩

theorem zulu_notMem_secondText (second : Nat) : 'Z' ∉ secondText second := by
  simp [secondText, dateText, clockText, zulu_notMem_fixedWidth]

theorem zulu_notMem_fractionText (fraction : Nat) : 'Z' ∉ fractionText fraction := by
  unfold fractionText
  split <;> simp [zulu_notMem_fixedWidth]

/-- `replace("Z", "+00:00")` undoes what `_timestamp` did to the zone. -/
theorem expandZulu_isoText (micros : Nat) :
    expandZulu (isoText ['Z'] micros) = isoText ['+', '0', '0', ':', '0', '0'] micros := by
  unfold isoText
  rw [expandZulu_append, expandZulu_append,
    expandZulu_of_notMem (zulu_notMem_secondText _),
    expandZulu_of_notMem (zulu_notMem_fractionText _)]
  rfl

/-- A stored timestamp reads back as the reading of the clock that it prints. -/
theorem parseUtcTimestamp_text (library : StandardLibrary) (value : Instant)
    (fieldName : String) :
    parseUtcTimestamp library value.text fieldName = .ok (.ofInstant value) := by
  have read : fromisoformat library (expandZulu value.text.toList) =
      some (value.micros, some 0) := by
    rw [Instant.text, String.toList_ofList, expandZulu_isoText, fromisoformat,
      parseIso?_isoText value.inRange]
  have inRange : value.micros < maxMicros ∧ (-86400000000 : Int) < 0 ∧ (0 : Int) < 86400000000 :=
    ⟨value.inRange, by decide, by decide⟩
  simp only [parseUtcTimestamp, read, dif_pos inRange]
  rfl

theorem requireUtcTimestamp_ok {value : Datetime} {fieldName : String} :
    requireUtcTimestamp value fieldName = .ok () ↔ value.offset = 0 := by
  unfold requireUtcTimestamp
  split
  · next offset => simp [contractError, offset]
  · next offset => simpa using offset

/-- A value at UTC is the reading of the clock that its text reads back as. -/
theorem eq_ofInstant_of_utc {value : Datetime} {utc : Instant} (offset : value.offset = 0)
    (converted : value.astimezoneUtc = .ok utc) : value = .ofInstant utc := by
  have same := Datetime.astimezoneUtc_ok_iff.mp converted
  cases value
  simp only [Datetime.instant] at same offset
  subst offset
  simp only [Datetime.ofInstant, Datetime.mk.injEq, and_true]
  omega

/-! ## Lists and counts -/

theorem sortItems_str (texts : List String) :
    Json.sortItems (texts.map .str) = texts.map .str := by
  induction texts with
  | nil => rfl
  | cons head rest inductionHypothesis =>
      simp only [List.map_cons, Json.sortItems, inductionHypothesis, Json.sortKeys]

theorem asTexts_str (fieldName : String) (texts : List String) :
    asTexts fieldName (texts.map .str) = .ok texts := by
  induction texts with
  | nil => rfl
  | cons head rest inductionHypothesis =>
      simp only [List.map_cons, asTexts, asText, inductionHypothesis]
      rfl

theorem sortEntries_int (counts : List (String × Int)) :
    Json.sortEntries (counts.map fun entry => (entry.1, .int entry.2)) =
      counts.map fun entry => (entry.1, .int entry.2) := by
  induction counts with
  | nil => rfl
  | cons head rest inductionHypothesis =>
      simp only [List.map_cons, Json.sortEntries, inductionHypothesis, Json.sortKeys]

theorem asCountEntries_int (fieldName : String) (counts : List (String × Int)) :
    asCountEntries fieldName (counts.map fun entry => (entry.1, .int entry.2)) = .ok counts := by
  induction counts with
  | nil => rfl
  | cons head rest inductionHypothesis =>
      simp only [List.map_cons, asCountEntries, asInt, inductionHypothesis]
      rfl

/-- The order of a stored dictionary. -/
def countOrder (left right : String × Int) : Prop := ¬ right.1.toList < left.1.toList

instance : DecidableRel countOrder := fun left right => by
  unfold countOrder
  infer_instance

/-- The counts as the stored dictionary lists them. -/
def storedCounts (counts : List (String × Int)) : List (String × Int) :=
  counts.insertionSort countOrder

theorem storedCounts_perm (counts : List (String × Int)) : (storedCounts counts).Perm counts :=
  List.perm_insertionSort countOrder counts

theorem insertionSort_counts (counts : List (String × Int)) :
    (counts.map fun entry => (entry.1, Json.int entry.2)).insertionSort Json.keyOrder =
      (storedCounts counts).map fun entry => (entry.1, .int entry.2) :=
  (List.map_insertionSort countOrder Json.keyOrder _ counts fun _ _ _ _ => Iff.rfl).symm

/-- Counts in the order of their states are stored in that order. -/
def CountsSorted (counts : List (String × Int)) : Prop :=
  (counts.map fun entry => (entry.1, Json.int entry.2)).Pairwise Json.keyOrder

theorem storedCounts_of_sorted {counts : List (String × Int)} (sorted : CountsSorted counts) :
    storedCounts counts = counts := by
  rw [CountsSorted, List.pairwise_map] at sorted
  exact List.Pairwise.insertionSort_eq sorted

theorem requireStateCounts_ok {counts : List (String × Int)} :
    requireStateCounts counts = .ok () ↔ ∀ entry ∈ counts, 0 ≤ entry.2 := by
  induction counts with
  | nil => simp [requireStateCounts]
  | cons entry rest inductionHypothesis =>
      rw [requireStateCounts, bind_eq_ok, List.forall_mem_cons, ← inductionHypothesis]
      unfold requireNonNegativeInt
      by_cases negative : entry.2 < 0
      · simp [negative, contractError, Int.not_le.mpr negative]
      · simp [negative, Int.not_lt.mp negative]

/-! ## The manifest -/

/-- The manifest with its counts as the stored dictionary lists them. -/
def storedManifest (manifest : DatasetBatchManifest) : DatasetBatchManifest :=
  { manifest with terminalStateCounts := storedCounts manifest.terminalStateCounts }

/-- The counts pass when every state is known, no count is negative and the sum is right. -/
theorem requireCounts_ok {manifest : DatasetBatchManifest} :
    Untyped.requireCounts manifest.fields = .ok () ↔
      (∀ entry ∈ manifest.terminalStateCounts, terminalStates.contains entry.1) ∧
        (∀ entry ∈ manifest.terminalStateCounts, 0 ≤ entry.2) ∧
          (manifest.terminalStateCounts.map Prod.snd).sum = manifest.recordCount := by
  rw [requireCounts_fields, ← requireStateCounts_ok, ← List.all_eq_true]
  by_cases known : manifest.terminalStateCounts.all fun entry => terminalStates.contains entry.1
  · have totalOk : (if (manifest.terminalStateCounts.map Prod.snd).sum ≠ manifest.recordCount then
        contractError "record_count must equal the sum of terminal_state_counts"
        else pure () : Except PyError Unit) = .ok () ↔
          (manifest.terminalStateCounts.map Prod.snd).sum = manifest.recordCount := by
      by_cases total : (manifest.terminalStateCounts.map Prod.snd).sum = manifest.recordCount <;>
        simp [total, contractError, pure, Except.pure]
    rw [if_neg (not_not_intro known), bind_eq_ok]
    constructor
    · rintro ⟨_, counts, total⟩
      exact ⟨known, counts, totalOk.mp total⟩
    · rintro ⟨_, counts, total⟩
      exact ⟨(), counts, totalOk.mpr total⟩
  · rw [if_pos known]
    refine iff_of_false ?_ fun both => known both.1
    intro passed
    cases passed

/-- The order of the counts does not matter to the checks. -/
theorem postInit_storedManifest {library : StandardLibrary} {manifest : DatasetBatchManifest}
    (valid : manifest.postInit library = .ok ()) :
    (storedManifest manifest).postInit library = .ok () := by
  rw [← DatasetBatchManifest.runChecks_fields, Untyped.runChecks_ok] at valid ⊢
  have sameCounts := storedCounts_perm manifest.terminalStateCounts
  have counts : Untyped.requireCounts (storedManifest manifest).fields = .ok () := by
    obtain ⟨known, nonNegative, total⟩ :=
      requireCounts_ok.mp (valid Untyped.requireCounts (by simp [Untyped.checks]))
    apply requireCounts_ok.mpr
    refine ⟨fun entry member => known entry (sameCounts.mem_iff.mp member),
      fun entry member => nonNegative entry (sameCounts.mem_iff.mp member), ?_⟩
    exact (sameCounts.map Prod.snd).sum_eq.trans total
  simp only [Untyped.checks, List.forall_mem_cons, List.not_mem_nil, false_implies, implies_true,
    and_true] at valid ⊢
  obtain ⟨version, batchId, batchVersion, sourceName, snapshotDate, recordsPath, createdAt,
    recordCount, proxyBytesUsed, recordsChecksum, manifestChecksum, _, _⟩ := valid
  exact ⟨version, batchId, batchVersion, sourceName, snapshotDate, recordsPath, createdAt,
    recordCount, proxyBytesUsed, recordsChecksum, manifestChecksum, rfl, counts⟩

theorem requiredKey_sorted {payload : List (String × Json)} {key : String} {value : Json}
    (found : Json.get? payload key = some value) :
    requiredKey ((Json.sortEntries payload).insertionSort Json.keyOrder) key =
      .ok (Json.sortKeys value) := by
  rw [requiredKey, Json.get?_sorted, found]
  rfl

/-- The checks of a manifest include that its timestamp is at UTC. -/
theorem postInit_offset {library : StandardLibrary} {manifest : DatasetBatchManifest}
    (valid : manifest.postInit library = .ok ()) : manifest.createdAt.offset = 0 := by
  unfold DatasetBatchManifest.postInit at valid
  obtain ⟨_, _, valid⟩ := bind_eq_ok.mp valid
  obtain ⟨_, _, valid⟩ := bind_eq_ok.mp valid
  obtain ⟨_, _, valid⟩ := bind_eq_ok.mp valid
  obtain ⟨_, _, valid⟩ := bind_eq_ok.mp valid
  obtain ⟨_, _, valid⟩ := bind_eq_ok.mp valid
  obtain ⟨_, _, valid⟩ := bind_eq_ok.mp valid
  obtain ⟨_, utc, _⟩ := bind_eq_ok.mp valid
  exact requireUtcTimestamp_ok.mp utc

/-- Every key of the stored payload, as the decoder finds it after the sorting. -/
theorem batchPayload_keys (manifest : DatasetBatchManifest) (createdAt : String) :
    ∀ entry ∈ batchPayload manifest createdAt,
      requiredKey ((Json.sortEntries (batchPayload manifest createdAt)).insertionSort
        Json.keyOrder) entry.1 = .ok (Json.sortKeys entry.2) := by
  intro entry member
  refine requiredKey_sorted ?_
  simp only [batchPayload, List.mem_cons, List.not_mem_nil, or_false] at member
  rcases member with rfl | rfl | rfl | rfl | rfl | rfl | rfl | rfl | rfl | rfl | rfl | rfl | rfl |
    rfl | rfl <;> simp [batchPayload, Json.get?]

/-- A recorded manifest that passes its own checks reads back as itself, with its
counts in the order of the stored dictionary. -/
theorem batchRow_storedManifest {library : StandardLibrary} {manifest : DatasetBatchManifest}
    {createdAt : String} (printed : timestamp manifest.createdAt = .ok createdAt)
    (valid : manifest.postInit library = .ok ()) :
    (batchRow manifest createdAt).manifest library = .ok (storedManifest manifest) := by
  obtain ⟨utc, converted, rfl⟩ := timestamp_ok_iff.mp printed
  have atUtc := eq_ofInstant_of_utc (postInit_offset valid) converted
  have loaded : Json.loads (batchRow manifest utc.text).manifestJson.toList =
      some (.obj ((Json.sortEntries (batchPayload manifest utc.text)).insertionSort
        Json.keyOrder)) := by
    rw [batchRow, String.toList_ofList, Json.loads_dumps, Json.sortKeys]
  rw [BatchRow.manifest, loaded]
  have keys := batchPayload_keys manifest utc.text
  generalize (Json.sortEntries (batchPayload manifest utc.text)).insertionSort Json.keyOrder =
    stored at keys
  simp only [batchPayload, List.forall_mem_cons, List.not_mem_nil, false_implies, implies_true,
    and_true, Json.sortKeys, sortItems_str, sortEntries_int, insertionSort_counts] at keys
  obtain ⟨contractVersion, batchId, batchVersion, sourceName, createdAt, snapshotDate, recordCount,
    counts, acquisitionVersions, parserVersions, recordsPath, recordsChecksum, manifestChecksum,
    proxyBytesUsed, knownLimitations⟩ := keys
  have text : ∀ {key value : String}, requiredKey stored key = .ok (.str value) →
      (requiredKey stored key >>= asText key) = .ok value :=
    fun found => bind_eq_ok.mpr ⟨_, found, rfl⟩
  have number : ∀ {key : String} {value : Int}, requiredKey stored key = .ok (.int value) →
      (requiredKey stored key >>= asInt key) = .ok value :=
    fun found => bind_eq_ok.mpr ⟨_, found, rfl⟩
  have texts : ∀ {key : String} {values : List String},
      requiredKey stored key = .ok (.arr (values.map .str)) →
        (requiredKey stored key >>= asTextArray key) = .ok values :=
    fun found => bind_eq_ok.mpr ⟨_, found, asTexts_str _ _⟩
  -- The decoder reads the keys in this order.
  refine bind_eq_ok.mpr ⟨_, text contractVersion, ?_⟩
  refine bind_eq_ok.mpr ⟨_, text batchId, ?_⟩
  refine bind_eq_ok.mpr ⟨_, text batchVersion, ?_⟩
  refine bind_eq_ok.mpr ⟨_, text sourceName, ?_⟩
  refine bind_eq_ok.mpr ⟨_, text createdAt, ?_⟩
  refine bind_eq_ok.mpr ⟨_, parseUtcTimestamp_text library utc _, ?_⟩
  refine bind_eq_ok.mpr ⟨_, text snapshotDate, ?_⟩
  refine bind_eq_ok.mpr ⟨_, number recordCount, ?_⟩
  refine bind_eq_ok.mpr ⟨_, bind_eq_ok.mpr ⟨_, counts, asCountEntries_int _ _⟩, ?_⟩
  refine bind_eq_ok.mpr ⟨_, texts acquisitionVersions, ?_⟩
  refine bind_eq_ok.mpr ⟨_, texts parserVersions, ?_⟩
  refine bind_eq_ok.mpr ⟨_, text recordsPath, ?_⟩
  refine bind_eq_ok.mpr ⟨_, text recordsChecksum, ?_⟩
  refine bind_eq_ok.mpr ⟨_, text manifestChecksum, ?_⟩
  refine bind_eq_ok.mpr ⟨_, number proxyBytesUsed, ?_⟩
  refine bind_eq_ok.mpr ⟨_, texts knownLimitations, ?_⟩
  rw [← atUtc]
  exact bind_eq_ok.mpr ⟨(), postInit_storedManifest valid, rfl⟩

/-- Counts in the stored order come back as they were. -/
theorem batchRow_manifest {library : StandardLibrary} {manifest : DatasetBatchManifest}
    {createdAt : String} (printed : timestamp manifest.createdAt = .ok createdAt)
    (valid : manifest.postInit library = .ok ())
    (sorted : CountsSorted manifest.terminalStateCounts) :
    (batchRow manifest createdAt).manifest library = .ok manifest := by
  have same : storedManifest manifest = manifest := by
    rw [storedManifest, storedCounts_of_sorted sorted]
  rw [batchRow_storedManifest printed valid, same]

end ScraperProject.Database
