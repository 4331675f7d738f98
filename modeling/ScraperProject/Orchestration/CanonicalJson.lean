import ScraperProject.Foundation.JsonOrder
import ScraperProject.Orchestration.SyntheticWorker

/-!
Contract: the bytes that the worker stores and takes checksums of.

Owns that `_canonical_json_bytes` is canonical: its bytes read back as the payload, and
two payloads have the same bytes exactly when they differ in the order of keys at most.

Does not own the files that hold the bytes.
-/

namespace ScraperProject.Orchestration

open Foundation

/-- A payload of Python: no dictionary in it has a key twice. -/
structure Payload where
  value : Json
  distinct : Json.DistinctKeys value

theorem loads_canonicalJsonBytes (value : Json) :
    Json.loads (Json.decodeAscii (canonicalJsonBytes value)) = some (Json.sortKeys value) := by
  rw [canonicalJsonBytes, Json.decodeAscii_encodeUtf8 (Json.allPrintable_dumps .compact value)]
  exact Json.loads_dumps .compact value

theorem canonicalJsonBytes_eq_iff {first second : Json} :
    canonicalJsonBytes first = canonicalJsonBytes second ↔
      Json.sortKeys first = Json.sortKeys second := by
  constructor
  · intro same
    have read := loads_canonicalJsonBytes first
    rw [same, loads_canonicalJsonBytes] at read
    exact (Option.some.inj read).symm
  · intro same
    rw [canonicalJsonBytes, canonicalJsonBytes, Json.dumps, Json.dumps, same]

/-- The bytes of a payload read back as what the payload shows at the end of every path,
and two payloads have the same bytes exactly when they show the same everywhere: neither
the order of keys nor anything else that is not in the payload reaches a checksum. -/
theorem canonical_bytes_exact (first second : Payload) :
    (∃ read, Json.loads (Json.decodeAscii (canonicalJsonBytes first.value)) = some read ∧
      Json.Same read first.value) ∧
    (canonicalJsonBytes first.value = canonicalJsonBytes second.value ↔
      Json.Same first.value second.value) := by
  constructor
  · refine ⟨Json.sortKeys first.value, loads_canonicalJsonBytes first.value, ?_⟩
    intro path
    exact Json.shapeAt_sortKeys path first.value
  · rw [canonicalJsonBytes_eq_iff]
    exact Json.sortKeys_eq_iff first.distinct second.distinct

/-- A listing with its specifications in one order. -/
def writtenListing : Payload where
  value := .obj [("source_name", .str "synthetic_fixture"),
    ("visible_specs", .obj [("year", .str "2019"), ("fuel", .null)])]
  distinct := by simp [Json.DistinctKeys, Json.DistinctEntries]

/-- The same listing, its keys in another order at both depths. -/
def reorderedListing : Payload where
  value := .obj [("visible_specs", .obj [("fuel", .null), ("year", .str "2019")]),
    ("source_name", .str "synthetic_fixture")]
  distinct := by simp [Json.DistinctKeys, Json.DistinctEntries]

theorem reordered_listing_same_bytes :
    writtenListing.value ≠ reorderedListing.value ∧
      canonicalJsonBytes writtenListing.value = canonicalJsonBytes reorderedListing.value := by
  refine ⟨by simp [writtenListing, reorderedListing],
    (canonical_bytes_exact writtenListing reorderedListing).2.mpr ?_⟩
  have sorted : Json.sortKeys writtenListing.value = Json.sortKeys reorderedListing.value := rfl
  exact (Json.sortKeys_eq_iff writtenListing.distinct reorderedListing.distinct).mp sorted

end ScraperProject.Orchestration
