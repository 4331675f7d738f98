import Mathlib.Data.String.Basic
import ScraperProject.Database.RepositorySteps
import ScraperProject.Foundation.GroupedSum

/-!
Contract: the aggregate queries of `database.repositories`.

Owns `JobRepository.status_counts`, the number of jobs in a state, which the counts
report exactly, and `ParserRunRepository.get`.

Does not own what the calls of the queue do to the numbers.
-/

namespace ScraperProject.Database

open Foundation

/-! ## Jobs -/

/-- `JobRepository.status_counts`: `GROUP BY state`. The result is a mapping, so that
the order of the groups is not read. -/
def statusCounts : Action (List (String × Nat)) := fun db =>
  (summarize (fun row : JobRow => row.state.value) (fun state rows => .ok (state, rows.length))
    db.jobs.rows, db)

/-- The number of jobs in a state. -/
def tally (db : Db) (state : JobState) : Nat :=
  db.jobs.rows.countP fun row => row.state = state

theorem JobState.value_injective : Function.Injective JobState.value := by
  intro state other same
  cases state <;> cases other <;> first | rfl | exact absurd same (by decide)

/-- The group of a state has as many rows as the state has jobs. -/
theorem length_group_value (db : Db) (state : JobState) :
    (group (fun row : JobRow => row.state.value) db.jobs.rows state.value).length =
      tally db state := by
  rw [group, ← List.countP_eq_length_filter, tally]
  refine List.countP_congr fun row _ => ?_
  simp [JobState.value_injective.eq_iff]

theorem statusCounts_eq (db : Db) :
    statusCounts db = (.ok ((orderedKeys (fun row : JobRow => row.state.value) db.jobs.rows).map
      fun name => (name, (group (fun row : JobRow => row.state.value) db.jobs.rows name).length)),
      db) :=
  congrArg (·, db) (summarize_ok _)

/-- The counts exist, name each state once and in order, and hold exactly the states
that some job is in, each with the number of its jobs. -/
theorem statusCounts_exact (db : Db) :
    ∃ counts, statusCounts db = (.ok counts, db) ∧ (counts.map Prod.fst).Pairwise (· < ·) ∧
      ∀ name count, (name, count) ∈ counts ↔
        ∃ state : JobState, state.value = name ∧ tally db state = count ∧ 0 < count := by
  refine ⟨_, statusCounts_eq db, ?_, fun name count => ?_⟩
  · rw [List.map_map]
    exact (List.map_id _).symm ▸ orderedKeys_pairwise
  · simp only [List.mem_map, Prod.mk.injEq, mem_orderedKeys]
    constructor
    · rintro ⟨_, ⟨row, member, rfl⟩, rfl, rfl⟩
      rw [length_group_value]
      refine ⟨row.state, rfl, rfl, ?_⟩
      exact List.countP_pos_iff.mpr ⟨row, member, by simp⟩
    · rintro ⟨state, rfl, rfl, positive⟩
      obtain ⟨row, member, inState⟩ := List.countP_pos_iff.mp positive
      have same : row.state = state := by simpa using inState
      exact ⟨state.value, ⟨row, member, congrArg JobState.value same⟩, rfl,
        length_group_value db state⟩

/-! ## Parser runs -/

/-- `ParserRunRepository.get`. -/
def getParserRun (parserRunId : String) : Action (Option ParserRunRow) := fun db =>
  (.ok (db.parserRuns.find? fun row => row.parserRunId = parserRunId), db)

end ScraperProject.Database
