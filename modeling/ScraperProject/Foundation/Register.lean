import ScraperProject.Foundation.History

/-!
Contract: what the reads of a history may return.

Owns the operations of a history that succeeded, which alone decide its state and
results when a failure changes nothing, and named values in the state: where an
operation sets the value of one name, a read returns the last value written, and where
it sets only a name that has none, a name is written once and a read returns the value
of that write for ever.

Does not own any operation; a caller tells which outcomes fail and what they write.
-/

namespace ScraperProject.Foundation.History

/-! ## Failures -/

section Failures

variable {State Op Outcome : Type} {perform : Op → State → Outcome × State}
  {failed : Outcome → Bool}

/-- The operations of a history that did not fail. -/
def succeeded (perform : Op → State → Outcome × State) (failed : Outcome → Bool) (start : State)
    (ops : List Op) : List Op :=
  ((events perform start ops).filter fun event => !failed event.2).map Prod.fst

/-- Failures that change nothing can be left out: the end of the history and the
outcomes of the other operations are the same without them. -/
theorem after_succeeded
    (silent : ∀ op state, failed (perform op state).1 = true → (perform op state).2 = state)
    (start : State) (ops : List Op) :
    after perform start (succeeded perform failed start ops) = after perform start ops ∧
      events perform start (succeeded perform failed start ops) =
        (events perform start ops).filter fun event => !failed event.2 := by
  induction ops generalizing start with
  | nil => exact ⟨rfl, rfl⟩
  | cons op rest inductionHypothesis =>
      obtain ⟨sameEnd, sameEvents⟩ := inductionHypothesis (perform op start).2
      unfold succeeded at sameEnd sameEvents ⊢
      cases outcome : failed (perform op start).1 with
      | true =>
          have unchanged := silent op start outcome
          rw [unchanged] at sameEnd sameEvents
          simp only [events, List.filter_cons, outcome, after, unchanged]
          exact ⟨sameEnd, sameEvents⟩
      | false =>
          simp only [events, List.filter_cons, outcome, after, Bool.not_false, if_true,
            List.map_cons, sameEvents, and_true]
          exact sameEnd

end Failures

/-! ## Named values -/

section Registers

variable {State Op Outcome Name Value : Type} [DecidableEq Name]
  {perform : Op → State → Outcome × State} {writes : Op × Outcome → Option (Name × Value)}
  {read : State → Name → Option Value}

/-- The value of a name after an event, given the value before it. -/
def writtenBy (writes : Op × Outcome → Option (Name × Value)) (name : Name)
    (found : Option Value) (event : Op × Outcome) : Option Value :=
  match writes event with
  | some (written, value) => if written = name then some value else found
  | none => found

/-- The last value that the events write under a name. -/
def lastWritten (writes : Op × Outcome → Option (Name × Value)) (name : Name)
    (past : List (Op × Outcome)) : Option Value :=
  past.foldl (writtenBy writes name) none

/-- An operation changes the value of the name that it writes, and of no other. -/
def Overwrites (perform : Op → State → Outcome × State)
    (writes : Op × Outcome → Option (Name × Value)) (read : State → Name → Option Value) : Prop :=
  ∀ op state name, read (perform op state).2 name =
    writtenBy writes name (read state name) (op, (perform op state).1)

/-- A read returns the last value written. -/
theorem read_after (overwrites : Overwrites perform writes read) (start : State)
    (initial : ∀ name, read start name = none) (ops : List Op) (name : Name) :
    read (after perform start ops) name = lastWritten writes name (events perform start ops) := by
  refine @history_invariant _ _ _ perform
    (fun past state => read state name = lastWritten writes name past) ?_ _ (initial name) ops
  intro past op state same
  rw [overwrites, same, lastWritten, lastWritten, List.foldl_append]
  rfl

/-- The names and values that the events write, first to last. -/
def written (writes : Op × Outcome → Option (Name × Value)) (past : List (Op × Outcome)) :
    List (Name × Value) :=
  past.filterMap writes

/-- Where only an unused name is written, every name is written once, and its value is
read for ever. -/
theorem read_after_once (overwrites : Overwrites perform writes read)
    (unused : ∀ op state name value,
      writes (op, (perform op state).1) = some (name, value) → read state name = none)
    (start : State) (initial : ∀ name, read start name = none) (ops : List Op) :
    ((written writes (events perform start ops)).map Prod.fst).Nodup ∧
      ∀ name value, read (after perform start ops) name = some value ↔
        (name, value) ∈ written writes (events perform start ops) := by
  refine @history_invariant _ _ _ perform
    (fun past state => ((written writes past).map Prod.fst).Nodup ∧
      ∀ name value, read state name = some value ↔ (name, value) ∈ written writes past)
    ?_ _ ⟨List.nodup_nil, fun name value => by simp [initial, written]⟩ ops
  rintro past op state ⟨once, found⟩
  unfold written at once found ⊢
  rw [List.filterMap_append, List.map_append]
  simp only [overwrites op state, writtenBy]
  cases wrote : writes (op, (perform op state).1) with
  | none =>
      have nothing : List.filterMap writes [(op, (perform op state).1)] = [] := by simp [wrote]
      rw [nothing, List.map_nil, List.append_nil, List.append_nil]
      exact ⟨once, found⟩
  | some entry =>
      obtain ⟨name, value⟩ := entry
      have free := unused op state name value wrote
      have absent : ∀ other, (name, other) ∉ past.filterMap writes := by
        intro other listed
        rw [(found name other).mpr listed] at free
        cases free
      constructor
      · rw [List.nodup_append]
        refine ⟨once, by simp [wrote], ?_⟩
        rintro used isUsed other isNew rfl
        obtain ⟨⟨same, old⟩, listed, rfl⟩ := List.mem_map.mp isUsed
        have isName : same = name := by simpa [wrote] using isNew
        exact absent old (isName ▸ listed)
      · intro wanted other
        rw [List.mem_append]
        by_cases own : name = wanted
        · subst own
          simp [wrote, absent, eq_comm]
        · have apart : wanted ≠ name := fun same => own same.symm
          simp [wrote, own, apart, found]

end Registers

end ScraperProject.Foundation.History
