import Mathlib.Data.List.Basic
import Mathlib.Tactic.Basic

/-!
Contract: ledgers of keyed entries, each applied at most once.

Owns the ledger (what is recorded and the state that the recorded entries made),
the pass that checks recorded entries and applies the others in order, how passes
compose and stop, what a complete pass leaves, and when a pass meets a changed
digest.

Does not own any effect, key or digest; a caller supplies them.
-/

namespace ScraperProject.Foundation

/-- An entry: its key, the digest of its content, the failure that reports another
recorded digest, and what it makes of the state. -/
structure LedgerEntry (Key Digest State Failure : Type) where
  key : Key
  digest : Digest
  drift : Failure
  effect : State → Except Failure State

def LedgerEntry.record {Key Digest State Failure : Type}
    (entry : LedgerEntry Key Digest State Failure) : Key × Digest :=
  (entry.key, entry.digest)

structure Ledger (Key Digest State : Type) where
  records : List (Key × Digest)
  state : State

namespace Ledger

/-! ## Records -/

section Records

variable {Key Digest State Failure : Type} [DecidableEq Key]

/-- The recorded digest of a key. -/
def digestOf (ledger : Ledger Key Digest State) (key : Key) : Option Digest :=
  (ledger.records.find? fun record => record.1 = key).map Prod.snd

/-- The ledger after an entry made a state. -/
def add (ledger : Ledger Key Digest State) (entry : LedgerEntry Key Digest State Failure)
    (state : State) : Ledger Key Digest State where
  records := ledger.records ++ [entry.record]
  state := state

/-- The entry is recorded with its digest. -/
def Matches (ledger : Ledger Key Digest State) (entry : LedgerEntry Key Digest State Failure) :
    Prop :=
  ledger.digestOf entry.key = some entry.digest

/-- The key of the entry is not recorded. -/
def Pending (ledger : Ledger Key Digest State) (entry : LedgerEntry Key Digest State Failure) :
    Prop :=
  ledger.digestOf entry.key = none

/-- The key of the entry is recorded with another digest. -/
def Differs (ledger : Ledger Key Digest State) (entry : LedgerEntry Key Digest State Failure) :
    Prop :=
  ∃ digest, ledger.digestOf entry.key = some digest ∧ digest ≠ entry.digest

/-- Every record of the one ledger is in the other. -/
def Retains (ledger next : Ledger Key Digest State) : Prop :=
  ∀ key digest, ledger.digestOf key = some digest → next.digestOf key = some digest

variable {ledger next third : Ledger Key Digest State}
  {entry : LedgerEntry Key Digest State Failure}

theorem matches_pending_or_differs (ledger : Ledger Key Digest State)
    (entry : LedgerEntry Key Digest State Failure) :
    ledger.Matches entry ∨ ledger.Pending entry ∨ ledger.Differs entry := by
  cases found : ledger.digestOf entry.key with
  | none => exact Or.inr (Or.inl found)
  | some digest =>
      by_cases same : digest = entry.digest
      · exact Or.inl (found.trans (congrArg some same))
      · exact Or.inr (Or.inr ⟨digest, found, same⟩)

theorem Matches.not_differs (recorded : ledger.Matches entry) : ¬ ledger.Differs entry := by
  rintro ⟨digest, found, other⟩
  rw [Matches, found] at recorded
  exact other (Option.some.inj recorded)

theorem Pending.not_differs (pending : ledger.Pending entry) : ¬ ledger.Differs entry := by
  rintro ⟨digest, found, _⟩
  rw [Pending, found] at pending
  cases pending

/-- The first entry that is not recorded with its digest, if there is one. -/
theorem matches_or_split (ledger : Ledger Key Digest State)
    (entries : List (LedgerEntry Key Digest State Failure)) :
    (∀ entry ∈ entries, ledger.Matches entry) ∨
      ∃ before entry rest, entries = before ++ entry :: rest ∧
        (∀ earlier ∈ before, ledger.Matches earlier) ∧
          (ledger.Pending entry ∨ ledger.Differs entry) := by
  induction entries with
  | nil => exact Or.inl fun _ member => absurd member List.not_mem_nil
  | cons entry others inductionHypothesis =>
      rcases matches_pending_or_differs ledger entry with recorded | unmatched
      · rcases inductionHypothesis with all | ⟨before, other, rest, rfl, earlier, other_unmatched⟩
        · exact Or.inl (List.forall_mem_cons.mpr ⟨recorded, all⟩)
        · exact Or.inr ⟨entry :: before, other, rest, rfl,
            List.forall_mem_cons.mpr ⟨recorded, earlier⟩, other_unmatched⟩
      · exact Or.inr ⟨[], entry, others, rfl, fun _ member => absurd member List.not_mem_nil,
          unmatched⟩

theorem digestOf_add (state : State) (key : Key) :
    (ledger.add entry state).digestOf key =
      (ledger.digestOf key).or (if entry.key = key then some entry.digest else none) := by
  unfold digestOf add LedgerEntry.record
  rw [List.find?_append, Option.map_or]
  congr 1
  by_cases same : entry.key = key <;> simp [same]

theorem matches_add_self (pending : ledger.Pending entry) (state : State) :
    (ledger.add entry state).Matches entry := by
  rw [Matches, digestOf_add, show ledger.digestOf entry.key = none from pending, Option.none_or,
    if_pos rfl]

theorem digestOf_add_of_ne {key : Key} (other : entry.key ≠ key) (state : State) :
    (ledger.add entry state).digestOf key = ledger.digestOf key := by
  rw [digestOf_add, if_neg other, Option.or_none]

theorem Retains.refl (ledger : Ledger Key Digest State) : ledger.Retains ledger :=
  fun _ _ recorded => recorded

theorem Retains.trans (first : ledger.Retains next) (second : next.Retains third) :
    ledger.Retains third :=
  fun key digest recorded => second key digest (first key digest recorded)

theorem retains_add (state : State) : ledger.Retains (ledger.add entry state) := by
  intro key digest recorded
  rw [digestOf_add, recorded, Option.some_or]

/-! ## Effects -/

/-- The effects of entries, first to last. -/
def effects : List (LedgerEntry Key Digest State Failure) → State → Except Failure State
  | [], state => .ok state
  | entry :: rest, state =>
      match entry.effect state with
      | .error failure => .error failure
      | .ok next => effects rest next

/-- The entries that are not recorded. -/
def pendingOf (ledger : Ledger Key Digest State)
    (entries : List (LedgerEntry Key Digest State Failure)) :
    List (LedgerEntry Key Digest State Failure) :=
  entries.filter fun entry => (ledger.digestOf entry.key).isNone

theorem pendingOf_cons_of_pending (pending : ledger.Pending entry)
    (rest : List (LedgerEntry Key Digest State Failure)) :
    ledger.pendingOf (entry :: rest) = entry :: ledger.pendingOf rest := by
  have absent : (ledger.digestOf entry.key).isNone = true := Option.isNone_iff_eq_none.mpr pending
  exact List.filter_cons_of_pos absent

theorem pendingOf_cons_of_matches (recorded : ledger.Matches entry)
    (rest : List (LedgerEntry Key Digest State Failure)) :
    ledger.pendingOf (entry :: rest) = ledger.pendingOf rest := by
  refine List.filter_cons_of_neg ?_
  rw [show ledger.digestOf entry.key = _ from recorded]
  exact Bool.false_ne_true

theorem pendingOf_add {entries : List (LedgerEntry Key Digest State Failure)}
    (others : ∀ other ∈ entries, entry.key ≠ other.key) (state : State) :
    (ledger.add entry state).pendingOf entries = ledger.pendingOf entries :=
  List.filter_congr fun other member => by rw [digestOf_add_of_ne (others other member)]

/-- Of an empty ledger every entry is pending. -/
theorem pendingOf_of_empty (empty : ledger.records = [])
    (entries : List (LedgerEntry Key Digest State Failure)) :
    ledger.pendingOf entries = entries := by
  refine List.filter_eq_self.mpr fun entry _ => ?_
  simp [digestOf, empty]

end Records

/-! ## Passes -/

section Passes

variable {Key Digest State Failure : Type} [DecidableEq Key] [DecidableEq Digest]

/-- Check recorded entries and apply the others, first to last, up to the first
failure. -/
def pass : List (LedgerEntry Key Digest State Failure) → Ledger Key Digest State →
    Except Failure Unit × Ledger Key Digest State
  | [], ledger => (.ok (), ledger)
  | entry :: rest, ledger =>
      match ledger.digestOf entry.key with
      | some digest =>
          if digest ≠ entry.digest then (.error entry.drift, ledger) else pass rest ledger
      | none =>
          match entry.effect ledger.state with
          | .error failure => (.error failure, ledger)
          | .ok state => pass rest (ledger.add entry state)

variable {ledger next : Ledger Key Digest State} {entry : LedgerEntry Key Digest State Failure}
  {entries rest : List (LedgerEntry Key Digest State Failure)}

theorem pass_cons_of_matches (recorded : ledger.Matches entry) :
    pass (entry :: rest) ledger = pass rest ledger := by
  simp only [pass, show ledger.digestOf entry.key = _ from recorded, ne_eq, not_true_eq_false,
    if_false]

theorem pass_cons_of_differs (differs : ledger.Differs entry) :
    pass (entry :: rest) ledger = (.error entry.drift, ledger) := by
  obtain ⟨digest, found, other⟩ := differs
  simp only [pass, found, if_pos other]

theorem pass_cons_of_fails (pending : ledger.Pending entry) {failure : Failure}
    (fails : entry.effect ledger.state = .error failure) :
    pass (entry :: rest) ledger = (.error failure, ledger) := by
  simp only [pass, show ledger.digestOf entry.key = _ from pending, fails]

theorem pass_cons_of_applies (pending : ledger.Pending entry) {state : State}
    (applies : entry.effect ledger.state = .ok state) :
    pass (entry :: rest) ledger = pass rest (ledger.add entry state) := by
  simp only [pass, show ledger.digestOf entry.key = _ from pending, applies]

/-- A complete pass finds its first entry recorded, or applies it. -/
theorem pass_cons_eq_ok (passed : pass (entry :: rest) ledger = (.ok (), next)) :
    (ledger.Matches entry ∧ pass rest ledger = (.ok (), next)) ∨
      ∃ state, ledger.Pending entry ∧ entry.effect ledger.state = .ok state ∧
        pass rest (ledger.add entry state) = (.ok (), next) := by
  rcases matches_pending_or_differs ledger entry with recorded | pending | differs
  · rw [pass_cons_of_matches recorded] at passed
    exact Or.inl ⟨recorded, passed⟩
  · cases outcome : entry.effect ledger.state with
    | error failure =>
        rw [pass_cons_of_fails pending outcome] at passed
        cases passed
    | ok state =>
        rw [pass_cons_of_applies pending outcome] at passed
        exact Or.inr ⟨state, pending, rfl, passed⟩
  · rw [pass_cons_of_differs differs] at passed
    cases passed

/-! ### Composition -/

theorem pass_append (entries rest : List (LedgerEntry Key Digest State Failure))
    (ledger : Ledger Key Digest State) :
    pass (entries ++ rest) ledger =
      match pass entries ledger with
      | (.ok _, next) => pass rest next
      | (.error failure, next) => (.error failure, next) := by
  induction entries generalizing ledger with
  | nil => rfl
  | cons entry others inductionHypothesis =>
      rw [List.cons_append]
      rcases matches_pending_or_differs ledger entry with recorded | pending | differs
      · rw [pass_cons_of_matches recorded, pass_cons_of_matches recorded, inductionHypothesis]
      · cases outcome : entry.effect ledger.state with
        | error failure => rw [pass_cons_of_fails pending outcome, pass_cons_of_fails pending outcome]
        | ok state =>
            rw [pass_cons_of_applies pending outcome, pass_cons_of_applies pending outcome,
              inductionHypothesis]
      · rw [pass_cons_of_differs differs, pass_cons_of_differs differs]

theorem pass_append_of_ok (passed : pass entries ledger = (.ok (), next)) :
    pass (entries ++ rest) ledger = pass rest next := by
  rw [pass_append, passed]

/-- A pass over recorded entries changes nothing. -/
theorem pass_of_matches (recorded : ∀ entry ∈ entries, ledger.Matches entry) :
    pass entries ledger = (.ok (), ledger) := by
  induction entries with
  | nil => rfl
  | cons entry rest inductionHypothesis =>
      rw [pass_cons_of_matches (recorded entry List.mem_cons_self)]
      exact inductionHypothesis fun other member => recorded other (List.mem_cons_of_mem _ member)

theorem pass_retains (entries : List (LedgerEntry Key Digest State Failure))
    (ledger : Ledger Key Digest State) : ledger.Retains (pass entries ledger).2 := by
  induction entries generalizing ledger with
  | nil => exact .refl ledger
  | cons entry rest inductionHypothesis =>
      rcases matches_pending_or_differs ledger entry with recorded | pending | differs
      · rw [pass_cons_of_matches recorded]
        exact inductionHypothesis ledger
      · cases outcome : entry.effect ledger.state with
        | error failure =>
            rw [pass_cons_of_fails pending outcome]
            exact .refl ledger
        | ok state =>
            rw [pass_cons_of_applies pending outcome]
            exact (retains_add state).trans (inductionHypothesis _)
      · rw [pass_cons_of_differs differs]
        exact .refl ledger

theorem retains_of_pass (passed : pass entries ledger = (.ok (), next)) :
    ledger.Retains next := by
  have retained := pass_retains entries ledger
  rwa [passed] at retained

/-- A complete pass leaves every entry recorded. -/
theorem matches_of_pass (passed : pass entries ledger = (.ok (), next)) :
    ∀ entry ∈ entries, next.Matches entry := by
  induction entries generalizing ledger with
  | nil => simp
  | cons entry rest inductionHypothesis =>
      intro other member
      rcases pass_cons_eq_ok passed with ⟨recorded, others⟩ | ⟨state, pending, _, others⟩
      · rcases List.mem_cons.mp member with rfl | listed
        · exact retains_of_pass others _ _ recorded
        · exact inductionHypothesis others other listed
      · rcases List.mem_cons.mp member with rfl | listed
        · exact retains_of_pass others _ _ (matches_add_self pending state)
        · exact inductionHypothesis others other listed

/-- A complete pass over entries with distinct keys records and applies each
pending entry once, in order. -/
theorem records_of_pass (distinct : (entries.map LedgerEntry.key).Nodup)
    (passed : pass entries ledger = (.ok (), next)) :
    next.records = ledger.records ++ (ledger.pendingOf entries).map LedgerEntry.record ∧
      effects (ledger.pendingOf entries) ledger.state = .ok next.state := by
  induction entries generalizing ledger with
  | nil =>
      cases passed
      exact ⟨(List.append_nil _).symm, rfl⟩
  | cons entry rest inductionHypothesis =>
      rw [List.map_cons, List.nodup_cons] at distinct
      rcases pass_cons_eq_ok passed with ⟨recorded, later⟩ | ⟨state, pending, outcome, later⟩
      · rw [pendingOf_cons_of_matches recorded]
        exact inductionHypothesis distinct.2 later
      · have others : ∀ other ∈ rest, entry.key ≠ other.key := fun other member same =>
          distinct.1 (List.mem_map.mpr ⟨other, member, same.symm⟩)
        obtain ⟨records, states⟩ := inductionHypothesis distinct.2 later
        rw [pendingOf_add others] at records states
        rw [pendingOf_cons_of_pending pending, records]
        refine ⟨by simp [add], ?_⟩
        simp only [effects, outcome]
        exact states

/-- A complete pass applies and records some of the pending entries, each key once
and in order. -/
theorem applied_of_pass (passed : pass entries ledger = (.ok (), next)) :
    ∃ applied : List (LedgerEntry Key Digest State Failure), applied.Sublist entries ∧
      (applied.map LedgerEntry.key).Nodup ∧ (∀ entry ∈ applied, ledger.Pending entry) ∧
        next.records = ledger.records ++ applied.map LedgerEntry.record ∧
          effects applied ledger.state = .ok next.state := by
  induction entries generalizing ledger with
  | nil =>
      cases passed
      exact ⟨[], .slnil, List.nodup_nil, by simp, by simp, rfl⟩
  | cons entry rest inductionHypothesis =>
      rcases pass_cons_eq_ok passed with ⟨_, later⟩ | ⟨state, pending, outcome, later⟩
      · obtain ⟨applied, sublist, others⟩ := inductionHypothesis later
        exact ⟨applied, sublist.cons entry, others⟩
      · obtain ⟨applied, sublist, distinct, unrecorded, records, states⟩ :=
          inductionHypothesis later
        have own := matches_add_self pending state
        -- what is applied later has another key and was pending before
        have apart : ∀ other ∈ applied, entry.key ≠ other.key := by
          intro other member same
          have recorded := unrecorded other member
          rw [Pending, ← same] at recorded
          exact absurd (own.symm.trans recorded) (by simp)
        refine ⟨entry :: applied, sublist.cons_cons entry, ?_, ?_, ?_, ?_⟩
        · rw [List.map_cons, List.nodup_cons]
          refine ⟨fun member => ?_, distinct⟩
          obtain ⟨other, listed, same⟩ := List.mem_map.mp member
          exact apart other listed same.symm
        · refine List.forall_mem_cons.mpr ⟨pending, fun other member => ?_⟩
          have recorded := unrecorded other member
          rwa [Pending, digestOf_add_of_ne (apart other member)] at recorded
        · rw [records]
          simp [add]
        · simp only [effects, outcome]
          exact states

/-- Pending entries whose effects succeed are all applied. -/
theorem pass_of_effects (distinct : (entries.map LedgerEntry.key).Nodup)
    (pending : ∀ entry ∈ entries, ledger.Pending entry) {state : State}
    (succeeds : effects entries ledger.state = .ok state) :
    pass entries ledger =
      (.ok (), ⟨ledger.records ++ entries.map LedgerEntry.record, state⟩) := by
  induction entries generalizing ledger with
  | nil =>
      cases succeeds
      simp [pass]
  | cons entry rest inductionHypothesis =>
      rw [List.map_cons, List.nodup_cons] at distinct
      have own := pending entry List.mem_cons_self
      cases outcome : entry.effect ledger.state with
      | error failure => simp [effects, outcome] at succeeds
      | ok next =>
          simp only [effects, outcome] at succeeds
          have restPending : ∀ other ∈ rest, (ledger.add entry next).Pending other := by
            intro other member
            have apart : entry.key ≠ other.key := fun same =>
              distinct.1 (List.mem_map.mpr ⟨other, member, same.symm⟩)
            rw [Pending, digestOf_add_of_ne apart]
            exact pending other (List.mem_cons_of_mem _ member)
          rw [pass_cons_of_applies own outcome,
            inductionHypothesis distinct.2 restPending succeeds]
          simp [add]

/-! ### Drift -/

/-- The pass stops at an entry whose digest differs, if all before it are recorded. -/
theorem pass_of_differs {before : List (LedgerEntry Key Digest State Failure)}
    (recorded : ∀ earlier ∈ before, ledger.Matches earlier) (differs : ledger.Differs entry) :
    pass (before ++ entry :: rest) ledger = (.error entry.drift, ledger) := by
  rw [pass_append_of_ok (pass_of_matches recorded), pass_cons_of_differs differs]

/-- A changed digest is reported as drift, and no effect fails so. -/
def Distinguished (IsDrift : Failure → Prop)
    (entries : List (LedgerEntry Key Digest State Failure)) : Prop :=
  ∀ entry ∈ entries, IsDrift entry.drift ∧
    ∀ state failure, entry.effect state = .error failure → ¬ IsDrift failure

variable {IsDrift : Failure → Prop}

/-- Without a changed digest the pass reports no drift. -/
theorem pass_not_drift (distinct : (entries.map LedgerEntry.key).Nodup)
    (distinguished : Distinguished IsDrift entries)
    (same : ∀ entry ∈ entries, ¬ ledger.Differs entry) {failure : Failure}
    (failed : (pass entries ledger).1 = .error failure) : ¬ IsDrift failure := by
  induction entries generalizing ledger with
  | nil => cases failed
  | cons entry rest inductionHypothesis =>
      rw [List.map_cons, List.nodup_cons] at distinct
      obtain ⟨ownDistinguished, restDistinguished⟩ := List.forall_mem_cons.mp distinguished
      obtain ⟨ownSame, restSame⟩ := List.forall_mem_cons.mp same
      rcases matches_pending_or_differs ledger entry with recorded | pending | differs
      · rw [pass_cons_of_matches recorded] at failed
        exact inductionHypothesis distinct.2 restDistinguished restSame failed
      · cases outcome : entry.effect ledger.state with
        | error other =>
            rw [pass_cons_of_fails pending outcome] at failed
            exact Except.error.inj failed ▸ ownDistinguished.2 _ _ outcome
        | ok state =>
            rw [pass_cons_of_applies pending outcome] at failed
            refine inductionHypothesis distinct.2 restDistinguished (fun later member differs => ?_)
              failed
            have apart : entry.key ≠ later.key := fun sameKey =>
              distinct.1 (List.mem_map.mpr ⟨later, member, sameKey.symm⟩)
            rw [Differs, digestOf_add_of_ne apart] at differs
            exact restSame later member differs
      · exact absurd differs ownSame

/-- A pass that meets a pending entry applies it or fails without drift. -/
theorem pass_of_pending {before : List (LedgerEntry Key Digest State Failure)}
    (recorded : ∀ earlier ∈ before, ledger.Matches earlier) (pending : ledger.Pending entry)
    (distinguished : Distinguished IsDrift (before ++ entry :: rest)) :
    (pass (before ++ entry :: rest) ledger).2.Matches entry ∨
      ∃ failure, (pass (before ++ entry :: rest) ledger).1 = .error failure ∧
        ¬ IsDrift failure := by
  rw [pass_append_of_ok (pass_of_matches recorded)]
  cases outcome : entry.effect ledger.state with
  | error failure =>
      right
      rw [pass_cons_of_fails pending outcome]
      have own := distinguished entry (List.mem_append_right _ List.mem_cons_self)
      exact ⟨failure, rfl, own.2 _ _ outcome⟩
  | ok state =>
      left
      rw [pass_cons_of_applies pending outcome]
      exact pass_retains rest _ _ _ (matches_add_self pending state)

end Passes

end Ledger

end ScraperProject.Foundation
