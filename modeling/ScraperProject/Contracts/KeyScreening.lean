import ScraperProject.Foundation.FirstFailure
import ScraperProject.Contracts.Screening

/-!
Contract: the exactness of key screening.

Owns the order in which `reject_sensitive_keys` looks at a value, the key that its
refusal names, and its exact outcome: a refusal for the values with a
credential-shaped key, a look at everything inside the others.

Does not own the screened fields of the contracts, or the interpreter's recursion
limit.
-/

namespace ScraperProject.Contracts

open Foundation
open Foundation.FirstFailure

/-! ## Keys inside a value -/

/-- Some object inside the value has the key. -/
def KeyInside (key : String) (value : Json) : Prop :=
  ∃ entries, Inside (.obj entries) value ∧ ∃ entry ∈ entries, entry.1 = key

/-- Some object inside the value has a key that looks like a credential. -/
def HoldsCredentialKey (value : Json) : Prop :=
  ∃ key, KeyInside key value ∧ CredentialShaped key

theorem inside_obj {inner : Json} {entries : List (String × Json)} :
    Inside inner (.obj entries) ↔
      inner = .obj entries ∨ ∃ entry ∈ entries, Inside inner entry.2 := by
  constructor
  · intro inside
    cases inside with
    | self => exact .inl rfl
    | entry member inside => exact .inr ⟨_, member, inside⟩
  · rintro (rfl | ⟨entry, member, inside⟩)
    · exact .self _
    · exact .entry member inside

theorem inside_arr {inner : Json} {items : List Json} :
    Inside inner (.arr items) ↔ inner = .arr items ∨ ∃ item ∈ items, Inside inner item := by
  constructor
  · intro inside
    cases inside with
    | self => exact .inl rfl
    | item member inside => exact .inr ⟨_, member, inside⟩
  · rintro (rfl | ⟨item, member, inside⟩)
    · exact .self _
    · exact .item member inside

/-- Only the value itself is inside one that is neither an object nor an array. -/
theorem inside_scalar {inner value : Json} (notObject : ∀ entries, value ≠ .obj entries)
    (notArray : ∀ items, value ≠ .arr items) : Inside inner value ↔ inner = value := by
  constructor
  · intro inside
    cases inside with
    | self => rfl
    | item => exact absurd rfl (notArray _)
    | entry => exact absurd rfl (notObject _)
  · rintro rfl
    exact .self _

section

variable {key : String}

theorem keyInside_obj {entries : List (String × Json)} :
    KeyInside key (.obj entries) ↔ ∃ entry ∈ entries, entry.1 = key ∨ KeyInside key entry.2 := by
  constructor
  · rintro ⟨held, inside, entry, member, named⟩
    rcases inside_obj.mp inside with same | ⟨outer, outerMember, inside⟩
    · cases same
      exact ⟨entry, member, .inl named⟩
    · exact ⟨outer, outerMember, .inr ⟨held, inside, entry, member, named⟩⟩
  · rintro ⟨entry, member, named | ⟨held, inside, inner⟩⟩
    · exact ⟨entries, .self _, entry, member, named⟩
    · exact ⟨held, .entry member inside, inner⟩

theorem keyInside_arr {items : List Json} :
    KeyInside key (.arr items) ↔ ∃ item ∈ items, KeyInside key item := by
  constructor
  · rintro ⟨held, inside, inner⟩
    rcases inside_arr.mp inside with same | ⟨item, member, inside⟩
    · cases same
    · exact ⟨item, member, held, inside, inner⟩
  · rintro ⟨item, member, held, inside, inner⟩
    exact ⟨held, .item member inside, inner⟩

theorem not_keyInside_scalar {value : Json} (notObject : ∀ entries, value ≠ .obj entries)
    (notArray : ∀ items, value ≠ .arr items) : ¬ KeyInside key value := by
  rintro ⟨held, inside, _⟩
  exact notObject held ((inside_scalar notObject notArray).mp inside).symm

/-- Screened values hold no such key, and the others do. -/
theorem screened_iff {value : Json} : Screened value ↔ ¬ HoldsCredentialKey value := by
  constructor
  · rintro screened ⟨key, ⟨entries, inside, entry, member, rfl⟩, shaped⟩
    exact screened entries inside entry member shaped
  · intro none entries inside entry member shaped
    exact none ⟨entry.1, ⟨entries, inside, entry, member, rfl⟩, shaped⟩

end

/-! ## The order of the visits -/

/-- What the screening looks at: a value that it is called on, or a key of an object,
with the name of the object's field. -/
inductive Visit where
  | value (value : Json)
  | key (fieldName key : String)

mutual

/-- Everything inside the value, in the order of its text. -/
def visits (fieldName : String) : Json → List Visit
  | .obj entries => .value (.obj entries) :: entryVisits fieldName entries
  | .arr items => .value (.arr items) :: itemVisits fieldName items
  | value => [.value value]

def itemVisits (fieldName : String) : List Json → List Visit
  | [] => []
  | item :: rest => visits fieldName item ++ itemVisits fieldName rest

def entryVisits (fieldName : String) : List (String × Json) → List Visit
  | [] => []
  | (key, value) :: rest =>
      .key fieldName key :: (visits (fieldName ++ "." ++ key) value ++ entryVisits fieldName rest)

end

section

variable {inner : Json}

mutual

/-- The values visited are the values inside. -/
theorem value_mem_visits : ∀ (fieldName : String) (value : Json),
    .value inner ∈ visits fieldName value ↔ Inside inner value
  | fieldName, .obj entries => by
      rw [visits, List.mem_cons, value_mem_entryVisits, inside_obj, Visit.value.injEq]
  | fieldName, .arr items => by
      rw [visits, List.mem_cons, value_mem_itemVisits, inside_arr, Visit.value.injEq]
  | fieldName, .null | fieldName, .bool _ | fieldName, .int _ | fieldName, .float _
  | fieldName, .str _ => by
      rw [inside_scalar (by simp) (by simp)]
      simp [visits]

theorem value_mem_itemVisits : ∀ (fieldName : String) (items : List Json),
    .value inner ∈ itemVisits fieldName items ↔ ∃ item ∈ items, Inside inner item
  | fieldName, [] => by simp [itemVisits]
  | fieldName, item :: rest => by
      rw [itemVisits, List.mem_append, value_mem_visits fieldName item,
        value_mem_itemVisits fieldName rest, List.exists_mem_cons_iff]

theorem value_mem_entryVisits : ∀ (fieldName : String) (entries : List (String × Json)),
    .value inner ∈ entryVisits fieldName entries ↔ ∃ entry ∈ entries, Inside inner entry.2
  | fieldName, [] => by simp [entryVisits]
  | fieldName, (key, value) :: rest => by
      have notKey : Visit.value inner ≠ .key fieldName key := nofun
      rw [entryVisits, List.mem_cons, or_iff_right notKey, List.mem_append,
        value_mem_visits (fieldName ++ "." ++ key) value, value_mem_entryVisits fieldName rest,
        List.exists_mem_cons_iff]

end

end

section

variable {key : String}

mutual

/-- The keys visited are the keys inside. -/
theorem key_mem_visits : ∀ (fieldName : String) (value : Json),
    (∃ path, .key path key ∈ visits fieldName value) ↔ KeyInside key value
  | fieldName, .obj entries => by
      simp only [visits, List.mem_cons, reduceCtorEq, false_or]
      rw [key_mem_entryVisits fieldName entries, keyInside_obj]
  | fieldName, .arr items => by
      simp only [visits, List.mem_cons, reduceCtorEq, false_or]
      rw [key_mem_itemVisits fieldName items, keyInside_arr]
  | fieldName, .null | fieldName, .bool _ | fieldName, .int _ | fieldName, .float _
  | fieldName, .str _ => by
      rw [iff_false_right (not_keyInside_scalar (by simp) (by simp))]
      simp [visits]

theorem key_mem_itemVisits : ∀ (fieldName : String) (items : List Json),
    (∃ path, .key path key ∈ itemVisits fieldName items) ↔ ∃ item ∈ items, KeyInside key item
  | fieldName, [] => by simp [itemVisits]
  | fieldName, item :: rest => by
      simp only [itemVisits, List.mem_append, exists_or]
      rw [key_mem_visits fieldName item, key_mem_itemVisits fieldName rest,
        List.exists_mem_cons_iff]

theorem key_mem_entryVisits : ∀ (fieldName : String) (entries : List (String × Json)),
    (∃ path, .key path key ∈ entryVisits fieldName entries) ↔
      ∃ entry ∈ entries, entry.1 = key ∨ KeyInside key entry.2
  | fieldName, [] => by simp [entryVisits]
  | fieldName, (own, value) :: rest => by
      simp only [entryVisits, List.mem_cons, List.mem_append, exists_or, Visit.key.injEq]
      rw [key_mem_visits (fieldName ++ "." ++ own) value, key_mem_entryVisits fieldName rest,
        exists_eq_left, ← or_assoc, eq_comm]
      simp only [exists_eq_or_imp]

end

end

/-! ## The screening as it visits -/

section

variable (library : StandardLibrary)

/-- A value passes, and a key passes unless it is sensitive. -/
def checkVisit : Visit → Except PyError Unit
  | .value _ => .ok ()
  | .key fieldName key =>
      if isSensitiveKey key then
        contractError (fieldName ++ " must not contain sensitive key " ++ library.repr key)
      else .ok ()

/-- One visit, with its outcome. -/
def visited (visit : Visit) : Attempt Visit PyError := (checkVisit library visit, [visit])

mutual

/-- `reject_sensitive_keys`, with everything that it looks at until it returns or raises. -/
def screenKeys (fieldName : String) : Json → Attempt Visit PyError
  | .obj entries =>
      andThen (visited library (.value (.obj entries))) (screenEntries fieldName entries)
  | .arr items => andThen (visited library (.value (.arr items))) (screenItems fieldName items)
  | value => visited library (.value value)

def screenItems (fieldName : String) : List Json → Attempt Visit PyError
  | [] => (.ok (), [])
  | item :: rest => andThen (screenKeys fieldName item) (screenItems fieldName rest)

def screenEntries (fieldName : String) : List (String × Json) → Attempt Visit PyError
  | [] => (.ok (), [])
  | (key, value) :: rest =>
      andThen (visited library (.key fieldName key))
        (andThen (screenKeys (fieldName ++ "." ++ key) value) (screenEntries fieldName rest))

end

mutual

/-- The outcome is the one of the source. -/
theorem screenKeys_fst : ∀ (fieldName : String) (value : Json),
    (screenKeys library fieldName value).1 = rejectSensitiveKeys library fieldName value
  | fieldName, .obj entries => by
      rw [screenKeys, andThen_fst, screenEntries_fst fieldName entries, rejectSensitiveKeys]
      rfl
  | fieldName, .arr items => by
      rw [screenKeys, andThen_fst, screenItems_fst fieldName items, rejectSensitiveKeys]
      rfl
  | fieldName, .null | fieldName, .bool _ | fieldName, .int _ | fieldName, .float _
  | fieldName, .str _ => by
      simp only [screenKeys, rejectSensitiveKeys]
      rfl

theorem screenItems_fst : ∀ (fieldName : String) (items : List Json),
    (screenItems library fieldName items).1 = rejectSensitiveItems library fieldName items
  | fieldName, [] => by
      rw [screenItems, rejectSensitiveItems]
  | fieldName, item :: rest => by
      rw [screenItems, andThen_fst, screenKeys_fst fieldName item,
        screenItems_fst fieldName rest, rejectSensitiveItems]

theorem screenEntries_fst : ∀ (fieldName : String) (entries : List (String × Json)),
    (screenEntries library fieldName entries).1 = rejectSensitiveEntries library fieldName entries
  | fieldName, [] => by
      rw [screenEntries, rejectSensitiveEntries]
  | fieldName, (key, value) :: rest => by
      rw [screenEntries, andThen_fst, andThen_fst,
        screenKeys_fst (fieldName ++ "." ++ key) value, screenEntries_fst fieldName rest,
        rejectSensitiveEntries, visited, checkVisit]
      by_cases sensitive : isSensitiveKey key
      · rw [if_pos sensitive, if_pos sensitive]
      · rw [if_neg sensitive, if_neg sensitive]
        rfl

end

mutual

/-- The recursion goes through the visits in order, up to the first key that fails. -/
theorem screenKeys_eq_attempt : ∀ (fieldName : String) (value : Json),
    screenKeys library fieldName value = attempt (checkVisit library) (visits fieldName value)
  | fieldName, .obj entries => by
      rw [screenKeys, screenEntries_eq_attempt fieldName entries, visits, attempt, visited]
  | fieldName, .arr items => by
      rw [screenKeys, screenItems_eq_attempt fieldName items, visits, attempt, visited]
  | fieldName, .null | fieldName, .bool _ | fieldName, .int _ | fieldName, .float _
  | fieldName, .str _ => by
      simp only [screenKeys, visits]
      rfl

theorem screenItems_eq_attempt : ∀ (fieldName : String) (items : List Json),
    screenItems library fieldName items =
      attempt (checkVisit library) (itemVisits fieldName items)
  | fieldName, [] => by
      rw [screenItems, itemVisits, attempt]
  | fieldName, item :: rest => by
      rw [screenItems, screenKeys_eq_attempt fieldName item,
        screenItems_eq_attempt fieldName rest, itemVisits, attempt_append]

theorem screenEntries_eq_attempt : ∀ (fieldName : String) (entries : List (String × Json)),
    screenEntries library fieldName entries =
      attempt (checkVisit library) (entryVisits fieldName entries)
  | fieldName, [] => by
      rw [screenEntries, entryVisits, attempt]
  | fieldName, (key, value) :: rest => by
      rw [screenEntries, screenKeys_eq_attempt (fieldName ++ "." ++ key) value,
        screenEntries_eq_attempt fieldName rest, entryVisits, attempt, attempt_append, visited]

end

/-! ## Refusals -/

theorem checkVisit_key_ok {fieldName key : String} :
    checkVisit library (.key fieldName key) = .ok () ↔ ¬ CredentialShaped key := by
  rw [checkVisit, ← isSensitiveKey_iff]
  by_cases sensitive : isSensitiveKey key
  · rw [if_pos sensitive]
    exact iff_of_false nofun (not_not_intro sensitive)
  · rw [if_neg sensitive]
    exact iff_of_true rfl sensitive

/-- Only a credential-shaped key fails, with the message that names it. -/
theorem checkVisit_failed {visit : Visit} {raised : PyError}
    (failed : checkVisit library visit = .error raised) :
    ∃ fieldName key, visit = .key fieldName key ∧ CredentialShaped key ∧
      raised = .contractValidation
        (fieldName ++ " must not contain sensitive key " ++ library.repr key) := by
  cases visit with
  | value => cases failed
  | key fieldName key =>
      rw [checkVisit] at failed
      by_cases sensitive : isSensitiveKey key
      · rw [if_pos sensitive] at failed
        exact ⟨fieldName, key, rfl, isSensitiveKey_iff.mp sensitive,
          (Except.error.inj failed).symm⟩
      · rw [if_neg sensitive] at failed
        cases failed

/-- The screening raises at the first credential-shaped key in order, names it with
the field that holds it, and looks at nothing after it. -/
theorem screenKeys_refused {fieldName : String} {value : Json} {raised : PyError}
    (outcome : rejectSensitiveKeys library fieldName value = .error raised) :
    ∃ before path key after,
      visits fieldName value = before ++ .key path key :: after ∧
      (∀ other held, .key other held ∈ before → ¬ CredentialShaped held) ∧
      CredentialShaped key ∧
      raised = .contractValidation
        (path ++ " must not contain sensitive key " ++ library.repr key) ∧
      (screenKeys library fieldName value).2 = before ++ [.key path key] := by
  rw [← screenKeys_fst, screenKeys_eq_attempt] at outcome
  obtain ⟨before, visit, after, order, passes, fails⟩ := split_of_error outcome
  obtain ⟨path, key, rfl, shaped, message⟩ := checkVisit_failed library fails
  refine ⟨before, path, key, after, order, ?_, shaped, message, ?_⟩
  · intro other held member
    exact (checkVisit_key_ok library).mp (passes _ member)
  · rw [screenKeys_eq_attempt, order, attempt_of_split passes fails]

/-- Without such a key the screening looks at everything. -/
theorem screenKeys_passed {fieldName : String} {value : Json}
    (outcome : rejectSensitiveKeys library fieldName value = .ok ()) :
    screenKeys library fieldName value = (.ok (), visits fieldName value) := by
  have passed := outcome
  rw [← screenKeys_fst, screenKeys_eq_attempt] at passed
  have order := attempted_of_ok passed
  rw [← screenKeys_eq_attempt] at order
  exact Prod.ext ((screenKeys_fst library fieldName value).trans outcome) order

/-- The screening refuses exactly the values with a credential-shaped key at any depth,
and returns from the others after a look at every value and every key inside. -/
theorem rejectSensitiveKeys_exact (fieldName : String) (value : Json) :
    ((∃ message, rejectSensitiveKeys library fieldName value =
        .error (.contractValidation message)) ↔ HoldsCredentialKey value) ∧
      (¬ HoldsCredentialKey value →
        rejectSensitiveKeys library fieldName value = .ok () ∧
        screenKeys library fieldName value = (.ok (), visits fieldName value) ∧
        (∀ inner, Inside inner value → .value inner ∈ visits fieldName value) ∧
        ∀ key, KeyInside key value → ∃ path, .key path key ∈ visits fieldName value) := by
  have accepted : rejectSensitiveKeys library fieldName value = .ok () ↔
      ¬ HoldsCredentialKey value := by
    rw [rejectSensitiveKeys_ok, screened_iff]
  constructor
  · constructor
    · rintro ⟨message, raised⟩
      by_contra none
      rw [accepted.mpr none] at raised
      cases raised
    · intro holds
      cases outcome : rejectSensitiveKeys library fieldName value with
      | ok _ => exact absurd holds (accepted.mp outcome)
      | error raised =>
          obtain ⟨_, path, key, _, _, _, _, rfl, _⟩ := screenKeys_refused library outcome
          exact ⟨_, rfl⟩
  · intro none
    have passed := accepted.mpr none
    refine ⟨passed, screenKeys_passed library passed, ?_, ?_⟩
    · intro inner inside
      exact (value_mem_visits fieldName value).mpr inside
    · intro key inside
      exact (key_mem_visits fieldName value).mpr inside

end

end ScraperProject.Contracts
