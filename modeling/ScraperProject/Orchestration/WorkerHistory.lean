import ScraperProject.Foundation.Session
import ScraperProject.Orchestration.WorkerProgram

/-!
Contract: histories of `run` calls on one runtime root.

Owns the moves of a pool of worker processes, the worlds that a history passes
through, and what holds after every history of calls that run one after another
and may be cut off after any command: the invariant, what a call in progress
still does, and that nothing on record is taken back.

Does not own what the invariant says about any one table.
-/

namespace ScraperProject.Orchestration

open Foundation
open Database

/-- Worker processes on one database and one runtime root. -/
abbrev WorkerPool (Process : Type) : Type :=
  Pool Process World RunCall Command Reply PyError SyntheticWorkerResult

abbrev WorkerMove (Process : Type) : Type := Move Process RunCall Environment

abbrev WorkerSession : Type := Session RunCall Command Reply PyError SyntheticWorkerResult

/-- The result of a call that has returned. -/
def returnedResult (session : WorkerSession) : Option SyntheticWorkerResult :=
  match session.rest with
  | .done result => some result
  | _ => none

theorem returnedResult_eq_some {session : WorkerSession} {result : SyntheticWorkerResult}
    (returned : returnedResult session = some result) : session.rest = .done result := by
  unfold returnedResult at returned
  split at returned
  · next value ended => rw [ended, Option.some.inj returned]
  · cases returned

/-- The check that a call for the run has returned with a state. -/
theorem returned_of_check {current : Option WorkerSession} {runId state : String}
    (checked : current.any (fun session => decide (session.call.runId = runId) &&
      (returnedResult session).any fun result => decide (result.state = state)) = true) :
    ∃ session result, current = some session ∧ session.call.runId = runId ∧
      session.rest = .done result ∧ result.state = state := by
  obtain ⟨session, isCurrent, both⟩ := (Option.any_eq_true _ _).mp checked
  obtain ⟨isRun, returned⟩ := Bool.and_eq_true_iff.mp both
  obtain ⟨result, isResult, isState⟩ := (Option.any_eq_true _ _).mp returned
  exact ⟨session, result, isCurrent, of_decide_eq_true isRun, returnedResult_eq_some isResult,
    of_decide_eq_true isState⟩

section Histories

variable (library : StandardLibrary) (root : String)

/-- One move of the pool: a process starts a call of `run`, executes its next
command, or is cut off. -/
abbrev workerMove {Process : Type} [DecidableEq Process] :
    WorkerMove Process → WorkerPool Process → Unit × WorkerPool Process :=
  Pool.move (run library root) (performCommand library)

/-- The pool after the moves, from an empty database and no files. -/
def afterMoves {Process : Type} [DecidableEq Process] (moves : List (WorkerMove Process)) :
    WorkerPool Process :=
  History.after (workerMove library root) (Pool.idle World.empty) moves

/-- Every executed command meets the condition. -/
def StepsMeet {Process : Type} [DecidableEq Process]
    (condition : WorkerSession → Environment → Command → World → Prop)
    (moves : List (WorkerMove Process)) : Prop :=
  Pool.MovesMeet (run library root) (performCommand library) (fun _ => True) condition
    (Pool.idle World.empty) moves

variable {library root}

theorem afterMoves_append {Process : Type} [DecidableEq Process]
    (moves later : List (WorkerMove Process)) :
    afterMoves library root (moves ++ later) =
      History.after (workerMove library root) (afterMoves library root moves) later :=
  History.after_append _ _ _ _

theorem stepsMeet_of_checks {Process : Type} [DecidableEq Process]
    {condition : WorkerSession → Environment → Command → World → Prop}
    {check : WorkerSession → Environment → Command → World → Bool}
    (sound : ∀ session environment command world,
      check session environment command world = true →
        condition session environment command world)
    {moves : List (WorkerMove Process)}
    (checked : History.allAlong (workerMove library root) (Pool.moveChecks check)
      (Pool.idle World.empty) moves = true) :
    StepsMeet library root condition moves :=
  History.along_of_allAlong _ (Pool.moveMeets_of_moveChecks sound) checked

/-! ## One process -/

variable {promises : Promises}

/-- The steps of a history respect the promises. -/
abbrev Respectful (promises : Promises) (session : WorkerSession) (environment : Environment)
    (command : Command) (world : World) : Prop :=
  Respects promises session.call.runId environment command world

variable (library root promises) in
/-- The world satisfies the invariant, and the call in progress respects its terms. -/
abbrev SoundPool (pool : WorkerPool Unit) : Prop :=
  Pool.Sound (performCommand library) (Durable library promises)
    (fun call => workerTerms library root promises call.runId)
    (fun call => Reported library call.runId) pool

section Conditions

variable {condition : WorkerSession → Environment → Command → World → Prop}
  (respects : ∀ session environment command world,
    condition session environment command world →
      Respectful promises session environment command world)

include respects

theorem soundPool_move (next : WorkerMove Unit) (pool : WorkerPool Unit)
    (meets : Pool.MoveMeets (fun _ => True) condition pool next)
    (sound : SoundPool library root promises pool) :
    SoundPool library root promises (workerMove library root next pool).2 := by
  refine Pool.sound_move (fun _ _ _ durable => run_meets durable) ?_ next pool meets sound
  intro session environment command world holds durable guarded
  have kept := durable.keeps guarded (performed_change library environment command world)
  exact ⟨⟨respects _ _ _ _ holds, kept⟩, kept⟩

theorem soundPool_afterMoves {moves : List (WorkerMove Unit)}
    (meets : StepsMeet library root condition moves) :
    SoundPool library root promises (afterMoves library root moves) :=
  History.along_invariant _
    (fun next pool meets sound => soundPool_move respects next pool meets sound)
    (Pool.sound_idle durable_empty) meets

/-- A relation that guarded steps respect holds between the worlds of a history. -/
theorem related_afterMoves (Related : World → World → Prop) {moves later : List (WorkerMove Unit)}
    (refl : ∀ world, Related world world)
    (trans : ∀ {first second third}, Related first second → Related second third →
      Related first third)
    (relates : ∀ session environment command world,
      condition session environment command world → Durable library promises world →
        Guard library root promises session.call.runId command world →
          Related world (performCommand library environment command world).2)
    (meets : StepsMeet library root condition (moves ++ later)) :
    Related (afterMoves library root moves).world
      (afterMoves library root (moves ++ later)).world := by
  -- The conditions hold along the second part as well, from the pool after the first.
  obtain ⟨first, second⟩ := (History.along_append _).mp meets
  rw [afterMoves_append]
  refine @History.along_related _ _ _ (workerMove library root) _
    (SoundPool library root promises) (fun before after => Related before.world after.world)
    (fun pool => refl pool.world) trans
    (fun next pool meets sound => soundPool_move respects next pool meets sound) ?_ _
    (soundPool_afterMoves respects first) _ second
  intro next pool meets sound
  exact Pool.related_move refl relates next pool meets sound

/-- What guarded steps of the empty world keep holds after every history. -/
theorem extra_afterMoves (Extra : World → Prop) {moves : List (WorkerMove Unit)}
    (initial : Extra World.empty)
    (keeps : ∀ session environment command world,
      condition session environment command world → Durable library promises world →
        Guard library root promises session.call.runId command world → Extra world →
          Extra (performCommand library environment command world).2)
    (meets : StepsMeet library root condition moves) :
    Extra (afterMoves library root moves).world := by
  have whole : StepsMeet library root condition ([] ++ moves) := meets
  exact related_afterMoves respects (fun before after => Extra before → Extra after)
    (fun _ => id) (fun left right => right ∘ left) keeps whole initial

/-- Nothing on record is taken back. -/
theorem grow_afterMoves {moves later : List (WorkerMove Unit)}
    (meets : StepsMeet library root condition (moves ++ later)) :
    Grow (afterMoves library root moves).world
      (afterMoves library root (moves ++ later)).world :=
  related_afterMoves respects Grow Grow.refl Grow.trans
    (fun _ environment command world _ _ _ =>
      (performed_change library environment command world).grow) meets

end Conditions

/-- Without promises every move is respectful. -/
theorem moveMeets_none (pool : WorkerPool Unit) (next : WorkerMove Unit) :
    Pool.MoveMeets (fun _ => True) (Respectful Promises.none) pool next := by
  cases next with
  | start process call => trivial
  | stop process => trivial
  | step process environment =>
      intro session _ command _ _
      cases command <;> simp [Respectful, Respects, Promises.none]

theorem respectful_none (moves : List (WorkerMove Unit)) :
    StepsMeet library root (Respectful Promises.none) moves :=
  History.along_of_forall _ moveMeets_none _ moves

theorem durable_afterMoves (moves : List (WorkerMove Unit)) :
    Durable library Promises.none (afterMoves library root moves).world :=
  (soundPool_afterMoves (fun _ _ _ _ => id) (respectful_none moves)).1

end Histories

/-! ## A sample installation

Two runs of one listing, with the identifiers and digests that
the standard library computes for them. -/

def sampleIdentifiers : List (String × String) :=
  [ ("run-1:partition", "f5a95846-8a07-532d-b3f0-3483ada83d33"),
    ("run-1:detail-job", "3b37613a-5e2e-5fcc-bbeb-68cd03a4c483"),
    ("run-1:artifact", "f199ff8f-a96b-5963-922e-2b89a037027d"),
    ("run-1:batch", "e8ef9aa2-123e-5b55-9cc3-9b90d4745a68"),
    ("run-2:partition", "3d4a274f-1848-5193-ace9-4cbade9483b5"),
    ("run-2:detail-job", "a7d967d5-6252-5682-a85f-79fd9b15368f"),
    ("run-2:artifact", "6f81b91c-e721-5e34-896e-c62aa9320aba"),
    ("run-2:batch", "80ff696c-60b8-5ced-b424-3f8371d390b7") ]

def sampleUuid5 (name : String) : String :=
  match sampleIdentifiers.find? fun entry => entry.1 = name with
  | some entry => entry.2
  | none => "unlisted:" ++ name

theorem sampleIdentifiers_distinct :
    ∀ entry ∈ sampleIdentifiers, ∀ other ∈ sampleIdentifiers, entry.2 = other.2 →
      entry.1 = other.1 := by decide +kernel

theorem sampleIdentifiers_form : ∀ entry ∈ sampleIdentifiers,
    Text.isBlank entry.2 = false ∧ entry.2.toList.head? ≠ some 'u' := by decide +kernel

/-- An identifier of the table is no name outside it. -/
theorem sampleIdentifiers_listed {entry : String × String} {name : String}
    (member : entry ∈ sampleIdentifiers) : entry.2 ≠ "unlisted:" ++ name := by
  intro same
  have head := (sampleIdentifiers_form entry member).2
  rw [same, String.toList_append] at head
  exact head rfl

theorem sampleUuid5_injective : Function.Injective sampleUuid5 := by
  intro first second same
  simp only [sampleUuid5] at same
  split at same
  · next entry found =>
    have member := List.mem_of_find?_eq_some found
    have named : entry.1 = first := by simpa using List.find?_some found
    split at same
    · next other otherFound =>
      have otherMember := List.mem_of_find?_eq_some otherFound
      have otherNamed : other.1 = second := by simpa using List.find?_some otherFound
      rw [← named, ← otherNamed]
      exact sampleIdentifiers_distinct entry member other otherMember same
    · exact absurd same (sampleIdentifiers_listed member)
  · split at same
    · next other otherFound =>
      exact absurd same.symm (sampleIdentifiers_listed (List.mem_of_find?_eq_some otherFound))
    · simpa using same

theorem sampleUuid5_notBlank (name : String) : Text.isBlank (sampleUuid5 name) = false := by
  simp only [sampleUuid5]
  split
  · next entry found =>
    exact (sampleIdentifiers_form entry (List.mem_of_find?_eq_some found)).1
  · simp [Text.isBlank, Text.isSpace]

/-- A listing as the fixture server serves it. -/
def sampleListing : List (String × Json) :=
  [ ("listing_url", .str "http://localhost/1"),
    ("source_listing_key", .str "listing-1"),
    ("source_name", .str "synthetic_fixture"),
    ("visible_specs", .obj []) ]

theorem listingDigest_form : isSha256Text
    "232cb1aae0b5cf1eaeaaa1a79ea7520117c36d4f019c09f8cd758d77cc51c1e8" := by decide

theorem recordsDigest_form : isSha256Text
    "ffed98be7389d6081d37f85fc5449b0eec9856bd6c5f0f3b2c484fae677b5134" := by decide

theorem manifestDigest_form : isSha256Text
    "cb4e70ecf7c102bd350e03669c27c8d683486aef68b097134dac5a07190d5461" := by decide

theorem otherDigest_form : isSha256Text
    "0000000000000000000000000000000000000000000000000000000000000000" := by decide

/-- The digests of the listing, and of the records and the manifest of "run-1",
which differ in their lengths. -/
def sampleSha256 (content : List UInt8) : HexDigest :=
  match content.length with
  | 122 => ⟨_, listingDigest_form⟩
  | 112 => ⟨_, recordsDigest_form⟩
  | 188 => ⟨_, manifestDigest_form⟩
  | _ => ⟨_, otherDigest_form⟩

def sampleLibrary : StandardLibrary where
  sha256 := sampleSha256
  uuid5 := sampleUuid5
  uuid5_injective := sampleUuid5_injective
  uuid5_notBlank := sampleUuid5_notBlank
  netlocRefused _ := false
  isInteger text := !text.isEmpty && text.all Char.isDigit
  otherIsoFormat _ := none
  repr text := text

/-- The environment of the command with this number: a quiet machine. -/
def sampleEnvironment (served : List (String × Json)) (number : Nat) : Environment where
  clock := sampleMorning
  laterClock := sampleMorning
  identifier := String.ofList
    ("00000000-0000-4000-8000-".toList ++ Digits.fixedWidth 12 number)
  freeBytes := 1073741824
  response := .ok (200, .ok (.obj served))
  shutdown := false
  torn := none

def sampleCall (runId : String) (stopAfter : Option String) (micros : Nat) : RunCall where
  fixtureUrl := "http://127.0.0.1:8000/listing.json"
  minimumFreeBytes := 1
  runId := runId
  leaseSeconds := 30
  stopAfter := stopAfter
  now := some (sampleLater micros)
  shutdownCallback := false

/-- As many commands of one process, in environments numbered from the first on. -/
def sampleSteps {Process : Type} (process : Process) (first count : Nat) :
    List (WorkerMove Process) :=
  (List.range count).map fun index =>
    .step process (sampleEnvironment sampleListing (first + index))

end ScraperProject.Orchestration
