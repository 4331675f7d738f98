import ScraperProject.Database.ManifestCodec
import ScraperProject.Foundation.Dispatch
import ScraperProject.Orchestration.QueueHistory

/-!
Contract: which job `lease_next` hands out.

Owns the law of leasing by points in time (a due job that no due job beats by
priority, schedule and creation), the two reckonings of a queue, by its stored
texts and by their instants, and the exact states in which the choice by text is
a choice by time. The texts order a whole second after every fraction of it, so
a job may be handed out in the second before it is due, or ahead of an earlier one
of the same second.

Does not own the comparison of two reckonings, which is a fact of the library.
-/

namespace ScraperProject.Orchestration

open Foundation
open Foundation.IsoText
open Database
open Contracts

/-! ## Stored times as instants -/

/-- The instant of a stored time, decoded as its readers do. -/
def instantOf (text : String) : Nat :=
  match parseIso? (expandZulu text.toList) with
  | some (micros, _) => micros
  | none => 0

@[simp] theorem instantOf_text (stamp : Instant) : instantOf stamp.text = stamp.micros := by
  rw [instantOf, Instant.text, String.toList_ofList, expandZulu_isoText,
    parseIso?_isoText stamp.inRange]

theorem text_eq_iff (left right : Instant) :
    left.text = right.text ↔ left.micros = right.micros := by
  constructor
  · intro same
    rw [Instant.text_inj.mp same]
  · intro same
    have sameStamp : left = right := by
      cases left
      cases right
      simpa using same
    rw [sameStamp]

/-- The two times that order a job are texts of instants. -/
structure Timed (row : JobRow) : Prop where
  scheduled : ∃ stamp : Instant, row.scheduledAt = stamp.text
  created : ∃ stamp : Instant, row.createdAt = stamp.text

/-- A new job stores the clock of its creation. -/
theorem Created.createdAt {job : DetailFetchJob} {createdAt updatedAt : Instant} {row : JobRow}
    {db : Db}
    (created : Created job row db (createIdempotent job createdAt updatedAt db).2) :
    row.createdAt = createdAt.text := by
  have grown : (createIdempotent job createdAt updatedAt db).2.jobs.rows ≠ db.jobs.rows := by
    rw [created.jobs]
    simp
  have added := created.jobs
  generalize call : createIdempotent job createdAt updatedAt db = outcome at grown added
  obtain ⟨result, next⟩ := outcome
  cases result with
  | error raised =>
      rw [createIdempotent_error call] at grown
      exact absurd rfl grown
  | ok jobId =>
      obtain ⟨_, stored, _, _, ⟨_, made, inserted⟩, _, rfl⟩ := createIdempotent_ok call
      rcases insertJob_ok inserted with ⟨_, rfl⟩ | ⟨_, _, rows⟩
      · exact absurd rfl grown
      · have same : [stored] = [row] := List.append_cancel_left (rows.symm.trans added)
        rw [← List.singleton_inj.mp same]
        unfold newJobRow at made
        split at made
        · cases made
          rfl
        · cases made

theorem JobStep.createdAt {event : JobEvent} {view after : JobView}
    (step : JobStep event view after) : after.row.createdAt = view.row.createdAt := by
  cases step with
  | kept => rfl
  | leased => rfl
  | settled => rfl

/-- The queue represents its jobs, and their times are texts of instants. -/
structure TimedQueue (db : Db) : Prop where
  queue : QueueInvariant db
  stamped : ∀ row ∈ db.jobs, Stamped row
  created : ∀ row ∈ db.jobs, ∃ stamp : Instant, row.createdAt = stamp.text

theorem perform_timedQueue (call : QueueCall) (db : Db) (timed : TimedQueue db) :
    TimedQueue (perform call db).2 where
  queue := (perform_effect call db).invariant timed.queue
  stamped := (perform_effect call db).stamped timed.stamped
  created row member := by
    have effect := perform_effect call db
    rcases effect.origin_step member with
      ⟨old, oldMember, _, event, step, _⟩ | ⟨job, createdAt, updatedAt, rfl, created⟩
    · have kept : row.createdAt = old.createdAt := step.createdAt
      rw [kept]
      exact timed.created old oldMember
    · exact ⟨createdAt, created.createdAt⟩

theorem timedQueue_after {start : Db} (empty : EmptyQueue start) (calls : List QueueCall) :
    TimedQueue (History.after perform start calls) := by
  have noJobs : ∀ row ∈ start.jobs, False := by
    intro row member
    rw [← Table.mem_rows, empty.1] at member
    cases member
  apply History.after_invariant perform perform_timedQueue
  exact
    { queue := empty.invariant
      stamped := fun row member => (noJobs row member).elim
      created := fun row member => (noJobs row member).elim }

theorem TimedQueue.timed {db : Db} (timed : TimedQueue db) {row : JobRow} (member : row ∈ db.jobs) :
    Timed row where
  scheduled := (timed.stamped row member).scheduled
  created := timed.created row member

/-! ## The law -/

/-- A pending job with attempts left. -/
def Unspent (row : JobRow) : Prop := row.state = .pending ∧ row.attemptCount < row.maxAttempts

instance (row : JobRow) : Decidable (Unspent row) := inferInstanceAs (Decidable (_ ∧ _))

/-- The job may be leased at the clock. -/
def DueAt (now : Datetime) (row : JobRow) : Prop :=
  Unspent row ∧ (instantOf row.scheduledAt : Int) ≤ now.instant

instance (now : Datetime) (row : JobRow) : Decidable (DueAt now row) :=
  inferInstanceAs (Decidable (_ ∧ _))

/-- By priority, then by the scheduled instant, then by the instant of creation. -/
def Beats (row other : JobRow) : Prop :=
  other.priority < row.priority ∨ (row.priority = other.priority ∧
    (instantOf row.scheduledAt < instantOf other.scheduledAt ∨
      (instantOf row.scheduledAt = instantOf other.scheduledAt ∧
        instantOf row.createdAt < instantOf other.createdAt)))

instance (row other : JobRow) : Decidable (Beats row other) :=
  inferInstanceAs (Decidable (_ ∨ _))

/-- The row is leased from the clock for the length asked for, under a new attempt,
and every other row stays. -/
structure LeaseGiven (workerId : String) (leaseSeconds : Int) (now : Datetime)
    (jobAttemptId : String) (row : JobRow) (db : Db)
    (outcome : Except PyError (Option JobLease) × Db) : Prop where
  times : ∃ clock expiry : Instant, (clock.micros : Int) = now.instant ∧
    (expiry.micros : Int) = now.instant + leaseSeconds * 1000000 ∧
      outcome.1 = .ok (some (leaseOf row workerId expiry.text)) ∧
      outcome.2.jobs.rows = db.jobs.rows.map (fun stored =>
        if stored.jobId = row.jobId then leasedRow row workerId expiry.text clock.text
        else stored) ∧
      outcome.2.attempts.rows =
        db.attempts.rows ++ [openAttempt jobAttemptId row workerId clock.text]
  frame : outcome.2 = { db with jobs := outcome.2.jobs, attempts := outcome.2.attempts }

/-- The law of leasing: nothing when nothing is due, else a due job that no due
job beats. -/
structure LeasesBest (workerId : String) (leaseSeconds : Int) (now : Datetime)
    (jobAttemptId : String) (db : Db) (outcome : Except PyError (Option JobLease) × Db) :
    Prop where
  idle_iff : outcome = (.ok none, db) ↔ ∀ row ∈ db.jobs, ¬ DueAt now row
  leased : (∃ row ∈ db.jobs, DueAt now row) → ∃ row ∈ db.jobs, DueAt now row ∧
    (∀ other ∈ db.jobs, DueAt now other → ¬ Beats other row) ∧
      LeaseGiven workerId leaseSeconds now jobAttemptId row db outcome

/-! ## The condition -/

/-- The scheduled time and the clock lie in one second and exactly one of them is a
whole second. -/
def MistakenFor (now : Datetime) (row : JobRow) : Prop :=
  Misordered now.instant.toNat (instantOf row.scheduledAt)

instance (now : Datetime) (row : JobRow) : Decidable (MistakenFor now row) :=
  inferInstanceAs (Decidable (Misordered _ _))

/-- Two jobs of one priority whose deciding times are misordered. -/
def Misplaced (row other : JobRow) : Prop :=
  row.priority = other.priority ∧
    (Misordered (instantOf row.scheduledAt) (instantOf other.scheduledAt) ∨
      (instantOf row.scheduledAt = instantOf other.scheduledAt ∧
        Misordered (instantOf row.createdAt) (instantOf other.createdAt)))

instance (row other : JobRow) : Decidable (Misplaced row other) :=
  inferInstanceAs (Decidable (_ ∧ _))

/-- Due, and not mistaken for a job that is not. -/
def PlainlyDue (now : Datetime) (row : JobRow) : Prop := DueAt now row ∧ ¬ MistakenFor now row

instance (now : Datetime) (row : JobRow) : Decidable (PlainlyDue now row) :=
  inferInstanceAs (Decidable (_ ∧ _))

/-- The texts misjudge the job: against the clock, or against another due job. -/
def Misjudged (now : Datetime) (db : Db) (row : JobRow) : Prop :=
  (Unspent row ∧ MistakenFor now row) ∨
    (PlainlyDue now row ∧ ∃ other ∈ db.jobs, PlainlyDue now other ∧ Misplaced row other)

/-- A due job beats the job, and no time that decides it is misordered. -/
def Overtaken (now : Datetime) (db : Db) (row : JobRow) : Prop :=
  ∃ other ∈ db.jobs, PlainlyDue now other ∧ Beats other row ∧ ¬ Misplaced other row

/-- The clock and, when a job is due, the end of its lease have a UTC text, and
every job that the texts misjudge is overtaken. -/
structure TextsAgree (leaseSeconds : Int) (now : Datetime) (db : Db) : Prop where
  clock : ∃ utc, now.astimezoneUtc = .ok utc
  length : ∃ later, now.addSeconds leaseSeconds = .ok later ∧
    ((∃ row ∈ db.jobs, DueAt now row) → ∃ expiry, later.astimezoneUtc = .ok expiry)
  order : ∀ row ∈ db.jobs, Misjudged now db row → Overtaken now db row

/-! ## Two reckonings of a queue -/

/-- The queue by its stored texts. -/
def byText (current : String) (db : Db) : Reckoning JobRow (List Char) where
  isOpen row := row ∈ db.jobs ∧ Unspent row
  priority row := row.priority
  now := current.toList
  scheduled row := row.scheduledAt.toList
  created row := row.createdAt.toList

/-- The queue by points in time. -/
def byInstant (now : Datetime) (db : Db) : Reckoning JobRow Int where
  isOpen row := row ∈ db.jobs ∧ Unspent row
  priority row := row.priority
  now := now.instant
  scheduled row := instantOf row.scheduledAt
  created row := instantOf row.createdAt

theorem byText_due_iff (current : String) (db : Db) (row : JobRow) :
    (byText current db).Due row ↔ row ∈ db.jobs ∧ Eligible current row := by
  have early : row.scheduledAt.toList ≤ current.toList ↔ ¬ TextBefore current row.scheduledAt :=
    not_lt.symm
  simp only [Reckoning.Due, byText, Unspent, Eligible, early]
  tauto

theorem byText_before_iff (current : String) (db : Db) (row other : JobRow) :
    (byText current db).Before row other ↔ Precedes row other := by
  rw [Reckoning.before_iff]
  simp only [byText, String.toList_inj]
  rfl

theorem byInstant_due_iff (now : Datetime) (db : Db) (row : JobRow) :
    (byInstant now db).Due row ↔ row ∈ db.jobs ∧ DueAt now row := by
  simp only [Reckoning.Due, byInstant, DueAt, and_assoc]

theorem byInstant_before_iff (now : Datetime) (db : Db) (row other : JobRow) :
    (byInstant now db).Before row other ↔ Beats row other := by
  rw [Reckoning.before_iff]
  simp only [byInstant, Nat.cast_lt, Nat.cast_inj]
  rfl

/-- Texts of instants tie exactly when the instants do. -/
theorem sameTies {db : Db} (timed : TimedQueue db) (current : String) (now : Datetime) :
    Reckoning.SameTies (byText current db) (byInstant now db) where
  isOpen _ := Iff.rfl
  priority _ := rfl
  scheduled item other openItem openOther := by
    obtain ⟨stamp, isText⟩ := (timed.timed openItem.1).scheduled
    obtain ⟨otherStamp, isOtherText⟩ := (timed.timed openOther.1).scheduled
    simp only [byText, byInstant, isText, isOtherText, instantOf_text, String.toList_inj,
      text_eq_iff, Nat.cast_inj]
  created item other openItem openOther := by
    obtain ⟨stamp, isText⟩ := (timed.timed openItem.1).created
    obtain ⟨otherStamp, isOtherText⟩ := (timed.timed openOther.1).created
    simp only [byText, byInstant, isText, isOtherText, instantOf_text, String.toList_inj,
      text_eq_iff, Nat.cast_inj]

/-! ## Where the reckonings agree -/

/-- A job is due by both reckonings or by neither, unless its schedule is mistaken. -/
theorem due_agrees_iff {db : Db} (timed : TimedQueue db) {now : Datetime} {utc : Instant}
    (clock : now.astimezoneUtc = .ok utc) {row : JobRow} (member : row ∈ db.jobs)
    (unspent : Unspent row) :
    ((byText utc.text db).Due row ↔ (byInstant now db).Due row) ↔ ¬ MistakenFor now row := by
  obtain ⟨stamp, isText⟩ := (timed.timed member).scheduled
  have instant := Datetime.astimezoneUtc_ok_iff.mp clock
  have agrees := Instant.text_before_agrees_iff utc stamp
  have late : (byText utc.text db).Due row ↔ ¬ TextBefore utc.text stamp.text := by
    rw [byText_due_iff]
    simp [member, Eligible, unspent.1, unspent.2, isText]
  have due : (byInstant now db).Due row ↔ ¬ utc.micros < stamp.micros := by
    rw [byInstant_due_iff]
    simp [member, DueAt, unspent, isText, instant]
  rw [late, due, not_iff_not, agrees, MistakenFor, isText, instantOf_text, instant,
    Int.toNat_natCast]

/-- Two jobs are ordered alike by both reckonings unless they are misplaced. -/
theorem before_agrees_iff {row other : JobRow} (timed : Timed row) (otherTimed : Timed other) :
    (Precedes row other ↔ Beats row other) ↔ ¬ Misplaced row other := by
  obtain ⟨scheduled, isScheduled⟩ := timed.scheduled
  obtain ⟨otherScheduled, isOtherScheduled⟩ := otherTimed.scheduled
  obtain ⟨created, isCreated⟩ := timed.created
  obtain ⟨otherCreated, isOtherCreated⟩ := otherTimed.created
  have bySchedule := Instant.text_before_agrees_iff scheduled otherScheduled
  have byCreation := Instant.text_before_agrees_iff created otherCreated
  simp only [Precedes, Beats, Misplaced, isScheduled, isOtherScheduled, isCreated,
    isOtherCreated, instantOf_text, text_eq_iff]
  by_cases priority : row.priority = other.priority
  · simp only [priority, true_and, lt_irrefl, false_or]
    by_cases tie : scheduled.micros = otherScheduled.micros
    · have wellOrdered : ¬ Misordered scheduled.micros otherScheduled.micros := by
        unfold Misordered
        omega
      have notBefore : ¬ TextBefore scheduled.text otherScheduled.text := by
        intro before
        exact absurd ((bySchedule.mpr wellOrdered).mp before) (by omega)
      have notEarlier : ¬ scheduled.micros < otherScheduled.micros := by omega
      simp only [notBefore, notEarlier, wellOrdered, false_or]
      simp only [tie, true_and]
      exact byCreation
    · simp only [tie, false_and, or_false]
      exact bySchedule
  · simp only [priority, false_and, or_false, not_false_eq_true]

theorem dueTwice_iff {db : Db} (timed : TimedQueue db) {now : Datetime} {utc : Instant}
    (clock : now.astimezoneUtc = .ok utc) (row : JobRow) :
    Reckoning.DueTwice (byText utc.text db) (byInstant now db) row ↔
      row ∈ db.jobs ∧ PlainlyDue now row := by
  constructor
  · rintro ⟨byText, byInstant⟩
    obtain ⟨member, due⟩ := (byInstant_due_iff now db row).mp byInstant
    exact ⟨member, due, (due_agrees_iff timed clock member due.1).mp (iff_of_true byText byInstant)⟩
  · rintro ⟨member, due, plain⟩
    have isDue := (byInstant_due_iff now db row).mpr ⟨member, due⟩
    exact ⟨((due_agrees_iff timed clock member due.1).mpr plain).mpr isDue, isDue⟩

theorem disputed_iff {db : Db} (timed : TimedQueue db) {now : Datetime} {utc : Instant}
    (clock : now.astimezoneUtc = .ok utc) (row : JobRow) :
    Reckoning.Disputed (byText utc.text db) (byInstant now db) row ↔
      row ∈ db.jobs ∧ Misjudged now db row := by
  have once : ¬ ((byText utc.text db).Due row ↔ (byInstant now db).Due row) ↔
      row ∈ db.jobs ∧ Unspent row ∧ MistakenFor now row := by
    by_cases unspent : row ∈ db.jobs ∧ Unspent row
    · rw [due_agrees_iff timed clock unspent.1 unspent.2]
      simp [unspent]
    · have neither : ¬ (byText utc.text db).Due row := fun due => unspent due.1
      have norTime : ¬ (byInstant now db).Due row := fun due => unspent due.1
      refine iff_of_false (fun apart => apart (iff_of_false neither norTime)) ?_
      exact fun mistaken => unspent ⟨mistaken.1, mistaken.2.1⟩
  have swapped : ∀ other, row ∈ db.jobs → other ∈ db.jobs →
      (¬ ((byText utc.text db).Before row other ↔ (byInstant now db).Before row other) ↔
        Misplaced row other) := by
    intro other member otherMember
    rw [byText_before_iff, byInstant_before_iff,
      before_agrees_iff (timed.timed member) (timed.timed otherMember), not_not]
  unfold Reckoning.Disputed Misjudged
  rw [once, dueTwice_iff timed clock]
  constructor
  · rintro (⟨member, mistaken⟩ | ⟨⟨member, due⟩, other, otherDue, apart⟩)
    · exact ⟨member, Or.inl mistaken⟩
    · obtain ⟨otherMember, plain⟩ := (dueTwice_iff timed clock other).mp otherDue
      exact ⟨member, Or.inr ⟨due, other, otherMember, plain,
        (swapped other member otherMember).mp apart⟩⟩
  · rintro ⟨member, mistaken | ⟨due, other, otherMember, plain, misplaced⟩⟩
    · exact Or.inl ⟨member, mistaken⟩
    · exact Or.inr ⟨⟨member, due⟩, other, (dueTwice_iff timed clock other).mpr ⟨otherMember, plain⟩,
        (swapped other member otherMember).mpr misplaced⟩

theorem covered_iff {db : Db} (timed : TimedQueue db) {now : Datetime} {utc : Instant}
    (clock : now.astimezoneUtc = .ok utc) {row : JobRow} (member : row ∈ db.jobs) :
    Reckoning.Covered (byText utc.text db) (byInstant now db) row ↔ Overtaken now db row := by
  unfold Reckoning.Covered Overtaken
  constructor
  · rintro ⟨other, due, before, beats⟩
    obtain ⟨otherMember, plain⟩ := (dueTwice_iff timed clock other).mp due
    rw [byText_before_iff] at before
    rw [byInstant_before_iff] at beats
    exact ⟨other, otherMember, plain, beats, (before_agrees_iff (timed.timed otherMember)
      (timed.timed member)).mp (iff_of_true before beats)⟩
  · rintro ⟨other, otherMember, plain, beats, placed⟩
    refine ⟨other, (dueTwice_iff timed clock other).mpr ⟨otherMember, plain⟩, ?_, ?_⟩
    · rw [byText_before_iff]
      exact ((before_agrees_iff (timed.timed otherMember) (timed.timed member)).mpr placed).mpr beats
    · exact (byInstant_before_iff now db other row).mpr beats

/-- The order of the texts serves the law exactly when every misjudged job is
overtaken. -/
theorem chooses_iff_order {db : Db} (timed : TimedQueue db) {now : Datetime} {utc : Instant}
    (clock : now.astimezoneUtc = .ok utc) {chosen : Option JobRow}
    (choice : (byText utc.text db).Chooses chosen) :
    (byInstant now db).Chooses chosen ↔
      ∀ row ∈ db.jobs, Misjudged now db row → Overtaken now db row := by
  rw [Reckoning.chooses_iff (sameTies timed utc.text now) choice]
  constructor
  · intro covered row member misjudged
    exact (covered_iff timed clock member).mp
      (covered row ((disputed_iff timed clock row).mpr ⟨member, misjudged⟩))
  · intro overtaken row disputed
    obtain ⟨member, misjudged⟩ := (disputed_iff timed clock row).mp disputed
    exact (covered_iff timed clock member).mpr (overtaken row member misjudged)

/-! ## The choice of `lease_next` -/

/-- No row of the list precedes the first one. -/
theorem firstRow_best {rows : List JobRow} {best : JobRow} (first : firstRow rows = some best) :
    ∀ row ∈ rows, ¬ Precedes row best := by
  -- `Precedes` is the order of the ranks by text, whatever the queue.
  have ranked : ∀ row other, Precedes row other ↔
      (byText "" Db.empty).rank row < (byText "" Db.empty).rank other :=
    fun row other => (byText_before_iff "" Db.empty row other).symm
  induction rows generalizing best with
  | nil => cases first
  | cons head rest inductionHypothesis =>
      simp only [ranked] at inductionHypothesis ⊢
      rw [firstRow] at first
      split at first
      · next none =>
        cases first
        rw [firstRow_none.mp none]
        simp
      · next other found =>
        have behind := inductionHypothesis found
        split at first
        · next before =>
          cases first
          rw [ranked] at before
          exact List.forall_mem_cons.mpr ⟨before.asymm, behind⟩
        · next notBefore =>
          cases first
          rw [ranked] at notBefore
          refine List.forall_mem_cons.mpr ⟨lt_irrefl _, fun row member ahead => ?_⟩
          exact behind row member (ahead.trans_le (not_lt.mp notBefore))

/-- A lease goes to the choice by text. -/
theorem Leased.choice {workerId jobAttemptId current expires : String} {leaseSeconds : Int}
    {now : Datetime} {row : JobRow} {db next : Db}
    (leased : Leased workerId leaseSeconds now jobAttemptId row current expires db next) :
    (byText current db).Chooses (some row) := by
  refine ⟨(byText_due_iff current db row).mpr ⟨leased.member, leased.eligible⟩, ?_⟩
  intro other due before
  obtain ⟨member, eligible⟩ := (byText_due_iff current db other).mp due
  have listed : other ∈ db.jobs.rows.filter fun stored => Eligible current stored :=
    List.mem_filter.mpr ⟨member, by simpa using eligible⟩
  exact firstRow_best leased.best other listed ((byText_before_iff current db other row).mp before)

section LeaseNext

variable {workerId jobAttemptId : String} {leaseSeconds : Int} {now : Datetime} {db : Db}

theorem Leased.given {row : JobRow} {current expires : String} {result : Except PyError
    (Option JobLease)} {next : Db}
    (leased : Leased workerId leaseSeconds now jobAttemptId row current expires db next)
    (returned : result = .ok (some (leaseOf row workerId expires))) :
    LeaseGiven workerId leaseSeconds now jobAttemptId row db (result, next) where
  times := by
    obtain ⟨clock, converted, rfl⟩ := timestamp_ok_iff.mp leased.clock
    obtain ⟨later, added, printed⟩ := leased.expiry
    obtain ⟨expiry, convertedLater, rfl⟩ := timestamp_ok_iff.mp printed
    refine ⟨clock, expiry, (Datetime.astimezoneUtc_ok_iff.mp converted).symm, ?_, returned,
      leased.jobs, leased.attempts⟩
    rw [← Datetime.astimezoneUtc_ok_iff.mp convertedLater, Datetime.addSeconds_instant added]
  frame := leased.frame

/-- One call leases one row. -/
theorem LeaseGiven.unique {row other : JobRow}
    {outcome : Except PyError (Option JobLease) × Db}
    (given : LeaseGiven workerId leaseSeconds now jobAttemptId row db outcome)
    (otherGiven : LeaseGiven workerId leaseSeconds now jobAttemptId other db outcome)
    (member : row ∈ db.jobs) (otherMember : other ∈ db.jobs) : row = other := by
  obtain ⟨_, _, _, _, returned, _⟩ := given.times
  obtain ⟨_, _, _, _, otherReturned, _⟩ := otherGiven.times
  have sameLease := Option.some.inj (Except.ok.inj (returned.symm.trans otherReturned))
  exact job_eq_of_id member otherMember (congrArg JobLease.jobId sameLease)

theorem LeaseGiven.not_none {row : JobRow} {outcome : Except PyError (Option JobLease) × Db}
    (given : LeaseGiven workerId leaseSeconds now jobAttemptId row db outcome) :
    outcome ≠ (.ok none, db) := by
  obtain ⟨_, _, _, _, returned, _⟩ := given.times
  intro isNone
  rw [isNone] at returned
  cases returned

theorem not_leasesBest_of_error {raised : PyError}
    {outcome : Except PyError (Option JobLease) × Db} (failed : outcome.1 = .error raised) :
    ¬ LeasesBest workerId leaseSeconds now jobAttemptId db outcome := by
  intro best
  by_cases due : ∃ row ∈ db.jobs, DueAt now row
  · obtain ⟨row, _, _, _, given⟩ := best.leased due
    obtain ⟨_, _, _, _, returned, _⟩ := given.times
    rw [failed] at returned
    cases returned
  · have idle := best.idle_iff.mpr fun row member isDue => due ⟨row, member, isDue⟩
    rw [idle] at failed
    cases failed

/-- To lease nothing is best when no job is due. -/
theorem leasesBest_none_iff :
    LeasesBest workerId leaseSeconds now jobAttemptId db (.ok none, db) ↔
      (byInstant now db).Chooses none := by
  constructor
  · intro best row due
    obtain ⟨member, isDue⟩ := (byInstant_due_iff now db row).mp due
    exact best.idle_iff.mp rfl row member isDue
  · intro noneDue
    have absent : ∀ row ∈ db.jobs, ¬ DueAt now row := fun row member due =>
      noneDue row ((byInstant_due_iff now db row).mpr ⟨member, due⟩)
    refine ⟨iff_of_true rfl absent, ?_⟩
    rintro ⟨row, member, due⟩
    exact absurd due (absent row member)

/-- To lease a row is best when it is the choice by time. -/
theorem LeaseGiven.best_iff {row : JobRow} {outcome : Except PyError (Option JobLease) × Db}
    (given : LeaseGiven workerId leaseSeconds now jobAttemptId row db outcome)
    (member : row ∈ db.jobs) :
    LeasesBest workerId leaseSeconds now jobAttemptId db outcome ↔
      (byInstant now db).Chooses (some row) := by
  constructor
  · intro best
    have someDue : ∃ row ∈ db.jobs, DueAt now row := by
      by_contra none
      exact given.not_none (best.idle_iff.mpr fun row member due => none ⟨row, member, due⟩)
    obtain ⟨other, otherMember, due, unbeaten, otherGiven⟩ := best.leased someDue
    have same : other = row := otherGiven.unique given otherMember member
    subst same
    refine ⟨(byInstant_due_iff now db other).mpr ⟨member, due⟩, ?_⟩
    intro rival rivalDue before
    obtain ⟨rivalMember, isDue⟩ := (byInstant_due_iff now db rival).mp rivalDue
    exact unbeaten rival rivalMember isDue ((byInstant_before_iff now db rival other).mp before)
  · rintro ⟨chosenDue, front⟩
    obtain ⟨_, due⟩ := (byInstant_due_iff now db row).mp chosenDue
    refine ⟨iff_of_false given.not_none fun absent => absent row member due, fun _ => ?_⟩
    refine ⟨row, member, due, fun rival rivalMember rivalDue beats => ?_, given⟩
    exact front rival ((byInstant_due_iff now db rival).mpr ⟨rivalMember, rivalDue⟩)
      ((byInstant_before_iff now db rival row).mpr beats)

/-- What `lease_next` does once its clock is read: it hands out the choice by text, or
it raises because the end of the lease has no UTC text. -/
theorem leaseNext_outcome (timed : TimedQueue db) (positive : 1 ≤ leaseSeconds)
    {utc : Instant} (clock : now.astimezoneUtc = .ok utc) {later : Datetime}
    (added : now.addSeconds leaseSeconds = .ok later)
    (fresh : ∀ attempt ∈ db.attempts, attempt.jobAttemptId ≠ jobAttemptId) :
    (leaseNext workerId leaseSeconds now jobAttemptId db = (.ok none, db) ∧
        (byText utc.text db).Chooses none) ∨
      (∃ row ∈ db.jobs, (byText utc.text db).Chooses (some row) ∧
        LeaseGiven workerId leaseSeconds now jobAttemptId row db
          (leaseNext workerId leaseSeconds now jobAttemptId db) ∧
        ∃ expiry, later.astimezoneUtc = .ok expiry) ∨
      ∃ raised, (leaseNext workerId leaseSeconds now jobAttemptId db).1 = .error raised ∧
        (∀ expiry, later.astimezoneUtc ≠ .ok expiry) ∧
          ∃ row, (byText utc.text db).Due row := by
  have printed : timestamp now = .ok utc.text := timestamp_ok_iff.mpr ⟨utc, clock, rfl⟩
  obtain ⟨raised, result, _⟩ | ⟨result, same, current, isCurrent, absent⟩ |
    ⟨row, current, expires, leased, result⟩ :=
    leaseNext_cases (Prod.mk.eta (p := leaseNext workerId leaseSeconds now jobAttemptId db)).symm
  · refine Or.inr (Or.inr ⟨raised, result, ?_, ?_⟩)
    · intro expiry converted
      obtain ⟨lease, returned⟩ := @leaseNext_succeeds workerId jobAttemptId _ _ _ _ _ _ positive
        printed added (timestamp_ok_iff.mpr ⟨expiry, converted, rfl⟩)
        fun row member => openAttempt_fits timed.queue fresh member
      rw [result] at returned
      cases returned
    · by_contra none
      have empty : firstRow (db.jobs.rows.filter fun row => Eligible utc.text row) = Option.none := by
        rw [firstRow_none, List.filter_eq_nil_iff]
        intro row member eligible
        exact none ⟨row, (byText_due_iff utc.text db row).mpr ⟨member, by simpa using eligible⟩⟩
      have idle : leaseNext workerId leaseSeconds now jobAttemptId db = (.ok Option.none, db) := by
        have notRefused : ¬ leaseSeconds < 1 := by omega
        simp [leaseNext, notRefused, added, writeTransaction, printed, empty, bind, Except.bind,
          pure, Except.pure]
      rw [idle] at result
      cases result
  · refine Or.inl ⟨Prod.ext result same, fun row due => ?_⟩
    have sameText : current = utc.text := Except.ok.inj (isCurrent.symm.trans printed)
    obtain ⟨member, eligible⟩ := (byText_due_iff utc.text db row).mp due
    exact absent row member (sameText ▸ eligible)
  · have sameText : current = utc.text := Except.ok.inj (leased.clock.symm.trans printed)
    subst sameText
    obtain ⟨ending, sameEnd, printedEnd⟩ := leased.expiry
    have sameLater : ending = later := Except.ok.inj (sameEnd.symm.trans added)
    obtain ⟨expiry, converted, _⟩ := timestamp_ok_iff.mp printedEnd
    exact Or.inr (Or.inl ⟨row, leased.member, leased.choice, leased.given result, expiry,
      sameLater ▸ converted⟩)

theorem leasesBest_iff (timed : TimedQueue db) (positive : 1 ≤ leaseSeconds)
    (fresh : ∀ attempt ∈ db.attempts, attempt.jobAttemptId ≠ jobAttemptId) :
    LeasesBest workerId leaseSeconds now jobAttemptId db
        (leaseNext workerId leaseSeconds now jobAttemptId db) ↔
      TextsAgree leaseSeconds now db := by
  have notRefused : ¬ leaseSeconds < 1 := by omega
  cases added : now.addSeconds leaseSeconds with
  | error raised =>
      have failed : (leaseNext workerId leaseSeconds now jobAttemptId db).1 = .error raised := by
        simp [leaseNext, notRefused, added]
      refine iff_of_false (not_leasesBest_of_error failed) fun agree => ?_
      obtain ⟨later, isLater, _⟩ := agree.length
      rw [added] at isLater
      cases isLater
  | ok later =>
  cases clock : now.astimezoneUtc with
  | error raised =>
      have failed : (leaseNext workerId leaseSeconds now jobAttemptId db).1 = .error raised := by
        simp [leaseNext, notRefused, added, writeTransaction, timestamp, clock, bind, Except.bind]
      refine iff_of_false (not_leasesBest_of_error failed) fun agree => ?_
      obtain ⟨utc, isUtc⟩ := agree.clock
      rw [clock] at isUtc
      cases isUtc
  | ok utc =>
  have agrees : TextsAgree leaseSeconds now db ↔
      ((∃ row ∈ db.jobs, DueAt now row) → ∃ expiry, later.astimezoneUtc = .ok expiry) ∧
        ∀ row ∈ db.jobs, Misjudged now db row → Overtaken now db row := by
    constructor
    · intro agree
      obtain ⟨other, isLater, expiry⟩ := agree.length
      have same : other = later := Except.ok.inj (isLater.symm.trans added)
      exact ⟨same ▸ expiry, agree.order⟩
    · rintro ⟨expiry, order⟩
      exact ⟨⟨utc, clock⟩, ⟨later, added, expiry⟩, order⟩
  rw [agrees]
  rcases leaseNext_outcome timed positive clock added fresh with
    ⟨idle, choice⟩ | ⟨row, member, choice, given, expiry⟩ | ⟨raised, result, noExpiry, row, due⟩
  · rw [← chooses_iff_order timed clock choice, idle, leasesBest_none_iff]
    constructor
    · intro noneDue
      refine ⟨?_, noneDue⟩
      rintro ⟨row, member, due⟩
      exact absurd ((byInstant_due_iff now db row).mpr ⟨member, due⟩) (noneDue row)
    · exact And.right
  · rw [← chooses_iff_order timed clock choice, given.best_iff member]
    exact ⟨fun chosen => ⟨fun _ => expiry, chosen⟩, And.right⟩
  · refine iff_of_false (not_leasesBest_of_error result) ?_
    rintro ⟨expiry, order⟩
    have notDue : ∀ other ∈ db.jobs, ¬ DueAt now other := by
      intro other member isDue
      obtain ⟨stamp, converted⟩ := expiry ⟨other, member, isDue⟩
      exact noExpiry stamp converted
    have member := ((byText_due_iff utc.text db row).mp due).1
    -- A job that is due by text only would have to be overtaken by one that is due.
    have disputed : Reckoning.Disputed (byText utc.text db) (byInstant now db) row :=
      Or.inl fun agree => notDue row member ((byInstant_due_iff now db row).mp (agree.mp due)).2
    obtain ⟨other, otherMember, plain, _⟩ :=
      order row member ((disputed_iff timed clock row).mp disputed).2
    exact notDue other otherMember plain.1

end LeaseNext

/-- In every reachable state, leasing follows the law by points in time if and only if
the stored texts agree with it. -/
theorem lease_next_best_iff (start : Db) (empty : EmptyQueue start) (calls : List QueueCall)
    (workerId jobAttemptId : String) (leaseSeconds : Int) (now : Datetime)
    (positive : 1 ≤ leaseSeconds)
    (fresh : ∀ attempt ∈ (History.after perform start calls).attempts,
      attempt.jobAttemptId ≠ jobAttemptId) :
    LeasesBest workerId leaseSeconds now jobAttemptId (History.after perform start calls)
        (leaseNext workerId leaseSeconds now jobAttemptId (History.after perform start calls)) ↔
      TextsAgree leaseSeconds now (History.after perform start calls) :=
  leasesBest_iff (timedQueue_after empty calls) positive fresh

/-! ## A job leased ahead of its time -/

/-- A job of the sample run that is scheduled a number of microseconds into the morning. -/
def scheduledJob (jobId key : String) (micros : Nat) : DetailFetchJob :=
  { sampleJob jobId key with scheduledAt := sampleLater micros }

/-- A job that is due at half past the third second. -/
def halfPastCalls : List QueueCall :=
  [.createIdempotent (scheduledJob "job-1" "listing-1" 3500000) sampleMorning sampleMorning]

/-- At the third second the job is leased, half a second before it is due. -/
theorem early_job_is_leased :
    (∀ row ∈ (History.after perform sampleStart halfPastCalls).jobs,
        ¬ DueAt (sampleLater 3000000) row) ∧
      ¬ LeasesBest "worker" 30 (sampleLater 3000000) "attempt-1"
        (History.after perform sampleStart halfPastCalls)
        (leaseNext "worker" 30 (sampleLater 3000000) "attempt-1"
          (History.after perform sampleStart halfPastCalls)) := by
  have notDue : ∀ row ∈ (History.after perform sampleStart halfPastCalls).jobs.rows,
      ¬ DueAt (sampleLater 3000000) row := by decide +kernel
  refine ⟨notDue, fun best => ?_⟩
  have idle := best.idle_iff.mpr notDue
  have leased : ((leaseNext "worker" 30 (sampleLater 3000000) "attempt-1"
      (History.after perform sampleStart halfPastCalls)).2.jobs.rows.map JobRow.state) =
        [.processing] := by decide +kernel
  rw [idle] at leased
  exact absurd leased (by decide +kernel)

/-- A late job of high priority, and two early ones that the texts put in the wrong
order. -/
def overtakenCalls : List QueueCall :=
  [ .createIdempotent (scheduledJob "job-1" "listing-1" 1500000) sampleMorning sampleMorning,
    .createIdempotent (scheduledJob "job-2" "listing-2" 1000000) sampleMorning sampleMorning,
    .createIdempotent { scheduledJob "job-3" "listing-3" 2000000 with priority := 1 }
      sampleMorning sampleMorning ]

/-- The misplaced pair is overtaken, and the law is followed. -/
theorem overtaken_pair_is_harmless :
    LeasesBest "worker" 30 (sampleLater 3000000) "attempt-1"
      (History.after perform sampleStart overtakenCalls)
      (leaseNext "worker" 30 (sampleLater 3000000) "attempt-1"
        (History.after perform sampleStart overtakenCalls)) := by
  have noAttempts : (History.after perform sampleStart overtakenCalls).attempts.rows = [] := by
    decide +kernel
  refine (lease_next_best_iff sampleStart ⟨rfl, rfl⟩ overtakenCalls "worker" "attempt-1" 30
    (sampleLater 3000000) (by decide) ?_).mpr ?_
  · intro attempt member
    rw [← Table.mem_rows, noAttempts] at member
    cases member
  · have order : ∀ row ∈ (History.after perform sampleStart overtakenCalls).jobs.rows,
        (∃ other ∈ (History.after perform sampleStart overtakenCalls).jobs.rows,
          PlainlyDue (sampleLater 3000000) other ∧ Beats other row ∧ ¬ Misplaced other row) ∨
        ¬ (MistakenFor (sampleLater 3000000) row ∨
          ∃ other ∈ (History.after perform sampleStart overtakenCalls).jobs.rows,
            Misplaced row other) := by decide +kernel
    exact
      { clock := ⟨⟨63921780003000000, by decide⟩, by decide +kernel⟩
        length := ⟨sampleLater 33000000, by decide +kernel, fun _ =>
          ⟨⟨63921780033000000, by decide⟩, by decide +kernel⟩⟩
        order := by
          intro row member misjudged
          rcases order row member with overtaken | undisputed
          · exact overtaken
          · rcases misjudged with mistaken | ⟨_, other, otherMember, _, misplaced⟩
            · exact absurd (Or.inl mistaken.2) undisputed
            · exact absurd (Or.inr ⟨other, otherMember, misplaced⟩) undisputed }

end ScraperProject.Orchestration
