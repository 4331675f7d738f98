import ScraperProject.Database.RepositorySteps
import ScraperProject.Foundation.History

/-!
Contract: the observation window of a listing.

Owns the calls that write the identity row of a listing, the window that its two
times should span, and the exact histories in which they do. The row keeps the
time of the observation that was stored last, which is not the latest one when
observations arrive out of order, and it may have been opened by a job that is
scheduled after the listing was observed.

Does not own who makes the calls.
-/

namespace ScraperProject.Database

open Foundation
open Contracts

/-! ## Calls -/

/-- A call on the listings, with its fresh identifier or its clock readings. -/
inductive ListingCall where
  | append (observation : DiscoveryObservation) (observationId : Option String) (fresh : String)
  | createIdempotent (job : DetailFetchJob) (createdAt updatedAt : Instant)

/-- `observation_id or str(uuid4())`. -/
def recordIdOf (observationId : Option String) (fresh : String) : String :=
  match observationId with
  | some given => if given = "" then fresh else given
  | none => fresh

def performListing : ListingCall → Action String
  | .append observation observationId fresh =>
      appendObservation observation (recordIdOf observationId fresh)
  | .createIdempotent job createdAt updatedAt => createIdempotent job createdAt updatedAt

/-- The identity row of a listing. -/
def OfListing (row : IdentityRow) (sourceName sourceListingKey : String) : Prop :=
  row.sourceName = sourceName ∧ row.sourceListingKey = sourceListingKey

instance (row : IdentityRow) (sourceName sourceListingKey : String) :
    Decidable (OfListing row sourceName sourceListingKey) := inferInstanceAs (Decidable (_ ∧ _))

/-! ## Stored times -/

/-- Two stored texts are of instants of which the first is no later than the second. -/
def NotAfter (left right : String) : Prop :=
  ∃ earlier later : Instant, left = earlier.text ∧ right = later.text ∧
    earlier.micros ≤ later.micros

theorem NotAfter.refl (stamp : Instant) : NotAfter stamp.text stamp.text :=
  ⟨stamp, stamp, rfl, rfl, Nat.le_refl _⟩

theorem NotAfter.trans {first second third : String} (left : NotAfter first second)
    (right : NotAfter second third) : NotAfter first third := by
  obtain ⟨earlier, middle, isFirst, isSecond, before⟩ := left
  obtain ⟨other, later, isOther, isThird, after⟩ := right
  have same : middle = other := Instant.text_inj.mp (isSecond.symm.trans isOther)
  subst same
  exact ⟨earlier, later, isFirst, isThird, Nat.le_trans before after⟩

/-- The order of the instants, whatever the order of their texts. -/
theorem notAfter_text_iff (left right : Instant) :
    NotAfter left.text right.text ↔ left.micros ≤ right.micros := by
  constructor
  · rintro ⟨earlier, later, isLeft, isRight, before⟩
    rw [Instant.text_inj.mp isLeft, Instant.text_inj.mp isRight]
    exact before
  · intro before
    exact ⟨left, right, rfl, rfl, before⟩

/-- The window of the row holds the stored time. -/
structure Within (identity : IdentityRow) (observedAt : String) : Prop where
  first : NotAfter identity.firstObservedAt observedAt
  last : NotAfter observedAt identity.lastObservedAt

/-- Every observation lies in the window of its listing. -/
def Bracketed (db : Db) : Prop :=
  ∀ identity ∈ db.identities, ∀ stored ∈ db.observations,
    OfListing identity stored.sourceName stored.sourceListingKey →
      Within identity stored.observedAt

/-- An observation that is accepted for a known listing is no earlier than the last
time of its row. -/
def InOrder (db : Db) : ListingCall → Prop
  | .append observation observationId fresh =>
      (∀ row ∈ db.observations, row.observationId ≠ recordIdOf observationId fresh) →
        (∃ run ∈ db.runs, run.crawlRunId = observation.crawlRunId) →
          ∀ observedAt, timestamp observation.observedAt = .ok observedAt →
            ∀ identity ∈ db.identities,
              OfListing identity observation.sourceName observation.sourceListingKey →
                NotAfter identity.lastObservedAt observedAt
  | .createIdempotent _ _ _ => True

/-! ## What a call does -/

/-- The effect of an accepted `append`. -/
structure Appended (observation : DiscoveryObservation) (recordId observedAt : String)
    (db next : Db) : Prop where
  clock : timestamp observation.observedAt = .ok observedAt
  fresh : ∀ row ∈ db.observations, row.observationId ≠ recordId
  run : ∃ run ∈ db.runs, run.crawlRunId = observation.crawlRunId
  identities : next.identities = upsertIdentity db.identities observation.sourceName
    observation.sourceListingKey observation.listingUrl observedAt
  observations : next.observations.rows =
    db.observations.rows ++ [observationRow observation recordId observedAt]

theorem appendObservation_appended {observation : DiscoveryObservation} {recordId : String}
    {db next : Db} {result : Except PyError String}
    (call : appendObservation observation recordId db = (result, next)) :
    (∃ raised, result = .error raised) ∧ next = db ∨
      ∃ observedAt, Appended observation recordId observedAt db next := by
  unfold appendObservation at call
  split at call
  · obtain ⟨rfl, rfl⟩ := Prod.mk.inj call
    exact Or.inl ⟨⟨_, rfl⟩, rfl⟩
  next observedAt clock =>
  cases result with
  | error raised => exact Or.inl ⟨⟨raised, rfl⟩, (writeTransaction_error.mp call).2⟩
  | ok value =>
      obtain ⟨observations, inserted, body⟩ := bind_eq_ok.mp (writeTransaction_ok.mp call)
      obtain ⟨_, referenced, body⟩ := bind_eq_ok.mp body
      obtain ⟨_, rfl⟩ := Prod.mk.inj (Except.ok.inj body)
      obtain ⟨fits, rows⟩ := Table.insert?_eq_some.mp (insertRow_ok.mp inserted)
      obtain ⟨run, member, same⟩ := List.any_eq_true.mp (requireReference_ok.mp referenced)
      exact Or.inr ⟨observedAt,
        { clock := clock
          fresh := fits
          run := ⟨run, member, of_decide_eq_true same⟩
          identities := rfl
          observations := rows }⟩

theorem appended_of_accepted {observation : DiscoveryObservation} {recordId observedAt : String}
    {db : Db} (clock : timestamp observation.observedAt = .ok observedAt)
    (fresh : ∀ row ∈ db.observations, row.observationId ≠ recordId)
    (run : ∃ run ∈ db.runs, run.crawlRunId = observation.crawlRunId) :
    Appended observation recordId observedAt db (appendObservation observation recordId db).2 := by
  have accepted := appendObservation_succeeds clock fresh run
  cases call : appendObservation observation recordId db with
  | mk result next =>
      rw [call] at accepted
      rcases appendObservation_appended call with ⟨⟨_, isError⟩, _⟩ | ⟨text, appended⟩
      · cases isError.symm.trans accepted
      · have same : text = observedAt := Except.ok.inj (appended.clock.symm.trans clock)
        subst same
        exact appended

/-- The row of a listing with a new last time. -/
def movedIdentity (sourceName sourceListingKey listingUrl observedAt : String)
    (row : IdentityRow) : IdentityRow :=
  if OfListing row sourceName sourceListingKey then
    { row with listingUrl := listingUrl, lastObservedAt := observedAt }
  else row

theorem upsertIdentity_cases (identities : Table IdentityRow)
    (sourceName sourceListingKey listingUrl observedAt : String) :
    ((∀ old ∈ identities, ¬ OfListing old sourceName sourceListingKey) ∧ ∃ opened,
      OfListing opened sourceName sourceListingKey ∧ opened.firstObservedAt = observedAt ∧
        opened.lastObservedAt = observedAt ∧
          (upsertIdentity identities sourceName sourceListingKey listingUrl observedAt).rows =
            identities.rows ++ [opened]) ∨
      (∃ old ∈ identities, OfListing old sourceName sourceListingKey) ∧
        (upsertIdentity identities sourceName sourceListingKey listingUrl observedAt).rows =
          identities.rows.map
            (movedIdentity sourceName sourceListingKey listingUrl observedAt) := by
  unfold upsertIdentity
  dsimp only
  split
  · next table inserted =>
    obtain ⟨fits, rows⟩ := Table.insert?_eq_some.mp inserted
    exact Or.inl ⟨fits, _, ⟨rfl, rfl⟩, rfl, rfl, rows⟩
  · next refused =>
    obtain ⟨old, member, clash⟩ := Table.insert?_eq_none.mp refused
    exact Or.inr ⟨⟨old, member, clash⟩, rows_updateWhere_decide⟩

section Upsert

variable {identities : Table IdentityRow}
  {sourceName sourceListingKey listingUrl observedAt : String} {old identity : IdentityRow}

theorem movedIdentity_ofListing (row : IdentityRow) :
    OfListing (movedIdentity sourceName sourceListingKey listingUrl observedAt row)
      row.sourceName row.sourceListingKey := by
  unfold movedIdentity
  split
  · exact ⟨rfl, rfl⟩
  · exact ⟨rfl, rfl⟩

/-- The identity of the listing after an upsert, or another row as it was. -/
theorem upsertIdentity_origin (member : identity ∈
      upsertIdentity identities sourceName sourceListingKey listingUrl observedAt) :
    (identity ∈ identities ∧ ¬ OfListing identity sourceName sourceListingKey) ∨
      OfListing identity sourceName sourceListingKey ∧ identity.lastObservedAt = observedAt ∧
        ((∀ old ∈ identities, ¬ OfListing old sourceName sourceListingKey) ∧
            identity.firstObservedAt = observedAt ∨
          ∃ old ∈ identities, OfListing old sourceName sourceListingKey ∧
            identity.firstObservedAt = old.firstObservedAt) := by
  rcases upsertIdentity_cases identities sourceName sourceListingKey listingUrl observedAt with
    ⟨absent, opened, own, first, last, rows⟩ | ⟨_, rows⟩
  · rw [← Table.mem_rows, rows, List.mem_append, List.mem_singleton] at member
    rcases member with old | rfl
    · exact Or.inl ⟨old, absent identity old⟩
    · exact Or.inr ⟨own, last, Or.inl ⟨absent, first⟩⟩
  · rw [← Table.mem_rows, rows] at member
    obtain ⟨old, oldMember, rfl⟩ := List.mem_map.mp member
    by_cases own : OfListing old sourceName sourceListingKey
    · rw [movedIdentity, if_pos own]
      exact Or.inr ⟨own, rfl, Or.inr ⟨old, oldMember, own, rfl⟩⟩
    · rw [movedIdentity, if_neg own]
      exact Or.inl ⟨oldMember, own⟩

/-- An upsert moves the last time of a known listing. -/
theorem upsertIdentity_moves (member : old ∈ identities)
    (own : OfListing old sourceName sourceListingKey) :
    ∃ identity ∈ upsertIdentity identities sourceName sourceListingKey listingUrl observedAt,
      OfListing identity sourceName sourceListingKey ∧
        identity.firstObservedAt = old.firstObservedAt ∧
          identity.lastObservedAt = observedAt := by
  rcases upsertIdentity_cases identities sourceName sourceListingKey listingUrl observedAt with
    ⟨absent, _⟩ | ⟨_, rows⟩
  · exact absurd own (absent old member)
  · refine ⟨{ old with listingUrl := listingUrl, lastObservedAt := observedAt }, ?_, own, rfl, rfl⟩
    rw [← Table.mem_rows, rows]
    exact List.mem_map.mpr ⟨old, member, if_pos own⟩

/-- An upsert forgets no listing. -/
theorem upsertIdentity_keeps (member : old ∈ identities) :
    ∃ identity ∈ upsertIdentity identities sourceName sourceListingKey listingUrl observedAt,
      OfListing identity old.sourceName old.sourceListingKey := by
  rcases upsertIdentity_cases identities sourceName sourceListingKey listingUrl observedAt with
    ⟨_, opened, _, _, _, rows⟩ | ⟨_, rows⟩
  · refine ⟨old, ?_, rfl, rfl⟩
    rw [← Table.mem_rows, rows]
    exact List.mem_append_left _ member
  · refine ⟨movedIdentity sourceName sourceListingKey listingUrl observedAt old, ?_,
      movedIdentity_ofListing old⟩
    rw [← Table.mem_rows, rows]
    exact List.mem_map_of_mem member

/-- An upsert registers its listing. -/
theorem upsertIdentity_registers :
    ∃ identity ∈ upsertIdentity identities sourceName sourceListingKey listingUrl observedAt,
      OfListing identity sourceName sourceListingKey := by
  rcases upsertIdentity_cases identities sourceName sourceListingKey listingUrl observedAt with
    ⟨_, opened, own, _, _, rows⟩ | ⟨⟨old, member, own⟩, _⟩
  · refine ⟨opened, ?_, own⟩
    rw [← Table.mem_rows, rows]
    exact List.mem_append_right _ List.mem_cons_self
  · obtain ⟨identity, isMember, isOwn, _⟩ := @upsertIdentity_moves _ _ _ listingUrl observedAt _
      member own
    exact ⟨identity, isMember, isOwn⟩

end Upsert

/-- A job opens the window of a new listing with the time that it is scheduled at. -/
structure Seeded (job : DetailFetchJob) (db next : Db) : Prop where
  observations : next.observations = db.observations
  identities : next.identities = db.identities ∨ ∃ scheduledAt identity,
    timestamp job.scheduledAt = .ok scheduledAt ∧
      (∀ old ∈ db.identities, ¬ OfListing old job.sourceName job.sourceListingKey) ∧
        OfListing identity job.sourceName job.sourceListingKey ∧
          identity.firstObservedAt = scheduledAt ∧ identity.lastObservedAt = scheduledAt ∧
            next.identities.rows = db.identities.rows ++ [identity]

theorem createIdempotent_seeded {job : DetailFetchJob} {createdAt updatedAt : Instant}
    {db next : Db} {result : Except PyError String}
    (call : createIdempotent job createdAt updatedAt db = (result, next)) : Seeded job db next := by
  cases result with
  | error raised =>
      obtain rfl := createIdempotent_error call
      exact ⟨rfl, Or.inl rfl⟩
  | ok jobId =>
      obtain ⟨scheduledAt, _, _, _, ⟨scheduled, _, _⟩, _, rfl⟩ := createIdempotent_ok call
      refine ⟨rfl, ?_⟩
      dsimp only
      cases inserted : db.identities.insert? (registeredIdentity job scheduledAt) with
      | none => exact Or.inl rfl
      | some table =>
          obtain ⟨fits, rows⟩ := Table.insert?_eq_some.mp inserted
          exact Or.inr ⟨scheduledAt, _, scheduled, fits, ⟨rfl, rfl⟩, rfl, rfl, rows⟩

/-! ## The invariant -/

/-- Stored times are texts of instants, every observed listing is registered, and the
last time of a listing is its first one or that of an observation. -/
structure Recorded (db : Db) : Prop where
  observed : ∀ stored ∈ db.observations, ∃ seen : Instant, stored.observedAt = seen.text
  opened : ∀ identity ∈ db.identities, ∃ first : Instant, identity.firstObservedAt = first.text
  listed : ∀ stored ∈ db.observations, ∃ identity ∈ db.identities,
    OfListing identity stored.sourceName stored.sourceListingKey
  last : ∀ identity ∈ db.identities, identity.lastObservedAt = identity.firstObservedAt ∨
    ∃ stored ∈ db.observations,
      OfListing identity stored.sourceName stored.sourceListingKey ∧
        stored.observedAt = identity.lastObservedAt

theorem ofListing_congr {identity : IdentityRow} {first second third fourth : String}
    (own : OfListing identity first second) (other : OfListing identity third fourth) :
    first = third ∧ second = fourth :=
  ⟨own.1.symm.trans other.1, own.2.symm.trans other.2⟩

section Append

variable {observation : DiscoveryObservation} {recordId observedAt : String} {db next : Db}
  (appended : Appended observation recordId observedAt db next)

include appended

theorem Appended.mem_observations (stored : ObservationRow) :
    stored ∈ next.observations ↔
      stored ∈ db.observations ∨ stored = observationRow observation recordId observedAt := by
  rw [← Table.mem_rows, appended.observations, List.mem_append, List.mem_singleton,
    Table.mem_rows]

theorem Appended.seen : ∃ seen : Instant, observedAt = seen.text := by
  obtain ⟨seen, _, isText⟩ := timestamp_ok_iff.mp appended.clock
  exact ⟨seen, isText.symm⟩

/-- The origin of an identity row after an observation. -/
theorem Appended.origin {identity : IdentityRow} (member : identity ∈ next.identities) :
    (identity ∈ db.identities ∧
        ¬ OfListing identity observation.sourceName observation.sourceListingKey) ∨
      OfListing identity observation.sourceName observation.sourceListingKey ∧
        identity.lastObservedAt = observedAt ∧
          ((∀ old ∈ db.identities,
                ¬ OfListing old observation.sourceName observation.sourceListingKey) ∧
              identity.firstObservedAt = observedAt ∨
            ∃ old ∈ db.identities,
              OfListing old observation.sourceName observation.sourceListingKey ∧
                identity.firstObservedAt = old.firstObservedAt) := by
  rw [appended.identities] at member
  exact upsertIdentity_origin member

theorem Appended.recorded (recorded : Recorded db) : Recorded next where
  observed stored member := by
    rcases (appended.mem_observations stored).mp member with old | rfl
    · exact recorded.observed stored old
    · exact appended.seen
  opened identity member := by
    rcases appended.origin member with
      ⟨old, _⟩ | ⟨_, _, ⟨_, first⟩ | ⟨old, oldMember, _, first⟩⟩
    · exact recorded.opened identity old
    · rw [first]
      exact appended.seen
    · rw [first]
      exact recorded.opened old oldMember
  listed stored member := by
    rw [appended.identities]
    rcases (appended.mem_observations stored).mp member with old | rfl
    · obtain ⟨identity, isMember, own⟩ := recorded.listed stored old
      obtain ⟨after, isAfter, sameSource, sameKey⟩ := upsertIdentity_keeps isMember
      exact ⟨after, isAfter, sameSource.trans own.1, sameKey.trans own.2⟩
    · exact upsertIdentity_registers
  last identity member := by
    rcases appended.origin member with ⟨old, _⟩ | ⟨own, last, _⟩
    · rcases recorded.last identity old with same | ⟨stored, isStored, own, isLast⟩
      · exact Or.inl same
      · exact Or.inr ⟨stored, (appended.mem_observations stored).mpr (Or.inl isStored), own, isLast⟩
    · refine Or.inr ⟨_, (appended.mem_observations _).mpr (Or.inr rfl), own, ?_⟩
      exact last.symm

/-- After an observation in order the windows hold it too. -/
theorem Appended.bracketed (recorded : Recorded db) (bracketed : Bracketed db)
    (inOrder : ∀ identity ∈ db.identities,
      OfListing identity observation.sourceName observation.sourceListingKey →
        NotAfter identity.lastObservedAt observedAt) : Bracketed next := by
  intro identity member stored isStored own
  obtain ⟨seen, isSeen⟩ := appended.seen
  have self : NotAfter observedAt observedAt := by
    rw [isSeen]
    exact NotAfter.refl seen
  rcases appended.origin member with
    ⟨old, other⟩ | ⟨ofListing, last, ⟨absent, first⟩ | ⟨old, oldMember, oldOwn, first⟩⟩
  · rcases (appended.mem_observations stored).mp isStored with earlier | rfl
    · exact bracketed identity old stored earlier own
    · exact absurd own other
  · rcases (appended.mem_observations stored).mp isStored with earlier | rfl
    · -- Every observed listing was registered, and this one was not.
      obtain ⟨registered, isRegistered, named⟩ := recorded.listed stored earlier
      obtain ⟨sameSource, sameKey⟩ := ofListing_congr own ofListing
      exact absurd (sameSource ▸ sameKey ▸ named) (absent registered isRegistered)
    · exact ⟨first ▸ self, last ▸ self⟩
  · have moved := inOrder old oldMember oldOwn
    rcases (appended.mem_observations stored).mp isStored with earlier | rfl
    · obtain ⟨sameSource, sameKey⟩ := ofListing_congr own ofListing
      have within := bracketed old oldMember stored earlier (sameSource ▸ sameKey ▸ oldOwn)
      exact ⟨first ▸ within.first, last ▸ within.last.trans moved⟩
    · refine ⟨?_, last ▸ self⟩
      rw [first]
      rcases recorded.last old oldMember with same | ⟨other, isOther, otherOwn, isLast⟩
      · exact same ▸ moved
      · have within := bracketed old oldMember other isOther otherOwn
        exact within.first.trans (isLast ▸ moved)

/-- An observation that the windows hold was in order. -/
theorem Appended.inOrder (recorded : Recorded db) (bracketed : Bracketed next)
    {identity : IdentityRow} (member : identity ∈ db.identities)
    (own : OfListing identity observation.sourceName observation.sourceListingKey) :
    NotAfter identity.lastObservedAt observedAt := by
  obtain ⟨after, isAfter, afterOwn, first, last⟩ : ∃ after ∈ next.identities,
      OfListing after observation.sourceName observation.sourceListingKey ∧
        after.firstObservedAt = identity.firstObservedAt ∧ after.lastObservedAt = observedAt := by
    rw [appended.identities]
    exact upsertIdentity_moves member own
  rcases recorded.last identity member with same | ⟨stored, isStored, storedOwn, isLast⟩
  · have within := bracketed after isAfter _
      ((appended.mem_observations _).mpr (Or.inr rfl)) afterOwn
    rw [same, ← first]
    exact within.first
  · obtain ⟨sameSource, sameKey⟩ := ofListing_congr storedOwn own
    have within := bracketed after isAfter stored
      ((appended.mem_observations stored).mpr (Or.inl isStored))
      (sameSource.symm ▸ sameKey.symm ▸ afterOwn)
    rw [← isLast, ← last]
    exact within.last

end Append

/-! ## A job -/

section Seed

variable {job : DetailFetchJob} {db next : Db} (seeded : Seeded job db next)

include seeded

theorem Seeded.mem_observations (stored : ObservationRow) :
    stored ∈ next.observations ↔ stored ∈ db.observations := by
  rw [seeded.observations]

/-- A row after a job is one before it, or opens a listing. -/
theorem Seeded.origin {identity : IdentityRow} (member : identity ∈ next.identities) :
    identity ∈ db.identities ∨
      (∀ old ∈ db.identities, ¬ OfListing old identity.sourceName identity.sourceListingKey) ∧
        identity.lastObservedAt = identity.firstObservedAt ∧
          ∃ first : Instant, identity.firstObservedAt = first.text := by
  rcases seeded.identities with same | ⟨scheduledAt, opened, clock, absent, own, first, last, rows⟩
  · rw [same] at member
    exact Or.inl member
  · rw [← Table.mem_rows, rows, List.mem_append, List.mem_singleton] at member
    rcases member with old | rfl
    · exact Or.inl old
    · obtain ⟨stamp, _, isText⟩ := timestamp_ok_iff.mp clock
      rw [own.1, own.2, first, last]
      exact Or.inr ⟨absent, rfl, stamp, isText.symm⟩

theorem Seeded.keeps {identity : IdentityRow} (member : identity ∈ db.identities) :
    identity ∈ next.identities := by
  rcases seeded.identities with same | ⟨_, _, _, _, _, _, _, rows⟩
  · rw [same]
    exact member
  · rw [← Table.mem_rows, rows]
    exact List.mem_append_left _ member

theorem Seeded.recorded (recorded : Recorded db) : Recorded next where
  observed stored member := recorded.observed stored ((seeded.mem_observations stored).mp member)
  opened identity member := by
    rcases seeded.origin member with old | ⟨_, _, first⟩
    · exact recorded.opened identity old
    · exact first
  listed stored member := by
    obtain ⟨identity, isMember, own⟩ :=
      recorded.listed stored ((seeded.mem_observations stored).mp member)
    exact ⟨identity, seeded.keeps isMember, own⟩
  last identity member := by
    rcases seeded.origin member with old | ⟨_, same, _⟩
    · rcases recorded.last identity old with same | ⟨stored, isStored, own, isLast⟩
      · exact Or.inl same
      · exact Or.inr ⟨stored, (seeded.mem_observations stored).mpr isStored, own, isLast⟩
    · exact Or.inl same

/-- A listing that a job opens has no observation yet. -/
theorem Seeded.bracketed (recorded : Recorded db) (bracketed : Bracketed db) :
    Bracketed next := by
  intro identity member stored isStored own
  have earlier := (seeded.mem_observations stored).mp isStored
  rcases seeded.origin member with old | ⟨absent, _⟩
  · exact bracketed identity old stored earlier own
  · obtain ⟨registered, isRegistered, sameSource, sameKey⟩ := recorded.listed stored earlier
    exact absurd ⟨sameSource.trans own.1.symm, sameKey.trans own.2.symm⟩
      (absent registered isRegistered)

end Seed

/-! ## Histories -/

/-- No listing is known yet. -/
def NoListings (db : Db) : Prop := db.identities.rows = [] ∧ db.observations.rows = []

theorem NoListings.notObserved {db : Db} (empty : NoListings db) (stored : ObservationRow) :
    stored ∉ db.observations := by
  rw [← Table.mem_rows, empty.2]
  exact List.not_mem_nil

theorem NoListings.notIdentified {db : Db} (empty : NoListings db) (identity : IdentityRow) :
    identity ∉ db.identities := by
  rw [← Table.mem_rows, empty.1]
  exact List.not_mem_nil

theorem NoListings.recorded {db : Db} (empty : NoListings db) : Recorded db where
  observed stored member := absurd member (empty.notObserved stored)
  opened identity member := absurd member (empty.notIdentified identity)
  listed stored member := absurd member (empty.notObserved stored)
  last identity member := absurd member (empty.notIdentified identity)

theorem performListing_recorded (call : ListingCall) (db : Db) (recorded : Recorded db) :
    Recorded (performListing call db).2 := by
  cases call with
  | append observation observationId fresh =>
      rcases appendObservation_appended (Prod.mk.eta (p := appendObservation observation
        (recordIdOf observationId fresh) db)).symm with ⟨_, same⟩ | ⟨observedAt, appended⟩
      · rw [performListing, same]
        exact recorded
      · exact appended.recorded recorded
  | createIdempotent job createdAt updatedAt =>
      exact (createIdempotent_seeded (Prod.mk.eta (p := createIdempotent job createdAt updatedAt
        db)).symm).recorded recorded

/-- A call keeps the windows exactly when its observation is in order. -/
theorem performListing_bracketed_iff (call : ListingCall) (db : Db) (recorded : Recorded db)
    (bracketed : Bracketed db) : Bracketed (performListing call db).2 ↔ InOrder db call := by
  cases call with
  | createIdempotent job createdAt updatedAt =>
      apply iff_of_true
      · exact (createIdempotent_seeded (Prod.mk.eta (p := createIdempotent job createdAt updatedAt
          db)).symm).bracketed recorded bracketed
      · trivial
  | append observation observationId fresh =>
      constructor
      · intro after isNew run observedAt clock identity member own
        exact (appended_of_accepted clock isNew run).inOrder recorded after member own
      · intro inOrder
        rcases appendObservation_appended (Prod.mk.eta (p := appendObservation observation
          (recordIdOf observationId fresh) db)).symm with ⟨_, same⟩ | ⟨observedAt, appended⟩
        · rw [performListing, same]
          exact bracketed
        · exact appended.bracketed recorded bracketed
            (inOrder appended.fresh appended.run observedAt appended.clock)

/-- In a history of calls the windows hold every observation all along exactly when
each observation is stored in order of its time. -/
theorem windows_hold_iff (start : Db) (empty : NoListings start) (calls : List ListingCall) :
    (∀ earlier later, calls = earlier ++ later →
        Bracketed (History.after performListing start earlier)) ↔
      History.Along performListing InOrder start calls := by
  apply History.along_iff_always
  · exact performListing_recorded
  · exact performListing_bracketed_iff
  · exact empty.recorded
  · exact fun identity member => absurd member (empty.notIdentified identity)

/-! ## Sample histories -/

/-- A number of seconds into 2026-08-08T10:00:00Z. -/
def sampleSecond (seconds : Nat) : Instant where
  micros := 63921780000000000 + seconds % 60 * 1000000
  inRange := by
    have numeric : IsoText.maxMicros = 315537897600000000 := by decide
    omega

def sampleObservation (seconds : Nat) : DiscoveryObservation where
  contractVersion := contractVersion
  crawlRunId := "run-1"
  sourceName := "synthetic_fixture"
  sourceListingKey := "listing-1"
  listingUrl := "http://localhost/1"
  observedAt := .ofInstant (sampleSecond seconds)
  visibleTitle := none
  visiblePriceText := none
  visibleCurrency := none
  visibleSpecs := []
  visibleStatus := none
  cardFingerprint := none
  discoveryPartition := "fixture"

/-- A database with one run. -/
def sampleDb : Db :=
  (createRun "run-1" "synthetic_fixture" "fixture" (sampleSecond 0)
    (upsertSource "synthetic_fixture" true "stable_source_key" none (sampleSecond 0) Db.empty).2).2

/-- An observation of ten seconds past, then one of five seconds past. -/
def lateObservation : List ListingCall :=
  [ .append (sampleObservation 10) (some "observation-1") "fresh-1",
    .append (sampleObservation 5) (some "observation-2") "fresh-2" ]

/-- The window ends with the observation that arrived last, before the first one. -/
theorem late_observation_narrows_window :
    ¬ Bracketed (History.after performListing sampleDb lateObservation) := by
  intro bracketed
  obtain ⟨identity, member, stored, isStored, own, last, observed⟩ :
      ∃ identity ∈ (History.after performListing sampleDb lateObservation).identities.rows,
        ∃ stored ∈ (History.after performListing sampleDb lateObservation).observations.rows,
          OfListing identity stored.sourceName stored.sourceListingKey ∧
            identity.lastObservedAt = (sampleSecond 5).text ∧
              stored.observedAt = (sampleSecond 10).text := by decide +kernel
  have within := (bracketed identity member stored isStored own).last
  rw [last, observed, notAfter_text_iff] at within
  exact absurd within (by decide)

/-- An observation after the other. -/
def orderedObservations : List ListingCall :=
  [ .append (sampleObservation 5) (some "observation-1") "fresh-1",
    .append (sampleObservation 10) none "fresh-2" ]

theorem ordered_observations_are_held :
    Bracketed (History.after performListing sampleDb orderedObservations) := by
  have empty : NoListings sampleDb := ⟨rfl, rfl⟩
  refine (windows_hold_iff sampleDb empty orderedObservations).mpr ⟨?_, ?_, trivial⟩
    orderedObservations [] (List.append_nil _).symm
  · exact fun _ _ _ _ identity member => absurd member (empty.notIdentified identity)
  · intro _ _ observedAt clock identity member _
    have last : ∀ row ∈ (performListing (.append (sampleObservation 5) (some "observation-1")
        "fresh-1") sampleDb).2.identities.rows,
          row.lastObservedAt = (sampleSecond 5).text := by decide +kernel
    have isText : timestamp (sampleObservation 10).observedAt = .ok (sampleSecond 10).text := by
      decide +kernel
    rw [Except.ok.inj (clock.symm.trans isText), last identity member, notAfter_text_iff]
    decide

end ScraperProject.Database
