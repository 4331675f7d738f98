import Mathlib.Tactic.Linarith
import ScraperProject.Errors
import ScraperProject.Foundation.IsoText

/-!
Contract: `_timestamp` and the datetimes it prints.

Owns timezone-aware datetimes at microsecond resolution, their instants, the
text that `database.repositories._timestamp` stores, and how stored texts
compare in SQLite. SQLite compares TEXT byte by byte; the texts are ASCII, so
this is the order of their characters.

Does not own the system clock: a reading of `datetime.now(UTC)` is an argument.
-/

namespace ScraperProject.Database

open ScraperProject.Foundation.Calendar
open ScraperProject.Foundation.IsoText

/-- A point in time that a `datetime` at UTC can hold, in microseconds since
0001-01-01. -/
structure Instant where
  micros : Nat
  inRange : micros < maxMicros
deriving DecidableEq

/-- A timezone-aware `datetime`: wall-clock microseconds and a UTC offset. The offset is
fixed, as that of `timezone`; a `tzinfo` whose offset changes with the wall clock is left
out. -/
structure Datetime where
  wall : Nat
  offset : Int
  wallInRange : wall < maxMicros
  offsetInRange : -86400000000 < offset ∧ offset < 86400000000
deriving DecidableEq

namespace Datetime

/-- The instant, which may lie outside the years 1 to 9999. -/
def instant (value : Datetime) : Int := value.wall - value.offset

/-- `value.astimezone(UTC)`. -/
def astimezoneUtc (value : Datetime) : Except PyError Instant :=
  if inRange : 0 ≤ value.instant ∧ value.instant < maxMicros then
    .ok { micros := value.instant.toNat, inRange := by omega }
  else .error .overflowError

/-- `value + timedelta(seconds=seconds)`: the wall clock moves, and the offset, being
fixed, stays. -/
def addSeconds (value : Datetime) (seconds : Int) : Except PyError Datetime :=
  if inRange : 0 ≤ value.wall + seconds * 1000000 ∧
      value.wall + seconds * 1000000 < maxMicros then
    .ok
      { wall := (value.wall + seconds * 1000000).toNat
        offset := value.offset
        wallInRange := by omega
        offsetInRange := value.offsetInRange }
  else .error .overflowError

/-- A reading of `datetime.now(UTC)`. -/
def ofInstant (value : Instant) : Datetime where
  wall := value.micros
  offset := 0
  wallInRange := value.inRange
  offsetInRange := by decide

/-- `value.date().isoformat()`. -/
def dateIsoformat (value : Datetime) : String :=
  String.ofList (dateText (ord2ymd (value.wall / 86400000000 + 1)))

theorem astimezoneUtc_ok_iff {value : Datetime} {utc : Instant} :
    value.astimezoneUtc = .ok utc ↔ value.instant = utc.micros := by
  unfold astimezoneUtc
  constructor
  · intro converted
    split at converted
    · next inRange =>
      cases converted
      simp only
      omega
    · cases converted
  · intro same
    have inRange : 0 ≤ value.instant ∧ value.instant < maxMicros := by
      have bound := utc.inRange
      omega
    rw [dif_pos inRange]
    congr 1
    cases utc
    simp only [Instant.mk.injEq]
    simp only at same
    omega

theorem addSeconds_instant {value later : Datetime} {seconds : Int}
    (added : value.addSeconds seconds = .ok later) :
    later.instant = value.instant + seconds * 1000000 := by
  unfold addSeconds at added
  split at added
  · next inRange =>
    cases added
    simp only [instant]
    omega
  · cases added

@[simp] theorem astimezoneUtc_ofInstant (value : Instant) :
    (ofInstant value).astimezoneUtc = .ok value := by
  rw [astimezoneUtc_ok_iff]
  simp [instant, ofInstant]

end Datetime

/-! ## Stored texts -/

/-- SQLite's order of two TEXT values. -/
def TextBefore (left right : String) : Prop := left.toList < right.toList

instance (left right : String) : Decidable (TextBefore left right) := by
  unfold TextBefore
  infer_instance

/-- The text that `_timestamp` makes of an instant. `isoformat` at UTC ends in
`+00:00`, the only place where that text occurs, and `replace` turns it into
`Z`. -/
def Instant.text (value : Instant) : String :=
  String.ofList (isoText ['Z'] value.micros)

/-- `_timestamp(value)`. -/
def timestamp (value : Datetime) : Except PyError String := do
  let utc ← value.astimezoneUtc
  return utc.text

theorem timestamp_ok_iff {value : Datetime} {text : String} :
    timestamp value = .ok text ↔ ∃ utc, value.astimezoneUtc = .ok utc ∧ utc.text = text := by
  unfold timestamp
  cases value.astimezoneUtc with
  | error raised => simp [bind, Except.bind]
  | ok utc => simp [bind, Except.bind, pure, Except.pure]

/-- A time is not printed only when it leaves the calendar. -/
theorem timestamp_eq_error {value : Datetime} {raised : PyError}
    (failed : timestamp value = .error raised) : raised = .overflowError := by
  unfold timestamp Datetime.astimezoneUtc at failed
  split at failed <;> cases failed
  rfl

theorem Instant.text_before_iff (left right : Instant) :
    TextBefore left.text right.text ↔
      isoText ['Z'] left.micros < isoText ['Z'] right.micros := by
  simp [TextBefore, Instant.text]

/-- The stored texts of a pair compare as its instants exactly when the pair is
not misordered. -/
theorem Instant.text_before_agrees_iff (left right : Instant) :
    (TextBefore left.text right.text ↔ left.micros < right.micros) ↔
      ¬ Misordered left.micros right.micros := by
  rw [Instant.text_before_iff]
  exact isoText_lt_agrees_iff left.inRange right.inRange

theorem Instant.text_before_of_second_apart {left right : Instant}
    (apart : left.micros + 1000000 ≤ right.micros) : TextBefore left.text right.text :=
  (Instant.text_before_iff left right).mpr (isoText_lt_of_second_apart right.inRange apart)

theorem Instant.text_inj {left right : Instant} : left.text = right.text ↔ left = right := by
  refine ⟨fun sameText => ?_, congrArg Instant.text⟩
  have sameList : isoText ['Z'] left.micros = isoText ['Z'] right.micros := by
    simpa [Instant.text] using congrArg String.toList sameText
  have sameMicros := (isoText_inj left.inRange right.inRange).mp sameList
  cases left
  cases right
  simpa using sameMicros

end ScraperProject.Database
