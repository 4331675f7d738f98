import Mathlib.Data.Prod.Lex
import Mathlib.Data.String.Basic
import ScraperProject.Database.Schema
import ScraperProject.Foundation.GroupedSum
import ScraperProject.Foundation.History
import ScraperProject.Foundation.Json

/-!
Contract: `database.repositories.ProxyUsageRepository`.

Owns the proxy ledger, `append` and `totals`, the entries whose append returned,
and the result that `totals` reports them exactly when, and only when, no group
sums to more than a 64-bit integer holds.

Does not own the tables that an entry refers to: an append finds them as the other
repositories have left them.
-/

namespace ScraperProject.Database

open Foundation
open Contracts

/-! ## The ledger -/

/-- The largest INTEGER of SQLite. -/
def maxInteger : Nat := 9223372036854775807

/-- A column `INTEGER NOT NULL CHECK (bytes >= 0)`. -/
structure ByteCount where
  value : Nat
  fits : value ≤ maxInteger
deriving DecidableEq

structure LedgerRow where
  ledgerId : String
  crawlRunId : String
  jobId : Option String
  sourceName : String
  proxyPoolLabel : String
  recordedAt : String
  bytesSent : ByteCount
  bytesReceived : ByteCount
deriving DecidableEq

instance : Constrained LedgerRow where
  Clash row other := row.ledgerId = other.ledgerId
  decidableClash _ _ := inferInstanceAs (Decidable (_ = _))
  refl _ := rfl
  symm same := same.symm

abbrev ProxyLedger := Table LedgerRow

/-! ## `append` -/

/-- The arguments of `append`. The counts are any Python values. -/
structure AppendCall where
  crawlRunId : String
  sourceName : String
  proxyPoolLabel : String
  bytesSent : Json
  bytesReceived : Json
  jobId : Option String

/-- What `append` finds: the other tables, a fresh `uuid4` and the clock. -/
structure AppendEnvironment where
  db : Db
  ledgerId : String
  clock : Instant

/-- The check of one count: no bool, an int, not negative. -/
def requireByteCount (value : Json) (fieldName : String) : Except PyError Nat :=
  match value with
  | .int (.ofNat count) => .ok count
  | _ => .error (.valueError (fieldName ++ " must be a non-negative integer"))

/-- SQLite binds a count of 64 bits. -/
def bindByteCount (count : Nat) : Except PyError ByteCount :=
  if fits : count ≤ maxInteger then .ok ⟨count, fits⟩ else .error .overflowError

/-- The row that `append` inserts. -/
def ledgerRow (call : AppendCall) (environment : AppendEnvironment)
    (bytesSent bytesReceived : ByteCount) : LedgerRow where
  ledgerId := environment.ledgerId
  crawlRunId := call.crawlRunId
  jobId := call.jobId
  sourceName := call.sourceName
  proxyPoolLabel := call.proxyPoolLabel
  recordedAt := environment.clock.text
  bytesSent := bytesSent
  bytesReceived := bytesReceived

/-- A null reference is not checked. -/
def requireOptionalReference (found : String → Bool) : Option String → Except PyError Unit
  | some value => requireReference (found value)
  | none => .ok ()

/-- The checks and the statement of `append`. -/
def insertEntry (call : AppendCall) (environment : AppendEnvironment) (ledger : ProxyLedger) :
    Except PyError ProxyLedger := do
  let sent ← requireByteCount call.bytesSent "bytes_sent"
  let received ← requireByteCount call.bytesReceived "bytes_received"
  let bytesSent ← bindByteCount sent
  let bytesReceived ← bindByteCount received
  let next ← insertRow ledger (ledgerRow call environment bytesSent bytesReceived)
  requireReference (environment.db.runs.rows.any fun run => run.crawlRunId = call.crawlRunId)
  requireOptionalReference
    (fun job => environment.db.jobs.rows.any fun row => row.jobId = job) call.jobId
  return next

/-- `ProxyUsageRepository.append`: an exception rolls back. -/
def append (call : AppendCall) (environment : AppendEnvironment) (ledger : ProxyLedger) :
    Except PyError String × ProxyLedger :=
  match insertEntry call environment ledger with
  | .ok next => (.ok environment.ledgerId, next)
  | .error raised => (.error raised, ledger)

/-! ## `totals` -/

structure TotalsRow where
  sourceName : String
  proxyPoolLabel : String
  bytesSent : Nat
  bytesReceived : Nat
deriving DecidableEq

/-- `GROUP BY source_name, proxy_pool_label`; texts compare by their code points, as
their UTF-8 bytes do. -/
abbrev Pair := Lex (String × String)

def LedgerRow.pair (row : LedgerRow) : Pair := toLex (row.sourceName, row.proxyPoolLabel)

/-- `SUM` over INTEGER values: "integer overflow" once a partial sum exceeds 64 bits. -/
def sumInteger (values : List ByteCount) : Except PyError Nat :=
  match limitedSum maxInteger 0 (values.map ByteCount.value) with
  | some total => .ok total
  | none => .error .operationalError

def totalsRow (pair : Pair) (rows : List LedgerRow) : Except PyError TotalsRow := do
  let bytesSent ← sumInteger (rows.map LedgerRow.bytesSent)
  let bytesReceived ← sumInteger (rows.map LedgerRow.bytesReceived)
  return {
    sourceName := (ofLex pair).1
    proxyPoolLabel := (ofLex pair).2
    bytesSent := bytesSent
    bytesReceived := bytesReceived }

/-- `ProxyUsageRepository.totals`. -/
def totals (ledger : ProxyLedger) : Except PyError (List TotalsRow) :=
  summarize LedgerRow.pair totalsRow ledger.rows

/-! ## Histories -/

structure LedgerOp where
  call : AppendCall
  environment : AppendEnvironment

def performAppend (op : LedgerOp) (ledger : ProxyLedger) : Except PyError String × ProxyLedger :=
  append op.call op.environment ledger

/-- What an append asks to be recorded. -/
structure LedgerEntry where
  sourceName : String
  proxyPoolLabel : String
  bytesSent : Nat
  bytesReceived : Nat
deriving DecidableEq

/-- The entry of a call whose counts are non-negative integers. -/
def AppendCall.entry (call : AppendCall) : Option LedgerEntry :=
  match call.bytesSent, call.bytesReceived with
  | .int (.ofNat sent), .int (.ofNat received) =>
      some {
        sourceName := call.sourceName
        proxyPoolLabel := call.proxyPoolLabel
        bytesSent := sent
        bytesReceived := received }
  | _, _ => none

/-- The entry of a call that returned. -/
def returnedEntry : LedgerOp × Except PyError String → Option LedgerEntry
  | (op, .ok _) => op.call.entry
  | (_, .error _) => none

/-- The entries whose append returned, first to last. -/
def returnedEntries (ops : List LedgerOp) : List LedgerEntry :=
  (History.events performAppend Table.empty ops).filterMap returnedEntry

/-- The ledger after the calls, from an empty one. -/
def ledgerAfter (ops : List LedgerOp) : ProxyLedger :=
  History.after performAppend Table.empty ops

def LedgerRow.entry (row : LedgerRow) : LedgerEntry where
  sourceName := row.sourceName
  proxyPoolLabel := row.proxyPoolLabel
  bytesSent := row.bytesSent.value
  bytesReceived := row.bytesReceived.value

theorem requireByteCount_ok {value : Json} {fieldName : String} {count : Nat} :
    requireByteCount value fieldName = .ok count ↔ value = .int (.ofNat count) := by
  unfold requireByteCount
  split
  · simp
  · next other =>
    refine iff_of_false (by simp) fun isCount => ?_
    exact other count isCount

theorem bindByteCount_ok {count : Nat} {bound : ByteCount}
    (isBound : bindByteCount count = .ok bound) : bound.value = count := by
  unfold bindByteCount at isBound
  split at isBound
  · rw [← Except.ok.inj isBound]
  · cases isBound

/-- An append that returns adds the row of its entry, under the run it names; one that
raises changes nothing. -/
theorem append_cases {call : AppendCall} {environment : AppendEnvironment}
    {ledger next : ProxyLedger} {result : Except PyError String}
    (outcome : append call environment ledger = (result, next)) :
    (∃ raised, result = .error raised ∧ next = ledger) ∨
      ∃ row, result = .ok environment.ledgerId ∧ call.entry = some row.entry ∧
        row.crawlRunId = call.crawlRunId ∧ next.rows = ledger.rows ++ [row] := by
  unfold append at outcome
  split at outcome
  · next later inserted =>
    obtain ⟨rfl, rfl⟩ := Prod.mk.inj outcome
    obtain ⟨sent, isSent, body⟩ := bind_eq_ok.mp inserted
    obtain ⟨received, isReceived, body⟩ := bind_eq_ok.mp body
    obtain ⟨bytesSent, sentBound, body⟩ := bind_eq_ok.mp body
    obtain ⟨bytesReceived, receivedBound, body⟩ := bind_eq_ok.mp body
    obtain ⟨table, isInserted, body⟩ := bind_eq_ok.mp body
    obtain ⟨_, _, body⟩ := bind_eq_ok.mp body
    obtain ⟨_, _, body⟩ := bind_eq_ok.mp body
    cases body
    refine Or.inr ⟨ledgerRow call environment bytesSent bytesReceived, rfl, ?_, rfl, ?_⟩
    · simp only [AppendCall.entry, requireByteCount_ok.mp isSent,
        requireByteCount_ok.mp isReceived, LedgerRow.entry, ledgerRow,
        bindByteCount_ok sentBound, bindByteCount_ok receivedBound]
    · exact (Table.insert?_eq_some.mp (insertRow_ok.mp isInserted)).2
  · next raised failed =>
    obtain ⟨rfl, rfl⟩ := Prod.mk.inj outcome
    exact Or.inl ⟨raised, rfl, rfl⟩

/-- The ledger holds the entries whose append returned, and nothing else. -/
theorem ledgerAfter_entries (ops : List LedgerOp) :
    (ledgerAfter ops).rows.map LedgerRow.entry = returnedEntries ops := by
  refine @History.history_invariant _ _ _ performAppend (fun past ledger =>
    ledger.rows.map LedgerRow.entry = past.filterMap returnedEntry) ?_ _ rfl ops
  intro past op ledger same
  cases outcome : performAppend op ledger with
  | mk result next =>
      dsimp only
      rw [List.filterMap_append, ← same]
      rcases append_cases outcome with ⟨raised, rfl, rfl⟩ | ⟨row, rfl, isEntry, _, rows⟩
      · simp [returnedEntry]
      · rw [rows, List.map_append]
        simp [returnedEntry, isEntry]

/-! ## Exact totals -/

def LedgerEntry.pair (entry : LedgerEntry) : Pair := toLex (entry.sourceName, entry.proxyPoolLabel)

@[simp] theorem LedgerRow.pair_entry (row : LedgerRow) : row.entry.pair = row.pair := rfl

def TotalsRow.pair (row : TotalsRow) : Pair := toLex (row.sourceName, row.proxyPoolLabel)

/-- The sum of a count over the entries of a pair. -/
def sumOver (count : LedgerEntry → Nat) (entries : List LedgerEntry) (pair : Pair) : Nat :=
  ((entries.filter fun entry => entry.pair = pair).map count).sum

/-- One row for each pair of the entries, in order, with the sums of its entries. -/
structure ExactTotals (entries : List LedgerEntry) (rows : List TotalsRow) : Prop where
  ordered : rows.Pairwise fun row later => row.pair < later.pair
  pairs : ∀ pair, (∃ row ∈ rows, row.pair = pair) ↔ ∃ entry ∈ entries, entry.pair = pair
  sent : ∀ row ∈ rows, row.bytesSent = sumOver LedgerEntry.bytesSent entries row.pair
  received : ∀ row ∈ rows, row.bytesReceived = sumOver LedgerEntry.bytesReceived entries row.pair

theorem sumInteger_ok {values : List ByteCount} {total : Nat} :
    sumInteger values = .ok total ↔
      (values.map ByteCount.value).sum = total ∧
        (values.map ByteCount.value).sum ≤ maxInteger := by
  have decided := @limitedSum_eq_some maxInteger 0 total (values.map ByteCount.value) (Nat.zero_le _)
  rw [Nat.zero_add] at decided
  rw [← decided]
  unfold sumInteger
  cases limitedSum maxInteger 0 (values.map ByteCount.value) <;> simp

/-- The sums of a group of the ledger are those of the entries of its pair. -/
theorem sum_group {column : LedgerRow → ByteCount} {count : LedgerEntry → Nat}
    (same : ∀ row : LedgerRow, count row.entry = (column row).value) (rows : List LedgerRow)
    (pair : Pair) :
    (((group LedgerRow.pair rows pair).map column).map ByteCount.value).sum =
      sumOver count (rows.map LedgerRow.entry) pair := by
  have sameRows : (rows.map LedgerRow.entry).filter (fun entry => entry.pair = pair) =
      (group LedgerRow.pair rows pair).map LedgerRow.entry := by
    rw [List.filter_map, group]
    exact congrArg _ (List.filter_congr fun row _ => decide_eq_decide.mpr Iff.rfl)
  rw [sumOver, sameRows, List.map_map, List.map_map]
  exact congrArg List.sum (List.map_congr_left fun row _ => (same row).symm)

/-- The row of a group, when both of its sums fit. -/
theorem totalsRow_ok {rows : List LedgerRow} {pair : Pair} {row : TotalsRow} :
    totalsRow pair (group LedgerRow.pair rows pair) = .ok row ↔
      (row.pair = pair ∧
        row.bytesSent = sumOver LedgerEntry.bytesSent (rows.map LedgerRow.entry) pair ∧
        row.bytesReceived = sumOver LedgerEntry.bytesReceived (rows.map LedgerRow.entry) pair) ∧
      sumOver LedgerEntry.bytesSent (rows.map LedgerRow.entry) pair ≤ maxInteger ∧
        sumOver LedgerEntry.bytesReceived (rows.map LedgerRow.entry) pair ≤ maxInteger := by
  have sent := @sum_group LedgerRow.bytesSent LedgerEntry.bytesSent (fun _ => rfl) rows pair
  have received :=
    @sum_group LedgerRow.bytesReceived LedgerEntry.bytesReceived (fun _ => rfl) rows pair
  simp only [totalsRow, bind_eq_ok, sumInteger_ok, sent, received]
  constructor
  · rintro ⟨_, ⟨rfl, sentFits⟩, _, ⟨rfl, receivedFits⟩, same⟩
    cases same
    exact ⟨⟨rfl, rfl, rfl⟩, sentFits, receivedFits⟩
  · rintro ⟨⟨samePair, sameSent, sameReceived⟩, sentFits, receivedFits⟩
    refine ⟨_, ⟨rfl, sentFits⟩, _, ⟨rfl, receivedFits⟩, ?_⟩
    rw [← sameSent, ← sameReceived, ← samePair]
    rfl

/-- What `totals` returns is exact. -/
theorem exactTotals_of_ok {ledger : ProxyLedger} {rows : List TotalsRow}
    (returned : totals ledger = .ok rows) :
    ExactTotals (ledger.rows.map LedgerRow.entry) rows := by
  have each := summarize_eq_ok.mp returned
  simp only [totalsRow_ok] at each
  have samePairs : orderedKeys LedgerRow.pair ledger.rows = rows.map TotalsRow.pair := by
    rw [← List.forall₂_eq_eq_eq, List.forall₂_map_right_iff]
    exact each.imp fun _ _ facts => facts.1.1.symm
  have sums : ∀ row ∈ rows,
      row.bytesSent =
          sumOver LedgerEntry.bytesSent (ledger.rows.map LedgerRow.entry) row.pair ∧
        row.bytesReceived =
          sumOver LedgerEntry.bytesReceived (ledger.rows.map LedgerRow.entry) row.pair := by
    clear samePairs returned
    generalize orderedKeys LedgerRow.pair ledger.rows = keys at each
    induction each with
    | nil => simp
    | cons facts _ inductionHypothesis =>
        obtain ⟨⟨rfl, sent, received⟩, _⟩ := facts
        simp only [List.forall_mem_cons]
        exact ⟨⟨sent, received⟩, inductionHypothesis⟩
  exact
    { ordered := List.pairwise_map.mp (samePairs ▸ orderedKeys_pairwise)
      pairs := by
        intro pair
        have isKey := @mem_orderedKeys _ _ _ LedgerRow.pair ledger.rows pair
        rw [samePairs, List.mem_map] at isKey
        simpa only [List.mem_map, exists_exists_and_eq_and, LedgerRow.pair_entry] using isKey
      sent := fun row member => (sums row member).1
      received := fun row member => (sums row member).2 }

/-- `totals` returns exactly when no group sums to more than 64 bits hold. -/
theorem totals_returns_iff {ledger : ProxyLedger} :
    (∃ rows, totals ledger = .ok rows) ↔ ∀ pair,
      sumOver LedgerEntry.bytesSent (ledger.rows.map LedgerRow.entry) pair ≤ maxInteger ∧
        sumOver LedgerEntry.bytesReceived (ledger.rows.map LedgerRow.entry) pair ≤ maxInteger := by
  refine summarize_succeeds_iff.trans ?_
  simp only [totalsRow_ok]
  constructor
  · intro succeeds pair
    by_cases present : ∃ row ∈ ledger.rows, row.pair = pair
    · obtain ⟨row, member, rfl⟩ := present
      obtain ⟨_, _, fits⟩ := succeeds row member
      exact fits
    · have none : (ledger.rows.map LedgerRow.entry).filter (fun entry => entry.pair = pair) = [] := by
        rw [List.filter_eq_nil_iff]
        intro entry member isPair
        obtain ⟨row, rowMember, rfl⟩ := List.mem_map.mp member
        exact present ⟨row, rowMember, of_decide_eq_true isPair⟩
      simp [sumOver, none]
  · intro fits row _
    refine ⟨{
      sourceName := row.sourceName
      proxyPoolLabel := row.proxyPoolLabel
      bytesSent := sumOver LedgerEntry.bytesSent (ledger.rows.map LedgerRow.entry) row.pair
      bytesReceived :=
        sumOver LedgerEntry.bytesReceived (ledger.rows.map LedgerRow.entry) row.pair }, ?_⟩
    exact ⟨⟨rfl, rfl, rfl⟩, fits row.pair⟩

/-- After every sequence of appends, `totals` returns the exact totals of the entries
whose append returned, exactly when the counts of no pair sum to more than a 64-bit
INTEGER holds. -/
theorem totals_exact_iff (ops : List LedgerOp) :
    (∃ rows, totals (ledgerAfter ops) = .ok rows ∧ ExactTotals (returnedEntries ops) rows) ↔
      ∀ pair, sumOver LedgerEntry.bytesSent (returnedEntries ops) pair ≤ maxInteger ∧
        sumOver LedgerEntry.bytesReceived (returnedEntries ops) pair ≤ maxInteger := by
  have returns := @totals_returns_iff (ledgerAfter ops)
  rw [ledgerAfter_entries] at returns
  rw [← returns]
  constructor
  · rintro ⟨rows, returned, _⟩
    exact ⟨rows, returned⟩
  · rintro ⟨rows, returned⟩
    exact ⟨rows, returned, ledgerAfter_entries ops ▸ exactTotals_of_ok returned⟩

/-! ## Sample ledger -/

/-- A database with one run. -/
def sampleLedgerDb : Db :=
  { Db.empty with
    runs :=
      { rows :=
          [ { crawlRunId := "run-1"
              sourceName := "fixture_source"
              runKind := "fixture"
              state := .running
              startedAt := none
              finishedAt := none
              createdAt := "" } ]
        distinct := List.pairwise_singleton _ _ } }

/-- An append of sent bytes for one pool. -/
def sampleAppend (ledgerId : String) (bytesSent : Int) : LedgerOp where
  call :=
    { crawlRunId := "run-1"
      sourceName := "fixture_source"
      proxyPoolLabel := "pool-a"
      bytesSent := .int bytesSent
      bytesReceived := .int 0
      jobId := none }
  environment :=
    { db := sampleLedgerDb
      ledgerId := ledgerId
      clock := ⟨63921783600000000, by decide⟩ }

/-- Two entries that each fit 64 bits do not fit together: `totals` raises. -/
theorem full_count_and_one_overflow :
    returnedEntries [sampleAppend "entry-1" 9223372036854775807, sampleAppend "entry-2" 1] =
        [ { sourceName := "fixture_source"
            proxyPoolLabel := "pool-a"
            bytesSent := 9223372036854775807
            bytesReceived := 0 },
          { sourceName := "fixture_source"
            proxyPoolLabel := "pool-a"
            bytesSent := 1
            bytesReceived := 0 } ] ∧
      totals (ledgerAfter
        [sampleAppend "entry-1" 9223372036854775807, sampleAppend "entry-2" 1]) =
        .error .operationalError ∧
      ¬ ∃ rows, totals (ledgerAfter
          [sampleAppend "entry-1" 9223372036854775807, sampleAppend "entry-2" 1]) = .ok rows ∧
        ExactTotals (returnedEntries
          [sampleAppend "entry-1" 9223372036854775807, sampleAppend "entry-2" 1]) rows := by
  have raises : totals (ledgerAfter
      [sampleAppend "entry-1" 9223372036854775807, sampleAppend "entry-2" 1]) =
        .error .operationalError := by decide +kernel
  refine ⟨by decide +kernel, raises, ?_⟩
  rintro ⟨rows, returned, _⟩
  rw [raises] at returned
  cases returned

end ScraperProject.Database
