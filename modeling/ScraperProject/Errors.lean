/-!
Contract: the exceptions that the modelled functions raise.

Owns one constructor for each exception class, with the message where the
source words it. Messages of SQLite, the operating system and the standard
library are not reproduced; `invalidUrl` is the `ValueError` of `urllib.parse`.
-/

namespace ScraperProject

/-- The kinds of SQLite constraint. -/
inductive ConstraintKind where
  | unique
  | foreignKey
  | check
deriving DecidableEq, Repr

inductive PyError where
  | typeError
  | valueError (message : String)
  | invalidUrl
  | jsonDecodeError
  | assertionError
  | overflowError
  | osError
  | fileExistsError
  | unicodeDecodeError
  | httpException
  | integrityError (kind : ConstraintKind)
  | operationalError
  | contractValidation (message : String)
  | repositoryState (message : String)
  | queueTransition (message : String)
  | runtimeSafety (message : String)
  | syntheticWorker (message : String)
  | migration (message : String)
deriving DecidableEq, Repr

theorem bind_eq_ok {α β : Type} {first : Except PyError α} {next : α → Except PyError β}
    {value : β} :
    (first >>= next) = .ok value ↔ ∃ middle, first = .ok middle ∧ next middle = .ok value := by
  cases first with
  | error raised => simp [bind, Except.bind]
  | ok middle => simp [bind, Except.bind]

end ScraperProject
