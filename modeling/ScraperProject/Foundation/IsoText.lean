import ScraperProject.Foundation.Calendar

/-!
Contract: ISO-8601 texts of instants counted in microseconds.

Owns the printed text with an optional fraction and a closing zone mark, the
exact character order of texts that close with `Z`, injectivity, and the
round trip through the reader of the extended format.

The order is not the order of the instants: a text without a fraction has the
zone mark where the others have a point, and `Z` sorts after it.

Does not own offsets other than the one that is printed.
-/

namespace ScraperProject.Foundation.IsoText

open ScraperProject.Foundation.Digits
open ScraperProject.Foundation.Calendar

/-! ## Printing -/

/-- One past the last microsecond of 9999-12-31. -/
def maxMicros : Nat := maxOrdinal * 86400 * 1000000

def dateText (date : Date) : List Char :=
  fixedWidth 4 date.year ++ ('-' :: (fixedWidth 2 date.month ++ ('-' :: fixedWidth 2 date.day)))

/-- `HH:MM:SS` of a second of the day. -/
def clockText (second : Nat) : List Char :=
  fixedWidth 2 (second / 3600) ++
    (':' :: (fixedWidth 2 (second / 60 % 60) ++ (':' :: fixedWidth 2 (second % 60))))

def secondText (second : Nat) : List Char :=
  dateText (ord2ymd (second / 86400 + 1)) ++ ('T' :: clockText (second % 86400))

/-- The fraction is printed only when it is not zero. -/
def fractionText (fraction : Nat) : List Char :=
  if fraction = 0 then [] else '.' :: fixedWidth 6 fraction

def isoText (zone : List Char) (micros : Nat) : List Char :=
  secondText (micros / 1000000) ++ (fractionText (micros % 1000000) ++ zone)

/-! ## Order of whole seconds -/

@[simp] theorem length_dateText (date : Date) : (dateText date).length = 10 := by
  simp [dateText]

@[simp] theorem length_clockText (second : Nat) : (clockText second).length = 8 := by
  simp [clockText]

@[simp] theorem length_secondText (second : Nat) : (secondText second).length = 19 := by
  simp [secondText]

theorem dateText_lt_of_before {left right : Date} (leftValid : left.Valid)
    (rightValid : right.Valid) (before : left.Before right) : dateText left < dateText right := by
  have leftYear := leftValid.yearBound
  have rightYear := rightValid.yearBound
  have leftMonth := leftValid.monthBound
  have rightMonth := rightValid.monthBound
  have small : ∀ date : Date, date.Valid → date.day < 10 ^ 2 := by
    intro date valid
    have bound := valid.dayBound
    have month : daysInMonth (isLeap date.year) date.month ≤ 31 := by
      unfold daysInMonth
      split_ifs <;> decide
    omega
  simp only [dateText]
  rw [append_lt_append_iff (by simp), fixedWidth_lt_iff (by omega) (by omega),
    fixedWidth_inj (by omega) (by omega)]
  rcases before with year | ⟨sameYear, month | ⟨sameMonth, day⟩⟩
  · exact Or.inl year
  · refine Or.inr ⟨sameYear, ?_⟩
    rw [List.cons_lt_cons_iff, append_lt_append_iff (by simp)]
    exact Or.inr ⟨rfl, Or.inl ((fixedWidth_lt_iff (by omega) (by omega)).mpr month)⟩
  · refine Or.inr ⟨sameYear, ?_⟩
    rw [List.cons_lt_cons_iff, append_lt_append_iff (by simp), sameMonth]
    refine Or.inr ⟨rfl, Or.inr ⟨rfl, ?_⟩⟩
    rw [List.cons_lt_cons_iff]
    exact Or.inr ⟨rfl, (fixedWidth_lt_iff (small left leftValid) (small right rightValid)).mpr day⟩

theorem clockText_lt {left right : Nat} (bounded : right < 86400) (before : left < right) :
    clockText left < clockText right := by
  simp only [clockText]
  rw [append_lt_append_iff (by simp), fixedWidth_lt_iff (by omega) (by omega),
    fixedWidth_inj (by omega) (by omega), List.cons_lt_cons_iff,
    append_lt_append_iff (by simp), fixedWidth_lt_iff (by omega) (by omega),
    fixedWidth_inj (by omega) (by omega), List.cons_lt_cons_iff,
    fixedWidth_lt_iff (by omega) (by omega)]
  simp only [lt_self_iff_false, true_and, false_or]
  omega

/-- Texts of whole seconds compare as the seconds do. -/
theorem secondText_lt {left right : Nat} (bounded : right < maxOrdinal * 86400)
    (before : left < right) : secondText left < secondText right := by
  have numeric : right < 3652059 * 86400 := bounded
  simp only [secondText]
  rw [append_lt_append_iff (by simp)]
  rcases Nat.lt_or_ge (left / 86400) (right / 86400) with day | sameDay
  · have leftDate := @ord2ymd_spec (left / 86400 + 1) (by omega)
      (show _ ≤ 3652059 by omega)
    have rightDate := @ord2ymd_spec (right / 86400 + 1) (by omega)
      (show _ ≤ 3652059 by omega)
    exact Or.inl (dateText_lt_of_before leftDate.1 rightDate.1
      (ord2ymd_before (by omega) (show _ ≤ 3652059 by omega) (by omega)))
  · have equal : left / 86400 = right / 86400 := by omega
    rw [equal, List.cons_lt_cons_iff]
    exact Or.inr ⟨rfl, Or.inr ⟨rfl, clockText_lt (by omega) (by omega)⟩⟩

theorem secondText_lt_iff {left right : Nat} (leftBound : left < maxOrdinal * 86400)
    (rightBound : right < maxOrdinal * 86400) :
    secondText left < secondText right ↔ left < right := by
  constructor
  · intro textBefore
    rcases Nat.lt_trichotomy left right with before | same | after
    · exact before
    · rw [same] at textBefore
      exact absurd textBefore (List.lt_irrefl _)
    · exact absurd (secondText_lt leftBound after) (List.lt_asymm textBefore)
  · exact secondText_lt rightBound

theorem secondText_inj {left right : Nat} (leftBound : left < maxOrdinal * 86400)
    (rightBound : right < maxOrdinal * 86400) :
    secondText left = secondText right ↔ left = right := by
  refine ⟨fun sameText => ?_, congrArg secondText⟩
  have notBefore := mt (secondText_lt_iff leftBound rightBound).mpr
    (fun before => absurd (sameText ▸ before) (List.lt_irrefl _))
  have notAfter := mt (secondText_lt_iff rightBound leftBound).mpr
    (fun before => absurd (sameText ▸ before) (List.lt_irrefl _))
  omega

/-! ## Order of instants printed with `Z` -/

theorem fractionText_lt_iff {left right : Nat} (leftBound : left < 1000000)
    (rightBound : right < 1000000) :
    fractionText left ++ ['Z'] < fractionText right ++ ['Z'] ↔
      left ≠ 0 ∧ (right = 0 ∨ left < right) := by
  have pointBeforeZone : '.' < 'Z' := by decide
  by_cases leftWhole : left = 0 <;> by_cases rightWhole : right = 0
  · simp [leftWhole, rightWhole]
  · simp [fractionText, leftWhole, rightWhole, List.cons_lt_cons_iff]
  · simp [fractionText, leftWhole, rightWhole, List.cons_lt_cons_iff, pointBeforeZone]
  · simp only [fractionText, leftWhole, rightWhole, if_false, List.cons_append,
      List.cons_lt_cons_iff, lt_self_iff_false, true_and, false_or, ne_eq, not_false_eq_true]
    rw [append_lt_append_iff (by simp), fixedWidth_lt_iff (by omega) (by omega)]
    simp

/-- The exact order of the texts: by second, and within a second whole seconds
come after all others. -/
theorem isoText_lt_iff {left right : Nat} (leftBound : left < maxMicros)
    (rightBound : right < maxMicros) :
    isoText ['Z'] left < isoText ['Z'] right ↔
      left / 1000000 < right / 1000000 ∨
        (left / 1000000 = right / 1000000 ∧ left % 1000000 ≠ 0 ∧
          (right % 1000000 = 0 ∨ left % 1000000 < right % 1000000)) := by
  have leftNumeric : left < 3652059 * 86400 * 1000000 := leftBound
  have rightNumeric : right < 3652059 * 86400 * 1000000 := rightBound
  have leftSecond : left / 1000000 < maxOrdinal * 86400 := show _ < 3652059 * 86400 by omega
  have rightSecond : right / 1000000 < maxOrdinal * 86400 := show _ < 3652059 * 86400 by omega
  simp only [isoText]
  rw [append_lt_append_iff (by simp), secondText_lt_iff leftSecond rightSecond,
    secondText_inj leftSecond rightSecond,
    fractionText_lt_iff (Nat.mod_lt _ (by decide)) (Nat.mod_lt _ (by decide))]

theorem isoText_inj {left right : Nat} (leftBound : left < maxMicros)
    (rightBound : right < maxMicros) :
    isoText ['Z'] left = isoText ['Z'] right ↔ left = right := by
  refine ⟨fun sameText => ?_, congrArg (isoText ['Z'])⟩
  have notBefore := mt (isoText_lt_iff leftBound rightBound).mpr
    (fun before => absurd (sameText ▸ before) (List.lt_irrefl _))
  have notAfter := mt (isoText_lt_iff rightBound leftBound).mpr
    (fun before => absurd (sameText ▸ before) (List.lt_irrefl _))
  omega

/-- Two instants lie in one second and exactly one of them is a whole second:
the pairs that their texts put in the wrong order. -/
def Misordered (left right : Nat) : Prop :=
  left / 1000000 = right / 1000000 ∧
    ((left % 1000000 = 0 ∧ right % 1000000 ≠ 0) ∨ (left % 1000000 ≠ 0 ∧ right % 1000000 = 0))

instance (left right : Nat) : Decidable (Misordered left right) := by
  unfold Misordered
  infer_instance

/-- The texts order a pair of instants as time does exactly when the pair is
not misordered. -/
theorem isoText_lt_agrees_iff {left right : Nat} (leftBound : left < maxMicros)
    (rightBound : right < maxMicros) :
    (isoText ['Z'] left < isoText ['Z'] right ↔ left < right) ↔ ¬ Misordered left right := by
  rw [isoText_lt_iff leftBound rightBound]
  unfold Misordered
  omega

/-- A full second between two instants is enough for the texts to agree. -/
theorem isoText_lt_of_second_apart {left right : Nat} (rightBound : right < maxMicros)
    (apart : left + 1000000 ≤ right) : isoText ['Z'] left < isoText ['Z'] right := by
  rw [isoText_lt_iff (by omega) rightBound]
  omega

/-! ## Reading -/

/-- Exactly `width` digits from the front. -/
def readField (width : Nat) (text : List Char) : Option (Nat × List Char) :=
  if (text.take width).length = width then
    (readDigits 0 (text.take width)).map fun value => (value, text.drop width)
  else none

theorem readField_fixedWidth {width value : Nat} (fits : value < 10 ^ width)
    (rest : List Char) : readField width (fixedWidth width value ++ rest) = some (value, rest) := by
  have front : (fixedWidth width value ++ rest).take width = fixedWidth width value := by
    rw [List.take_append_of_le_length (by simp), List.take_of_length_le (by simp)]
  have back : (fixedWidth width value ++ rest).drop width = rest := by
    rw [List.drop_append_of_le_length (by simp), List.drop_of_length_le (by simp),
      List.nil_append]
  simp [readField, front, back, readDigits_fixedWidth fits]

def expect (character : Char) : List Char → Option (List Char)
  | [] => none
  | head :: rest => if head = character then some rest else none

@[simp] theorem expect_cons (character : Char) (rest : List Char) :
    expect character (character :: rest) = some rest := by
  simp [expect]

/-- The fraction of a second in microseconds, if a point follows. -/
def readFraction : List Char → Option (Nat × List Char)
  | '.' :: rest => readField 6 rest
  | rest => some (0, rest)

def readOffsetField (rest : List Char) : Option Int := do
  let (hours, rest) ← readField 2 rest
  let rest ← expect ':' rest
  let (minutes, rest) ← readField 2 rest
  if rest = [] ∧ hours < 24 ∧ minutes < 60 then
    some ((hours * 60 + minutes : Nat) * 60000000)
  else none

/-- The UTC offset in microseconds; a text without one is naive. -/
def readOffset : List Char → Option (Option Int)
  | [] => some none
  | '+' :: rest => (readOffsetField rest).map some
  | '-' :: rest => (readOffsetField rest).map fun offset => some (-offset)
  | _ => none

instance (date : Date) : Decidable date.Valid :=
  decidable_of_iff
    (1 ≤ date.year ∧ date.year ≤ 9999 ∧ 1 ≤ date.month ∧ date.month ≤ 12 ∧ 1 ≤ date.day ∧
      date.day ≤ daysInMonth (isLeap date.year) date.month)
    ⟨fun ⟨a, b, c, d, e, f⟩ => ⟨a, b, c, d, e, f⟩, fun ⟨a, b, c, d, e, f⟩ => ⟨a, b, c, d, e, f⟩⟩

/-- Wall-clock microseconds and offset of a text in the extended format
`YYYY-MM-DDTHH:MM:SS[.ffffff][±HH:MM]`. -/
def parseIso? (text : List Char) : Option (Nat × Option Int) := do
  let (year, text) ← readField 4 text
  let text ← expect '-' text
  let (month, text) ← readField 2 text
  let text ← expect '-' text
  let (day, text) ← readField 2 text
  let text ← expect 'T' text
  let (hour, text) ← readField 2 text
  let text ← expect ':' text
  let (minute, text) ← readField 2 text
  let text ← expect ':' text
  let (second, text) ← readField 2 text
  let (fraction, text) ← readFraction text
  let offset ← readOffset text
  let date : Date := { year := year, month := month, day := day }
  if date.Valid ∧ hour < 24 ∧ minute < 60 ∧ second < 60 then
    some ((((ymd2ord date - 1) * 86400 + hour * 3600 + minute * 60 + second) * 1000000 + fraction),
      offset)
  else none

theorem readFraction_fractionText {fraction : Nat} (bounded : fraction < 1000000)
    {zone : List Char} (noPoint : zone.head? ≠ some '.') :
    readFraction (fractionText fraction ++ zone) = some (fraction, zone) := by
  by_cases whole : fraction = 0
  · subst whole
    cases zone with
    | nil => rfl
    | cons head tail =>
        have notPoint : head ≠ '.' := by simpa using noPoint
        simp [fractionText, readFraction, notPoint]
  · simp only [fractionText, whole, if_false, List.cons_append, readFraction]
    exact readField_fixedWidth (by omega) zone

/-- The text of an instant at UTC reads back as that instant. -/
theorem parseIso?_isoText {micros : Nat} (bounded : micros < maxMicros) :
    parseIso? (isoText ['+', '0', '0', ':', '0', '0'] micros) = some (micros, some 0) := by
  have numeric : micros < 3652059 * 86400 * 1000000 := bounded
  obtain ⟨valid, ordinal⟩ := @ord2ymd_spec (micros / 1000000 / 86400 + 1) (by omega)
    (show _ ≤ 3652059 by omega)
  have year := valid.yearBound
  have month := valid.monthBound
  have day : (ord2ymd (micros / 1000000 / 86400 + 1)).day < 10 ^ 2 := by
    have bound := valid.dayBound
    have most : daysInMonth (isLeap (ord2ymd (micros / 1000000 / 86400 + 1)).year)
        (ord2ymd (micros / 1000000 / 86400 + 1)).month ≤ 31 := by
      unfold daysInMonth
      split_ifs <;> decide
    omega
  generalize dateEq : ord2ymd (micros / 1000000 / 86400 + 1) = date at *
  have zone : readOffset ['+', '0', '0', ':', '0', '0'] = some (some 0) := by decide
  simp only [isoText, secondText, dateEq, dateText, clockText, List.append_assoc,
    List.cons_append, parseIso?]
  simp only [readField_fixedWidth (show date.year < 10 ^ 4 by omega),
    readField_fixedWidth (show date.month < 10 ^ 2 by omega), readField_fixedWidth day,
    readField_fixedWidth (show micros / 1000000 % 86400 / 3600 < 10 ^ 2 by omega),
    readField_fixedWidth (show micros / 1000000 % 86400 / 60 % 60 < 10 ^ 2 by omega),
    readField_fixedWidth (show micros / 1000000 % 86400 % 60 < 10 ^ 2 by omega),
    readFraction_fractionText (show micros % 1000000 < 1000000 by omega)
      (show (['+', '0', '0', ':', '0', '0'] : List Char).head? ≠ some '.' by decide),
    expect_cons, zone, Option.bind_eq_bind, Option.bind_some]
  have fields : micros / 1000000 % 86400 / 3600 < 24 ∧
      micros / 1000000 % 86400 / 60 % 60 < 60 ∧ micros / 1000000 % 86400 % 60 < 60 := by omega
  rw [if_pos ⟨valid, fields⟩, Option.some.injEq, Prod.mk.injEq]
  exact ⟨by rw [ordinal]; omega, rfl⟩

end ScraperProject.Foundation.IsoText
