import Mathlib.Data.List.Forall2
import Mathlib.Tactic.Basic

/-!
Contract: regular expressions matched by backtracking, and substitution.

Owns expressions over classes of symbols with greedy runs and conditions on the
rest of a text, the ends of their matches in the order in which a backtracking
matcher tries them, patterns that keep a group and replace what follows it, and the
substitution of the leftmost matches that do not overlap: what it makes of a text,
and that it works piece by piece around a symbol that no match contains.

Does not own any pattern; a pattern here consumes at least one symbol.
-/

namespace ScraperProject.Foundation

inductive Regex (Symbol : Type) where
  | empty
  | char (accepts : Symbol → Bool)
  | star (accepts : Symbol → Bool)
  | ahead (holds : List Symbol → Bool)
  | seq (first second : Regex Symbol)
  | alt (first second : Regex Symbol)

namespace Regex

variable {Symbol : Type}

/-- One or more symbols of a class. -/
def plus (accepts : Symbol → Bool) : Regex Symbol := .seq (.char accepts) (.star accepts)

/-- A class for each symbol of a word. -/
def word (classes : List (Symbol → Bool)) : Regex Symbol :=
  classes.foldr (fun accepts rest => .seq (.char accepts) rest) .empty

/-- The splits of a text after a run of the class, the longest run first. -/
def runs (accepts : Symbol → Bool) : List Symbol → List (List Symbol × List Symbol)
  | [] => [([], [])]
  | symbol :: rest =>
      if accepts symbol then
        (runs accepts rest).map (fun split => (symbol :: split.1, split.2)) ++
          [([], symbol :: rest)]
      else [([], symbol :: rest)]

/-- The matches at the start of a text, what they consume and what is left, in the
order in which they are tried. -/
def ends : Regex Symbol → List Symbol → List (List Symbol × List Symbol)
  | .empty, text => [([], text)]
  | .char _, [] => []
  | .char accepts, symbol :: rest => if accepts symbol then [([symbol], rest)] else []
  | .star accepts, text => runs accepts text
  | .ahead holds, text => if holds text then [([], text)] else []
  | .seq first second, text =>
      (ends first text).flatMap fun left =>
        (ends second left.2).map fun right => (left.1 ++ right.1, right.2)
  | .alt first second, text => ends first text ++ ends second text

/-- The expression matches what is consumed before the rest of a text. -/
def Matches : Regex Symbol → List Symbol → List Symbol → Prop
  | .empty, consumed, _ => consumed = []
  | .char accepts, consumed, _ => ∃ symbol, accepts symbol = true ∧ consumed = [symbol]
  | .star accepts, consumed, _ => ∀ symbol ∈ consumed, accepts symbol = true
  | .ahead holds, consumed, last => consumed = [] ∧ holds last = true
  | .seq first second, consumed, last => ∃ left right, consumed = left ++ right ∧
      first.Matches left (right ++ last) ∧ second.Matches right last
  | .alt first second, consumed, last => first.Matches consumed last ∨ second.Matches consumed last

/-- Every match consumes a symbol. -/
def consumes : Regex Symbol → Bool
  | .empty => false
  | .char _ => true
  | .star _ => false
  | .ahead _ => false
  | .seq first second => first.consumes || second.consumes
  | .alt first second => first.consumes && second.consumes

/-- No match contains the symbol or depends on what follows it. -/
def Avoids (separator : Symbol) : Regex Symbol → Prop
  | .empty => True
  | .char accepts => accepts separator = false
  | .star accepts => accepts separator = false
  | .ahead _ => False
  | .seq first second => first.Avoids separator ∧ second.Avoids separator
  | .alt first second => first.Avoids separator ∧ second.Avoids separator

def decidableAvoids (separator : Symbol) : (regex : Regex Symbol) →
    Decidable (regex.Avoids separator)
  | .empty => inferInstanceAs (Decidable True)
  | .char accepts => inferInstanceAs (Decidable (accepts separator = false))
  | .star accepts => inferInstanceAs (Decidable (accepts separator = false))
  | .ahead _ => inferInstanceAs (Decidable False)
  | .seq first second =>
      @instDecidableAnd _ _ (decidableAvoids separator first) (decidableAvoids separator second)
  | .alt first second =>
      @instDecidableAnd _ _ (decidableAvoids separator first) (decidableAvoids separator second)

instance (separator : Symbol) (regex : Regex Symbol) : Decidable (regex.Avoids separator) :=
  decidableAvoids separator regex

/-! ## Matches -/

@[simp] theorem matches_empty {consumed last : List Symbol} :
    (empty : Regex Symbol).Matches consumed last ↔ consumed = [] := Iff.rfl

@[simp] theorem matches_char {accepts : Symbol → Bool} {consumed last : List Symbol} :
    (char accepts).Matches consumed last ↔
      ∃ symbol, accepts symbol = true ∧ consumed = [symbol] := Iff.rfl

@[simp] theorem matches_star {accepts : Symbol → Bool} {consumed last : List Symbol} :
    (star accepts).Matches consumed last ↔ ∀ symbol ∈ consumed, accepts symbol = true := Iff.rfl

@[simp] theorem matches_ahead {holds : List Symbol → Bool} {consumed last : List Symbol} :
    (ahead holds).Matches consumed last ↔ consumed = [] ∧ holds last = true := Iff.rfl

@[simp] theorem matches_seq {first second : Regex Symbol} {consumed last : List Symbol} :
    (seq first second).Matches consumed last ↔ ∃ left right, consumed = left ++ right ∧
      first.Matches left (right ++ last) ∧ second.Matches right last := Iff.rfl

@[simp] theorem matches_alt {first second : Regex Symbol} {consumed last : List Symbol} :
    (alt first second).Matches consumed last ↔
      first.Matches consumed last ∨ second.Matches consumed last := Iff.rfl

/-- One symbol of the class and then any number of them. -/
theorem matches_plus {accepts : Symbol → Bool} {consumed last : List Symbol} :
    (plus accepts).Matches consumed last ↔
      consumed ≠ [] ∧ ∀ symbol ∈ consumed, accepts symbol = true := by
  simp only [plus, matches_seq, matches_char, matches_star]
  constructor
  · rintro ⟨_, right, rfl, ⟨symbol, accepted, rfl⟩, all⟩
    exact ⟨by simp, List.forall_mem_cons.mpr ⟨accepted, all⟩⟩
  · rintro ⟨notEmpty, all⟩
    cases consumed with
    | nil => exact absurd rfl notEmpty
    | cons symbol rest =>
        obtain ⟨accepted, others⟩ := List.forall_mem_cons.mp all
        exact ⟨[symbol], rest, rfl, ⟨symbol, accepted, rfl⟩, others⟩

/-- A word is matched class by class. -/
theorem matches_word {classes : List (Symbol → Bool)} {consumed last : List Symbol} :
    (word classes).Matches consumed last ↔
      List.Forall₂ (fun accepts symbol => accepts symbol = true) classes consumed := by
  induction classes generalizing consumed with
  | nil => rw [List.forall₂_nil_left_iff]; exact Iff.rfl
  | cons accepts rest inductionHypothesis =>
      have unfolded : word (accepts :: rest) = .seq (.char accepts) (word rest) := rfl
      rw [unfolded, matches_seq, List.forall₂_cons_left_iff]
      constructor
      · rintro ⟨_, right, rfl, ⟨symbol, accepted, rfl⟩, others⟩
        exact ⟨symbol, right, accepted, inductionHypothesis.mp others, rfl⟩
      · rintro ⟨symbol, right, accepted, others, rfl⟩
        exact ⟨[symbol], right, rfl, ⟨symbol, accepted, rfl⟩, inductionHypothesis.mpr others⟩

theorem mem_runs {accepts : Symbol → Bool} {text run last : List Symbol} :
    (run, last) ∈ runs accepts text ↔
      run ++ last = text ∧ ∀ symbol ∈ run, accepts symbol = true := by
  induction text generalizing run with
  | nil =>
      rw [runs, List.mem_singleton, Prod.mk.injEq, List.append_eq_nil_iff]
      constructor
      · rintro ⟨rfl, rfl⟩
        exact ⟨⟨rfl, rfl⟩, List.forall_mem_nil _⟩
      · exact And.left
  | cons symbol rest inductionHypothesis =>
      have longer : ∀ tail, (symbol :: tail, last) ∈
          (runs accepts rest).map (fun split => (symbol :: split.1, split.2)) ↔
            (tail, last) ∈ runs accepts rest := by simp
      rw [runs]
      split
      · next accepted =>
        rw [List.mem_append, List.mem_singleton]
        cases run with
        | nil => simp
        | cons head tail =>
            constructor
            · rintro (member | same)
              · obtain ⟨split, splitMember, same⟩ := List.mem_map.mp member
                cases same
                obtain ⟨joined, all⟩ := inductionHypothesis.mp splitMember
                exact ⟨congrArg (symbol :: ·) joined, List.forall_mem_cons.mpr ⟨accepted, all⟩⟩
              · cases same
            · rintro ⟨joined, all⟩
              obtain ⟨rfl, restJoined⟩ := List.cons.inj joined
              refine Or.inl ((longer tail).mpr (inductionHypothesis.mpr ⟨restJoined, ?_⟩))
              exact (List.forall_mem_cons.mp all).2
      · next refused =>
        rw [List.mem_singleton]
        cases run with
        | nil => simp
        | cons head tail =>
            refine iff_of_false (by simp) ?_
            rintro ⟨joined, all⟩
            obtain ⟨rfl, _⟩ := List.cons.inj joined
            exact refused (all head List.mem_cons_self)

/-- The matches that are tried are the matches. -/
theorem mem_ends {regex : Regex Symbol} {text consumed last : List Symbol} :
    (consumed, last) ∈ regex.ends text ↔ consumed ++ last = text ∧ regex.Matches consumed last := by
  induction regex generalizing text consumed last with
  | empty =>
      simp only [ends, Matches, List.mem_singleton, Prod.mk.injEq]
      constructor
      · rintro ⟨rfl, rfl⟩
        exact ⟨rfl, rfl⟩
      · rintro ⟨rfl, rfl⟩
        exact ⟨rfl, rfl⟩
  | char accepts =>
      simp only [Matches]
      cases text with
      | nil =>
          refine iff_of_false (by simp [ends]) ?_
          rintro ⟨joined, symbol, _, rfl⟩
          cases joined
      | cons symbol rest =>
          rw [ends]
          split
          · next accepted =>
            rw [List.mem_singleton]
            constructor
            · intro same
              cases same
              exact ⟨rfl, symbol, accepted, rfl⟩
            · rintro ⟨joined, _, _, rfl⟩
              obtain ⟨rfl, rfl⟩ := List.cons.inj joined
              rfl
          · next refused =>
            refine iff_of_false (by simp) ?_
            rintro ⟨joined, _, accepted, rfl⟩
            obtain ⟨rfl, _⟩ := List.cons.inj joined
            exact refused accepted
  | star accepts => exact mem_runs
  | ahead holds =>
      simp only [ends, Matches]
      split
      · next held =>
        rw [List.mem_singleton, Prod.mk.injEq]
        constructor
        · rintro ⟨rfl, rfl⟩
          exact ⟨rfl, rfl, held⟩
        · rintro ⟨joined, rfl, _⟩
          exact ⟨rfl, joined⟩
      · next fails =>
        refine iff_of_false (by simp) ?_
        rintro ⟨rfl, rfl, held⟩
        exact fails held
  | seq first second firstHypothesis secondHypothesis =>
      simp only [ends, Matches, List.mem_flatMap, List.mem_map]
      constructor
      · rintro ⟨⟨left, middle⟩, leftEnd, ⟨right, rest⟩, rightEnd, same⟩
        obtain ⟨rfl, rfl⟩ := Prod.mk.inj same
        obtain ⟨rfl, leftMatches⟩ := firstHypothesis.mp leftEnd
        obtain ⟨rfl, rightMatches⟩ := secondHypothesis.mp rightEnd
        exact ⟨List.append_assoc _ _ _, left, right, rfl, leftMatches, rightMatches⟩
      · rintro ⟨rfl, left, right, rfl, leftMatches, rightMatches⟩
        refine ⟨(left, right ++ last), firstHypothesis.mpr ⟨?_, leftMatches⟩, (right, last),
          secondHypothesis.mpr ⟨rfl, rightMatches⟩, rfl⟩
        exact (List.append_assoc _ _ _).symm
  | alt first second firstHypothesis secondHypothesis =>
      simp only [ends, Matches, List.mem_append, firstHypothesis, secondHypothesis]
      exact and_or_left.symm

/-- A word matches in one way. -/
theorem ends_word {classes : List (Symbol → Bool)} {consumed : List Symbol}
    (accepted : List.Forall₂ (fun accepts symbol => accepts symbol = true) classes consumed)
    (rest : List Symbol) : (word classes).ends (consumed ++ rest) = [(consumed, rest)] := by
  induction accepted with
  | nil => rfl
  | @cons accepts symbol classes consumed isAccepted _ inductionHypothesis =>
      have unfolded : word (accepts :: classes) = .seq (.char accepts) (word classes) := rfl
      rw [unfolded, List.cons_append, ends, ends, if_pos isAccepted]
      simp [inductionHypothesis]

/-- After the only match of the first part, the second one decides. -/
theorem head?_ends_seq {first second : Regex Symbol} {text left middle right last : List Symbol}
    (only : first.ends text = [(left, middle)])
    (isHead : (second.ends middle).head? = some (right, last)) :
    ((seq first second).ends text).head? = some (left ++ right, last) := by
  rw [ends, only, List.flatMap_cons, List.flatMap_nil, List.append_nil, List.head?_map, isHead]
  rfl

theorem Matches.notEmpty {regex : Regex Symbol} {consumed last : List Symbol}
    (matched : regex.Matches consumed last) (isConsuming : regex.consumes = true) :
    consumed ≠ [] := by
  induction regex generalizing consumed last with
  | empty => cases isConsuming
  | char accepts =>
      obtain ⟨symbol, _, rfl⟩ := matched
      simp
  | star accepts => cases isConsuming
  | ahead holds => cases isConsuming
  | seq first second firstHypothesis secondHypothesis =>
      obtain ⟨left, right, rfl, leftMatches, rightMatches⟩ := matched
      rcases (Bool.or_eq_true _ _).mp isConsuming with isFirst | isSecond
      · exact fun none => firstHypothesis leftMatches isFirst (List.append_eq_nil_iff.mp none).1
      · exact fun none => secondHypothesis rightMatches isSecond (List.append_eq_nil_iff.mp none).2
  | alt first second firstHypothesis secondHypothesis =>
      obtain ⟨isFirst, isSecond⟩ := (Bool.and_eq_true _ _).mp isConsuming
      rcases matched with left | right
      · exact firstHypothesis left isFirst
      · exact secondHypothesis right isSecond

/-- The longest run is tried first. -/
theorem head?_runs (accepts : Symbol → Bool) (text : List Symbol) :
    (runs accepts text).head? = some (text.takeWhile accepts, text.dropWhile accepts) := by
  induction text with
  | nil => rfl
  | cons symbol rest inductionHypothesis =>
      rw [runs, List.takeWhile_cons, List.dropWhile_cons]
      split
      · rw [List.head?_append, List.head?_map, inductionHypothesis]
        rfl
      · rfl

/-- One or more symbols are consumed as far as the class goes. -/
theorem head?_ends_plus {accepts : Symbol → Bool} {text run last : List Symbol}
    (first : ((plus accepts).ends text).head? = some (run, last)) :
    run ≠ [] ∧ (∀ symbol ∈ run, accepts symbol = true) ∧
      ∀ symbol, last.head? = some symbol → accepts symbol = false := by
  have member : (run, last) ∈ (plus accepts).ends text := List.mem_of_mem_head? first
  obtain ⟨notEmpty, all⟩ := matches_plus.mp (mem_ends.mp member).2
  refine ⟨notEmpty, all, ?_⟩
  cases text with
  | nil => cases first
  | cons symbol rest =>
      simp only [plus, ends, List.flatMap_def] at first
      split at first
      · simp only [List.map_cons, List.map_nil, List.flatten_cons, List.flatten_nil,
          List.append_nil, List.head?_map, head?_runs, Option.map_some, Option.some.injEq,
          Prod.mk.injEq] at first
        intro next isNext
        have head := List.head?_dropWhile_not accepts rest
        rw [first.2, isNext] at head
        simpa using head
      · cases first

/-! ## Separators -/

theorem runs_append_separator {accepts : Symbol → Bool} {separator : Symbol}
    (avoids : accepts separator = false) (text rest : List Symbol) :
    runs accepts (text ++ separator :: rest) =
      (runs accepts text).map fun split => (split.1, split.2 ++ separator :: rest) := by
  induction text with
  | nil => simp [runs, avoids]
  | cons symbol others inductionHypothesis =>
      rw [List.cons_append, runs, runs, inductionHypothesis]
      split <;> simp

/-- What follows a symbol that no match contains does not matter. -/
theorem ends_append_separator {regex : Regex Symbol} {separator : Symbol}
    (avoids : regex.Avoids separator) (text rest : List Symbol) :
    regex.ends (text ++ separator :: rest) =
      (regex.ends text).map fun split => (split.1, split.2 ++ separator :: rest) := by
  induction regex generalizing text with
  | empty => rfl
  | char accepts =>
      cases text with
      | nil =>
          have refused : accepts separator = false := avoids
          simp [ends, refused]
      | cons symbol others =>
          simp only [List.cons_append, ends]
          split <;> rfl
  | star accepts => exact runs_append_separator avoids text rest
  | ahead holds => exact avoids.elim
  | seq first second firstHypothesis secondHypothesis =>
      simp only [ends, firstHypothesis avoids.1, secondHypothesis avoids.2, List.flatMap_map,
        List.map_flatMap, List.map_map, Function.comp_def]
  | alt first second firstHypothesis secondHypothesis =>
      simp only [ends, firstHypothesis avoids.1, secondHypothesis avoids.2, List.map_append]

end Regex

/-! ## Patterns -/

/-- A pattern whose group is kept and whose body is replaced. -/
structure Pattern (Symbol : Type) where
  group : Regex Symbol
  body : Regex Symbol
  isConsuming : (group.consumes || body.consumes) = true

/-- A match: its group, its body and the rest of the text. -/
structure Found (Symbol : Type) where
  kept : List Symbol
  replaced : List Symbol
  last : List Symbol
deriving DecidableEq

namespace Pattern

variable {Symbol : Type} (pattern : Pattern Symbol) (replacement : List Symbol)

/-- The first match at the start of a text. -/
def matchAt (text : List Symbol) : Option (Found Symbol) :=
  (pattern.group.ends text).findSome? fun left =>
    (pattern.body.ends left.2).head?.map fun right =>
      { kept := left.1, replaced := right.1, last := right.2 }

/-- The substitution, after so many symbols of a match that has been replaced. -/
def subFrom : Nat → List Symbol → List Symbol
  | _, [] => []
  | skipped + 1, _ :: rest => subFrom skipped rest
  | 0, symbol :: rest =>
      match pattern.matchAt (symbol :: rest) with
      | some found => found.kept ++ replacement ++
          subFrom (found.kept.length + found.replaced.length - 1) rest
      | none => symbol :: subFrom 0 rest

/-- Replace the bodies of the leftmost matches that do not overlap. -/
def sub (text : List Symbol) : List Symbol := pattern.subFrom replacement 0 text

variable {pattern replacement} {text : List Symbol} {found : Found Symbol}

/-- What a match is: a match of the group and then one of the body. -/
theorem matchAt_eq_some (isFound : pattern.matchAt text = some found) :
    text = found.kept ++ found.replaced ++ found.last ∧
      pattern.group.Matches found.kept (found.replaced ++ found.last) ∧
        (pattern.body.ends (found.replaced ++ found.last)).head? =
          some (found.replaced, found.last) := by
  obtain ⟨⟨kept, middle⟩, member, isFirst⟩ := List.exists_of_findSome?_eq_some isFound
  obtain ⟨⟨replaced, last⟩, isHead, rfl⟩ := Option.map_eq_some_iff.mp isFirst
  obtain ⟨rfl, group⟩ := Regex.mem_ends.mp member
  obtain ⟨rfl, _⟩ := Regex.mem_ends.mp (List.mem_of_mem_head? isHead)
  exact ⟨(List.append_assoc _ _ _).symm, group, isHead⟩

/-- The first way of the group is taken where the body goes on from it. -/
theorem matchAt_of_head {kept middle replaced last : List Symbol}
    (group : (pattern.group.ends text).head? = some (kept, middle))
    (body : (pattern.body.ends middle).head? = some (replaced, last)) :
    pattern.matchAt text = some ⟨kept, replaced, last⟩ := by
  obtain ⟨others, ends⟩ : ∃ others, pattern.group.ends text = (kept, middle) :: others := by
    cases listed : pattern.group.ends text with
    | nil =>
        rw [listed] at group
        cases group
    | cons first others =>
        rw [listed] at group
        exact ⟨others, by rw [Option.some.inj group]⟩
  rw [matchAt, ends, List.findSome?_cons, body]
  rfl

theorem body_of_matchAt (isFound : pattern.matchAt text = some found) :
    pattern.body.Matches found.replaced found.last :=
  (Regex.mem_ends.mp (List.mem_of_mem_head? (matchAt_eq_some isFound).2.2)).2

/-- There is a match exactly when the group and then the body match. -/
theorem matchAt_isSome_iff :
    (∃ found, pattern.matchAt text = some found) ↔ ∃ kept replaced last,
      text = kept ++ replaced ++ last ∧ pattern.group.Matches kept (replaced ++ last) ∧
        pattern.body.Matches replaced last := by
  constructor
  · rintro ⟨found, isFound⟩
    obtain ⟨joined, group, _⟩ := matchAt_eq_some isFound
    exact ⟨found.kept, found.replaced, found.last, joined, group, body_of_matchAt isFound⟩
  · rintro ⟨kept, replaced, last, rfl, group, body⟩
    rw [← Option.isSome_iff_exists, Option.isSome_iff_ne_none]
    intro none
    have noBody := List.findSome?_eq_none_iff.mp none (kept, replaced ++ last)
      (Regex.mem_ends.mpr ⟨(List.append_assoc _ _ _).symm, group⟩)
    have member := Regex.mem_ends.mpr ⟨rfl, body⟩
    cases tried : pattern.body.ends (replaced ++ last) with
    | nil =>
        rw [tried] at member
        cases member
    | cons first others =>
        rw [tried] at noBody
        cases noBody

theorem consumed_of_matchAt (isFound : pattern.matchAt text = some found) :
    found.kept ++ found.replaced ≠ [] := by
  intro none
  obtain ⟨noGroup, noBody⟩ := List.append_eq_nil_iff.mp none
  rcases (Bool.or_eq_true _ _).mp pattern.isConsuming with isGroup | isBody
  · exact (matchAt_eq_some isFound).2.1.notEmpty isGroup noGroup
  · exact (body_of_matchAt isFound).notEmpty isBody noBody

theorem matchAt_nil : pattern.matchAt [] = none := by
  cases isFound : pattern.matchAt [] with
  | none => rfl
  | some found =>
      have joined := (matchAt_eq_some isFound).1
      exact absurd (List.append_eq_nil_iff.mp joined.symm).1 (consumed_of_matchAt isFound)

/-! ## Substitution -/

theorem subFrom_eq_sub_drop (skipped : Nat) (text : List Symbol) :
    pattern.subFrom replacement skipped text = pattern.sub replacement (text.drop skipped) := by
  induction text generalizing skipped with
  | nil => cases skipped <;> rfl
  | cons symbol rest inductionHypothesis =>
      cases skipped with
      | zero => rfl
      | succ skipped => exact inductionHypothesis skipped

@[simp] theorem sub_nil : pattern.sub replacement [] = [] := rfl

theorem sub_cons_of_none {symbol : Symbol} {rest : List Symbol}
    (none : pattern.matchAt (symbol :: rest) = none) :
    pattern.sub replacement (symbol :: rest) = symbol :: pattern.sub replacement rest := by
  rw [sub, subFrom, none]
  rfl

/-- A match at the start keeps its group; the substitution goes on after it. -/
theorem sub_of_matchAt (isFound : pattern.matchAt text = some found) :
    pattern.sub replacement text =
      found.kept ++ replacement ++ pattern.sub replacement found.last := by
  have consumed := consumed_of_matchAt isFound
  have joined := (matchAt_eq_some isFound).1
  cases text with
  | nil => exact absurd (List.append_eq_nil_iff.mp joined.symm).1 consumed
  | cons symbol rest =>
      have positive : 0 < (found.kept ++ found.replaced).length := List.length_pos_iff.mpr consumed
      rw [sub, subFrom, isFound]
      dsimp only
      rw [subFrom_eq_sub_drop, ← List.length_append]
      have skipped : rest.drop ((found.kept ++ found.replaced).length - 1) = found.last := by
        rw [← List.drop_succ_cons, Nat.sub_add_cancel positive, joined, List.drop_left]
      rw [skipped]

/-- What a substitution makes of a text: nothing where no match starts, and otherwise
what is before the leftmost match, its group and the replacement, and what it makes
of the rest. -/
inductive Substituted (pattern : Pattern Symbol) (replacement : List Symbol) :
    List Symbol → List Symbol → Prop where
  | unmatched {text : List Symbol}
      (none : ∀ front later, text = front ++ later → pattern.matchAt later = none) :
      Substituted pattern replacement text text
  | matched {gap text result : List Symbol} {found : Found Symbol}
      (first : ∀ front later, gap = front ++ later → later ≠ [] →
        pattern.matchAt (later ++ text) = none)
      (isFound : pattern.matchAt text = some found)
      (others : Substituted pattern replacement found.last result) :
      Substituted pattern replacement (gap ++ text) (gap ++ (found.kept ++ replacement ++ result))

theorem Substituted.cons {symbol : Symbol} {rest result : List Symbol}
    (none : pattern.matchAt (symbol :: rest) = none)
    (substituted : Substituted pattern replacement rest result) :
    Substituted pattern replacement (symbol :: rest) (symbol :: result) := by
  cases substituted with
  | unmatched others =>
      apply Substituted.unmatched
      intro front later split
      cases front with
      | nil =>
          rw [← show symbol :: rest = later from split]
          exact none
      | cons head tail => exact others tail later (List.cons.inj split).2
  | @matched gap text result found first isFound others =>
      refine @Substituted.matched _ pattern replacement (symbol :: gap) text result found ?_ isFound
        others
      intro front later split notEmpty
      cases front with
      | nil =>
          rw [← show symbol :: gap = later from split]
          exact none
      | cons head tail => exact first tail later (List.cons.inj split).2 notEmpty

theorem substituted_sub (pattern : Pattern Symbol) (replacement text : List Symbol) :
    Substituted pattern replacement text (pattern.sub replacement text) := by
  induction size : text.length using Nat.strongRecOn generalizing text with
  | _ size inductionHypothesis =>
      subst size
      cases text with
      | nil =>
          apply Substituted.unmatched
          intro front later split
          rw [(List.append_eq_nil_iff.mp split.symm).2]
          exact matchAt_nil
      | cons symbol rest =>
          cases isFound : pattern.matchAt (symbol :: rest) with
          | none =>
              rw [sub_cons_of_none isFound]
              exact .cons isFound (inductionHypothesis rest.length (by simp) rest rfl)
          | some found =>
              rw [sub_of_matchAt isFound]
              have positive := List.length_pos_iff.mpr (consumed_of_matchAt isFound)
              have shorter : found.last.length < (symbol :: rest).length := by
                rw [(matchAt_eq_some isFound).1, List.length_append]
                omega
              refine @Substituted.matched _ pattern replacement [] _ _ found ?_ isFound
                (inductionHypothesis found.last.length shorter found.last rfl)
              exact fun front later split notEmpty =>
                absurd (List.append_eq_nil_iff.mp split.symm).2 notEmpty

/-- A text in which every match ends in the replacement already is left as it is. -/
theorem sub_fixed (stays : ∀ front later found, text = front ++ later →
    pattern.matchAt later = some found → found.replaced = replacement) :
    pattern.sub replacement text = text := by
  have substituted := substituted_sub pattern replacement text
  generalize pattern.sub replacement text = result at substituted
  induction substituted with
  | unmatched => rfl
  | @matched gap text result found _ isFound _ inductionHypothesis =>
      have isReplaced := stays gap text found rfl isFound
      have joined := (matchAt_eq_some isFound).1
      have isLast : result = found.last := by
        apply inductionHypothesis
        intro front later other split isOther
        apply stays (gap ++ (found.kept ++ found.replaced ++ front)) later other _ isOther
        rw [joined, split]
        simp
      rw [isLast, joined, isReplaced]

/-- Around a symbol that no match contains, a match stays on its side. -/
theorem matchAt_append_separator {separator : Symbol} (group : pattern.group.Avoids separator)
    (body : pattern.body.Avoids separator) (text rest : List Symbol) :
    pattern.matchAt (text ++ separator :: rest) =
      (pattern.matchAt text).map fun found =>
        { found with last := found.last ++ separator :: rest } := by
  unfold matchAt
  rw [Regex.ends_append_separator group, List.findSome?_map, List.map_findSome?]
  congr 1
  funext left
  simp only [Function.comp_def, Regex.ends_append_separator body, List.head?_map, Option.map_map]

/-- The substitution works on both sides of a symbol that no match contains. -/
theorem sub_append_separator {separator : Symbol} (group : pattern.group.Avoids separator)
    (body : pattern.body.Avoids separator) (text rest : List Symbol) :
    pattern.sub replacement (text ++ separator :: rest) =
      pattern.sub replacement text ++ separator :: pattern.sub replacement rest := by
  induction size : text.length using Nat.strongRecOn generalizing text with
  | _ size inductionHypothesis =>
      subst size
      have around := @matchAt_append_separator _ pattern separator group body text rest
      cases isFound : pattern.matchAt text with
      | none =>
          rw [isFound, Option.map_none] at around
          cases text with
          | nil => exact sub_cons_of_none around
          | cons symbol others =>
              rw [List.cons_append] at around ⊢
              rw [sub_cons_of_none isFound, sub_cons_of_none around,
                inductionHypothesis others.length (by simp) others rfl]
              rfl
      | some found =>
          rw [isFound, Option.map_some] at around
          have positive := List.length_pos_iff.mpr (consumed_of_matchAt isFound)
          have shorter : found.last.length < text.length := by
            rw [(matchAt_eq_some isFound).1, List.length_append]
            omega
          rw [sub_of_matchAt isFound, sub_of_matchAt around,
            inductionHypothesis found.last.length shorter found.last rfl]
          simp only [List.append_assoc]

end Pattern

end ScraperProject.Foundation
