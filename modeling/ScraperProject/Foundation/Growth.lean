import ScraperProject.Foundation.History
import ScraperProject.Foundation.Table

/-!
Contract: tables that never lose a row, and the references between them.

Owns the development of a table, in which rows change in place as permitted and
admitted rows follow them, the rows that a development spares, the foreign keys of a
database as the names that child rows mention and the keys that parent rows have, and
the rule that steps which check a new name against the parents keep every reference of
every history whole.

Does not own any schema; a caller supplies the tables, the names and the keys.
-/

namespace ScraperProject.Foundation

namespace Table

variable {Row : Type} [Constrained Row] {Permits : Row → Row → Prop} {Admits : Row → Prop}
  {before after : Table Row}

/-- Rows are changed in place, as permitted, and admitted rows are added after them. -/
def Develops (Permits : Row → Row → Prop) (Admits : Row → Prop) (before after : Table Row) :
    Prop :=
  ∃ (change : Row → Row) (added : List Row), after.rows = before.rows.map change ++ added ∧
    (∀ row ∈ before, Permits row (change row)) ∧ ∀ row ∈ added, Admits row

theorem Develops.refl (same : ∀ row, Permits row row) (table : Table Row) :
    Develops Permits Admits table table :=
  ⟨id, [], by simp, fun row _ => same row, by simp⟩

theorem develops_of_append (same : ∀ row, Permits row row) {added : Row}
    (rows : after.rows = before.rows ++ [added]) (admitted : Admits added) :
    Develops Permits Admits before after :=
  ⟨id, [added], by simpa using rows, fun row _ => same row, by simpa using admitted⟩

theorem develops_of_map {change : Row → Row} (rows : after.rows = before.rows.map change)
    (permitted : ∀ row ∈ before, Permits row (change row)) :
    Develops Permits Admits before after :=
  ⟨change, [], by simpa using rows, permitted, by simp⟩

theorem Develops.trans {first second third : Table Row}
    (left : Develops Permits Admits first second) (right : Develops Permits Admits second third)
    (joined : ∀ {row middle later}, Permits row middle → Permits middle later → Permits row later)
    (lasting : ∀ {row later}, Admits row → Permits row later → Admits later) :
    Develops Permits Admits first third := by
  obtain ⟨change, added, rows, permitted, admitted⟩ := left
  obtain ⟨laterChange, laterAdded, laterRows, laterPermitted, laterAdmitted⟩ := right
  have listed : ∀ row ∈ first.rows.map change ++ added, row ∈ second := by
    intro row member
    rw [← mem_rows, rows]
    exact member
  refine ⟨laterChange ∘ change, added.map laterChange ++ laterAdded, ?_, ?_, ?_⟩
  · rw [laterRows, rows, List.map_append, List.map_map, List.append_assoc]
  · intro row member
    have middle := listed _ (List.mem_append_left _ (List.mem_map_of_mem member))
    exact joined (permitted row member) (laterPermitted _ middle)
  · intro row member
    rcases List.mem_append.mp member with old | new
    · obtain ⟨middle, isAdded, rfl⟩ := List.mem_map.mp old
      have stored := listed _ (List.mem_append_right _ isAdded)
      exact lasting (admitted _ isAdded) (laterPermitted _ stored)
    · exact laterAdmitted row new

theorem Develops.mono {Allows : Row → Row → Prop} {Accepts : Row → Prop}
    (develops : Develops Permits Admits before after)
    (allows : ∀ {row later}, Permits row later → Allows row later)
    (accepts : ∀ {row}, Admits row → Accepts row) : Develops Allows Accepts before after := by
  obtain ⟨change, added, rows, permitted, admitted⟩ := develops
  exact ⟨change, added, rows, fun row member => allows (permitted row member),
    fun row member => accepts (admitted row member)⟩

/-- A row of the later table comes from one of the earlier table, or was admitted. -/
theorem Develops.origin (develops : Develops Permits Admits before after) {later : Row}
    (member : later ∈ after) : (∃ row ∈ before, Permits row later) ∨ Admits later := by
  obtain ⟨change, added, rows, permitted, admitted⟩ := develops
  rw [← mem_rows, rows, List.mem_append, List.mem_map] at member
  rcases member with ⟨row, listed, rfl⟩ | isAdded
  · exact Or.inl ⟨row, listed, permitted row listed⟩
  · exact Or.inr (admitted later isAdded)

theorem Develops.grows (develops : Develops Permits Admits before after) :
    Grows Permits before after := by
  obtain ⟨change, added, rows, permitted, _⟩ := develops
  intro row member
  refine ⟨change row, ?_, permitted row member⟩
  rw [← mem_rows, rows]
  exact List.mem_append_left _ (List.mem_map_of_mem member)

/-- A key is still found where the changes keep the keys. -/
theorem Develops.found {Name : Type} {key : Row → Name} {name : Name}
    (develops : Develops Permits Admits before after)
    (sameKey : ∀ {row later}, Permits row later → key later = key row)
    (there : ∃ row ∈ before, key row = name) : ∃ row ∈ after, key row = name := by
  obtain ⟨row, member, named⟩ := there
  obtain ⟨later, laterMember, permitted⟩ := develops.grows row member
  exact ⟨later, laterMember, (sameKey permitted).trans named⟩

/-- Where no change is permitted, the earlier rows are the first of the later ones. -/
theorem Develops.isPrefix (develops : Develops Eq Admits before after) :
    before.rows <+: after.rows := by
  obtain ⟨change, added, rows, permitted, _⟩ := develops
  have unchanged : before.rows.map change = before.rows :=
    (List.map_congr_left fun row member => (permitted row member).symm).trans (List.map_id _)
  rw [rows, unchanged]
  exact List.prefix_append _ _

/-- The later table tells at each place of the earlier one what has become of its row. -/
theorem Develops.forall₂ (develops : Develops Permits Admits before after) :
    List.Forall₂ Permits before.rows (after.rows.take before.rows.length) := by
  obtain ⟨change, added, rows, permitted, _⟩ := develops
  have places : after.rows.take before.rows.length = before.rows.map change := by
    rw [rows]
    exact List.take_left' (List.length_map _)
  rw [places, List.forall₂_map_right_iff, List.forall₂_same]
  exact permitted

/-- Of the selected rows none is added or lost, and each is changed as permitted only. -/
def Spares (selects : Row → Prop) [DecidablePred selects] (Permits : Row → Row → Prop)
    (before after : Table Row) : Prop :=
  List.Forall₂ Permits (before.rows.filter fun row => selects row)
    (after.rows.filter fun row => selects row)

section Spares

variable {selects : Row → Prop} [DecidablePred selects]

omit [Constrained Row] in
theorem forall₂_joined {first second third : List Row}
    (joined : ∀ {row middle later}, Permits row middle → Permits middle later →
      Permits row later) (left : List.Forall₂ Permits first second)
    (right : List.Forall₂ Permits second third) : List.Forall₂ Permits first third := by
  induction left generalizing third with
  | nil => exact right
  | cons permitted _ inductionHypothesis =>
      cases right with
      | cons laterPermitted rest =>
          exact .cons (joined permitted laterPermitted) (inductionHypothesis rest)

theorem Spares.refl (same : ∀ row, Permits row row) (table : Table Row) :
    table.Spares selects Permits table :=
  List.forall₂_same.mpr fun row _ => same row

theorem Spares.trans {first second third : Table Row}
    (left : first.Spares selects Permits second) (right : second.Spares selects Permits third)
    (joined : ∀ {row middle later}, Permits row middle → Permits middle later →
      Permits row later) : first.Spares selects Permits third :=
  forall₂_joined joined left right

/-- Rows that the changes select as before and leave as permitted, and none among those
that are added. -/
theorem spares_of_rows {change : Row → Row} {added : List Row}
    (rows : after.rows = before.rows.map change ++ added)
    (named : ∀ row ∈ before, (selects (change row) ↔ selects row))
    (untouched : ∀ row ∈ before, selects row → Permits row (change row))
    (foreign : ∀ row ∈ added, ¬ selects row) : before.Spares selects Permits after := by
  have noneAdded : added.filter (fun row => selects row) = [] := by
    simpa only [List.filter_eq_nil_iff, decide_eq_true_eq] using foreign
  have sameRows : before.rows.filter ((fun row => decide (selects row)) ∘ change) =
      before.rows.filter fun row => selects row :=
    List.filter_congr fun row member => decide_eq_decide.mpr (named row member)
  unfold Spares
  rw [rows, List.filter_append, noneAdded, List.append_nil, List.filter_map, sameRows,
    List.forall₂_map_right_iff, List.forall₂_same]
  intro row listed
  obtain ⟨member, selected⟩ := List.mem_filter.mp listed
  exact untouched row member (of_decide_eq_true selected)

theorem spares_of_append (same : ∀ row, Permits row row) {added : Row}
    (rows : after.rows = before.rows ++ [added]) (foreign : ¬ selects added) :
    before.Spares selects Permits after :=
  @spares_of_rows _ _ _ _ _ _ _ id [added] (by simpa using rows) (fun _ _ => Iff.rfl)
    (fun row _ _ => same row) (by simpa using foreign)

theorem spares_of_map {change : Row → Row} (rows : after.rows = before.rows.map change)
    (named : ∀ row ∈ before, (selects (change row) ↔ selects row))
    (untouched : ∀ row ∈ before, selects row → Permits row (change row)) :
    before.Spares selects Permits after :=
  @spares_of_rows _ _ _ _ _ _ _ change [] (by simpa using rows) named untouched (by simp)

/-- A development spares the rows selected by names that its changes keep and that no
admitted row has. -/
theorem Develops.spares (develops : Develops Permits Admits before after)
    (named : ∀ {row later}, Permits row later → (selects later ↔ selects row))
    (foreign : ∀ {row}, Admits row → ¬ selects row) : before.Spares selects Permits after := by
  obtain ⟨change, added, rows, permitted, admitted⟩ := develops
  exact spares_of_rows rows (fun row member => named (permitted row member))
    (fun row member _ => permitted row member) fun row member => foreign (admitted row member)

end Spares

/-- An added row clashes with no row before it. -/
theorem fits_of_append {added : Row} (rows : after.rows = before.rows ++ [added]) :
    ∀ row ∈ before, ¬ Constrained.Clash row added := by
  have distinct := after.distinct
  rw [rows, List.pairwise_append] at distinct
  exact fun row member => distinct.2.2 row member added (List.mem_singleton_self added)

/-- An added row is found under its own name, and hides no other. -/
theorem find?_of_append {Name : Type} [DecidableEq Name] {name : Row → Name}
    (unique : ∀ row other : Row, name row = name other → Constrained.Clash row other)
    {added : Row} (rows : after.rows = before.rows ++ [added]) (wanted : Name) :
    after.find? (fun row => name row = wanted) =
      if name added = wanted then some added else before.find? fun row => name row = wanted := by
  have looked : after.find? (fun row => name row = wanted) =
      (before.find? fun row => name row = wanted).or
        ([added].find? fun row => name row = wanted) := by
    rw [find?, rows, List.find?_append]
    rfl
  rw [looked]
  split
  · next own =>
    have absent : (before.find? fun row => name row = wanted) = none := by
      rw [find?_none]
      intro row member selected
      have same : name row = name added := (of_decide_eq_true selected).trans own.symm
      exact fits_of_append rows row member (unique row added same)
    simp [absent, own]
  · next other => simp [other]

end Table

/-! ## References -/

/-- A foreign key: the names that the child rows mention, a NULL mentioning none, and
the keys that the parent rows have. -/
structure ForeignKey (Db : Type) where
  Key : Type
  references : Db → List Key
  keys : Db → List Key

namespace ForeignKey

variable {Db : Type} {foreignKey : ForeignKey Db}

/-- No name dangles. -/
def Holds (foreignKey : ForeignKey Db) (db : Db) : Prop :=
  ∀ name ∈ foreignKey.references db, name ∈ foreignKey.keys db

/-- No key is lost, and a name that was not there before is a key. -/
structure Checked (foreignKey : ForeignKey Db) (db next : Db) : Prop where
  kept : ∀ key ∈ foreignKey.keys db, key ∈ foreignKey.keys next
  named : ∀ name ∈ foreignKey.references next,
    name ∈ foreignKey.references db ∨ name ∈ foreignKey.keys next

theorem Checked.holds {db next : Db} (checked : foreignKey.Checked db next)
    (holds : foreignKey.Holds db) : foreignKey.Holds next := by
  intro name mentioned
  rcases checked.named name mentioned with old | new
  · exact checked.kept name (holds name old)
  · exact new

/-- A foreign key between two tables, one column group each. -/
def between {Child Parent Name : Type} [Constrained Child] [Constrained Parent]
    (children : Db → Table Child) (reference : Child → Option Name) (parents : Db → Table Parent)
    (key : Parent → Name) : ForeignKey Db where
  Key := Name
  references db := (children db).rows.filterMap reference
  keys db := (parents db).rows.map key

section Between

variable {Child Parent Name : Type} [Constrained Child] [Constrained Parent]
  {children : Db → Table Child} {reference : Child → Option Name} {parents : Db → Table Parent}
  {key : Parent → Name}

/-- Tables that develop without a change of the key and of the reference, and admit only
children that then have a parent, keep the foreign key. -/
theorem between_checked {Keeps : Child → Child → Prop} {Stays : Parent → Parent → Prop}
    {Admits : Child → Prop} {Accepts : Parent → Prop} {db next : Db}
    (childSteps : Table.Develops Keeps Admits (children db) (children next))
    (parentSteps : Table.Develops Stays Accepts (parents db) (parents next))
    (sameName : ∀ {child later}, Keeps child later → reference later = reference child)
    (sameKey : ∀ {parent later}, Stays parent later → key later = key parent)
    (checks : ∀ {child}, Admits child → ∀ name ∈ reference child,
      ∃ parent ∈ parents next, key parent = name) :
    (between children reference parents key).Checked db next where
  kept name isKey := by
    exact List.mem_map.mpr (parentSteps.found sameKey (List.mem_map.mp isKey))
  named name mentioned := by
    obtain ⟨later, laterMember, isName⟩ := List.mem_filterMap.mp mentioned
    rcases childSteps.origin laterMember with ⟨child, member, keeps⟩ | admitted
    · left
      exact List.mem_filterMap.mpr ⟨child, member, (sameName keeps).symm.trans isName⟩
    · right
      obtain ⟨parent, listed, same⟩ := checks admitted name isName
      exact List.mem_map.mpr ⟨parent, listed, same⟩

/-- The rule for a column that is never NULL. -/
theorem notNull_checked {name : Child → Name} {Keeps : Child → Child → Prop}
    {Stays : Parent → Parent → Prop} {Admits : Child → Prop} {Accepts : Parent → Prop}
    {db next : Db} (childSteps : Table.Develops Keeps Admits (children db) (children next))
    (parentSteps : Table.Develops Stays Accepts (parents db) (parents next))
    (sameName : ∀ {child later}, Keeps child later → name later = name child)
    (sameKey : ∀ {parent later}, Stays parent later → key later = key parent)
    (checks : ∀ {child}, Admits child → ∃ parent ∈ parents next, key parent = name child) :
    (between children (fun child => some (name child)) parents key).Checked db next := by
  refine between_checked childSteps parentSteps (fun keeps => congrArg some (sameName keeps))
    sameKey fun {child} admitted wanted mentioned => ?_
  have isName : name child = wanted := Option.some.inj mentioned
  exact isName ▸ checks admitted

end Between

/-- Foreign keys that every operation checks hold after every history. -/
theorem holds_after {Op Outcome : Type} (perform : Op → Db → Outcome × Db)
    {foreignKeys : List (ForeignKey Db)}
    (checked : ∀ op db, ∀ foreignKey ∈ foreignKeys, foreignKey.Checked db (perform op db).2)
    {start : Db} (initial : ∀ foreignKey ∈ foreignKeys, foreignKey.Holds start) (ops : List Op) :
    ∀ foreignKey ∈ foreignKeys, foreignKey.Holds (History.after perform start ops) := by
  refine @History.after_invariant _ _ _ perform
    (fun db => ∀ foreignKey ∈ foreignKeys, foreignKey.Holds db) ?_ _ initial ops
  intro op db holds foreignKey member
  exact (checked op db foreignKey member).holds (holds foreignKey member)

end ForeignKey

end ScraperProject.Foundation
