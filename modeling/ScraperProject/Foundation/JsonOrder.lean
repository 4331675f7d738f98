import ScraperProject.Foundation.JsonReader

/-!
Contract: JSON values up to the order of the keys in their objects.

Owns what a value shows at the end of a path, the values whose objects have distinct
keys, and that sorting the keys is a normal form: it changes nothing that is shown, and
values that show the same are sorted to one value. Owns that printed ASCII text is
encoded without loss.

Does not own the printer or the reader.
-/

namespace ScraperProject.Foundation.Json

/-! ## Paths -/

/-- A step into an object or into an array. -/
inductive Step where
  | key (name : String)
  | index (position : Nat)

/-- What a value shows of itself, its parts left out. -/
inductive Shape where
  | null
  | bool (value : Bool)
  | int (value : Int)
  | float (repr : FloatText)
  | str (value : String)
  | arr
  | obj

def shape : Json → Shape
  | .null => .null
  | .bool value => .bool value
  | .int value => .int value
  | .float repr => .float repr
  | .str value => .str value
  | .arr _ => .arr
  | .obj _ => .obj

/-- The part of a value that a step leads to. -/
def part? : Step → Json → Option Json
  | .key name, .obj entries => get? entries name
  | .index position, .arr items => items[position]?
  | _, _ => none

/-- What is shown at the end of the path. -/
def shapeAt : List Step → Json → Option Shape
  | [], value => some (shape value)
  | step :: path, value => (part? step value).bind (shapeAt path)

/-- The values show the same at the end of every path. -/
def Same (first second : Json) : Prop := ∀ path, shapeAt path first = shapeAt path second

theorem Same.part {first second : Json} (same : Same first second) (step : Step) :
    (part? step first).isSome = (part? step second).isSome ∧
      ∀ value ∈ part? step first, ∀ other ∈ part? step second, Same value other := by
  have atEnd := same [step]
  constructor
  · simp only [shapeAt] at atEnd
    cases isFirst : part? step first with
    | none =>
        cases isSecond : part? step second with
        | none => rfl
        | some other =>
            rw [isFirst, isSecond] at atEnd
            cases atEnd
    | some value =>
        cases isSecond : part? step second with
        | none =>
            rw [isFirst, isSecond] at atEnd
            cases atEnd
        | some other => rfl
  · intro value isFirst other isSecond path
    have further := same (step :: path)
    rw [shapeAt, shapeAt, Option.mem_def.mp isFirst, Option.mem_def.mp isSecond] at further
    exact further

theorem sortItems_eq_map (items : List Json) : sortItems items = items.map sortKeys := by
  induction items with
  | nil => rfl
  | cons item rest inductionHypothesis =>
      rw [sortItems, inductionHypothesis]
      rfl

/-- Sorting the keys changes nothing that is shown. -/
theorem shapeAt_sortKeys (path : List Step) (value : Json) :
    shapeAt path (sortKeys value) = shapeAt path value := by
  induction path generalizing value with
  | nil => cases value <;> rfl
  | cons step path inductionHypothesis =>
      have parts : part? step (sortKeys value) = (part? step value).map sortKeys := by
        cases value with
        | obj entries =>
            cases step with
            | key name => exact get?_sorted name entries
            | index position => rfl
        | arr items =>
            cases step with
            | key name => rfl
            | index position =>
                rw [sortKeys, sortItems_eq_map]
                exact List.getElem?_map
        | _ => cases step <;> rfl
      rw [shapeAt, shapeAt, parts, Option.bind_map]
      exact congrArg (Option.bind (part? step value)) (funext inductionHypothesis)

/-! ## Distinct keys -/

mutual

/-- No object of the value has a key twice. -/
def DistinctKeys : Json → Prop
  | .arr items => DistinctItems items
  | .obj entries => (entries.map Prod.fst).Nodup ∧ DistinctEntries entries
  | _ => True

def DistinctItems : List Json → Prop
  | [] => True
  | item :: rest => DistinctKeys item ∧ DistinctItems rest

def DistinctEntries : List (String × Json) → Prop
  | [] => True
  | (_, value) :: rest => DistinctKeys value ∧ DistinctEntries rest

end

theorem DistinctItems.item {items : List Json} (distinct : DistinctItems items) {item : Json}
    (member : item ∈ items) : DistinctKeys item := by
  induction items with
  | nil => cases member
  | cons head rest inductionHypothesis =>
      rcases List.mem_cons.mp member with rfl | later
      · exact distinct.1
      · exact inductionHypothesis distinct.2 later

theorem DistinctEntries.entry {entries : List (String × Json)}
    (distinct : DistinctEntries entries) {entry : String × Json} (member : entry ∈ entries) :
    DistinctKeys entry.2 := by
  induction entries with
  | nil => cases member
  | cons head rest inductionHypothesis =>
      rcases List.mem_cons.mp member with rfl | later
      · exact distinct.1
      · exact inductionHypothesis distinct.2 later

/-! ## The normal form -/

/-- The keys are in their order and differ. -/
def KeyBefore (left right : String × Json) : Prop := left.1.toList < right.1.toList

instance : Std.Irrefl KeyBefore := ⟨fun _ => List.lt_irrefl _⟩

instance : Std.Antisymm KeyBefore := ⟨fun _ _ first second => absurd second (List.lt_asymm first)⟩

instance : Std.Total keyOrder :=
  ⟨fun left right => List.le_total left.1.toList right.1.toList⟩

instance : IsTrans (String × Json) keyOrder :=
  ⟨fun left middle right =>
    @List.le_trans Char _ _ _ _ left.1.toList middle.1.toList right.1.toList⟩

theorem sortEntries_eq_map (entries : List (String × Json)) :
    sortEntries entries = entries.map fun entry => (entry.1, sortKeys entry.2) := by
  induction entries with
  | nil => rfl
  | cons entry rest inductionHypothesis =>
      obtain ⟨key, value⟩ := entry
      rw [sortEntries, inductionHypothesis]
      rfl

/-- Distinct keys are sorted strictly. -/
theorem keyBefore_sorted {entries : List (String × Json)}
    (distinct : (entries.map Prod.fst).Nodup) :
    (entries.insertionSort keyOrder).Pairwise KeyBefore := by
  have apart : ((entries.insertionSort keyOrder).map Prod.fst).Nodup :=
    ((List.perm_insertionSort keyOrder entries).map Prod.fst).nodup_iff.mpr distinct
  have sorted := (List.pairwise_insertionSort keyOrder entries).and (List.pairwise_map.mp apart)
  refine sorted.imp ?_
  rintro left right ⟨inOrder, different⟩
  show left.1.toList < right.1.toList
  apply Decidable.byContradiction
  intro notBefore
  exact different (String.toList_inj.mp (List.le_antisymm inOrder notBefore))

theorem get?_of_mem {entries : List (String × Json)} (distinct : (entries.map Prod.fst).Nodup)
    {key : String} {value : Json} (member : (key, value) ∈ entries) :
    get? entries key = some value := by
  induction entries with
  | nil => cases member
  | cons head rest inductionHypothesis =>
      rw [List.map_cons, List.nodup_cons] at distinct
      rw [get?, List.find?_cons]
      rcases List.mem_cons.mp member with same | later
      · rw [← same]
        simp
      · have different : head.1 ≠ key := by
          intro same
          apply distinct.1
          rw [same]
          exact List.mem_map_of_mem later
        simpa [different, get?] using inductionHypothesis distinct.2 later

theorem mem_of_get? {entries : List (String × Json)} {key : String} {value : Json}
    (found : get? entries key = some value) : (key, value) ∈ entries := by
  obtain ⟨entry, isEntry, rfl⟩ := Option.map_eq_some_iff.mp found
  have isKey : entry.1 = key := by simpa using List.find?_some isEntry
  rw [← isKey]
  exact List.mem_of_find?_eq_some isEntry

/-- What the value shows determines its normal form. -/
def Determined (first : Json) : Prop :=
  ∀ second, DistinctKeys first → DistinctKeys second → Same first second →
    sortKeys first = sortKeys second

theorem determined_arr {items : List Json} (all : ∀ item ∈ items, Determined item) :
    Determined (.arr items) := by
  intro second distinct otherDistinct same
  cases second with
  | arr others =>
      rw [sortKeys, sortKeys, sortItems_eq_map, sortItems_eq_map]
      congr 1
      apply List.ext_getElem?
      intro position
      rw [List.getElem?_map, List.getElem?_map]
      obtain ⟨present, agree⟩ := same.part (.index position)
      simp only [part?] at present agree
      cases isItem : items[position]? with
      | none =>
          rw [isItem] at present
          have isNone : others[position]? = none := by simpa using present.symm
          rw [isNone]
      | some item =>
          rw [isItem] at present
          obtain ⟨other, isOther⟩ := Option.isSome_iff_exists.mp present.symm
          have member := List.mem_of_getElem? isItem
          rw [isOther, Option.map_some, Option.map_some]
          congr 1
          apply all item member other
          · exact DistinctItems.item distinct member
          · exact DistinctItems.item otherDistinct (List.mem_of_getElem? isOther)
          · exact agree item isItem other isOther
  | _ => cases same []

theorem determined_obj {entries : List (String × Json)}
    (all : ∀ entry ∈ entries, Determined entry.2) : Determined (.obj entries) := by
  intro second distinct otherDistinct same
  cases second with
  | obj others =>
      have values : ∀ {key value other}, get? entries key = some value →
          get? others key = some other → sortKeys value = sortKeys other := by
        intro key value other isValue isOther
        have member := mem_of_get? isValue
        apply all (key, value) member other
        · exact distinct.2.entry member
        · exact otherDistinct.2.entry (mem_of_get? isOther)
        · exact (same.part (.key key)).2 value isValue other isOther
      rw [sortKeys, sortKeys, sortEntries_eq_map, sortEntries_eq_map]
      congr 1
      have keys : ∀ list : List (String × Json),
          (list.map fun entry => (entry.1, sortKeys entry.2)).map Prod.fst =
            list.map Prod.fst := by
        intro list
        rw [List.map_map]
        rfl
      apply List.Pairwise.eq_of_mem_iff (keyBefore_sorted (by rw [keys]; exact distinct.1))
        (keyBefore_sorted (by rw [keys]; exact otherDistinct.1))
      rintro ⟨key, sorted⟩
      rw [List.mem_insertionSort, List.mem_insertionSort, List.mem_map, List.mem_map]
      have present := (same.part (.key key)).1
      simp only [part?] at present
      constructor
      · rintro ⟨⟨name, value⟩, member, isSorted⟩
        cases isSorted
        have isValue := get?_of_mem distinct.1 member
        rw [isValue] at present
        obtain ⟨other, isOther⟩ := Option.isSome_iff_exists.mp present.symm
        exact ⟨(name, other), mem_of_get? isOther, by rw [values isValue isOther]⟩
      · rintro ⟨⟨name, other⟩, member, isSorted⟩
        cases isSorted
        have isOther := get?_of_mem otherDistinct.1 member
        rw [isOther] at present
        obtain ⟨value, isValue⟩ := Option.isSome_iff_exists.mp present
        exact ⟨(name, value), mem_of_get? isValue, by rw [values isValue isOther]⟩
  | _ => cases same []

mutual

theorem determined : (value : Json) → Determined value
  | .null | .bool _ | .int _ | .float _ | .str _ => by
      intro second _ _ same
      have shown := Option.some.inj (same [])
      cases second <;> cases shown
      rfl
  | .arr items => determined_arr (determined_items items)
  | .obj entries => determined_obj (determined_entries entries)

theorem determined_items : (items : List Json) → ∀ item ∈ items, Determined item
  | [], _, member => by cases member
  | head :: rest, item, member => by
      rcases List.mem_cons.mp member with same | later
      · rw [same]
        exact determined head
      · exact determined_items rest item later

theorem determined_entries : (entries : List (String × Json)) →
    ∀ entry ∈ entries, Determined entry.2
  | [], _, member => by cases member
  | (key, value) :: rest, entry, member => by
      rcases List.mem_cons.mp member with same | later
      · rw [same]
        exact determined value
      · exact determined_entries rest entry later

end

/-- Sorted keys are a normal form for what a value shows. -/
theorem sortKeys_eq_iff {first second : Json} (distinct : DistinctKeys first)
    (otherDistinct : DistinctKeys second) :
    sortKeys first = sortKeys second ↔ Same first second := by
  constructor
  · intro same path
    rw [← shapeAt_sortKeys path first, same, shapeAt_sortKeys]
  · exact determined first second distinct otherDistinct

/-! ## Bytes -/

/-- `bytes.decode("ascii")`. -/
def decodeAscii (bytes : List UInt8) : List Char := bytes.map fun byte => Char.ofNat byte.toNat

/-- Printable text is encoded byte by byte, without loss. -/
theorem decodeAscii_encodeUtf8 {text : List Char} (printable : AllPrintable text) :
    decodeAscii (encodeUtf8 text) = text := by
  induction text with
  | nil => rfl
  | cons head rest inductionHypothesis =>
      have upper : head.val.toNat ≤ 126 := (printable head List.mem_cons_self).2
      have ascii : head.val.toNat ≤ 0x7f := by omega
      have others := inductionHypothesis fun other member =>
        printable other (List.mem_cons_of_mem _ member)
      rw [encodeUtf8, List.flatMap_cons, String.utf8EncodeChar, if_pos ascii]
      show Char.ofNat (UInt8.ofNat head.val.toNat).toNat :: decodeAscii (encodeUtf8 rest) = _
      rw [others, UInt8.toNat_ofNat', Nat.mod_eq_of_lt (by omega)]
      congr 1
      exact Char.ofNat_toNat head

end ScraperProject.Foundation.Json
