import ResponsiveImages.Toml.Document

/-! The statements of a TOML document. Each one belongs to one entry of the document, and it neither
looks at the other entries nor touches them. So a document without some of its entries is what the
other statements make. -/
namespace ResponsiveImages.Toml

mutual

/-- Equality of values as a check. -/
def Value.same : Value → Value → Bool
  | .string left, .string right => left == right
  | .integer left, .integer right => left == right
  | .float left, .float right => left == right
  | .boolean left, .boolean right => left == right
  | .dateTime left, .dateTime right => left == right
  | .array left, .array right => sameItems left right
  | .table left, .table right => sameEntries left right
  | _, _ => false

def sameItems : List Value → List Value → Bool
  | [], [] => true
  | left :: lefts, right :: rights => left.same right && sameItems lefts rights
  | _, _ => false

def sameEntries : List (String × Value) → List (String × Value) → Bool
  | [], [] => true
  | (name, left) :: lefts, (other, right) :: rights =>
    name == other && left.same right && sameEntries lefts rights
  | _, _ => false

end

mutual

theorem Value.same_iff (left right : Value) : left.same right = true ↔ left = right := by
  cases left <;> cases right <;>
    simp [Value.same, sameItems_iff, sameEntries_iff]

theorem sameItems_iff (left right : List Value) : sameItems left right = true ↔ left = right := by
  cases left <;> cases right <;> simp [sameItems, Value.same_iff, sameItems_iff]

theorem sameEntries_iff (left right : List (String × Value)) :
    sameEntries left right = true ↔ left = right := by
  cases left <;> cases right <;> simp [sameEntries, Value.same_iff, sameEntries_iff, Prod.ext_iff]

end

instance : DecidableEq Value := fun left right =>
  decidable_of_iff _ (Value.same_iff left right)

deriving instance DecidableEq for Pair, Header, Section

namespace Entries

def names (entries : Entries) : List String :=
  entries.map Prod.fst

/-- The entries whose names satisfy a condition. -/
def restrict (keeps : String → Bool) (entries : Entries) : Entries :=
  entries.filter (keeps ·.1)

/-- A new name goes to the end; a known one keeps its place and takes the new item. -/
def put (key : String) (item : Item) (entries : Entries) : Entries :=
  match entries.lookup key with
  | none => entries ++ [(key, item)]
  | some _ => entries.replace key item

/-- The entry at the end, wherever one of its name stood before. -/
def putLast (key : String) (item : Item) (entries : Entries) : Entries :=
  entries.filter (·.1 != key) ++ [(key, item)]

variable {keeps : String → Bool} {entries : Entries} {key : String}

theorem lookup_eq_none_iff : entries.lookup key = none ↔ key ∉ entries.names := by
  rw [List.lookup_eq_none_iff, names, List.mem_map, not_exists]
  refine forall_congr' fun entry => ?_
  rw [not_and, bne_iff_ne]
  exact ⟨fun h hMem hSame => h hMem hSame.symm, fun h hMem hSame => h hMem hSame.symm⟩

theorem lookup_restrict (h : keeps key = true) :
    (entries.restrict keeps).lookup key = entries.lookup key := by
  induction entries with
  | nil => rfl
  | cons entry entries ih =>
      obtain ⟨known, item⟩ := entry
      by_cases hKnown : key = known
      · subst hKnown
        simp [restrict, h]
      · have hOther : (key == known) = false := beq_eq_false_iff_ne.mpr hKnown
        rw [List.lookup_cons, hOther, ← ih, restrict, List.filter_cons]
        split
        · rw [List.lookup_cons, hOther]
          rfl
        · rfl

theorem not_mem_names_restrict (h : keeps key = false) : key ∉ (entries.restrict keeps).names := by
  simp [names, restrict, h]

theorem fst_replaced (item : Item) (entry : String × Item) :
    (if entry.1 == key then (key, item) else entry).1 = entry.1 := by
  split
  · rename_i hKey
    exact (beq_iff_eq.mp hKey).symm
  · rfl

theorem names_replace (item : Item) : (entries.replace key item).names = entries.names := by
  rw [names, replace, List.map_map]
  exact List.map_congr_left fun entry _ => fst_replaced item entry

theorem restrict_replace (item : Item) :
    (entries.replace key item).restrict keeps = (entries.restrict keeps).replace key item := by
  simp only [restrict, replace, List.filter_map, Function.comp_def, fst_replaced]

theorem replace_of_new (item : Item) (h : key ∉ entries.names) :
    entries.replace key item = entries := by
  refine (List.map_congr_left fun entry hEntry => if_neg fun hKey => h ?_).trans (List.map_id _)
  exact beq_iff_eq.mp hKey ▸ List.mem_map_of_mem hEntry

theorem restrict_append (front back : Entries) :
    (front ++ back).restrict keeps = front.restrict keeps ++ back.restrict keeps :=
  List.filter_append ..

theorem restrict_put_of_keeps (item : Item) (h : keeps key = true) :
    (entries.put key item).restrict keeps = (entries.restrict keeps).put key item := by
  rw [put, put, lookup_restrict h]
  split
  · rw [restrict_append]
    simp [restrict, h]
  · exact restrict_replace item

theorem restrict_put_of_drops (item : Item) (h : keeps key = false) :
    (entries.put key item).restrict keeps = entries.restrict keeps := by
  rw [put]
  split
  · rw [restrict_append]
    simp [restrict, h]
  · rw [restrict_replace, replace_of_new item (not_mem_names_restrict h)]

theorem nodup_names_append (item : Item) (h : entries.names.Nodup) (hNew : key ∉ entries.names) :
    (entries ++ [(key, item)]).names.Nodup := by
  rw [names, List.map_append, List.nodup_append]
  refine ⟨h, by simp, fun known hKnown added hAdded hSame => hNew ?_⟩
  rw [hSame, List.mem_singleton.mp hAdded] at hKnown
  exact hKnown

theorem nodup_names_put (item : Item) (h : entries.names.Nodup) :
    (entries.put key item).names.Nodup := by
  rw [put]
  split
  · rename_i hNew
    exact nodup_names_append item h (lookup_eq_none_iff.mp hNew)
  · rw [names_replace]
    exact h

theorem restrict_putLast_of_keeps (item : Item) (h : keeps key = true) :
    (entries.putLast key item).restrict keeps = (entries.restrict keeps).putLast key item := by
  rw [putLast, putLast, restrict_append]
  simp [restrict, h, List.filter_filter, Bool.and_comm]

theorem restrict_putLast_of_drops (item : Item) (h : keeps key = false) :
    (entries.putLast key item).restrict keeps = entries.restrict keeps := by
  have hOthers : restrict keeps (entries.filter (·.1 != key)) = entries.restrict keeps := by
    rw [restrict, List.filter_filter]
    refine List.filter_congr fun entry _ => ?_
    by_cases hKey : entry.1 = key <;> simp [hKey, h]
  rw [putLast, restrict_append, hOthers]
  simp [restrict, h]

theorem nodup_names_putLast (item : Item) (h : entries.names.Nodup) :
    (entries.putLast key item).names.Nodup := by
  refine nodup_names_append item (h.sublist (List.filter_sublist.map Prod.fst)) ?_
  simp [names]

/-- A step on entries that reads and writes the entry of one name only. It may move that entry, but
no other one. -/
structure ConcernsOnly (key : String) (step : Entries → Option Entries) : Prop where
  restrict : ∀ {keeps : String → Bool} {entries later : Entries}, keeps key = true →
    step entries = some later → step (entries.restrict keeps) = some (later.restrict keeps)
  drop : ∀ {keeps : String → Bool} {entries later : Entries}, keeps key = false →
    step entries = some later → later.restrict keeps = entries.restrict keeps
  nodup : ∀ {entries later : Entries}, step entries = some later → entries.names.Nodup →
    later.names.Nodup

theorem concernsOnly_put (key : String) (decide : Option Item → Option Item) :
    ConcernsOnly key fun entries => (decide (entries.lookup key)).map (entries.put key) where
  restrict h hStep := by
    obtain ⟨item, hItem, rfl⟩ := Option.map_eq_some_iff.mp hStep
    rw [lookup_restrict h, hItem, restrict_put_of_keeps item h]
    rfl
  drop h hStep := by
    obtain ⟨item, -, rfl⟩ := Option.map_eq_some_iff.mp hStep
    exact restrict_put_of_drops item h
  nodup hStep hNodup := by
    obtain ⟨item, -, rfl⟩ := Option.map_eq_some_iff.mp hStep
    exact nodup_names_put item hNodup

theorem concernsOnly_putLast (key : String) (decide : Option Item → Option Item) :
    ConcernsOnly key fun entries => (decide (entries.lookup key)).map (entries.putLast key) where
  restrict h hStep := by
    obtain ⟨item, hItem, rfl⟩ := Option.map_eq_some_iff.mp hStep
    rw [lookup_restrict h, hItem, restrict_putLast_of_keeps item h]
    rfl
  drop h hStep := by
    obtain ⟨item, -, rfl⟩ := Option.map_eq_some_iff.mp hStep
    exact restrict_putLast_of_drops item h
  nodup hStep hNodup := by
    obtain ⟨item, -, rfl⟩ := Option.map_eq_some_iff.mp hStep
    exact nodup_names_putLast item hNodup

/-- What a change further down makes of the item that its path begins with. -/
def changedItem (byDots : Bool) (change : Bool → Entries → Option Entries) (path : List String) :
    Option Item → Option Item
  | none => (changeAt byDots change path byDots []).map (.table true byDots)
  | some (.leaf _) => none
  | some (.rows tables) => do
    let last ← tables.getLast?
    let inner ← changeAt byDots change path false last
    some (.rows (tables.dropLast ++ [inner]))
  | some (.table implicit dotted inner) =>
    if byDots && !implicit then none
    else (changeAt byDots change path dotted inner).map (.table implicit dotted)

theorem changeAt_cons (byDots : Bool) (change : Bool → Entries → Option Entries) (key : String)
    (path : List String) (dotted : Bool) (entries : Entries) :
    changeAt byDots change (key :: path) dotted entries =
      (changedItem byDots change path (entries.lookup key)).map (entries.put key) := by
  rw [changeAt]
  cases hLookup : entries.lookup key with
  | none =>
      have hPut (item : Item) : entries.put key item = entries ++ [(key, item)] := by
        rw [put, hLookup]
      simp only [changedItem]
      cases changeAt byDots change path byDots [] <;> simp [hPut]
  | some item =>
      have hPut (item : Item) : entries.put key item = entries.replace key item := by
        rw [put, hLookup]
      cases item with
      | leaf value => rfl
      | rows tables =>
          simp only [changedItem]
          cases tables.getLast? with
          | none => rfl
          | some last => cases hInner : changeAt byDots change path false last <;> simp [hPut, hInner]
      | table implicit made inner =>
          simp only [changedItem]
          split
          · rfl
          · cases changeAt byDots change path made inner <;> simp [hPut]

theorem concernsOnly_changeAt (byDots : Bool) (change : Bool → Entries → Option Entries)
    (key : String) (path : List String) (dotted : Bool) :
    ConcernsOnly key (changeAt byDots change (key :: path) dotted) := by
  rw [funext (changeAt_cons byDots change key path dotted)]
  exact concernsOnly_put key (changedItem byDots change path)

end Entries

/-- The name of the entry that a key with a value belongs to. -/
def Pair.root (pair : Pair) : String :=
  pair.path.headD pair.key

/-- The name of the entry that a section belongs to. -/
def Header.root : Header → String
  | .table path key | .row path key => path.headD key

namespace Entries

/-- A value for a name that is new. -/
def newLeaf (value : Value) : Option Item → Option Item
  | none => some (.leaf value)
  | some _ => none

/-- The table of a section. One of its name may have been passed through before. -/
def sectionTable (pairs : List Pair) : Option Item → Option Item
  | none => (addPairs [] pairs).map (.table false false)
  | some (.table true false inner) => (addPairs inner pairs).map (.table false false)
  | some _ => none

/-- An array with the table of a section as its last row. -/
def sectionRow (pairs : List Pair) (item? : Option Item) : Option Item := do
  let content ← addPairs [] pairs
  match item? with
  | none => some (.rows [content])
  | some (.rows tables) => some (.rows (tables ++ [content]))
  | some _ => none

theorem addPair_root (key : String) (value : Value) (entries : Entries) :
    addPair entries ⟨[], key, value⟩ =
      (newLeaf value (entries.lookup key)).map (entries.put key) := by
  cases hLookup : entries.lookup key <;> simp [addPair, changeAt, newLeaf, put, hLookup]

theorem addSection_table_root (key : String) (pairs : List Pair) (root : Entries) :
    addSection root ⟨.table [] key, pairs⟩ =
      (sectionTable pairs (root.lookup key)).map (root.putLast key) := by
  simp only [addSection, changeAt]
  rcases root.lookup key with _ | _ | ⟨_ | _, _ | _, inner⟩ | _
  case none => cases hContent : addPairs [] pairs <;> simp [sectionTable, putLast, hContent]
  case some.table.true.false =>
      cases hContent : addPairs inner pairs <;> simp [sectionTable, putLast, hContent]
  all_goals rfl

theorem addSection_row_root (key : String) (pairs : List Pair) (root : Entries) :
    addSection root ⟨.row [] key, pairs⟩ =
      (sectionRow pairs (root.lookup key)).map (root.put key) := by
  simp only [addSection, changeAt, sectionRow]
  cases addPairs [] pairs with
  | none => rfl
  | some content =>
      cases hLookup : root.lookup key with
      | none => simp [put, hLookup]
      | some item => cases item <;> simp [put, hLookup]

theorem concernsOnly_addPair (pair : Pair) : ConcernsOnly pair.root (addPair · pair) := by
  obtain ⟨path, key, value⟩ := pair
  cases path with
  | nil =>
      rw [funext (addPair_root key value)]
      exact concernsOnly_put key (newLeaf value)
  | cons first path => exact concernsOnly_changeAt true _ first path false

theorem concernsOnly_addSection (part : Section) :
    ConcernsOnly part.header.root (addSection · part) := by
  obtain ⟨⟨path, key⟩ | ⟨path, key⟩, pairs⟩ := part
  · cases path with
    | nil =>
        rw [funext (addSection_table_root key pairs)]
        exact concernsOnly_putLast key (sectionTable pairs)
    | cons first path => exact concernsOnly_changeAt false _ first path false
  · cases path with
    | nil =>
        rw [funext (addSection_row_root key pairs)]
        exact concernsOnly_put key (sectionRow pairs)
    | cons first path => exact concernsOnly_changeAt false _ first path false

section

variable {α : Type} {root : α → String} {step : Entries → α → Option Entries}
  {statements : List α} {entries later : Entries}

/-- Without the statements of some names, all other entries come out as before. -/
theorem foldlM_restrict (keeps : String → Bool)
    (hStep : ∀ statement, ConcernsOnly (root statement) (step · statement))
    (h : statements.foldlM step entries = some later) :
    (statements.filter (keeps <| root ·)).foldlM step (entries.restrict keeps) =
      some (later.restrict keeps) := by
  induction statements generalizing entries with
  | nil =>
      cases h
      rfl
  | cons statement statements ih =>
      rw [List.foldlM_cons] at h
      obtain ⟨middle, hFirst, hRest⟩ := Option.bind_eq_some_iff.mp h
      rw [List.filter_cons]
      split
      · rename_i hKeeps
        rw [List.foldlM_cons, (hStep statement).restrict hKeeps hFirst]
        exact ih hRest
      · rename_i hDrops
        rw [← (hStep statement).drop (Bool.eq_false_iff.mpr hDrops) hFirst]
        exact ih hRest

theorem foldlM_nodup (hStep : ∀ statement, ConcernsOnly (root statement) (step · statement))
    (h : statements.foldlM step entries = some later) (hNodup : entries.names.Nodup) :
    later.names.Nodup := by
  induction statements generalizing entries with
  | nil =>
      cases h
      exact hNodup
  | cons statement statements ih =>
      rw [List.foldlM_cons] at h
      obtain ⟨middle, hFirst, hRest⟩ := Option.bind_eq_some_iff.mp h
      exact ih hRest ((hStep statement).nodup hFirst hNodup)

end

end Entries

/-- The statements of a text: the pairs in front of the first header, and the sections. -/
def statements? (text : String) : Option (List Pair × List Section) :=
  (statements text.toList).map Prod.fst

/-- The entries that statements make. -/
def assemble (leading : List Pair) (sections : List Section) : Option Entries := do
  let root ← Entries.addPairs [] leading
  sections.foldlM Entries.addSection root

theorem parse_eq_some_iff {text : String} {entries : List (String × Value)} :
    parse text = some entries ↔
      ∃ leading sections root, statements? text = some (leading, sections) ∧
        assemble leading sections = some root ∧ closeEntries root = entries := by
  unfold parse statements?
  cases statements text.toList with
  | none => simp
  | some read =>
      obtain ⟨⟨leading, sections⟩, rest⟩ := read
      simp only [assemble, Option.bind_eq_bind, Option.bind_some, Option.bind_eq_some_iff,
        Option.map_some, Option.some.injEq, Prod.mk.injEq]
      constructor
      · rintro ⟨middle, hLeading, root, hRoot, hEntries⟩
        exact ⟨leading, sections, root, ⟨rfl, rfl⟩, ⟨middle, hLeading, hRoot⟩, hEntries⟩
      · rintro ⟨_, _, root, ⟨rfl, rfl⟩, ⟨middle, hLeading, hRoot⟩, hEntries⟩
        exact ⟨middle, hLeading, root, hRoot, hEntries⟩

theorem closeEntries_eq_map (entries : Entries) :
    closeEntries entries = entries.map fun entry => (entry.1, entry.2.close) := by
  induction entries with
  | nil => rfl
  | cons entry entries ih => rw [closeEntries, ih, List.map_cons]

theorem assemble_restrict {keeps : String → Bool} {leading : List Pair} {sections : List Section}
    {root : Entries} (h : assemble leading sections = some root) :
    assemble (leading.filter (keeps ·.root)) (sections.filter (keeps ·.header.root)) =
      some (root.restrict keeps) := by
  obtain ⟨middle, hLeading, hSections⟩ := Option.bind_eq_some_iff.mp h
  have hFirst := Entries.foldlM_restrict keeps Entries.concernsOnly_addPair hLeading
  exact Option.bind_eq_some_iff.mpr ⟨_, hFirst,
    Entries.foldlM_restrict keeps Entries.concernsOnly_addSection hSections⟩

theorem assemble_nodup {leading : List Pair} {sections : List Section} {root : Entries}
    (h : assemble leading sections = some root) : root.names.Nodup := by
  obtain ⟨middle, hLeading, hSections⟩ := Option.bind_eq_some_iff.mp h
  exact Entries.foldlM_nodup Entries.concernsOnly_addSection hSections
    (Entries.foldlM_nodup Entries.concernsOnly_addPair hLeading List.nodup_nil)

/-- The shorter text has the statements of the other one, but only those that belong to entries whose
names satisfy the condition. -/
def IsRestriction (keeps : String → Bool) (text shorter : String) : Prop :=
  statements? shorter = (statements? text).map fun (leading, sections) =>
    (leading.filter (keeps ·.root), sections.filter (keeps ·.header.root))

instance (keeps : String → Bool) (text shorter : String) :
    Decidable (IsRestriction keeps text shorter) :=
  inferInstanceAs (Decidable (statements? shorter = _))

/-- Leaving out the statements of some entries leaves out these entries, and nothing else changes:
neither the other entries nor their order. -/
theorem IsRestriction.parse {keeps : String → Bool} {text shorter : String}
    (h : IsRestriction keeps text shorter) {entries : List (String × Value)}
    (hText : parse text = some entries) : parse shorter = some (entries.filter (keeps ·.1)) := by
  obtain ⟨leading, sections, root, hStatements, hRoot, rfl⟩ := parse_eq_some_iff.mp hText
  rw [IsRestriction, hStatements] at h
  refine parse_eq_some_iff.mpr ⟨_, _, _, h, assemble_restrict hRoot, ?_⟩
  simp only [closeEntries_eq_map, Entries.restrict, List.filter_map, Function.comp_def]

/-- No name stands twice in a document. -/
theorem nodup_of_parse {text : String} {entries : List (String × Value)}
    (h : parse text = some entries) : (entries.map Prod.fst).Nodup := by
  obtain ⟨_, _, root, -, hRoot, rfl⟩ := parse_eq_some_iff.mp h
  rw [closeEntries_eq_map, List.map_map]
  exact assemble_nodup hRoot

end ResponsiveImages.Toml
