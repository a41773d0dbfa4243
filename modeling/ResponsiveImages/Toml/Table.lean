import ResponsiveImages.Toml.Value

/-!
Tables while a document is put together. A table may be defined once. A table that was only passed
through on the way to another one may still be defined, and a table made by dotted keys may only be
extended by dotted keys of the same section.
-/
namespace ResponsiveImages.Toml

/-- What a key holds. -/
inductive Item where
  /-- A value, closed to all additions. -/
  | leaf (value : Value)
  /-- A table: whether it was only passed through so far, and whether dotted keys made it. -/
  | table (implicit dotted : Bool) (entries : List (String × Item))
  /-- The tables of an array, in order. -/
  | rows (tables : List (List (String × Item)))

abbrev Entries := List (String × Item)

/-- A key and its value, the key given as the keys that lead to it and the last one. -/
structure Pair where
  path : List String
  key : String
  value : Value

/-- What begins a section. -/
inductive Header where
  /-- A table of its own. -/
  | table (path : List String) (key : String)
  /-- One more table of an array. -/
  | row (path : List String) (key : String)

structure Section where
  header : Header
  pairs : List Pair

namespace Entries

def replace (entries : Entries) (key : String) (item : Item) : Entries :=
  entries.map fun entry => if entry.1 == key then (key, item) else entry

/-- Changes the table that a path leads to. Tables that are missing on the way are made, and of an
array the last table is taken. The change is told whether dotted keys made the table. -/
def changeAt (byDots : Bool) (change : Bool → Entries → Option Entries) :
    List String → Bool → Entries → Option Entries
  | [], dotted, entries => change dotted entries
  | key :: path, _, entries =>
    match entries.lookup key with
    | none => do
      let inner ← changeAt byDots change path byDots []
      some (entries ++ [(key, .table true byDots inner)])
    | some (.leaf _) => none
    | some (.rows tables) => do
      let last ← tables.getLast?
      let inner ← changeAt byDots change path false last
      some (replace entries key (.rows (tables.dropLast ++ [inner])))
    | some (.table implicit dotted inner) =>
      if byDots && !implicit then none
      else do
        let inner ← changeAt byDots change path dotted inner
        some (replace entries key (.table implicit dotted inner))

/-- One more pair. Its key must be new, and a dotted key may only add to tables made by dots. -/
def addPair (entries : Entries) (pair : Pair) : Option Entries :=
  changeAt true (fun dotted entries =>
    if dotted == pair.path.isEmpty then none
    else if (entries.lookup pair.key).isSome then none
    else some (entries ++ [(pair.key, .leaf pair.value)])) pair.path false entries

def addPairs (entries : Entries) (pairs : List Pair) : Option Entries :=
  pairs.foldlM addPair entries

/-- One more section. A table that was passed through before moves behind the entries beside it. -/
def addSection (root : Entries) (part : Section) : Option Entries :=
  match part.header with
  | .table path key =>
    changeAt false (fun _ entries => do
      let known : Entries ←
        match entries.lookup key with
        | none => some []
        | some (.table true false inner) => some inner
        | some _ => none
      let content ← addPairs known part.pairs
      some (entries.filter (·.1 != key) ++ [(key, .table false false content)])) path false root
  | .row path key =>
    changeAt false (fun _ entries => do
      let content ← addPairs [] part.pairs
      match entries.lookup key with
      | none => some (entries ++ [(key, .rows [content])])
      | some (.rows tables) => some (replace entries key (.rows (tables ++ [content])))
      | some _ => none) path false root

end Entries

mutual

/-- The value that an item stands for once the document is complete. -/
def Item.close : Item → Value
  | .leaf value => value
  | .table _ _ entries => .table (closeEntries entries)
  | .rows tables => .array (closeRows tables)

def closeEntries : List (String × Item) → List (String × Value)
  | [] => []
  | (key, item) :: entries => (key, item.close) :: closeEntries entries

def closeRows : List (List (String × Item)) → List Value
  | [] => []
  | entries :: tables => .table (closeEntries entries) :: closeRows tables

end

end ResponsiveImages.Toml
