import LineCensus.Toml.Value

/-!
# LineCensus.Toml.Tree — tables while they are being written

Tables come about in several ways, and which of them may still be extended depends on how they came about.

1. `Item`: what a key stands for so far: a finished value, a table, or an array of tables. A table is
   *implied* if it was only passed through on the way to another one, and *dotted* if it came about
   through dots in a key.
2. `updateAt`: goes through keys, making tables where they are missing, and changes the table at the end. Keys
   with dots extend implied tables only.
3. `insertField`: defines a key, which must be new.
4. `openTable`, `closeTable`: begins a table under a header, and puts it into its place.
-/

namespace LineCensus.Toml

/-- What a key stands for so far. -/
inductive Item where
  /-- A finished value. -/
  | value (v : Value)
  /-- A table. -/
  | table (implied dotted : Bool) (items : List (String × Item))
  /-- An array of tables: those finished and the fields of the last one. -/
  | tables (finished : List Value) (last : List (String × Item))
deriving Repr

/-- The items of a table, by their keys. -/
abbrev Items := List (String × Item)

namespace Item

mutual

/-- The value an item comes to. -/
def toValue : Item → Value
  | .value v => v
  | .table _ _ items => .table (toFields items)
  | .tables finished last => .array (finished ++ [.table (toFields last)])

/-- The fields that items come to. -/
def toFields : List (String × Item) → List (String × Value)
  | [] => []
  | (key, item) :: rest => (key, toValue item) :: toFields rest

end

end Item

namespace Items

/-- The item of a key. -/
def get? (items : Items) (key : String) : Option Item := (items.find? (·.1 == key)).map (·.2)

/-- Sets the item of a key, which is added at the end if it is new. -/
def set (items : Items) (key : String) (item : Item) : Items :=
  match items with
  | [] => [(key, item)]
  | (k, i) :: rest => if k = key then (k, item) :: rest else (k, i) :: set rest key item

/-- Changes the table at the end of the keys; the change is told whether that table is dotted. -/
def updateAt (dotted : Bool) (change : (isDotted : Bool) → Items → Except Fault Items) :
    List String → (isDotted : Bool) → Items → Except Fault Items
  | [], isDotted, items => change isDotted items
  | key :: rest, _, items =>
    match items.get? key with
    | none => do
      let inner ← updateAt dotted change rest dotted []
      pure (items.set key (.table true dotted inner))
    | some (.value _) => .error .repeatedKey
    | some (.tables finished last) => do
      let last ← updateAt dotted change rest false last
      pure (items.set key (.tables finished last))
    | some (.table implied innerDotted inner) =>
      if dotted && !implied then .error .repeatedKey
      else do
        let inner ← updateAt dotted change rest innerDotted inner
        pure (items.set key (.table implied innerDotted inner))

/-- Defines a key, given by its parts, of the table whose items these are. -/
def insertField (items : Items) (parts : List String) (key : String) (v : Value) :
    Except Fault Items :=
  let dotted := !parts.isEmpty
  items.updateAt dotted
    (fun isDotted items =>
      if isDotted != dotted then .error .repeatedKey
      else if (items.get? key).isSome then .error .repeatedKey
      else .ok (items.set key (.value v)))
    parts false

/-- The item at the end of the keys, if there is one. -/
def lookupAt (items : Items) : List String → (key : String) → Except Fault (Option Item)
  | [], key => .ok (items.get? key)
  | part :: rest, key =>
    match items.get? part with
    | none => .ok none
    | some (.value _) => .error .repeatedKey
    | some (.tables _ last) => lookupAt last rest key
    | some (.table _ _ inner) => lookupAt inner rest key

end Items

/-! ## Tables under headers -/

/-- The header of a table: the keys that lead to it, its own key, and whether it is one of an array. -/
structure Header where
  parts : List String
  key : String
  isElement : Bool
deriving Repr

/-- A document while it is being read: the tables that are finished, the header of the one being read, if
it has one, and its items. -/
structure Draft where
  root : Items := []
  header : Option Header := none
  items : Items := []
deriving Repr

namespace Draft

/-- Defines a key of the table being read. -/
def insertField (d : Draft) (parts : List String) (key : String) (v : Value) :
    Except Fault Draft := do
  let items ← d.items.insertField parts key v
  pure { d with items }

/-- Puts the table being read into its place. -/
def closeTable (d : Draft) : Except Fault Items :=
  match d.header with
  | none => .ok d.items
  | some h =>
    d.root.updateAt false
      (fun _ items =>
        if h.isElement then
          match items.get? h.key with
          | none => .ok (items.set h.key (.tables [] d.items))
          | some (.tables finished last) =>
            let finished := finished ++ [.table (Item.toFields last)]
            .ok (items.set h.key (.tables finished d.items))
          | some _ => .error .repeatedKey
        else .ok (items.set h.key (.table false false d.items)))
      h.parts false

/-- Begins the table of a header. A table that was implied goes on with what it has. -/
def openTable (d : Draft) (h : Header) : Except Fault Draft := do
  let root ← d.closeTable
  if h.isElement then pure ⟨root, some h, []⟩
  else
    match ← root.lookupAt h.parts h.key with
    | none => pure ⟨root, some h, []⟩
    | some (.table true false items) => pure ⟨root, some h, items⟩
    | some _ => .error .repeatedKey

/-- The fields of the finished document. -/
def finish (d : Draft) : Except Fault Fields := d.closeTable.map Item.toFields

end Draft

end LineCensus.Toml
