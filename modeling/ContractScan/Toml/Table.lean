import ContractScan.Toml.Basic

/-!
# Building tables

A document is a row of statements: headers, which open tables, and assignments to the keys of the
table that is open. No key may be given twice, and a table that has been closed in one way cannot
be opened again in another.
-/

namespace ContractScan.Toml

/-- The entries of a table. -/
abbrev Entries := List (String × Toml)

/-- A line of a document. -/
inductive Statement
  /-- Opens a table. -/
  | header (path : List String)
  /-- Opens a further table of an array. -/
  | item (path : List String)
  /-- Gives the last part of a dotted key a value. -/
  | assign (path : List String) (key : String) (value : Toml)
deriving Repr

/-- The entries with the value of a key replaced, or with the key added. -/
def put (key : String) (v : Toml) : Entries → Entries
  | [] => [(key, v)]
  | e :: es => if e.1 == key then (key, v) :: es else e :: put key v es

/-- Works on the last item of an array of tables, which comes first. -/
def onLast (f : Toml → Option Toml) : List Toml → Option (List Toml)
  | [] => none
  | x :: xs => (f x).map fun y ↦ y :: xs

/-- Works on the entries of a table that is an item of an array. -/
def onItem (f : Entries → Option Entries) : Toml → Option Toml
  | .table o es => (f es).map (.table o)
  | _ => none

/-- Works on the entries that a path of headers leads to; what is missing on the way is implied. -/
def along (f : Entries → Option Entries) : List String → Entries → Option Entries
  | [], es => f es
  | k :: path, es => do
    let next ←
      match es.lookup k with
      | none => (along f path []).map (.table .implied)
      | some (.table .inline _) => none
      | some (.table o sub) => (along f path sub).map (.table o)
      | some (.tables xs) => (onLast (onItem (along f path)) xs).map .tables
      | some _ => none
    return put k next es

/-- Opens the table of the given key: a new one, or one that so far was only implied. -/
def openTable (key : String) (es : Entries) : Option Entries :=
  match es.lookup key with
  | none => some (put key (.table .header []) es)
  | some (.table .implied sub) => some (put key (.table .header sub) es)
  | some _ => none

/-- Adds a table to the array of the given key. -/
def openItem (key : String) (es : Entries) : Option Entries :=
  match es.lookup key with
  | none => some (put key (.tables [.table .header []]) es)
  | some (.tables xs) => some (put key (.tables (.table .header [] :: xs)) es)
  | some _ => none

/-- Gives a dotted key a value. The tables on the way must come from dotted keys, or be implied
by headers as long as nothing is assigned in them directly. -/
def assign (key : String) (v : Toml) : List String → Entries → Option Entries
  | [], es => if (es.lookup key).isSome then none else some (es ++ [(key, v)])
  | k :: path, es => do
    let next ←
      match es.lookup k with
      | none => (assign key v path []).map (.table .dotted)
      | some (.table .dotted sub) => (assign key v path sub).map (.table .dotted)
      | some (.table .implied sub) =>
        if path.isEmpty then none else (assign key v path sub).map (.table .implied)
      | some (.tables xs) =>
        if path.isEmpty then none else (onLast (onItem (assign key v path)) xs).map .tables
      | some _ => none
    return put k next es

/-- Works off the statements; `here` is the path of the open table. -/
def runAll (here : List String) : List Statement → Entries → Option Entries
  | [], es => some es
  | .header path :: rest, es => do
    let key ← path.getLast?
    runAll path rest (← along (openTable key) path.dropLast es)
  | .item path :: rest, es => do
    let key ← path.getLast?
    runAll path rest (← along (openItem key) path.dropLast es)
  | .assign path key v :: rest, es => do
    runAll here rest (← along (assign key v path) here es)

/-- The entries of the document with the given statements. -/
def ofStatements? (ss : List Statement) : Option Entries := runAll [] ss []

/-- The table in braces with the given assignments. -/
def inlineTable? (pairs : List (List String × String × Toml)) : Option Toml :=
  (pairs.foldlM (fun es (path, key, v) ↦ assign key v path es) []).map (.table .inline)

end ContractScan.Toml
