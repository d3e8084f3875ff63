import Seedkeeper.Toml.Value

/-!
Putting a TOML document together from its statements.

A header opens a table, a double-bracket header a further table of a list, and a key with a value
adds to the table that is open. No table is opened twice and no key given twice. Dotted keys make
tables of their own on the way and never enter one that has a header.
-/

namespace Seedkeeper.Toml

/-- One statement of a document. -/
inductive Statement where
  | header (path : List String)
  | listHeader (path : List String)
  /-- A value under a key; the path before the key is that of a dotted key. -/
  | member (path : List String) (key : String) (value : Value)

/-- A change at the end of a path below a table. Tables that are missing on the way are made. -/
def change? (dotted : Bool) (atEnd : Origin → Members → Option Value) :
    List String → Origin → Members → Option Value
  | [], o, ms => atEnd o ms
  | key :: path, o, ms =>
    match ms.find? key with
    | none => do
      let v ← change? dotted atEnd path (if dotted then .dotted else .implied) []
      return .table o (ms.add key v)
    | some (.table .inline _) => none
    | some (.table o' ms') =>
      if dotted ∧ o' = .header then none
      else do
        let v ← change? dotted atEnd path o' ms'
        return .table o (ms.replace key v)
    | some (.tables ts) =>
      match ts.getLast? with
      | some (.table o' ms') => do
        let v ← change? dotted atEnd path o' ms'
        return .table o (ms.replace key (.tables (ts.dropLast ++ [v])))
      | _ => none
    | some _ => none

/-- A member put into the table that its dotted key leads to. -/
def put? (path : List String) (key : String) (value : Value) (o : Origin) (ms : Members) :
    Option Value :=
  change? true (fun o ms =>
    if decide (o = .dotted) = path.isEmpty ∨ (ms.find? key).isSome then none
    else some (.table o (ms.add key value))) path o ms

/-- A table opened under a key. -/
def openTable? (key : String) (o : Origin) (ms : Members) : Option Value :=
  match ms.find? key with
  | none => some (.table o (ms.add key (.table .header [])))
  | some (.table .implied own) => some (.table o (ms.replace key (.table .header own)))
  | some _ => none

/-- A further table opened in the list under a key. -/
def openListTable? (key : String) (o : Origin) (ms : Members) : Option Value :=
  match ms.find? key with
  | none => some (.table o (ms.add key (.tables [.table .header []])))
  | some (.tables ts) => some (.table o (ms.replace key (.tables (ts ++ [.table .header []]))))
  | some _ => none

/-- A document so far: its members and the path of the table that is open. -/
structure Draft where
  members : Members
  current : List String

/-- A change to the document. -/
def Draft.changed? (d : Draft) (path : List String) (atEnd : Origin → Members → Option Value) :
    Option Members :=
  match change? false atEnd path .header d.members with
  | some (.table _ ms) => some ms
  | _ => none

/-- One more statement. -/
def Draft.take? (d : Draft) : Statement → Option Draft
  | .header path => do
    let key ← path.getLast?
    return ⟨← d.changed? path.dropLast (openTable? key), path⟩
  | .listHeader path => do
    let key ← path.getLast?
    return ⟨← d.changed? path.dropLast (openListTable? key), path⟩
  | .member path key value => return { d with members := ← d.changed? d.current (put? path key value) }

/-- The members of a document. -/
def assemble? (statements : List Statement) : Option Members :=
  (statements.foldlM Draft.take? ⟨[], []⟩).map (·.members)

/-- A table in braces, from dotted keys with their values. -/
def inlineTable? (members : List (List String × String × Value)) : Option Value := do
  let ms ← members.foldlM (fun ms (path, key, value) =>
    match put? path key value .header ms with
    | some (.table _ ms) => some ms
    | _ => none) []
  return .table .inline ms

end Seedkeeper.Toml
