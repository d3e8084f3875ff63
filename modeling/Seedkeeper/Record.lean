/-!
Fields of records, in whatever form of document a record stands.

A field is looked up before it is read: nothing is there, or a value that still has to be of the field's
type.
-/

namespace Seedkeeper.Record

variable {α β : Type}

/-- A field that has to be there. -/
def required (read : β → Option α) (f : Option (Option β)) : Option α :=
  match f with
  | some (some v) => read v
  | _ => none

/-- A field with a default for its absence; a value that is there has to be of its type. -/
def optional (default : α) (read : β → Option α) (f : Option (Option β)) : Option α :=
  match f with
  | some (some v) => read v
  | _ => some default

end Seedkeeper.Record
