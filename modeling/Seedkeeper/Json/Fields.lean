import Seedkeeper.Json.Reader
import Seedkeeper.Number.Word
import Seedkeeper.Record

/-!
Reading records out of documents.

A record is written either as an object, whose members may come in any order and include others
that are passed over, or as an array of its fields in their declared order, whose last fields may
be left out where they have defaults. A declared field may be written once only. `Fields` is the
common view of both forms: for each declared name the value found, if any.
-/

namespace Seedkeeper.Json

open Text (Bytes)

/-- The values of a record's fields, in declared order. -/
abbrev Fields := List (Option Json)

/-- Members one by one: each key has to be a text; a declared one fills its place, once. -/
def gather (names : List String) : List (Bytes × Json) → Fields → Option Fields
  | [], fs => some fs
  | (k, v) :: ms, fs =>
    match text? k with
    | none => none
    | some k =>
      match names.idxOf? k with
      | none => gather names ms fs
      | some i =>
        match fs[i]? with
        | some none => gather names ms (fs.set i (some v))
        | _ => none

/-- The fields of a record with these names. -/
def fields? (names : List String) : Json → Option Fields
  | .object ms => gather names ms (names.map fun _ => none)
  | .array vs =>
    if vs.length ≤ names.length then
      some (vs.map some ++ (names.drop vs.length).map fun _ => none)
    else none
  | _ => none

/-- A text. -/
def asText : Json → Option String
  | .string w => text? w
  | _ => none

/-- An integer between two bounds. -/
def asInt (low high : Int) : Json → Option Int
  | .number w => (int? w).bind fun n => if low ≤ n ∧ n ≤ high then some n else none
  | _ => none

/-- An integer of 64 bits, signed. -/
def asInt64 : Json → Option Int := asInt Number.minInt64 Number.maxInt64

/-- An integer of 32 bits, signed. -/
def asInt32 : Json → Option Int := asInt Number.minInt32 Number.maxInt32

/-- An integer of 64 bits, unsigned. -/
def asNat64 (v : Json) : Option Nat := (asInt 0 Number.maxNat64 v).map Int.toNat

/-- A truth value. -/
def asBool : Json → Option Bool
  | .bool b => some b
  | _ => none

/-- A value or `null`. -/
def asOption {α : Type} (read : Json → Option α) : Json → Option (Option α)
  | .null => some none
  | v => (read v).map some

/-- A list. -/
def asList {α : Type} (read : Json → Option α) : Json → Option (List α)
  | .array vs => vs.mapM read
  | _ => none

end Seedkeeper.Json
