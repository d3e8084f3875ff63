/-!
Values of TOML documents.

Tables remember how they came about, since that decides how a document may go on writing them:
under a header of their own, only as parents of other headers, by dotted keys, or in braces. Lists
of tables written under double-bracket headers are kept apart from arrays, since only those can
grow.
-/

namespace Seedkeeper.Toml

/-- How a table came about. -/
inductive Origin where
  /-- It has a header, or is the document. -/
  | header
  /-- Headers of tables below it speak of it. -/
  | implied
  /-- Dotted keys speak of it. -/
  | dotted
  /-- It is written in braces, all at once. -/
  | inline
  deriving DecidableEq

/-- A value. -/
inductive Value where
  | text (s : String)
  | integer (n : Int)
  | boolean (b : Bool)
  /-- A number with a fraction or an exponent, or one that is not finite, as it is written. -/
  | float (written : String)
  /-- A date, a time or both, as it is written. -/
  | moment (written : String)
  | array (items : List Value)
  /-- The tables under double-bracket headers. -/
  | tables (items : List Value)
  | table (origin : Origin) (members : List (String × Value))

/-- Keys and values in the order they came. -/
abbrev Members := List (String × Value)

/-- The value of a key. -/
def Members.find? (ms : Members) (key : String) : Option Value :=
  (List.find? (fun m : String × Value => m.1 == key) ms).map (·.2)

/-- The members with one more. -/
def Members.add (ms : Members) (key : String) (v : Value) : Members := ms ++ [(key, v)]

/-- The members with another value of a key they have. -/
def Members.replace (ms : Members) (key : String) (v : Value) : Members :=
  ms.map fun m => if m.1 = key then (key, v) else m

end Seedkeeper.Toml
