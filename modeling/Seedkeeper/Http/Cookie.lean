import Seedkeeper.Text.Blank
import Seedkeeper.Text.Ascii

/-!
Cookies: what a server asks to be told again.

A cookie is sent with requests whose path lies below the cookie's path. Where a cookie names no path,
it is that of the request which brought it, up to the last slash. A cookie that names another domain
than the server's is not taken, and one without time to live takes the one of its name and path away.
-/

namespace Seedkeeper.Http

/-- A cookie. -/
structure Cookie where
  name : String
  value : String
  /-- Where it is sent to. -/
  path : String
  /-- Whether it has no time to live. -/
  isOver : Bool
  deriving DecidableEq

namespace Cookie

/-- A path up to its last slash, that slash left out unless it is all. -/
def parentPath (path : String) : String :=
  match path.toList.reverse.dropWhile (· ≠ '/') with
  | [] | [_] => "/"
  | _ :: cs => String.ofList cs.reverse

/-- The value of an attribute with a name, if a setting is one. -/
def setting? (name setting : String) : Option String :=
  match Text.splitOnce '=' setting with
  | some (own, value) =>
    if Text.sameIgnoringAsciiCase (Text.trim own) name then some (Text.trim value) else none
  | none => none

/-- The path among a cookie's attributes, if it is one; the last one counts. -/
def path? (attributes : List String) : Option String :=
  (attributes.filterMap (setting? "path")).getLast?.filter (·.toList.head? == some '/')

/-- The domain among a cookie's attributes; the last one counts, without a dot in front. -/
def domain? (attributes : List String) : Option String :=
  (((attributes.filterMap (setting? "domain")).filter (!·.isEmpty)).getLast?).map fun d =>
    String.ofList ((Text.dropStart? ['.'] d.toList).getD d.toList |>.map Text.asciiLower)

/-- Whether a time to live, if it is one, is none at all. -/
def isNoTime? (value : String) : Option Bool :=
  let (negative, digits) := match value.toList with
    | '-' :: cs => (true, cs)
    | cs => (false, cs)
  if digits.all Text.isDigit then some (negative || Text.decimalValue? digits == some 0) else none

/-- Whether a cookie's attributes leave it no time to live. -/
def hasNoTime (attributes : List String) : Bool :=
  ((attributes.filterMap (setting? "max-age")).filterMap isNoTime?).getLast?.getD false

/-- The cookie that a header sets, in the answer of a host to a request for a path. -/
def ofHeader? (host requestPath header : String) : Option Cookie :=
  match Text.split ';' header with
  | [] => none
  | pair :: attributes =>
    match Text.splitOnce '=' pair with
    | none => none
    | some (name, value) =>
      let name := Text.trim name
      if name.isEmpty ∨ (domain? attributes).any (· != host) then none
      else
        some ⟨name, Text.trim value, (path? attributes).getD (parentPath requestPath),
          hasNoTime attributes⟩

/-- Whether a cookie goes with a request for a path. -/
def goesTo (c : Cookie) (requestPath : String) : Bool :=
  match Text.dropStart? c.path.toList requestPath.toList with
  | none => false
  | some rest => rest.isEmpty || c.path.toList.getLast? == some '/' || rest.head? == some '/'

end Cookie

/-- The cookies kept, in the order they were first set. -/
abbrev Jar := List Cookie

/-- Whether two cookies have the same name and path. -/
def Cookie.isSame (c d : Cookie) : Bool := c.name == d.name && c.path == d.path

/-- A cookie kept, in place of the one with its name and path. -/
def Jar.keep (jar : Jar) (c : Cookie) : Jar :=
  if c.isOver then jar.filter (!c.isSame ·)
  else if jar.any c.isSame then jar.map fun d => if c.isSame d then c else d
  else jar ++ [c]

/-- What is sent with a request for a path, if anything. -/
def Jar.header? (jar : Jar) (requestPath : String) : Option String :=
  match jar.filter (·.goesTo requestPath) with
  | [] => none
  | cs => some (Text.joinWith "; " (cs.map fun c => c.name ++ "=" ++ c.value))

end Seedkeeper.Http
