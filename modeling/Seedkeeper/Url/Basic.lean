import Seedkeeper.Url.Host

/-!
Addresses (URLs): scheme, host, port, path, query and fragment.

Special schemes (`http`, `https`, `ws`, `wss`, `ftp`, `file`) always have an authority, take a
backslash for a slash and normalize their host; other schemes have one only after `//`. Blanks and
control characters around an address and tabs and line breaks inside it do not count. User
information is not kept.
-/

namespace Seedkeeper

/-- An address. -/
structure Url where
  scheme : String
  host : Option String
  /-- The port, unless it is left out or the scheme's own. -/
  port : Option Nat
  path : String
  query : Option String
  fragment : Option String
  deriving DecidableEq

namespace Url

/-! ### Pieces -/

/-- How a scheme is treated. -/
inductive Kind where
  | web
  | file
  | other
  deriving DecidableEq

/-- The kind of a scheme. -/
def kindOf (scheme : List Char) : Kind :=
  let s := String.ofList scheme
  if s = "file" then .file
  else if s = "http" ∨ s = "https" ∨ s = "ws" ∨ s = "wss" ∨ s = "ftp" then .web
  else .other

/-- The port that a scheme has by itself. -/
def defaultPort (scheme : List Char) : Option Nat :=
  let s := String.ofList scheme
  if s = "http" ∨ s = "ws" then some 80
  else if s = "https" ∨ s = "wss" then some 443
  else if s = "ftp" then some 21
  else none

/-- What counts of an address: nothing around it, no tab or line break in it. -/
def cleaned (cs : List Char) : List Char :=
  let around (c : Char) : Bool := c.toNat ≤ 0x20
  (((cs.dropWhile around).reverse.dropWhile around).reverse).filter fun c =>
    !(c == '\t' || c == '\n' || c == '\r')

/-- What a scheme may be written with, behind a letter. -/
def isSchemeChar (c : Char) : Bool :=
  Text.isLetter c || Text.isDigit c || c == '+' || c == '-' || c == '.'

/-- Scheme, in lower case, and what follows its colon. -/
def cutScheme (cs : List Char) : Option (List Char × List Char) :=
  match cs with
  | [] => none
  | c :: _ =>
    if Text.isLetter c then
      match cs.dropWhile isSchemeChar with
      | ':' :: rest => some ((cs.takeWhile isSchemeChar).map Text.asciiLower, rest)
      | _ => none
    else none

theorem mem_of_mem_cleaned {c : Char} {cs : List Char} (h : c ∈ cleaned cs) : c ∈ cs := by
  have htrimmed := List.mem_reverse.1 (List.mem_filter.1 h).1
  have hahead := List.mem_reverse.1 ((List.dropWhile_sublist _).mem htrimmed)
  exact (List.dropWhile_sublist _).mem hahead

/-- There is no scheme without a colon. -/
theorem cutScheme_of_notMem {cs : List Char} (h : ':' ∉ cs) : cutScheme cs = none := by
  cases cs with
  | nil => rfl
  | cons c cs =>
    simp only [cutScheme]
    split
    · split
      · rename_i rest hrest
        have hcolon : ':' ∈ ':' :: rest := List.mem_cons_self
        rw [← hrest] at hcolon
        exact absurd ((List.dropWhile_sublist _).mem hcolon) h
      · rfl
    · rfl

/-- Slashes of a kind of scheme. -/
def isSlash (k : Kind) (c : Char) : Bool := c == '/' || (k != .other && c == '\\')

/-- Whether a character ends the authority. -/
def endsAuthority (k : Kind) (c : Char) : Bool := isSlash k c || c == '?' || c == '#'

/-- User information, if an authority has any, and what follows it: the last `@` divides them. -/
def cutUser (authority : List Char) : Option (List Char) × List Char :=
  if authority.contains '@' then
    let host := (authority.reverse.takeWhile (· ≠ '@')).reverse
    (some (authority.take (authority.length - host.length - 1)), host)
  else (none, authority)

/-- Host and what follows it, a colon inside brackets not ending it. -/
def cutHost : (inBrackets : Bool) → List Char → List Char × List Char
  | _, [] => ([], [])
  | inBrackets, c :: cs =>
    if c = ':' ∧ !inBrackets then ([], c :: cs)
    else
      let inBrackets := if c = '[' then true else if c = ']' then false else inBrackets
      let (host, rest) := cutHost inBrackets cs
      (c :: host, rest)

/-- The port after a host: nothing, or a colon and digits, of which there may be none; a backslash
    ends them. -/
def port? (scheme : List Char) : List Char → Option (Option Nat)
  | [] => some none
  | ':' :: ds =>
    let ds := ds.takeWhile (· ≠ '\\')
    if ds.isEmpty then some none
    else
      match Text.decimalValue? ds with
      | none => none
      | some n =>
        if 65535 < n then none
        else some (if defaultPort scheme = some n then none else some n)
  | _ => none

/-! ### Paths -/

/-- `.` and its percent-encoded spellings. -/
def isSingleDot (segment : List Char) : Bool :=
  let s := segment.map Text.asciiLower
  s == ".".toList || s == "%2e".toList

/-- `..` and its percent-encoded spellings. -/
def isDoubleDot (segment : List Char) : Bool :=
  let s := segment.map Text.asciiLower
  s == "..".toList || s == ".%2e".toList || s == "%2e.".toList || s == "%2e%2e".toList

/-- A drive letter in front of a file path. -/
def isDriveLetter (segment : List Char) : Bool :=
  match segment with
  | [a, b] => Text.isLetter a && (b == ':' || b == '|')
  | _ => false

/-- Segments one by one, dots resolved; the result lists segments last first. -/
def walkSegments : List (List Char) → List (List Char) → List (List Char)
  | done, [] => done
  | done, [last] =>
    if isDoubleDot last then [] :: done.tail
    else if isSingleDot last then [] :: done
    else last :: done
  | done, s :: ss =>
    if isDoubleDot s then walkSegments done.tail ss
    else if isSingleDot s then walkSegments done ss
    else walkSegments (s :: done) ss

/-- Whether a drive letter ever comes to stand first while dots are resolved. -/
def meetsDrive : List (List Char) → List (List Char) → Bool
  | _, [] => false
  | done, s :: ss =>
    if isDoubleDot s then meetsDrive done.tail ss
    else if isSingleDot s then meetsDrive done ss
    else (done.isEmpty && isDriveLetter s) || meetsDrive (s :: done) ss

/-- A path after its leading slash, dots resolved and characters encoded. -/
def resolvedPath (k : Kind) (cs : List Char) : List Char :=
  let cs := cs.map fun c => if isSlash k c then '/' else c
  '/' :: "/".toList.intercalate
    ((walkSegments [] (Text.pieces '/' cs)).reverse.map (percentEncode inPathSet))

/-- What follows the first occurrence of a mark. -/
def afterMark (mark : Char) (cs : List Char) : Option (List Char) :=
  (Text.splitOnceChars mark cs).map (·.2)

/-- Path and query after an authority, no fragment behind them. -/
def pathAndQuery (k : Kind) (cs : List Char) : List Char × Option (List Char) :=
  let path := cs.takeWhile (· ≠ '?')
  let path := match path with
    | [] => if k = .other then [] else ['/']
    | c :: rest => if isSlash k c then resolvedPath k rest else resolvedPath k path
  let inSet := if k = .other then inQuerySet else inSpecialQuerySet
  (path, (afterMark '?' cs).map (percentEncode inSet))

/-! ### Addresses -/

/-- An address from its pieces. -/
def build (k : Kind) (scheme : List Char) (host : Option (List Char)) (port : Option Nat)
    (rest : List Char) : Url :=
  let (path, query) := pathAndQuery k (rest.takeWhile (· ≠ '#'))
  { scheme := String.ofList scheme
    host := (host.filter (!·.isEmpty)).map String.ofList
    port
    path := String.ofList path
    query := query.map String.ofList
    fragment := (afterMark '#' rest).map fun cs =>
      String.ofList (percentEncode inFragmentSet cs) }

/-- An address from its scheme and what follows the slashes. -/
def withAuthority? (k : Kind) (scheme rest : List Char) : Option Url := do
  let authority := rest.takeWhile fun c => !endsAuthority k c
  let rest := rest.dropWhile fun c => !endsAuthority k c
  let (user, hostPort) := cutUser authority
  let (host, portText) := cutHost false hostPort
  if host.isEmpty ∧ (k = .web ∨ user.isSome ∨ !portText.isEmpty) then none
  else
    let shown ← if k = .other then opaqueHost? host else specialHost? host
    let port ← port? scheme portText
    return build k scheme (some shown) port rest

/-- A file address: its host may be left out, and a drive letter takes the host's place. -/
def fileUrl? (scheme rest : List Char) : Option Url :=
  match rest with
  | a :: b :: cs =>
    if isSlash .file a ∧ isSlash .file b then
      let host := cs.takeWhile fun c => !endsAuthority .file c
      let rest := cs.dropWhile fun c => !endsAuthority .file c
      let path := ((rest.drop 1).takeWhile fun c => c != '?' && c != '#').map fun c =>
        if isSlash .file c then '/' else c
      if isDriveLetter host then some (build .file scheme none none ('/' :: cs))
      else if host.isEmpty then some (build .file scheme none none rest)
      else do
        let shown ← specialHost? host
        let shown := if shown = "localhost".toList ∨ meetsDrive [] (Text.pieces '/' path) then none
          else some shown
        return build .file scheme shown none rest
    else some (build .file scheme none none rest)
  | _ => some (build .file scheme none none rest)

/-- The address that a text spells. -/
def ofText? (s : String) : Option Url := do
  let (scheme, rest) ← cutScheme (cleaned s.toList)
  match kindOf scheme with
  | .file => fileUrl? scheme rest
  | .web => withAuthority? .web scheme (rest.dropWhile (isSlash .web))
  | .other =>
    match rest with
    | '/' :: '/' :: cs => withAuthority? .other scheme cs
    | _ => some (build .other scheme none none rest)

/-- A part that may be missing, behind its mark. -/
def marked (mark : String) : Option String → String
  | none => ""
  | some s => mark ++ s

/-- What a request for the address asks a server for. -/
def target (u : Url) : String := u.path ++ marked "?" u.query

/-- The server that an address leads to. -/
def origin (u : Url) : String :=
  u.scheme ++ "://" ++ u.host.getD "" ++ marked ":" (u.port.map toString)

/-- The address as a text. -/
def text (u : Url) : String :=
  (if u.host.isSome then u.origin else u.scheme ++ ":") ++ u.target ++ marked "#" u.fragment

end Url

end Seedkeeper
