/-!
Reading a text from its front.

A `Scan` takes some characters off the front of what is left and gives a value, or fails. Two scans
run one after the other; after a failure another one may start where the first did. A scan that has
to be repeated is given as much fuel as there are characters left, which is enough as long as each
run takes one.
-/

namespace Seedkeeper.Text

/-- A way to read something from the front of some characters. -/
abbrev Scan (α : Type) : Type := StateT (List Char) Option α

namespace Scan

/-- What is left. -/
def rest : Scan (List Char) := get

/-- The next character, left in place. -/
def peek? : Scan (Option Char) := List.head? <$> get

/-- A failure, unless a condition holds. -/
def ensure (holds : Bool) : Scan Unit := if holds then return () else failure

/-- Any character. -/
def next : Scan Char := do
  match ← get with
  | [] => failure
  | c :: cs =>
    set cs
    return c

/-- One character of a kind. -/
def oneOf (p : Char → Bool) : Scan Char := do
  let c ← next
  ensure (p c)
  return c

/-- One given character. -/
def eat (c : Char) : Scan Unit := do
  let _ ← oneOf (· == c)

/-- Some given characters. -/
def eatAll : List Char → Scan Unit
  | [] => return ()
  | c :: cs => do
    eat c
    eatAll cs

/-- Whether some given characters were there to be taken. -/
def tryAll (cs : List Char) : Scan Bool :=
  (do eatAll cs; return true) <|> return false

/-- Whether a given character was there to be taken. -/
def try_ (c : Char) : Scan Bool := tryAll [c]

/-- All characters of a kind up to the first that is not. -/
def many (p : Char → Bool) : Scan (List Char) := do
  let cs ← get
  set (cs.dropWhile p)
  return cs.takeWhile p

/-- As many characters of a kind as are asked for. -/
def exactly (p : Char → Bool) : Nat → Scan (List Char)
  | 0 => return []
  | n + 1 => do
    let c ← oneOf p
    return c :: (← exactly p n)

/-- A step repeated until it says that it was the last. -/
def loopFuel {α : Type} (step : α → Scan (α ⊕ α)) : Nat → α → Scan α
  | 0, _ => failure
  | fuel + 1, a => do
    match ← step a with
    | .inl a => loopFuel step fuel a
    | .inr a => return a

/-- A step repeated until it says that it was the last; every other step takes a character. -/
def loop {α : Type} (step : α → Scan (α ⊕ α)) (start : α) : Scan α := do
  loopFuel step ((← get).length + 1) start

/-- The end of the text. -/
def finished : Scan Unit := do
  ensure (← get).isEmpty

/-- What a whole text is read as. -/
def whole {α : Type} (scan : Scan α) (cs : List Char) : Option α :=
  (StateT.run (do let a ← scan; finished; return a) cs).map (·.1)

end Scan

end Seedkeeper.Text
