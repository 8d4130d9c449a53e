/-!
# Readers of TOML

A reader takes something off the front of a text, or fails. Here are the readers that all others are
made of, and those for blanks, comments and line ends.
-/

namespace BenchLog.Toml

/-- Takes something off the front of a text, or fails. -/
abbrev Reader := StateT (List Char) Option

namespace Reader

variable {α : Type}

/-- The first character, which stays where it is. -/
def peek? : Reader (Option Char) :=
  return (← get).head?

/-- The first character. -/
def next : Reader Char := do
  match ← get with
  | [] => failure
  | c :: rest =>
    set rest
    return c

/-- A given text, if it comes next. -/
def accept (text : List Char) : Reader Bool := do
  let input ← get
  if text.isPrefixOf input then
    set (input.drop text.length)
    return true
  else
    return false

/-- A given character. -/
def expect (c : Char) : Reader Unit := do
  if !(← accept [c]) then failure

/-- The characters up to the first one that does not satisfy `p`. -/
def takeWhile (p : Char → Bool) : Reader (List Char) := do
  let input ← get
  set (input.dropWhile p)
  return input.takeWhile p

/-- So many characters that satisfy `p`. -/
def exactly (count : Nat) (p : Char → Bool) : Reader (List Char) := do
  let input ← get
  let run := input.take count
  if run.length = count ∧ run.all p then
    set (input.drop count)
    return run
  else
    failure

/-- What the reader takes, or nothing if it fails. -/
def optional (reader : Reader α) : Reader (Option α) :=
  (some <$> reader) <|> pure none

/-- Read one bit after another, at most `bound` of them, until one says that it is the last. -/
def gatherUpTo (bit : Reader (List α × Bool)) : Nat → Array α → Reader (List α)
  | 0, _ => failure
  | bound + 1, found => do
    let (items, last) ← bit
    let found := found ++ items
    if last then return found.toList else gatherUpTo bit bound found

/-- Read one bit after another until one says that it is the last. Each of them takes something off the
    text, so there are no more of them than characters. -/
def gather (bit : Reader (List α × Bool)) : Reader (List α) := do
  gatherUpTo bit ((← get).length + 1) #[]

/-- Characters that texts and comments may hold as they are. -/
def isPlain (c : Char) : Bool :=
  c == '\t' || (0x20 ≤ c.toNat && c.toNat != 0x7F)

/-- Spaces and tabs. -/
def blanks : Reader Unit := do
  let _ ← takeWhile fun c => c == ' ' || c == '\t'

/-- A line feed with or without a carriage return before it, if it comes next. -/
def newline : Reader Bool := do
  if ← accept ['\n'] then return true else accept ['\r', '\n']

/-- A comment, if one comes next. -/
def comment : Reader Unit := do
  if ← accept ['#'] then
    let _ ← takeWhile isPlain

/-- The rest of a line: blanks, perhaps a comment, and the end of the line or of the text. -/
def lineEnd : Reader Unit := do
  blanks
  comment
  if !(← newline) ∧ (← peek?).isSome then failure

/-- Blanks, comments and line ends, as far as they go. -/
def blankLines : Reader Unit := do
  let _ : List Unit ← gather do
    blanks
    let commented := (← peek?) == some '#'
    comment
    if ← newline then return ([], false)
    else if commented then failure
    else return ([], true)

end Reader

end BenchLog.Toml
