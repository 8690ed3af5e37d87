/-!
# Properties given on runs

A Unicode property is constant on long stretches of code points. `Runs` holds the stretches by where they
start, and looks a code point up by halving. A table is written as a text of words, one for each run from
zero upwards: the value on the run, in letters, and right after it the length of the run, in digits.
-/

namespace InterfaceSchema.Unicode

/-- **A property on runs**: where each run starts, in order, with the value on it. -/
structure Runs where
  starts : Array (Nat × String)

namespace Runs

/-- A word of a table: the value and the length of a run. -/
def readWord (word : List Char) : String × Nat :=
  (String.ofList (word.takeWhile Char.isAlpha),
    (word.dropWhile Char.isAlpha).foldl (fun n c => 10 * n + (c.toNat - '0'.toNat)) 0)

/-- The words of a text, which spaces and line ends separate; the word that is read is given. -/
def words : (word : List Char) → List Char → List (List Char)
  | word, [] => if word.isEmpty then [] else [word.reverse]
  | word, c :: rest =>
    if c.isWhitespace then if word.isEmpty then words [] rest else word.reverse :: words [] rest
    else words (c :: word) rest

/-- **The property that a table writes down.** -/
def ofText (text : String) : Runs where
  starts := ((words [] text.toList).map readWord).foldl
    (fun (state : Array (Nat × String) × Nat) run =>
      (state.1.push (state.2, run.1), state.2 + run.2)) (#[], 0) |>.1

/-- The last run that starts at a code point or before it, of those from `low` on and below `high`. -/
def search (starts : Array (Nat × String)) (code low high : Nat) : Nat :=
  if low + 1 < high then
    let middle := (low + high) / 2
    if (starts.getD middle (0, "")).1 ≤ code then search starts code middle high
    else search starts code low middle
  else low
  termination_by high - low

/-- **The value on the run of a code point.** -/
def value (runs : Runs) (code : Nat) : String :=
  (runs.starts.getD (search runs.starts code 0 runs.starts.size) (0, "")).2

end Runs

/-- Whether a code point is in one of a list of ranges, whose ends belong to them. -/
def inRanges (ranges : List (Nat × Nat)) (code : Nat) : Bool :=
  ranges.any fun range => range.1 ≤ code && code ≤ range.2

end InterfaceSchema.Unicode
