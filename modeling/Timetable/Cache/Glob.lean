/-
  This file matches keys against patterns.  A star stands for
  any text, a question mark for any character, brackets for
  one of several characters, and a backslash takes the next
  character as it is.

  Key definitions include:
    * `Glob.Token`
    * `Glob.read`
    * `Glob.matchTokens`
    * `Glob.matchesKey`
-/

namespace Timetable.Cache.Glob

------------------------------------------------------------
-- Patterns
------------------------------------------------------------

/- A part of a pattern. -/
inductive Token where
| star : Token
| one : Token
| char (c : Char) : Token
/- One of some ranges of characters, or none of them. -/
| set (negated : Bool) (ranges : List (Char × Char)) : Token
deriving DecidableEq, Repr

/-
  The ranges up to the closing bracket, and what follows it.
  Brackets that are never closed end with the pattern.
-/
def readRanges : List Char → List (Char × Char) × List Char
| [] => ([], [])
| ']' :: rest => ([], rest)
| '\\' :: c :: rest =>
    let (ranges, rest) := readRanges rest
    ((c, c) :: ranges, rest)
| a :: '-' :: b :: rest =>
    if b == ']' then
      ([(a, a), ('-', '-')], rest)
    else
      let (ranges, rest) := readRanges rest
      ((if a ≤ b then (a, b) else (b, a)) :: ranges, rest)
| c :: rest =>
    let (ranges, rest) := readRanges rest
    ((c, c) :: ranges, rest)

/- Reading ranges leaves no more than there was. -/
theorem readRanges_length (cs : List Char) :
    (readRanges cs).2.length ≤ cs.length := by
  fun_induction readRanges cs <;> simp_all <;> omega

/- The parts of a pattern. -/
def read (cs : List Char) : List Token :=
  match cs with
  | [] => []
  | '*' :: rest => .star :: read rest
  | '?' :: rest => .one :: read rest
  | '[' :: '^' :: rest =>
      .set true (readRanges rest).1 :: read (readRanges rest).2
  | '[' :: rest =>
      .set false (readRanges rest).1 :: read (readRanges rest).2
  | '\\' :: c :: rest => .char c :: read rest
  | c :: rest => .char c :: read rest
termination_by cs.length
decreasing_by
  all_goals simp only [List.length_cons]
  all_goals have bound := readRanges_length rest
  all_goals omega

------------------------------------------------------------
-- Matching
------------------------------------------------------------

/- A character satisfies a part other than a star. -/
def Token.accepts : Token → Char → Bool
| .star, _ => true
| .one, _ => true
| .char d, c => c == d
| .set negated ranges, c =>
    negated != ranges.any (fun (a, b) => decide (a ≤ c) && decide (c ≤ b))

/- A text matches the parts of a pattern. -/
def matchTokens : List Token → List Char → Bool
| [], cs => cs.isEmpty
| .star :: rest, [] => matchTokens rest []
| .star :: rest, c :: cs =>
    matchTokens rest (c :: cs) || matchTokens (.star :: rest) cs
| t :: rest, c :: cs => t.accepts c && matchTokens rest cs
| _ :: _, [] => false
termination_by tokens cs => (tokens.length, cs.length)

/- A key matches a pattern. -/
def matchesKey (pattern key : String) : Bool :=
  matchTokens (read pattern.toList) key.toList

end Timetable.Cache.Glob
