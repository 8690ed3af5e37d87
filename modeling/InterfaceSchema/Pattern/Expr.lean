import InterfaceSchema.Pattern.CharClass

/-!
# Patterns and what they match

A pattern is an expression of classes, assertions, sequences, alternatives and repetitions. It is asked
one question only – whether it matches somewhere in a text – so greed and capture play no part in it.

**Matching is by derivatives.** What an expression may still require after it has taken a character is
again a list of expressions (`Expr.derive`), the text matches when one of them can end where it stands
(`Expr.canEnd`), and a search keeps all that are alive and starts the whole expression anew at every
position. An assertion looks at the characters on both sides of a position and takes none, so whether an
expression can end depends on them too, and the derivative of a sequence is taken in their sight.

Counted repetitions are not unfolded. Taking a character from one round of `{n,m}` leaves the rest of that
round and one round less of both bounds; where the body can match without taking anything, the rounds that
must still come may be skipped on the spot, and only the upper bound is left.
-/

namespace InterfaceSchema.Pattern

/-- **A demand on a position**, by the characters before and after it. -/
inductive Assertion where
  | textStart
  | textEnd
  /-- The start of a line, where a line feed ends a line. -/
  | lineStart
  | lineEnd
  /-- The start of a line, where a line feed, a carriage return or both end a line. -/
  | lineStartCrlf
  | lineEndCrlf
  /-- Between a character of a word and one that is not, in a class of words. -/
  | wordBoundary (words : CharClass)
  | noWordBoundary (words : CharClass)
  | wordStart (words : CharClass)
  | wordEnd (words : CharClass)
  /-- Not after a character of a word. -/
  | wordStartHalf (words : CharClass)
  /-- Not before a character of a word. -/
  | wordEndHalf (words : CharClass)
  deriving DecidableEq

/-- Whether a neighbour is there and in a class. -/
def inClass (a : CharClass) : Option Char → Bool
  | none => false
  | some c => a.contains c

/-- **Whether a demand is met** between two characters, `none` standing for the end of the text. -/
def Assertion.holds (before after : Option Char) : Assertion → Bool
  | textStart => before.isNone
  | textEnd => after.isNone
  | lineStart => before.isNone || before == some '\n'
  | lineEnd => after.isNone || after == some '\n'
  | lineStartCrlf =>
    before.isNone || before == some '\n' || (before == some '\r' && after != some '\n')
  | lineEndCrlf =>
    after.isNone || after == some '\r' || (after == some '\n' && before != some '\r')
  | wordBoundary words => inClass words before != inClass words after
  | noWordBoundary words => inClass words before == inClass words after
  | wordStart words => !inClass words before && inClass words after
  | wordEnd words => inClass words before && !inClass words after
  | wordStartHalf words => !inClass words before
  | wordEndHalf words => !inClass words after

/-- **A pattern.** -/
inductive Expr where
  /-- Takes nothing. -/
  | empty
  /-- Takes one character of a class. -/
  | chars (a : CharClass)
  /-- Takes nothing where a demand is met. -/
  | assert (a : Assertion)
  | seq (first second : Expr)
  | alt (left right : Expr)
  /-- Takes what its body takes, at least and at most so many times. -/
  | times (body : Expr) (least : Nat) (most : Option Nat)
  deriving DecidableEq

namespace Expr

/-- **Whether an expression can match without taking a character**, between two characters. -/
def canEnd (before after : Option Char) : Expr → Bool
  | empty => true
  | chars _ => false
  | assert a => a.holds before after
  | seq first second => first.canEnd before after && second.canEnd before after
  | alt left right => left.canEnd before after || right.canEnd before after
  | times body least _ => least == 0 || body.canEnd before after

/-- One expression after another, where the first may be nothing. -/
def andThen : Expr → Expr → Expr
  | empty, second => second
  | first, second => seq first second

/-- **What may still be required after a character was taken**, each expression of the list by itself. -/
def derive (before : Option Char) (c : Char) : Expr → List Expr
  | empty => []
  | chars a => if a.contains c then [empty] else []
  | assert _ => []
  | seq first second =>
    (first.derive before c).map (·.andThen second) ++
      (if first.canEnd before (some c) then second.derive before c else [])
  | alt left right => left.derive before c ++ right.derive before c
  | times body least most =>
    if most == some 0 then []
    else
      let least := if body.canEnd before (some c) then 0 else least - 1
      (body.derive before c).map (·.andThen (times body least (most.map (· - 1))))

/-- **A search through the rest of a text**, after the character before it, with the expressions that are
alive. The whole expression joins them at every position. -/
def search (whole : Expr) : (before : Option Char) → (alive : List Expr) → List Char → Bool
  | before, alive, [] => (whole :: alive).any (·.canEnd before none)
  | before, alive, c :: rest =>
    (whole :: alive).any (·.canEnd before (some c)) ||
      search whole (some c) ((whole :: alive).flatMap (·.derive before c)).eraseDups rest

/-- **Whether a pattern matches somewhere in a text.** -/
def isMatch (whole : Expr) (text : String) : Bool := whole.search none [] text.toList

end Expr

end InterfaceSchema.Pattern
