/-
# Patterns

A pattern is a regular expression, and its text is read into a tree of nodes. The tree
keeps what decides whether the pattern can be used: how deep it is nested, which
characters are named in it, and where the flags change. Which of the classes of digits,
blanks or letters is meant makes no difference to that and is left out. There is no
counted repetition.
-/

namespace PartitionLedger.Pattern

/-- A character as it is written: as itself, by an escape, or as a byte of two
hexadecimal digits. -/
structure Literal where
  char : Char
  isByte : Bool
  deriving DecidableEq, Repr

/-- What stands in one place of a pattern: a character, any character, a class of digits,
blanks or letters or its complement, the edge of a word, or another condition that takes
no character. -/
inductive Atom where
  | literal (literal : Literal)
  | anything
  | shorthand (negated : Bool)
  | wordEdge
  | condition
  deriving DecidableEq, Repr

/-- A set of characters. Its members are characters, ranges, classes, and sets in
brackets, or it is what an operation makes of two sets. -/
inductive CharSet where
  | empty
  | literal (literal : Literal)
  | range (first last : Literal)
  | shorthand (negated : Bool)
  | named (negated : Bool)
  | union (members : List CharSet)
  | bracketed (negated : Bool) (content : CharSet)
  | operation (left right : CharSet)

/-- The flags that are set or cleared at some place: to take letters regardless of case,
to match characters rather than bytes, and to skip blanks in the text of the pattern. -/
structure FlagChange where
  ignoreCase : Option Bool := none
  characters : Option Bool := none
  skipBlanks : Option Bool := none
  deriving DecidableEq, Repr

/-- A pattern. A change of flags holds up to the end of the group that it stands in, and
a group may begin with one. -/
inductive Node where
  | empty
  | flags (change : FlagChange)
  | atom (atom : Atom)
  | set (content : CharSet)
  | repeated (node : Node)
  | group (change : FlagChange) (node : Node)
  | sequence (nodes : List Node)
  | choice (nodes : List Node)

namespace CharSet

mutual

/-- How deep brackets, operations and lists of members are nested in a set. -/
def depth : CharSet → Nat
  | union members => depthOfAll members + 1
  | bracketed _ content => content.depth + 1
  | operation left right => Nat.max left.depth right.depth + 1
  | _ => 0

/-- The depth of the deepest of some sets. -/
def depthOfAll : List CharSet → Nat
  | [] => 0
  | member :: members => Nat.max member.depth (depthOfAll members)

end

/-- The union of some sets, with no list around a single one. -/
def ofMembers : List CharSet → CharSet
  | [] => empty
  | [member] => member
  | members => union members

end CharSet

namespace Node

mutual

/-- How deep a pattern is nested. Single characters and changes of flags have no depth. -/
def depth : Node → Nat
  | set content => content.depth
  | repeated node => node.depth + 1
  | group _ node => node.depth + 1
  | sequence nodes => depthOfAll nodes + 1
  | choice nodes => depthOfAll nodes + 1
  | _ => 0

/-- The depth of the deepest of some patterns. -/
def depthOfAll : List Node → Nat
  | [] => 0
  | node :: nodes => Nat.max node.depth (depthOfAll nodes)

end

/-- One pattern after the other, with no list around a single one. -/
def ofSequence : List Node → Node
  | [] => empty
  | [node] => node
  | nodes => sequence nodes

end Node

end PartitionLedger.Pattern
