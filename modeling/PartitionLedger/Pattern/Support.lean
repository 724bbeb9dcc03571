/-
# Patterns that can be used

A pattern that is well formed can still be refused. It may be nested too deep, or ask
for what is not there: classes and letters regardless of case need character data, and
what matches bytes rather than characters must not match half of a character. A pattern
that is not refused for one of these may still depend on the edges of words, which are
found for bytes only.
-/

import PartitionLedger.Pattern.Reader

namespace PartitionLedger.Pattern

/-- Why a text cannot be used as a pattern. -/
inductive PatternError where
  | refused
  | wordEdge
  deriving DecidableEq, Repr

/-- The wording of a pattern that cannot be used. -/
def PatternError.message : PatternError → String
  | refused => "error building NFA"
  | wordEdge =>
    "unsupported regex feature for DFAs: cannot build DFAs for regexes with Unicode word " ++
      "boundaries; switch to ASCII word boundaries, or heuristically enable Unicode word " ++
      "boundaries or use a different regex engine"

/-- The flags in force at some place. -/
structure Flags where
  ignoreCase : Bool
  characters : Bool
  deriving DecidableEq, Repr

/-- At the beginning a pattern matches characters, and letters as they are. -/
def Flags.initial : Flags := ⟨false, true⟩

/-- The flags behind a change. -/
def Flags.apply (flags : Flags) (change : FlagChange) : Flags :=
  ⟨change.ignoreCase.getD flags.ignoreCase, change.characters.getD flags.characters⟩

/-- The character is one of ASCII, so that it is a byte of its own. -/
def Literal.isAscii (literal : Literal) : Bool := literal.char.toNat < 0x80

namespace CharSet

mutual

/-- The set can be used. A set of characters must not have members when letters are taken
regardless of case; a set of bytes holds ASCII only, so that there are no complements. -/
def isUsable (flags : Flags) : CharSet → Bool
  | empty => true
  | literal char => if flags.characters then !flags.ignoreCase else char.isAscii
  | range first last =>
    if flags.characters then !flags.ignoreCase else first.isAscii && last.isAscii
  | shorthand negated => !flags.characters && !negated
  | named negated => if flags.characters then !flags.ignoreCase else !negated
  | union members => areUsable flags members
  | bracketed negated content => (flags.characters || !negated) && content.isUsable flags
  | operation left right => left.isUsable flags && right.isUsable flags

/-- All of the sets can be used. -/
def areUsable (flags : Flags) : List CharSet → Bool
  | [] => true
  | member :: members => member.isUsable flags && areUsable flags members

end

end CharSet

/-- The atom can be used. Among bytes, one that is no character of its own cannot, nor
can a place that any byte may take. -/
def Atom.isUsable (flags : Flags) : Atom → Bool
  | literal char =>
    if flags.characters then !flags.ignoreCase else !char.isByte || char.isAscii
  | anything => flags.characters
  | shorthand negated => !flags.characters && !negated
  | wordEdge => true
  | condition => true

/-- The flags in force, and whether the pattern so far depends on the edges of words made
of characters. -/
structure Survey where
  flags : Flags
  hasWordEdge : Bool
  deriving DecidableEq, Repr

namespace Node

mutual

/-- Go through a pattern in the order of its text, if all of it can be used. -/
def survey? (survey : Survey) : Node → Option Survey
  | empty => some survey
  | flags change => some { survey with flags := survey.flags.apply change }
  | .atom leaf =>
    if leaf.isUsable survey.flags then
      let isEdge := leaf = .wordEdge && survey.flags.characters
      some { survey with hasWordEdge := survey.hasWordEdge || isEdge }
    else none
  | set content => if content.isUsable survey.flags then some survey else none
  | repeated node => node.survey? survey
  | group change node => do
    let inner ← node.survey? { survey with flags := survey.flags.apply change }
    return { inner with flags := survey.flags }
  | sequence nodes => surveyAll? survey nodes
  | choice nodes => surveyAll? survey nodes

/-- Go through patterns one after the other. -/
def surveyAll? (survey : Survey) : List Node → Option Survey
  | [] => some survey
  | node :: nodes => do
    let survey ← node.survey? survey
    surveyAll? survey nodes

end

end Node

/-- The greatest depth that a pattern may have. -/
def depthLimit : Nat := 250

/-- Why a text cannot be used as a pattern, if it cannot. -/
def error? (chars : List Char) : Option PatternError :=
  match Node.ofChars? chars with
  | none => some .refused
  | some node =>
    if depthLimit < node.depth then some .refused
    else match node.survey? ⟨.initial, false⟩ with
      | none => some .refused
      | some survey => if survey.hasWordEdge then some .wordEdge else none

end PartitionLedger.Pattern
