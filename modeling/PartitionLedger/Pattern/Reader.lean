/-
# Reading patterns

A pattern is read one character at a time, with a look at what follows where two
characters belong together. The state holds the groups that are open, each with what
stands in front of it, the sequence that is being read, and the place inside it.

Where the flags say so, blanks are skipped, and comments from a number sign to the end
of the line. They are not skipped inside names, flags and class names, behind a
backslash, and between a repetition sign and the question mark that belongs to it.
-/

import PartitionLedger.Pattern.Syntax
import PartitionLedger.Text.Alphanumeric
import PartitionLedger.Text.Blank
import PartitionLedger.Text.Hexadecimal

namespace PartitionLedger.Pattern

open Text

/-- What is still to come of an escape: the character behind the backslash, or so many
hexadecimal digits behind those that make up a value. -/
inductive Pending where
  | nothing
  | escape
  | digits (isByte : Bool) (left value : Nat)
  deriving DecidableEq, Repr

/-- A group that is open: its flags, the alternatives and the items in front of it, both
latest first, and whether blanks are skipped outside of it. -/
structure OpenGroup where
  change : FlagChange
  branches : List Node
  items : List Node
  skipsBlanks : Bool

/-- A set that is open: what the operations so far have made of it, and the members
behind the last of them, latest first. -/
structure OpenSet where
  negated : Bool
  operand : Option CharSet
  members : List CharSet

/-- The place inside a set: behind its opening bracket, among the dashes that may follow
it, between members, behind an atom that may begin a range or behind the dash of a range,
or in front of characters that have been dealt with. -/
inductive SetPlace where
  | opened
  | beginning
  | dashes
  | members
  | behind (first : Atom)
  | range (first : Atom)
  | passing (count : Nat)
  deriving DecidableEq, Repr

/-- The place inside a pattern: in a sequence, perhaps behind a repetition sign, at the
beginning of a group, in its options, its flags or its name, or in nested sets. -/
inductive Place where
  | sequence
  | repeated
  | groupBeginning
  | groupOption
  | flags (seen : List Char)
  | beforeName
  | name (letters : List Char)
  | set (current : OpenSet) (outer : List OpenSet) (place : SetPlace)

/-- How far a pattern has been read. -/
structure State where
  outer : List OpenGroup
  branches : List Node
  items : List Node
  names : List (List Char)
  place : Place
  pending : Pending
  skipsBlanks : Bool
  inComment : Bool

namespace OpenSet

/-- A set whose bracket has just been opened. -/
def fresh : OpenSet := ⟨false, none, []⟩

/-- Add a member. -/
def add (set : OpenSet) (member : CharSet) : OpenSet :=
  { set with members := member :: set.members }

/-- What the set holds so far. -/
def content (set : OpenSet) : CharSet :=
  let last := CharSet.ofMembers set.members.reverse
  match set.operand with
  | none => last
  | some operand => .operation operand last

/-- The set behind the sign of an operation. Operations are done from left to right. -/
def operate (set : OpenSet) : OpenSet := { set with operand := some set.content, members := [] }

end OpenSet

/-- A character that is written as itself. -/
def Atom.ofChar (char : Char) : Atom := .literal ⟨char, false⟩

/-- The atom as a member of a set. -/
def Atom.toSet? : Atom → Option CharSet
  | literal char => some (.literal char)
  | shorthand negated => some (.shorthand negated)
  | _ => none

/-- The range between two atoms, which have to be characters in ascending order. -/
def rangeBetween? : Atom → Atom → Option CharSet
  | .literal first, .literal last =>
    if first.char.toNat ≤ last.char.toNat then some (.range first last) else none
  | _, _ => none

/-- What a character behind a backslash stands for. Signs stand for themselves, and some
letters for control characters, for classes and for conditions; other letters, digits and
characters beyond ASCII must not be escaped. -/
def escape? (char : Char) : Option Atom :=
  if "dsw".toList.contains char then some (.shorthand false)
  else if "DSW".toList.contains char then some (.shorthand true)
  else if "bB<>".toList.contains char then some .wordEdge
  else if "Az".toList.contains char then some .condition
  else if char = 'a' then some (.ofChar '\x07')
  else if char = 'f' then some (.ofChar '\x0c')
  else if char = 't' then some (.ofChar '\t')
  else if char = 'n' then some (.ofChar '\n')
  else if char = 'r' then some (.ofChar '\r')
  else if char = 'v' then some (.ofChar '\x0b')
  else if char.isAlphanum || 0x80 ≤ char.toNat then none
  else some (.ofChar char)

/-- What a row of letters says about one flag: nothing, or that it is set or, behind a
dash, cleared. -/
def flag? (seen : List Char) (flag : Char) : Option Bool :=
  if !seen.contains flag then none
  else some (!(seen.takeWhile (· != flag)).contains '-')

/-- What the letters of flags say. -/
def FlagChange.ofLetters (seen : List Char) : FlagChange :=
  ⟨flag? seen 'i', flag? seen 'u', flag? seen 'x'⟩

/-- The names of classes that may stand between colons in nested brackets. -/
def classNames : List String :=
  ["alnum", "alpha", "ascii", "blank", "cntrl", "digit", "graph", "lower", "print", "punct",
    "space", "upper", "word", "xdigit"]

/-- The length of a class name with the colon and the bracket behind it. -/
def classNameLength? (chars : List Char) : Option Nat :=
  let name := chars.takeWhile (· != ':')
  if classNames.contains (String.ofList name) &&
      (chars.drop name.length).take 2 = [':', ']'] then
    some (name.length + 2)
  else none

/-- The class whose name follows an opening bracket: whether it is the complement that is
meant, and how many characters it takes. -/
def namedClass? (rest : List Char) : Option (Bool × Nat) :=
  match rest with
  | ':' :: '^' :: rest => (classNameLength? rest).map fun length => (true, length + 2)
  | ':' :: rest => (classNameLength? rest).map fun length => (false, length + 1)
  | _ => none

/-- The first character that is no blank and opens no comment. -/
def firstSolid? (commentOpened : Bool) : List Char → Option Char
  | [] => none
  | char :: rest =>
    if isBlank char then firstSolid? commentOpened rest
    else if char = '#' && !commentOpened then firstSolid? true rest
    else some char

/-- The character that decides whether a dash makes a range. Where blanks are skipped,
so is the sign of a comment, but not what the comment says. -/
def nextSolid? (skipsBlanks : Bool) (rest : List Char) : Option Char :=
  if skipsBlanks then (firstSolid? false rest).orElse fun _ => rest.head? else rest.head?

/-- The character may stand in the name of a group, at its beginning or later on. -/
def isNameChar (letters : List Char) (char : Char) : Bool :=
  if letters.isEmpty then char = '_' || isAlphabetic char
  else char = '_' || char = '.' || char = '[' || char = ']' || isAlphanumeric char

namespace State

/-- Nothing has been read. -/
def initial : State := ⟨[], [], [], [], .sequence, .nothing, false, false⟩

/-- Add an item to the sequence. -/
def push (state : State) (node : Node) : State :=
  { state with items := node :: state.items, place := .sequence }

/-- The pattern up to the end of the group that is being read. -/
def node (state : State) : Node :=
  let last := Node.ofSequence state.items.reverse
  match state.branches with
  | [] => last
  | branches => .choice (last :: branches).reverse

/-- Open a group. -/
def openGroup (state : State) (change : FlagChange) : State :=
  { state with
    outer := ⟨change, state.branches, state.items, state.skipsBlanks⟩ :: state.outer
    branches := []
    items := []
    place := .sequence
    skipsBlanks := change.skipBlanks.getD state.skipsBlanks }

/-- Close the innermost group. -/
def closeGroup? (state : State) : Option State :=
  match state.outer with
  | [] => none
  | group :: outer =>
    some { state with
      outer
      branches := group.branches
      items := .group group.change state.node :: group.items
      place := .sequence
      skipsBlanks := group.skipsBlanks }

/-- Begin another alternative. -/
def openBranch (state : State) : State :=
  { state with
    branches := Node.ofSequence state.items.reverse :: state.branches
    items := []
    place := .sequence }

/-- Repeat the last item, which must be there and be no change of flags. -/
def repeatLast? (state : State) : Option State :=
  match state.items with
  | [] => none
  | .empty :: _ => none
  | .flags _ :: _ => none
  | node :: items => some { state with items := .repeated node :: items, place := .repeated }

/-- Read a character of a sequence. -/
def sequenceStep (state : State) (char : Char) : Option State :=
  if char = '(' then some { state with place := .groupBeginning }
  else if char = ')' then state.closeGroup?
  else if char = '|' then some state.openBranch
  else if char = '[' then some { state with place := .set .fresh [] .opened }
  else if char = '*' || char = '+' || char = '?' then state.repeatLast?
  else if char = '\x7b' then none
  else if char = '\\' then some { state with place := .sequence, pending := .escape }
  else if char = '.' then some (state.push (.atom .anything))
  else if char = '^' || char = '$' then some (state.push (.atom .condition))
  else some (state.push (.atom (.ofChar char)))

/-- Read a character of the flags of a group, or of a change of flags that stands alone
and must not be empty. -/
def flagStep (state : State) (seen : List Char) (char : Char) : Option State :=
  let change := FlagChange.ofLetters seen
  if char = ':' then
    if seen.getLast? = some '-' then none else some (state.openGroup change)
  else if char = ')' then
    if seen.isEmpty || seen.getLast? = some '-' then none
    else
      let skipsBlanks := change.skipBlanks.getD state.skipsBlanks
      some { state.push (.flags change) with skipsBlanks }
  else if seen.contains char || !"imsUuRx-".toList.contains char then none
  else some { state with place := .flags (seen ++ [char]) }

/-- Read a character of the name of a group. No two groups have the same name. -/
def nameStep (state : State) (letters : List Char) (char : Char) : Option State :=
  if char = '>' then
    if letters.isEmpty || state.names.contains letters then none
    else some { state.openGroup {} with names := letters :: state.names }
  else if isNameChar letters char then some { state with place := .name (letters ++ [char]) }
  else none

/-- Close the innermost set. -/
def closeSet (state : State) (current : OpenSet) (outer : List OpenSet) : State :=
  let set := CharSet.bracketed current.negated current.content
  match outer with
  | [] => state.push (.set set)
  | parent :: outer => { state with place := .set (parent.add set) outer .members }

/-- Read a character between the members of a set. -/
def memberStep (state : State) (current : OpenSet) (outer : List OpenSet) (char : Char)
    (rest : List Char) : State :=
  if char = '[' then
    match namedClass? rest with
    | some (negated, length) =>
      { state with place := .set (current.add (.named negated)) outer (.passing length) }
    | none => { state with place := .set .fresh (current :: outer) .opened }
  else if char = ']' then state.closeSet current outer
  else if (char = '&' || char = '-' || char = '~') && rest.head? = some char then
    { state with place := .set current.operate outer (.passing 1) }
  else if char = '\\' then
    { state with place := .set current outer .members, pending := .escape }
  else { state with place := .set current outer (.behind (.ofChar char)) }

/-- Read a character of a set. Dashes at its beginning, and a bracket that would close it
while it is empty, stand for themselves. -/
def setStep (state : State) (current : OpenSet) (outer : List OpenSet) (place : SetPlace)
    (char : Char) (rest : List Char) : Option State :=
  let literal := CharSet.literal ⟨char, false⟩
  match place with
  | .opened =>
    if char = '^' then
      some { state with place := .set { current with negated := true } outer .beginning }
    else if char = '-' then some { state with place := .set (current.add literal) outer .dashes }
    else if char = ']' then some { state with place := .set (current.add literal) outer .members }
    else some (state.memberStep current outer char rest)
  | .beginning =>
    if char = '-' then some { state with place := .set (current.add literal) outer .dashes }
    else if char = ']' then some { state with place := .set (current.add literal) outer .members }
    else some (state.memberStep current outer char rest)
  | .dashes =>
    if char = '-' then some { state with place := .set (current.add literal) outer .dashes }
    else some (state.memberStep current outer char rest)
  | .members => some (state.memberStep current outer char rest)
  | .behind first =>
    let next := nextSolid? state.skipsBlanks rest
    if char = '-' && next != some ']' && next != some '-' then
      some { state with place := .set current outer (.range first) }
    else do
      let member ← first.toSet?
      return state.memberStep (current.add member) outer char rest
  | .range first =>
    if char = '\\' then some { state with pending := .escape }
    else do
      let range ← rangeBetween? first (.ofChar char)
      return { state with place := .set (current.add range) outer .members }
  | .passing count =>
    let place := if count ≤ 1 then SetPlace.members else .passing (count - 1)
    some { state with place := .set current outer place }

/-- Go on with an atom that an escape stands for. -/
def resume (state : State) (atom : Atom) : Option State :=
  let state := { state with pending := .nothing }
  match state.place with
  | .sequence => some (state.push (.atom atom))
  | .set current outer .members => some { state with place := .set current outer (.behind atom) }
  | .set current outer (.range first) => do
    let range ← rangeBetween? first atom
    return { state with place := .set (current.add range) outer .members }
  | _ => none

/-- Read the character behind a backslash. -/
def escapeStep (state : State) (char : Char) : Option State :=
  if char = 'x' then some { state with pending := .digits true 2 0 }
  else if char = 'u' then some { state with pending := .digits false 4 0 }
  else if char = 'U' then some { state with pending := .digits false 8 0 }
  else do
    let atom ← escape? char
    state.resume atom

/-- Read a hexadecimal digit of an escape. All of them name a character. -/
def digitStep (state : State) (isByte : Bool) (left value : Nat) (char : Char) :
    Option State := do
  let digit ← hexDigit? char
  let value := value * 16 + digit
  if 1 < left then return { state with pending := .digits isByte (left - 1) value }
  else if value.isValidChar then state.resume (.literal ⟨Char.ofNat value, isByte⟩)
  else none

/-- Blanks and comments are skipped in the present place. -/
def ignoresBlanks (state : State) : Bool :=
  state.skipsBlanks &&
    match state.pending, state.place with
    | .escape, _ => false
    | .digits .., _ => true
    | .nothing, .sequence => true
    | .nothing, .groupBeginning => true
    | .nothing, .set _ _ (.passing _) => false
    | .nothing, .set _ _ _ => true
    | .nothing, _ => false

/-- Leave the place behind a repetition sign unless a question mark follows at once. -/
def settle (state : State) (char : Char) : State :=
  match state.place with
  | .repeated => if char = '?' then state else { state with place := .sequence }
  | _ => state

/-- Read a character that is not skipped. -/
def solidStep (state : State) (char : Char) (rest : List Char) : Option State :=
  match state.pending with
  | .escape => state.escapeStep char
  | .digits isByte left value => state.digitStep isByte left value char
  | .nothing =>
    match state.place with
    | .sequence => state.sequenceStep char
    | .repeated => some { state with place := .sequence }
    | .groupBeginning =>
      if char = '?' then some { state with place := .groupOption }
      else (state.openGroup {}).sequenceStep char
    | .groupOption =>
      if char = 'P' && rest.head? = some '<' then some { state with place := .beforeName }
      else if char = '<' then some { state with place := .name [] }
      else state.flagStep [] char
    | .flags seen => state.flagStep seen char
    | .beforeName => some { state with place := .name [] }
    | .name letters => state.nameStep letters char
    | .set current outer place => state.setStep current outer place char rest

/-- Read one character, given what follows it. -/
def step (state : State) (char : Char) (rest : List Char) : Option State :=
  let state := state.settle char
  if state.inComment then some { state with inComment := char != '\n' }
  else if state.ignoresBlanks && isBlank char then some state
  else if state.ignoresBlanks && char = '#' then some { state with inComment := true }
  else state.solidStep char rest

/-- Read characters to the end. -/
def run (state : State) : List Char → Option State
  | [] => some state
  | char :: rest => do
    let state ← state.step char rest
    state.run rest

/-- The pattern that has been read, if nothing is open at its end. -/
def finish? (state : State) : Option Node :=
  match state.pending, state.place, state.outer with
  | .nothing, .sequence, [] => some state.node
  | .nothing, .repeated, [] => some state.node
  | _, _, _ => none

end State

/-- Read a pattern. -/
def Node.ofChars? (chars : List Char) : Option Node := do
  let state ← State.initial.run chars
  state.finish?

end PartitionLedger.Pattern
