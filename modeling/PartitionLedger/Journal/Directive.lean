/-
# Filter directives

A directive names what it is about and how verbose that may be. It is a level alone,
or a target with an optional scope in brackets and an optional level behind an equals
sign; the scope names a span, and in braces a field that may be compared with a
value. What has no level may be as verbose as it likes.

A directive is read one character at a time, without the blanks at its ends. The
places of its parts are counted from its first character that is no blank, but the
parts are cut out of the text with the blanks, so blanks in front shift every part.
-/

import PartitionLedger.Journal.Event
import PartitionLedger.Pattern.Support
import PartitionLedger.Text.Bytes

namespace PartitionLedger

open Text
open Pattern (PatternError)

/-- Why a text is no filter. -/
inductive FilterError where
  | badDirective
  | badLevel
  | badPattern (cause : PatternError)
  deriving DecidableEq, Repr

/-- The wording of a bad filter. -/
def FilterError.message : FilterError → String
  | badDirective => "invalid filter directive"
  | badLevel =>
    "error parsing level filter: expected one of \"off\", \"error\", \"warn\", \"info\", " ++
      "\"debug\", \"trace\", or a number 0-5"
  | badPattern cause => "invalid field filter: " ++ cause.message

/-- What a directive asks of the fields: that one of a name is there, and perhaps that
its value is a certain one. -/
structure FieldTest where
  name : List Char
  hasValue : Bool
  deriving DecidableEq, Repr

/-- One directive: the text that the target has to start with, the name of the span and
the field if it asks for them, and the verbosity that passes, zero for nothing. -/
structure Directive where
  target : List Char
  span : Option (List Char)
  field : Option FieldTest
  verbosity : Nat
  deriving DecidableEq, Repr

namespace FieldTest

/-- The digits at the beginning of a text, and the rest. -/
def spanDigits (chars : List Char) : List Char × List Char :=
  (chars.takeWhile Char.isDigit, chars.dropWhile Char.isDigit)

/-- The text is the exponent of a decimal number, or nothing. -/
def isExponent : List Char → Bool
  | [] => true
  | letter :: rest =>
    let digits := match rest with
      | '+' :: digits => digits
      | '-' :: digits => digits
      | digits => digits
    (letter = 'e' || letter = 'E') && !digits.isEmpty && digits.all Char.isDigit

/-- The text is a number without a sign: a word for one that is not finite, or digits
with an optional point and exponent. -/
def isUnsigned (chars : List Char) : Bool :=
  let word := String.ofList (chars.map Char.toLower)
  let (whole, rest) := spanDigits chars
  let (fraction, rest) := match rest with
    | '.' :: rest => spanDigits rest
    | rest => ([], rest)
  word = "inf" || word = "infinity" || word = "nan" ||
    (!(whole.isEmpty && fraction.isEmpty) && isExponent rest)

/-- Why a field cannot be compared with a value, if it cannot. A number may have a plus
sign in front; anything else has to be a pattern. -/
def valueError? (chars : List Char) : Option PatternError :=
  match chars with
  | '+' :: number => if isUnsigned number then none else some .refused
  | _ => Pattern.error? chars

/-- Read what stands between braces. A value ends at a second equals sign. -/
def read (chars : List Char) : Except FilterError FieldTest :=
  let name := chars.takeWhile (· != '=')
  match chars.dropWhile (· != '=') with
  | [] => .ok ⟨name, false⟩
  | _ :: value =>
    match valueError? (value.takeWhile (· != '=')) with
    | some cause => .error (.badPattern cause)
    | none => .ok ⟨name, true⟩

end FieldTest

namespace Directive

/-- The verbosity that a number from zero to five stands for. Zeros and a plus
sign in front are allowed. -/
def numberVerbosity? (chars : List Char) : Option Nat :=
  let digits := if chars.head? = some '+' then chars.drop 1 else chars
  if digits.isEmpty || !digits.all Char.isDigit then none
  else match digits.dropWhile (· == '0') with
    | [] => some 0
    | [digit] => if digit.toNat ≤ '5'.toNat then some (digit.toNat - '0'.toNat) else none
    | _ => none

/-- The verbosity that a name of a level stands for, in letters of either case. -/
def nameVerbosity? (chars : List Char) : Option Nat :=
  let name := String.ofList (chars.map Char.toLower)
  if name = "off" then some 0
  else if name = "error" then some 1
  else if name = "warn" then some 2
  else if name = "info" then some 3
  else if name = "debug" then some 4
  else if name = "trace" then some 5
  else none

/-- The verbosity that a level stands for. -/
def verbosity? (chars : List Char) : Option Nat :=
  (numberVerbosity? chars).orElse fun _ => nameVerbosity? chars

/-- The greatest verbosity, which lets everything pass. -/
def fullVerbosity : Nat := 5

/-- A character that a target may start with. -/
def startsTarget (char : Char) : Bool :=
  isAlphanumeric char || char = '-' || char = ':' || char = '_'

/-- The part of a directive that is being read, with the place where it starts. -/
inductive Part where
  | beginning
  | target
  | span (first : Nat)
  | field (first : Nat)
  | scopeEnd
  | scoped
  | level (first : Nat)
  deriving DecidableEq, Repr

/-- A directive as far as it has been read. -/
structure Progress where
  part : Part
  target : List Char
  span : Option (List Char)
  field : Option FieldTest
  deriving DecidableEq, Repr

/-- Nothing of a directive has been read. -/
def Progress.initial : Progress := ⟨.beginning, [], none, none⟩

/-- Read the character at a place. Parts that end there are cut out of the text. -/
def step (chars : List Char) (progress : Progress) (place : Nat) (char : Char) :
    Except FilterError Progress :=
  match progress.part with
  | .beginning =>
    if char = '[' then .ok { progress with part := .span (place + 1) }
    else if startsTarget char then .ok { progress with part := .target }
    else .error .badDirective
  | .target =>
    if char = '=' then
      .ok { progress with target := cutBytes 0 place chars, part := .level (place + 1) }
    else if char = '[' then
      .ok { progress with target := cutBytes 0 place chars, part := .span (place + 1) }
    else .ok progress
  | .span first =>
    if char = ']' then
      .ok { progress with span := some (cutBytes first place chars), part := .scoped }
    else if char = '\x7b' then
      let name := cutBytes first place chars
      let span := if name.isEmpty then none else some name
      .ok { progress with span, part := .field (place + 1) }
    else .ok progress
  | .field first =>
    if char = '\x7d' then
      let content := cutBytes first place chars
      if content.isEmpty then .error .badDirective
      else do
        let field ← FieldTest.read content
        return { progress with field := some field, part := .scopeEnd }
    else .ok progress
  | .scopeEnd =>
    if char = ']' then .ok { progress with part := .scoped } else .error .badDirective
  | .scoped =>
    if char = '=' then .ok { progress with part := .level (place + 1) }
    else .error .badDirective
  | .level _ => .ok progress

/-- Read characters from a place on. -/
def scan (chars : List Char) (progress : Progress) (place : Nat) :
    List Char → Except FilterError Progress
  | [] => .ok progress
  | char :: rest => do
    let progress ← step chars progress place char
    scan chars progress (place + char.utf8Size) rest

/-- What has been read as a directive of the text that it was read from. A text with no
level and no scope is a level or else a target, blanks included. -/
def finish (chars : List Char) (progress : Progress) : Except FilterError Directive :=
  match progress.part with
  | .target =>
    match verbosity? chars with
    | some verbosity => .ok ⟨[], none, none, verbosity⟩
    | none => .ok ⟨chars, none, none, fullVerbosity⟩
  | .scoped => .ok ⟨progress.target, progress.span, progress.field, fullVerbosity⟩
  | .level first =>
    match dropBytes first chars with
    | [] => .ok ⟨progress.target, progress.span, progress.field, fullVerbosity⟩
    | level =>
      match verbosity? level with
      | some verbosity => .ok ⟨progress.target, progress.span, progress.field, verbosity⟩
      | none => .error .badLevel
  | _ => .error .badDirective

/-- Read one directive. -/
def read (chars : List Char) : Except FilterError Directive := do
  let progress ← scan chars .initial 0 (trim chars)
  finish chars progress

/-- The directive is about spans, which it names, or whose fields it compares. -/
def concernsSpans (directive : Directive) : Bool :=
  directive.span.isSome || directive.field.any FieldTest.hasValue

/-- The event has a field of that name; its message is one of them. -/
def hasField (event : Event) (name : List Char) : Bool :=
  name = "message".toList || event.fields.any fun field => field.1.toList = name

/-- The directive is about the event. Events lie in no span. -/
def appliesTo (directive : Directive) (event : Event) : Bool :=
  !directive.concernsSpans && directive.target.isPrefixOf event.target.toList &&
    directive.field.all fun field => hasField event field.name

/-- The first directive is no more specific than the second: its target is shorter, or
of equal length and it asks for no field or for one whose name does not come later. -/
def noMoreSpecific (first second : Directive) : Bool :=
  if byteLength first.target = byteLength second.target then
    match first.field, second.field with
    | none, _ => true
    | some _, none => false
    | some former, some latter => decide (¬ latter.name < former.name)
  else byteLength first.target < byteLength second.target

end Directive

end PartitionLedger
