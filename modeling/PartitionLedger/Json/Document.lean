/-
# JSON documents

A document is what a text spells, before anyone has asked for its contents: its
arrays and objects with their items and members in text order, repeated keys
included. A text that breaks off gives the part up to there; every array or
object that is still open then carries the fault that cut it. Documents are built
with an explicit stack of open arrays and objects, so they may be nested to any
depth; a limit applies only where a value is read.
-/

import PartitionLedger.Json.Token

namespace PartitionLedger.Json

/-- What a text spells. -/
inductive Document where
  | null
  | boolean (flag : Bool)
  | number (reading : Except Fault Number)
  | string (reading : Except Fault String)
  /-- The items that the text gives, and the fault that cuts them off, if any. -/
  | array (items : List Document) (cut : Option Fault)
  /-- The members that the text gives as pairs of key and value, and the fault that
  cuts them off, if any. A key that is no string is the last one. -/
  | object (members : List (Document × Document)) (cut : Option Fault)
  /-- The text ends where this document should stand. -/
  | absent
  /-- Something else stands where this document should stand. -/
  | broken (reading : Fault) (skipping : Fault)

namespace Document

instance : Inhabited Document := ⟨absent⟩

/-- Skipping a document fails only where the text is cut. -/
def skip : Document → Except Fault Unit
  | null | boolean _ | number _ | string _ => .ok ()
  | array _ cut | object _ cut =>
    match cut with
    | none => .ok ()
    | some fault => .error fault
  | absent => .error .truncated
  | broken _ skipping => .error skipping

/-- An array or object that is open while a document inside it is built; the
innermost one is handled first. Items and members are kept in reverse. -/
inductive Open where
  | array (items : List Document)
  | object (members : List (Document × Document)) (key : Document)

/-- Close every open array and object around a document at a cut in the text. -/
def cutOff (fault : Fault) : List Open → Document → Document
  | [], inner => inner
  | .array items :: outer, inner =>
    cutOff fault outer (.array (items.reverse ++ [inner]) (some fault))
  | .object members key :: outer, inner =>
    cutOff fault outer (.object (members.reverse ++ [(key, inner)]) (some fault))

/-- What a single token shows of a document that stands where a key is expected. -/
def ofToken : Token → Document
  | .null => null
  | .boolean flag => boolean flag
  | .number reading => number reading
  | .string reading => string reading
  | .openBracket => array [] (some .malformed)
  | .openBrace => object [] (some .malformed)
  | .broken reading skipping => broken reading skipping
  | .brokenString reading _ => string (.error reading)
  | .closeBracket | .closeBrace | .comma | .colon => broken .malformed .malformed

mutual

/-- Build the document at the front of the tokens inside the given open arrays
and objects, and all that is still to come of those. Returns the outermost
document and the tokens behind it. -/
def build (outer : List Open) : List Token → Document × List Token
  | [] => (cutOff .truncated outer absent, [])
  | .null :: rest => resume outer null rest
  | .boolean flag :: rest => resume outer (boolean flag) rest
  | .number reading :: rest => resume outer (number reading) rest
  | .string reading :: rest => resume outer (string reading) rest
  | .openBracket :: .closeBracket :: rest => resume outer (array [] none) rest
  | .openBracket :: rest => build (.array [] :: outer) rest
  | .openBrace :: .closeBrace :: rest => resume outer (object [] none) rest
  | .openBrace :: rest => buildMember outer [] rest
  | .broken reading skipping :: rest => (cutOff skipping outer (broken reading skipping), rest)
  | .brokenString reading skipping :: rest =>
    (cutOff skipping outer (string (.error reading)), rest)
  | .closeBracket :: rest | .closeBrace :: rest | .comma :: rest | .colon :: rest =>
    (cutOff .malformed outer (broken .malformed .malformed), rest)

/-- Build the member at the front of the tokens, behind the members that the
innermost object has already. -/
def buildMember (outer : List Open) (members : List (Document × Document)) :
    List Token → Document × List Token
  | [] =>
    (cutOff .truncated outer
      (.object (members.reverse ++ [(absent, absent)]) (some .truncated)), [])
  | .string reading :: .colon :: rest => build (.object members (string reading) :: outer) rest
  | [.string reading] => (cutOff .truncated (.object members (string reading) :: outer) absent, [])
  | .string reading :: _ :: rest =>
    (cutOff .malformed (.object members (string reading) :: outer)
      (broken .malformed .malformed), rest)
  | .brokenString reading skipping :: rest =>
    (cutOff skipping (.object members (string (.error reading)) :: outer) absent, rest)
  | token :: rest =>
    (cutOff .malformed (.object members (ofToken token) :: outer)
      (broken .malformed .malformed), rest)

/-- Go on behind a finished document: either nothing is open, or a comma or a
closing token follows. -/
def resume (outer : List Open) (inner : Document) : List Token → Document × List Token
  | [] =>
    match outer with
    | [] => (inner, [])
    | .array items :: outer =>
      (cutOff .truncated outer (.array (items.reverse ++ [inner]) (some .truncated)), [])
    | .object members key :: outer =>
      (cutOff .truncated outer (.object (members.reverse ++ [(key, inner)]) (some .truncated)), [])
  | token :: rest =>
    match outer with
    | [] => (inner, token :: rest)
    | .array items :: outer =>
      match token with
      | .comma => build (.array (inner :: items) :: outer) rest
      | .closeBracket => resume outer (.array (items.reverse ++ [inner]) none) rest
      | _ => (cutOff .malformed outer (.array (items.reverse ++ [inner]) (some .malformed)), rest)
    | .object members key :: outer =>
      match token with
      | .comma => buildMember outer ((key, inner) :: members) rest
      | .closeBrace => resume outer (.object (members.reverse ++ [(key, inner)]) none) rest
      | _ =>
        (cutOff .malformed outer
          (.object (members.reverse ++ [(key, inner)]) (some .malformed)), rest)

end

/-- The document at the front of a text, and whether something other than blanks
follows it. -/
def ofText (text : String) : Document × Bool :=
  let (document, rest) := build [] (lex text.toList)
  (document, !rest.isEmpty)

end Document

end PartitionLedger.Json
