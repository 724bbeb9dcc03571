/-
# JSON values

A JSON value as the library holds it. Numbers are whole and exact where they fit
into 64 bits, signed or unsigned, and binary64 numbers otherwise. The members of
an object stand in ascending order of their keys, each key once; `Canonical`
says so for a value and everything inside it.
-/

import PartitionLedger.Collection.Sorted
import PartitionLedger.Number.Binary64

namespace PartitionLedger

namespace Json

/-- A whole number that fits into 64 bits, with or without a sign. -/
structure Integer where
  value : Int
  lower : -9223372036854775808 ≤ value
  upper : value < UInt64.size
  deriving DecidableEq

/-- A number: whole and exact, or a binary64 number. -/
inductive Number where
  | integer (number : Integer)
  | real (number : Binary64)
  deriving DecidableEq

end Json

/-- A JSON value. -/
inductive Json where
  | null
  | boolean (flag : Bool)
  | number (number : Json.Number)
  | string (text : String)
  | array (items : List Json)
  | object (members : List (String × Json))

namespace Json

instance : Inhabited Json := ⟨null⟩

mutual

/-- Equality of values is decidable, member by member. -/
def decEq : (first second : Json) → Decidable (first = second)
  | null, null => isTrue rfl
  | boolean first, boolean second =>
    if same : first = second then isTrue (congrArg boolean same)
    else isFalse fun equal => same (by injection equal)
  | number first, number second =>
    if same : first = second then isTrue (congrArg number same)
    else isFalse fun equal => same (by injection equal)
  | string first, string second =>
    if same : first = second then isTrue (congrArg string same)
    else isFalse fun equal => same (by injection equal)
  | array first, array second =>
    match decEqItems first second with
    | isTrue same => isTrue (congrArg array same)
    | isFalse different => isFalse fun equal => different (by injection equal)
  | object first, object second =>
    match decEqMembers first second with
    | isTrue same => isTrue (congrArg object same)
    | isFalse different => isFalse fun equal => different (by injection equal)
  | null, boolean _ | null, number _ | null, string _ | null, array _ | null, object _ =>
    isFalse nofun
  | boolean _, null | boolean _, number _ | boolean _, string _ | boolean _, array _
  | boolean _, object _ => isFalse nofun
  | number _, null | number _, boolean _ | number _, string _ | number _, array _
  | number _, object _ => isFalse nofun
  | string _, null | string _, boolean _ | string _, number _ | string _, array _
  | string _, object _ => isFalse nofun
  | array _, null | array _, boolean _ | array _, number _ | array _, string _
  | array _, object _ => isFalse nofun
  | object _, null | object _, boolean _ | object _, number _ | object _, string _
  | object _, array _ => isFalse nofun

/-- Equality of item lists is decidable. -/
def decEqItems : (first second : List Json) → Decidable (first = second)
  | [], [] => isTrue rfl
  | item :: items, other :: others =>
    match decEq item other, decEqItems items others with
    | isTrue heads, isTrue tails => isTrue (by rw [heads, tails])
    | isFalse different, _ => isFalse fun equal => different (List.cons.inj equal).1
    | _, isFalse different => isFalse fun equal => different (List.cons.inj equal).2
  | [], _ :: _ => isFalse nofun
  | _ :: _, [] => isFalse nofun

/-- Equality of member lists is decidable. -/
def decEqMembers : (first second : List (String × Json)) → Decidable (first = second)
  | [], [] => isTrue rfl
  | (key, value) :: members, (otherKey, otherValue) :: others =>
    if keys : key = otherKey then
      match decEq value otherValue, decEqMembers members others with
      | isTrue heads, isTrue tails => isTrue (by rw [keys, heads, tails])
      | isFalse different, _ =>
        isFalse fun equal => different (Prod.mk.inj (List.cons.inj equal).1).2
      | _, isFalse different => isFalse fun equal => different (List.cons.inj equal).2
    else isFalse fun equal => keys (Prod.mk.inj (List.cons.inj equal).1).1
  | [], _ :: _ => isFalse nofun
  | _ :: _, [] => isFalse nofun

end

instance : DecidableEq Json := decEq

mutual

/-- How deeply arrays and objects are nested inside each other. -/
def depth : Json → Nat
  | array items => depthItems items + 1
  | object members => depthMembers members + 1
  | _ => 0

/-- The greatest depth among the items of an array. -/
def depthItems : List Json → Nat
  | [] => 0
  | item :: items => max item.depth (depthItems items)

/-- The greatest depth among the members of an object. -/
def depthMembers : List (String × Json) → Nat
  | [] => 0
  | (_, value) :: members => max value.depth (depthMembers members)

end

mutual

/-- Every object has its keys in ascending order, each once. -/
def Canonical : Json → Prop
  | array items => CanonicalItems items
  | object members => Collection.Sorted.Ascending members ∧ CanonicalMembers members
  | _ => True

/-- Every item of an array is canonical. -/
def CanonicalItems : List Json → Prop
  | [] => True
  | item :: items => item.Canonical ∧ CanonicalItems items

/-- Every member of an object has a canonical value. -/
def CanonicalMembers : List (String × Json) → Prop
  | [] => True
  | (_, value) :: members => value.Canonical ∧ CanonicalMembers members

end

/-- An object from members in any order; of several members with one key the
last stays. -/
def ofMembers (members : List (String × Json)) : Json :=
  object (members.foldl (fun sorted member => Collection.Sorted.insert member.1 member.2 sorted) [])

/-- A natural number as a value, exact below 2^64. -/
def ofNat (number : Nat) : Json :=
  if small : number < UInt64.size then
    .number (.integer ⟨number, by omega, Int.ofNat_lt.mpr small⟩)
  else .number (.real (Binary64.ofNat number))

/-- The value of a member of an object. -/
def member? : Json → String → Option Json
  | object members, key => Collection.Sorted.lookup key members
  | _, _ => none

end Json

end PartitionLedger
