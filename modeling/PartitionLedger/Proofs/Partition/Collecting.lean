/-
# Fields collected in any order

Members are taken in one after the other, but each field looks only at the values given
under its own name. It must be given at most once, and members that name no field only have
to be skipped. So what a list of members comes to is said for each field by itself, and the
order of the members makes no difference. The same holds for members of texts and of values.
-/

import PartitionLedger.Partition.OfJson
import PartitionLedger.Proofs.Json.Arrangement
import PartitionLedger.Proofs.Partition.Restoration

namespace PartitionLedger

open Json (Document ReadError ok_bind exists_of_bind_eq_ok bind_eq_ok_iff)

/-! ### Computations that may fail -/

theorem map_bind_ok {ε α β γ : Type} (first : Except ε α) (next : α → Except ε β) (use : β → γ) :
    (first >>= next).map use = first >>= fun value => (next value).map use := by
  cases first <;> rfl

theorem map_eq_ok_iff {ε α β : Type} {first : Except ε α} {use : α → β} {result : β} :
    first.map use = .ok result ↔ ∃ value, first = .ok value ∧ use value = result := by
  cases first with
  | error _ => exact ⟨nofun, nofun⟩
  | ok value => exact ⟨fun same => ⟨value, rfl, Except.ok.inj same⟩, by rintro ⟨_, ⟨⟩, rfl⟩; rfl⟩

theorem Json.eq_none_of_finish_eq_ok {α : Type} {cut : Option Json.Fault} {result value : α}
    (finished : Document.finish cut result = .ok value) : cut = none := by
  cases cut with
  | none => rfl
  | some _ => cases finished

/-! ### One field -/

section Named

variable {δ α β : Type}

/-- The values given under a name, in order. -/
def valuesNamed (name : String) (members : List (String × δ)) : List δ :=
  (members.filter fun member => member.1 = name).map Prod.snd

theorem valuesNamed_cons (name key : String) (value : δ) (members : List (String × δ)) :
    valuesNamed name ((key, value) :: members) =
      if key = name then value :: valuesNamed name members else valuesNamed name members := by
  rw [valuesNamed, List.filter_cons]
  simp only [decide_eq_true_eq]
  split <;> rfl

theorem valuesNamed_append (name : String) (members later : List (String × δ)) :
    valuesNamed name (members ++ later) = valuesNamed name members ++ valuesNamed name later := by
  rw [valuesNamed, List.filter_append, List.map_append, valuesNamed, valuesNamed]

theorem valuesNamed_perm (name : String) {members other : List (String × δ)}
    (same : members.Perm other) : (valuesNamed name members).Perm (valuesNamed name other) :=
  (same.filter _).map _

theorem mem_of_mem_valuesNamed {name : String} {value : δ} {members : List (String × δ)}
    (given : value ∈ valuesNamed name members) : (name, value) ∈ members := by
  obtain ⟨member, inside, rfl⟩ := List.mem_map.mp given
  obtain ⟨listed, named⟩ := List.mem_filter.mp inside
  obtain rfl : member.1 = name := of_decide_eq_true named
  exact listed

/-- What a slot holds after the values given under its name: what it held before if there are
none, and what the only one is read as if the slot was empty. -/
def Holds (read : δ → Except ReadError α) (before : Option α) (values : List δ)
    (after : Option α) : Prop :=
  match values with
  | [] => after = before
  | [value] => before = none ∧ ∃ result, read value = .ok result ∧ after = some result
  | _ :: _ :: _ => False

variable {read : δ → Except ReadError α} {before after : Option α}

/-- Putting one value into a slot among others. -/
theorem fill_bind_eq_ok_iff {name : String} {value : δ} {make : Option α → β} {result : β} :
    (fill name before (read value) >>= fun slot => pure (make slot)) = .ok result ↔
      ∃ slot, Holds read before [value] slot ∧ make slot = result := by
  rw [bind_eq_ok_iff]
  refine exists_congr fun slot => and_congr ?_ ⟨Except.ok.inj, congrArg Except.ok⟩
  constructor
  · intro filled
    obtain ⟨result, success, rfl⟩ := exists_of_fill_eq_ok filled
    cases before with
    | none => exact ⟨rfl, result, success, rfl⟩
    | some _ => cases filled
  · rintro ⟨rfl, result, success, rfl⟩
    rw [fill_none, success]
    rfl

/-- A member of another name leaves the slot alone. -/
theorem holds_of_ne {name key : String} {value : δ} (other : key ≠ name) :
    Holds read before (valuesNamed name [(key, value)]) after ↔ after = before := by
  rw [valuesNamed_cons, if_neg other]
  exact Iff.rfl

theorem holds_of_eq (name : String) {value : δ} :
    Holds read before (valuesNamed name [(name, value)]) after ↔
      Holds read before [value] after := by
  rw [valuesNamed_cons, if_pos rfl]
  exact Iff.rfl

/-- Values may be put into a slot in two parts. -/
theorem holds_append {values later : List δ} :
    Holds read before (values ++ later) after ↔
      ∃ slot, Holds read before values slot ∧ Holds read slot later after := by
  match values, later with
  | [], _ => exact ⟨fun holds => ⟨before, rfl, holds⟩, fun ⟨_, same, holds⟩ => same ▸ holds⟩
  | [_], [] => exact ⟨fun holds => ⟨after, holds, rfl⟩, fun ⟨_, holds, same⟩ => same ▸ holds⟩
  | [_], [_] =>
    refine ⟨False.elim, ?_⟩
    rintro ⟨_, ⟨-, _, -, rfl⟩, empty, -⟩
    cases empty
  | [_], _ :: _ :: _ => exact ⟨False.elim, fun ⟨_, _, holds⟩ => holds⟩
  | _ :: _ :: _, _ => exact ⟨False.elim, fun ⟨_, holds, _⟩ => holds⟩

theorem Holds.perm {values other : List δ} (holds : Holds read before values after)
    (same : values.Perm other) : Holds read before other after := by
  match values with
  | [] => rwa [List.nil_perm.mp same]
  | [_] => rwa [← List.singleton_perm.mp same]
  | _ :: _ :: _ => cases holds

/-- A slot that was empty is filled by the only value, if there is one. -/
theorem Holds.length_eq {values : List δ} (holds : Holds read none values after) :
    values.length = after.toList.length := by
  match values with
  | [] =>
    obtain rfl : after = none := holds
    rfl
  | [_] =>
    obtain ⟨-, result, -, rfl⟩ := holds
    rfl
  | _ :: _ :: _ => cases holds

/-- The only value that fills a slot is read as what the slot holds. -/
theorem Holds.read_of_mem {values : List δ} {value : δ} {result : α}
    (holds : Holds read none values (some result)) (inside : value ∈ values) :
    read value = .ok result := by
  match values with
  | [] => cases inside
  | [_] =>
    obtain ⟨-, _, success, ⟨⟩⟩ := holds
    rwa [List.mem_singleton.mp inside]
  | _ :: _ :: _ => cases holds

end Named

/-! ### Three fields -/

/-- A field with its name and the way in which its values are read. -/
structure Field (δ α : Type) where
  name : String
  read : δ → Except ReadError α

/-- A structure of three fields. Values of other names are skipped. -/
structure Scheme (δ α β γ : Type) where
  first : Field δ α
  second : Field δ β
  third : Field δ γ
  skip : δ → Except ReadError Unit
  distinct : [first.name, second.name, third.name].Nodup

/-- What three fields hold. -/
structure Slots (α β γ : Type) where
  first : Option α := none
  second : Option β := none
  third : Option γ := none

namespace Scheme

variable {δ α β γ : Type} (scheme : Scheme δ α β γ)

/-- The names of the fields. -/
def names : List String := [scheme.first.name, scheme.second.name, scheme.third.name]

/-- Take in one more member. -/
def put (slots : Slots α β γ) (key : String) (value : δ) : Except ReadError (Slots α β γ) :=
  if key = scheme.first.name then do
    let slot ← fill key slots.first (scheme.first.read value)
    return { slots with first := slot }
  else if key = scheme.second.name then do
    let slot ← fill key slots.second (scheme.second.read value)
    return { slots with second := slot }
  else if key = scheme.third.name then do
    let slot ← fill key slots.third (scheme.third.read value)
    return { slots with third := slot }
  else do
    scheme.skip value
    return slots

/-- What the slots hold after some members, each slot seen by itself. -/
structure Collects (before : Slots α β γ) (members : List (String × δ)) (after : Slots α β γ) :
    Prop where
  first : Holds scheme.first.read before.first (valuesNamed scheme.first.name members) after.first
  second : Holds scheme.second.read before.second (valuesNamed scheme.second.name members)
    after.second
  third : Holds scheme.third.read before.third (valuesNamed scheme.third.name members) after.third
  skipped : ∀ member ∈ members, member.1 ∉ scheme.names → scheme.skip member.2 = .ok ()

variable {scheme} {before after : Slots α β γ}

theorem names_ne (scheme : Scheme δ α β γ) : scheme.first.name ≠ scheme.second.name ∧
    scheme.first.name ≠ scheme.third.name ∧ scheme.second.name ≠ scheme.third.name := by
  simpa [and_assoc] using scheme.distinct

section Singleton

-- What one member does to the slots, by the name that it has.
variable {value : δ}

theorem collects_first : scheme.Collects before [(scheme.first.name, value)] after ↔
    ∃ slot, Holds scheme.first.read before.first [value] slot ∧
      { before with first := slot } = after := by
  obtain ⟨notSecond, notThird, -⟩ := scheme.names_ne
  constructor
  · obtain ⟨first, second, third⟩ := after
    rintro ⟨firsts, seconds, thirds, -⟩
    obtain rfl := (holds_of_ne notSecond).mp seconds
    obtain rfl := (holds_of_ne notThird).mp thirds
    exact ⟨first, (holds_of_eq _).mp firsts, rfl⟩
  · rintro ⟨slot, holds, rfl⟩
    exact ⟨(holds_of_eq _).mpr holds, (holds_of_ne notSecond).mpr rfl,
      (holds_of_ne notThird).mpr rfl, by simp [names]⟩

theorem collects_second : scheme.Collects before [(scheme.second.name, value)] after ↔
    ∃ slot, Holds scheme.second.read before.second [value] slot ∧
      { before with second := slot } = after := by
  obtain ⟨notFirst, -, notThird⟩ := scheme.names_ne
  constructor
  · obtain ⟨first, second, third⟩ := after
    rintro ⟨firsts, seconds, thirds, -⟩
    obtain rfl := (holds_of_ne notFirst.symm).mp firsts
    obtain rfl := (holds_of_ne notThird).mp thirds
    exact ⟨second, (holds_of_eq _).mp seconds, rfl⟩
  · rintro ⟨slot, holds, rfl⟩
    exact ⟨(holds_of_ne notFirst.symm).mpr rfl, (holds_of_eq _).mpr holds,
      (holds_of_ne notThird).mpr rfl, by simp [names]⟩

theorem collects_third : scheme.Collects before [(scheme.third.name, value)] after ↔
    ∃ slot, Holds scheme.third.read before.third [value] slot ∧
      { before with third := slot } = after := by
  obtain ⟨-, notFirst, notSecond⟩ := scheme.names_ne
  constructor
  · obtain ⟨first, second, third⟩ := after
    rintro ⟨firsts, seconds, thirds, -⟩
    obtain rfl := (holds_of_ne notFirst.symm).mp firsts
    obtain rfl := (holds_of_ne notSecond.symm).mp seconds
    exact ⟨third, (holds_of_eq _).mp thirds, rfl⟩
  · rintro ⟨slot, holds, rfl⟩
    exact ⟨(holds_of_ne notFirst.symm).mpr rfl, (holds_of_ne notSecond.symm).mpr rfl,
      (holds_of_eq _).mpr holds, by simp [names]⟩

theorem collects_unknown {key : String} (unknown : key ∉ scheme.names) :
    scheme.Collects before [(key, value)] after ↔ scheme.skip value = .ok () ∧ before = after := by
  obtain ⟨notFirst, notSecond, notThird⟩ : key ≠ scheme.first.name ∧ key ≠ scheme.second.name ∧
      key ≠ scheme.third.name := by
    simpa [names] using unknown
  constructor
  · obtain ⟨first, second, third⟩ := after
    rintro ⟨firsts, seconds, thirds, skipped⟩
    obtain rfl := (holds_of_ne notFirst).mp firsts
    obtain rfl := (holds_of_ne notSecond).mp seconds
    obtain rfl := (holds_of_ne notThird).mp thirds
    exact ⟨skipped _ List.mem_cons_self unknown, rfl⟩
  · rintro ⟨skipped, rfl⟩
    exact ⟨(holds_of_ne notFirst).mpr rfl, (holds_of_ne notSecond).mpr rfl,
      (holds_of_ne notThird).mpr rfl, List.forall_mem_singleton.mpr fun _ => skipped⟩

end Singleton

/-- Taking in one member is collecting it. -/
theorem put_eq_ok_iff {key : String} {value : δ} :
    scheme.put before key value = .ok after ↔ scheme.Collects before [(key, value)] after := by
  rw [put]
  split_ifs with isFirst isSecond isThird
  · rw [isFirst, fill_bind_eq_ok_iff, collects_first]
  · rw [isSecond, fill_bind_eq_ok_iff, collects_second]
  · rw [isThird, fill_bind_eq_ok_iff, collects_third]
  · rw [collects_unknown (by simp [names, *]), bind_eq_ok_iff]
    constructor
    · rintro ⟨⟨⟩, skipped, ⟨⟩⟩
      exact ⟨skipped, rfl⟩
    · rintro ⟨skipped, rfl⟩
      exact ⟨(), skipped, rfl⟩

theorem collects_nil : scheme.Collects before [] after ↔ before = after := by
  constructor
  · rintro ⟨first, second, third, -⟩
    cases before
    cases after
    cases first
    cases second
    cases third
    rfl
  · rintro rfl
    exact ⟨rfl, rfl, rfl, nofun⟩

/-- Members may be taken in in two parts. -/
theorem collects_append {members later : List (String × δ)} :
    scheme.Collects before (members ++ later) after ↔
      ∃ between, scheme.Collects before members between ∧
        scheme.Collects between later after := by
  constructor
  · rintro ⟨firsts, seconds, thirds, skipped⟩
    rw [valuesNamed_append, holds_append] at firsts seconds thirds
    rw [List.forall_mem_append] at skipped
    obtain ⟨first, firsts⟩ := firsts
    obtain ⟨second, seconds⟩ := seconds
    obtain ⟨third, thirds⟩ := thirds
    exact ⟨⟨first, second, third⟩, ⟨firsts.1, seconds.1, thirds.1, skipped.1⟩,
      ⟨firsts.2, seconds.2, thirds.2, skipped.2⟩⟩
  · rintro ⟨between, front, back⟩
    constructor
    · rw [valuesNamed_append, holds_append]
      exact ⟨between.first, front.first, back.first⟩
    · rw [valuesNamed_append, holds_append]
      exact ⟨between.second, front.second, back.second⟩
    · rw [valuesNamed_append, holds_append]
      exact ⟨between.third, front.third, back.third⟩
    · rw [List.forall_mem_append]
      exact ⟨front.skipped, back.skipped⟩

theorem collects_cons {key : String} {value : δ} {members : List (String × δ)} :
    scheme.Collects before ((key, value) :: members) after ↔
      ∃ between, scheme.put before key value = .ok between ∧
        scheme.Collects between members after := by
  rw [← List.singleton_append, collects_append]
  simp only [put_eq_ok_iff]

/-- The order of the members makes no difference. -/
theorem Collects.perm {members other : List (String × δ)}
    (collects : scheme.Collects before members after) (same : members.Perm other) :
    scheme.Collects before other after where
  first := collects.first.perm (valuesNamed_perm _ same)
  second := collects.second.perm (valuesNamed_perm _ same)
  third := collects.third.perm (valuesNamed_perm _ same)
  skipped member inside := collects.skipped member (same.mem_iff.mpr inside)

/-- No field is given twice. -/
theorem Collects.length_le_one {members : List (String × δ)}
    (collects : scheme.Collects {} members after) :
    ∀ name ∈ scheme.names, (valuesNamed name members).length ≤ 1 := by
  simp only [names, List.forall_mem_cons, collects.first.length_eq, collects.second.length_eq,
    collects.third.length_eq, List.not_mem_nil, false_implies, implies_true, and_true]
  exact ⟨Option.length_toList_le, Option.length_toList_le, Option.length_toList_le⟩

end Scheme

/-! ### Fields of a structure -/

section Fields

-- Fields of some structure take in one member after the other, as the slots do.
variable {δ α β γ φ : Type} {take : φ → String → δ → Except ReadError φ} {slots : φ → Slots α β γ}
  {scheme : Scheme δ α β γ} {before after : φ}

/-- Members whose keys are known are collected one slot at a time. -/
theorem gathers_eq_ok_iff (gather : φ → List (String × δ) → Except ReadError φ)
    (injective : Function.Injective slots)
    (takes : ∀ fields key value,
      scheme.put (slots fields) key value = (take fields key value).map slots)
    (nil : ∀ fields, gather fields [] = .ok fields)
    (cons : ∀ fields key value members, gather fields ((key, value) :: members) =
      take fields key value >>= fun fields => gather fields members)
    {members : List (String × δ)} :
    gather before members = .ok after ↔
      scheme.Collects (slots before) members (slots after) := by
  induction members generalizing before with
  | nil =>
    rw [nil, Scheme.collects_nil, injective.eq_iff]
    exact ⟨Except.ok.inj, congrArg Except.ok⟩
  | cons member members ih =>
    rw [cons, bind_eq_ok_iff, Scheme.collects_cons, takes]
    simp only [ih, map_eq_ok_iff]
    constructor
    · rintro ⟨fields, taken, collects⟩
      exact ⟨slots fields, ⟨fields, taken, rfl⟩, collects⟩
    · rintro ⟨_, ⟨fields, taken, rfl⟩, collects⟩
      exact ⟨fields, taken, collects⟩

/-- Members that were collected from a text have keys that can be read. -/
theorem exists_named_of_collect_eq_ok {take : φ → String → Document → Except ReadError φ}
    {collect : φ → List (Document × Document) → Except ReadError φ}
    (cons : ∀ fields key value members, collect fields ((key, value) :: members) =
      key.readKey >>= fun key => take fields key value >>= fun fields => collect fields members)
    {members : List (Document × Document)} (collected : collect before members = .ok after) :
    ∃ named : List (String × Document), members = named.map Document.member := by
  induction members generalizing before with
  | nil => exact ⟨[], rfl⟩
  | cons member members ih =>
    rw [cons, bind_eq_ok_iff] at collected
    obtain ⟨name, read, next⟩ := collected
    obtain ⟨fields, -, later⟩ := exists_of_bind_eq_ok next
    obtain ⟨named, rfl⟩ := ih later
    refine ⟨(name, member.2) :: named, ?_⟩
    rw [List.map_cons, ← Document.eq_member_of_readKey_eq_ok read]

end Fields

/-! ### Shuffle descriptors -/

namespace ShuffleFields

/-- The fields of a shuffle descriptor. -/
def scheme {δ : Type} (source : FieldSource δ) :
    Scheme δ PartitionId (Option WorkerId) Json where
  first := ⟨"partition_id", source.id .partition⟩
  second := ⟨"stores_local_resources_on", source.optionalId .worker⟩
  third := ⟨"payload", source.value⟩
  skip := source.skip
  distinct := by simp

/-- What the fields hold. -/
def slots (fields : ShuffleFields) : Slots PartitionId (Option WorkerId) Json :=
  ⟨fields.partitionId, fields.storage, fields.payload⟩

theorem put_slots {δ : Type} (source : FieldSource δ) (fields : ShuffleFields) (key : String)
    (value : δ) :
    (scheme source).put fields.slots key value = (fields.put source key value).map slots := by
  rw [put]
  simp only [apply_ite (Except.map slots), map_bind_ok]
  rfl

theorem slots_injective : Function.Injective slots := by
  rintro ⟨_, _, _⟩ ⟨_, _, _⟩ same
  cases same
  rfl

end ShuffleFields

namespace ShuffleDescriptor

theorem gather_eq_ok_iff {before after : ShuffleFields} {members : List (String × Json)} :
    gather before members = .ok after ↔
      (ShuffleFields.scheme Json.fieldSource).Collects before.slots members after.slots :=
  gathers_eq_ok_iff gather ShuffleFields.slots_injective (ShuffleFields.put_slots Json.fieldSource)
    (fun _ => rfl) (fun _ _ _ _ => rfl)

theorem collect_eq_ok_iff {room : Nat} {before after : ShuffleFields}
    {named : List (String × Document)} :
    collect room before (named.map Document.member) = .ok after ↔
      (ShuffleFields.scheme (Document.fieldSource room)).Collects before.slots named after.slots :=
  gathers_eq_ok_iff
    (fun fields (named : List (String × Document)) =>
      collect room fields (named.map Document.member))
    ShuffleFields.slots_injective (ShuffleFields.put_slots (Document.fieldSource room))
    (fun _ => rfl) (fun _ _ _ _ => rfl)

/-- The members make up the descriptor. -/
def ComposedOf {δ : Type} (descriptor : ShuffleDescriptor) (source : FieldSource δ)
    (members : List (String × δ)) : Prop :=
  ∃ slots, (ShuffleFields.scheme source).Collects {} members slots ∧
    slots.first = some descriptor.partitionId ∧ slots.second.getD none = descriptor.storage ∧
    slots.third.getD .null = descriptor.payload

theorem ComposedOf.perm {δ : Type} {descriptor : ShuffleDescriptor} {source : FieldSource δ}
    {members other : List (String × δ)} (composed : descriptor.ComposedOf source members)
    (same : members.Perm other) : descriptor.ComposedOf source other := by
  obtain ⟨slots, collects, finished⟩ := composed
  exact ⟨slots, collects.perm same, finished⟩

theorem finish_eq_ok_iff {fields : ShuffleFields} {descriptor : ShuffleDescriptor} :
    fields.finish = .ok descriptor ↔ fields.partitionId = some descriptor.partitionId ∧
      fields.storage.getD none = descriptor.storage ∧
      fields.payload.getD .null = descriptor.payload := by
  rw [ShuffleFields.finish, bind_eq_ok_iff]
  constructor
  · rintro ⟨id, taken, ⟨⟩⟩
    exact ⟨eq_some_of_required_eq_ok taken, rfl, rfl⟩
  · rintro ⟨given, stored, content⟩
    refine ⟨descriptor.partitionId, by rw [given]; rfl, ?_⟩
    rw [stored, content]
    rfl

theorem ofJson_object_eq_ok_iff {members : List (String × Json)} {descriptor : ShuffleDescriptor} :
    ofJson (.object members) = .ok descriptor ↔
      descriptor.ComposedOf Json.fieldSource members := by
  rw [ofJson, bind_eq_ok_iff]
  simp only [gather_eq_ok_iff, finish_eq_ok_iff]
  constructor
  · rintro ⟨fields, collects, finished⟩
    exact ⟨fields.slots, collects, finished⟩
  · rintro ⟨slots, collects, finished⟩
    exact ⟨⟨slots.first, slots.second, slots.third⟩, collects, finished⟩

theorem ofDocument_object_eq_ok_iff {room : Nat} {named : List (String × Document)}
    {descriptor : ShuffleDescriptor} :
    ofDocument (room + 1) (.object (named.map Document.member) none) = .ok descriptor ↔
      descriptor.ComposedOf (Document.fieldSource room) named := by
  rw [ofDocument, bind_eq_ok_iff]
  simp only [collect_eq_ok_iff]
  constructor
  · rintro ⟨fields, collects, finished⟩
    exact ⟨fields.slots, collects, finish_eq_ok_iff.mp finished⟩
  · rintro ⟨slots, collects, finished⟩
    exact ⟨⟨slots.first, slots.second, slots.third⟩, collects, finish_eq_ok_iff.mpr finished⟩

/-- An object that is read is whole, and its keys can be read. -/
theorem exists_named_of_ofDocument_eq_ok {room : Nat} {members : List (Document × Document)}
    {cut : Option Json.Fault} {descriptor : ShuffleDescriptor}
    (read : ofDocument (room + 1) (.object members cut) = .ok descriptor) :
    cut = none ∧ ∃ named : List (String × Document), members = named.map Document.member := by
  obtain ⟨fields, collected, next⟩ := exists_of_bind_eq_ok read
  obtain ⟨_, uncut, -⟩ := exists_of_bind_eq_ok next
  exact ⟨Json.eq_none_of_finish_eq_ok uncut,
    exists_named_of_collect_eq_ok (fun _ _ _ _ => rfl) collected⟩

end ShuffleDescriptor

/-! ### Deployments -/

namespace DeploymentFields

section Scheme

variable {δ : Type} (source : FieldSource δ) (readKind : δ → Except ReadError PartitionKind)
  (readShuffle : δ → Except ReadError ShuffleDescriptor)

/-- The fields of a deployment. -/
def scheme : Scheme δ DatasetId PartitionKind ShuffleDescriptor where
  first := ⟨"dataset_id", source.id .dataset⟩
  second := ⟨"kind", readKind⟩
  third := ⟨"shuffle", readShuffle⟩
  skip := source.skip
  distinct := by simp

/-- What the fields hold. -/
def slots (fields : DeploymentFields) : Slots DatasetId PartitionKind ShuffleDescriptor :=
  ⟨fields.datasetId, fields.kind, fields.shuffle⟩

theorem put_slots (fields : DeploymentFields) (key : String) (value : δ) :
    (scheme source readKind readShuffle).put fields.slots key value =
      (fields.put source readKind readShuffle key value).map slots := by
  rw [put]
  simp only [apply_ite (Except.map slots), map_bind_ok]
  rfl

end Scheme

theorem slots_injective : Function.Injective slots := by
  rintro ⟨_, _, _⟩ ⟨_, _, _⟩ same
  cases same
  rfl

theorem finish_eq_ok_iff {fields : DeploymentFields} {deployment : Deployment} :
    fields.finish = .ok deployment ↔
      fields = ⟨some deployment.datasetId, some deployment.kind, some deployment.shuffle⟩ := by
  constructor
  · intro finished
    obtain ⟨datasetId, takenId, next⟩ := exists_of_bind_eq_ok finished
    obtain ⟨kind, takenKind, next⟩ := exists_of_bind_eq_ok next
    obtain ⟨shuffle, takenShuffle, made⟩ := exists_of_bind_eq_ok next
    cases made
    rw [← eq_some_of_required_eq_ok takenId, ← eq_some_of_required_eq_ok takenKind,
      ← eq_some_of_required_eq_ok takenShuffle]
  · rintro rfl
    rfl

end DeploymentFields

namespace Deployment

theorem gather_eq_ok_iff {before after : DeploymentFields} {members : List (String × Json)} :
    gather before members = .ok after ↔
      (DeploymentFields.scheme Json.fieldSource PartitionKind.ofJson
        ShuffleDescriptor.ofJson).Collects before.slots members after.slots :=
  gathers_eq_ok_iff gather DeploymentFields.slots_injective
    (DeploymentFields.put_slots Json.fieldSource PartitionKind.ofJson ShuffleDescriptor.ofJson)
    (fun _ => rfl) (fun _ _ _ _ => rfl)

theorem collect_eq_ok_iff {room : Nat} {before after : DeploymentFields}
    {named : List (String × Document)} :
    collect room before (named.map Document.member) = .ok after ↔
      (DeploymentFields.scheme (Document.fieldSource room) (PartitionKind.ofDocument room)
        (ShuffleDescriptor.ofDocument room)).Collects before.slots named after.slots :=
  gathers_eq_ok_iff
    (fun fields (named : List (String × Document)) =>
      collect room fields (named.map Document.member))
    DeploymentFields.slots_injective
    (DeploymentFields.put_slots (Document.fieldSource room) (PartitionKind.ofDocument room)
      (ShuffleDescriptor.ofDocument room))
    (fun _ => rfl) (fun _ _ _ _ => rfl)

/-- The members make up the deployment. -/
def ComposedOf {δ : Type} (deployment : Deployment) (source : FieldSource δ)
    (readKind : δ → Except ReadError PartitionKind)
    (readShuffle : δ → Except ReadError ShuffleDescriptor) (members : List (String × δ)) : Prop :=
  (DeploymentFields.scheme source readKind readShuffle).Collects {} members
    ⟨some deployment.datasetId, some deployment.kind, some deployment.shuffle⟩

theorem ofJson_object_eq_ok_iff {members : List (String × Json)} {deployment : Deployment} :
    ofJson (.object members) = .ok deployment ↔
      deployment.ComposedOf Json.fieldSource PartitionKind.ofJson ShuffleDescriptor.ofJson
        members := by
  rw [ofJson, bind_eq_ok_iff]
  simp only [DeploymentFields.finish_eq_ok_iff, exists_eq_right]
  exact gather_eq_ok_iff

theorem ofDocument_object_eq_ok_iff {room : Nat} {named : List (String × Document)}
    {deployment : Deployment} :
    ofDocument (room + 1) (.object (named.map Document.member) none) = .ok deployment ↔
      deployment.ComposedOf (Document.fieldSource room) (PartitionKind.ofDocument room)
        (ShuffleDescriptor.ofDocument room) named := by
  rw [ofDocument, bind_eq_ok_iff]
  simp only [Document.finish, ok_bind, DeploymentFields.finish_eq_ok_iff, exists_eq_right]
  exact collect_eq_ok_iff

/-- An object that is read is whole, and its keys can be read. -/
theorem exists_named_of_ofDocument_eq_ok {room : Nat} {members : List (Document × Document)}
    {cut : Option Json.Fault} {deployment : Deployment}
    (read : ofDocument (room + 1) (.object members cut) = .ok deployment) :
    cut = none ∧ ∃ named : List (String × Document), members = named.map Document.member := by
  obtain ⟨fields, collected, next⟩ := exists_of_bind_eq_ok read
  obtain ⟨_, uncut, -⟩ := exists_of_bind_eq_ok next
  exact ⟨Json.eq_none_of_finish_eq_ok uncut,
    exists_named_of_collect_eq_ok (fun _ _ _ _ => rfl) collected⟩

end Deployment

end PartitionLedger
