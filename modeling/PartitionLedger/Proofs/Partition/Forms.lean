/-
# Forms of descriptors

A text may write one descriptor in many forms. A structure is an object with its fields in any
order and with members of other names anywhere between them, or an array of the fields in
order; a field that has its default may be left out. A kind is its name, or an object with the
name for its only key. Whatever form is chosen, also for a structure inside another one, the
same descriptor is read. A text that repeats a field or leaves out one without a default has
none of these forms, and is refused.
-/

import PartitionLedger.Proofs.Partition.Collecting

namespace PartitionLedger

open Json (Document ReadError exists_of_bind_eq_ok)

/-! ### Values -/

/-- A document that writes a value, nested up to a limit. Members of objects stand in any order.
As long as no key is repeated, it is the depth of the value that counts. If one is, then the last
member stays, but the members before it must not be too deep either. -/
inductive Json.Spelled (limit : Nat) (value : Json) : Document → Prop
  | once {given : Json} (distinct : given.document.Distinct) (same : given.sorted = value)
      (shallow : value.depth ≤ limit) : Spelled limit value given.document
  | repeated {given : Json} (same : given.sorted = value) (shallow : given.depth ≤ limit) :
      Spelled limit value given.document

theorem Json.Spelled.readValue_eq {limit : Nat} {value : Json} {document : Document}
    (spelled : value.Spelled limit document) : document.readValue limit = .ok value := by
  cases spelled with
  | @once given distinct same shallow =>
    rw [← same, depth_sorted given distinct] at shallow
    rw [readValue_document_eq, within, if_pos shallow, same]
  | @repeated given same shallow =>
    rw [readValue_document_eq, within, if_pos shallow, same]

/-- A document that writes an identifier: a string in any of its spellings. -/
def Id.Spelled {kind : IdKind} (id : Id kind) (document : Document) : Prop :=
  ∃ text, document = .string (.ok text) ∧ parse kind text = .ok id

/-- A document that writes an identifier that may be missing. -/
def Id.OptionSpelled {kind : IdKind} : Option (Id kind) → Document → Prop
  | none, document => document = .null
  | some id, document => id.Spelled document

section Ids

variable (room : Nat) {kind : IdKind} {document : Document}

theorem Id.Spelled.id_eq {id : Id kind} (spelled : id.Spelled document) :
    (Document.fieldSource room).id kind document = .ok id := by
  obtain ⟨text, rfl, parsed⟩ := spelled
  exact id_of_parse room parsed

theorem Id.OptionSpelled.optionalId_eq {id : Option (Id kind)}
    (spelled : OptionSpelled id document) :
    (Document.fieldSource room).optionalId kind document = .ok id := by
  cases id with
  | none =>
    obtain rfl : document = .null := spelled
    rfl
  | some id =>
    obtain ⟨text, rfl, parsed⟩ := spelled
    exact optionalId_of_parse room parsed

end Ids

/-- A document that writes a kind: its name, or an object with the name and a null. -/
inductive PartitionKind.Spelled (kind : PartitionKind) : Document → Prop
  | name : Spelled kind (.string (.ok kind.name))
  | object : Spelled kind (.object [Document.member (kind.name, .null)] none)

theorem PartitionKind.Spelled.ofDocument_eq {kind : PartitionKind} {document : Document}
    (spelled : kind.Spelled document) (room : Nat) :
    ofDocument (room + 1) document = .ok kind := by
  cases spelled with
  | name => exact kind.ofName_name
  | object =>
    show (ofName kind.name >>= fun kind => .ok kind) = .ok kind
    rw [kind.ofName_name]
    rfl

/-! ### Fields of an object -/

section Given

variable {α : Type} (spelled : α → Document → Prop)

/-- There is one value, which writes the result. -/
def GivenOnce (result : α) (values : List Document) : Prop :=
  ∃ value, values = [value] ∧ spelled result value

/-- There is one value, which writes the result, or none if the result is the default. -/
def GivenOrLeft (default result : α) (values : List Document) : Prop :=
  GivenOnce spelled result values ∨ (values = [] ∧ result = default)

variable {spelled} {read : Document → Except ReadError α} {default result : α}
  {values : List Document}

theorem GivenOnce.holds (given : GivenOnce spelled result values)
    (reads : ∀ value ∈ values, spelled result value → read value = .ok result) :
    Holds read none values (some result) := by
  obtain ⟨value, rfl, writes⟩ := given
  exact ⟨rfl, result, reads value List.mem_cons_self writes, rfl⟩

theorem GivenOrLeft.exists_holds (given : GivenOrLeft spelled default result values)
    (reads : ∀ value ∈ values, spelled result value → read value = .ok result) :
    ∃ slot, Holds read none values slot ∧ slot.getD default = result := by
  rcases given with once | ⟨rfl, rfl⟩
  · exact ⟨some result, once.holds reads, rfl⟩
  · exact ⟨none, rfl, rfl⟩

end Given

section Whole

variable {named : List (String × Document)} {cut : Option Json.Fault}
  (whole : (Document.object (named.map Document.member) cut).Whole)

include whole

/-- The values in a whole object are whole. -/
theorem whole_of_mem_named : ∀ entry ∈ named, entry.2.Whole := by
  intro entry inside
  exact ((Document.wholeMembers_iff _).mp whole.2 _ (List.mem_map_of_mem inside)).2

/-- Members of a whole object can be skipped. -/
theorem skip_of_mem_named (room : Nat) :
    ∀ entry ∈ named, (Document.fieldSource room).skip entry.2 = .ok () := by
  intro entry inside
  have read : (Document.fieldSource room).skip entry.2 = Json.fromToken entry.2.skip := rfl
  rw [read, (whole_of_mem_named whole entry inside).skip_eq_ok]
  rfl

end Whole

/-! ### Structures -/

/-- A document that writes a shuffle descriptor: an object with the fields in any order, among
members of other names, or an array of the fields in order. -/
inductive ShuffleDescriptor.Spelled (limit : Nat) (descriptor : ShuffleDescriptor) :
    Document → Prop
  | object {named : List (String × Document)}
      (partitionId : GivenOnce Id.Spelled descriptor.partitionId
        (valuesNamed "partition_id" named))
      (storage : GivenOrLeft Id.OptionSpelled none descriptor.storage
        (valuesNamed "stores_local_resources_on" named))
      (payload : GivenOrLeft (Json.Spelled limit) .null descriptor.payload
        (valuesNamed "payload" named)) :
      Spelled limit descriptor (.object (named.map Document.member) none)
  | identified {first : Document} (partitionId : descriptor.partitionId.Spelled first)
      (storage : descriptor.storage = none) (payload : descriptor.payload = .null) :
      Spelled limit descriptor (.array [first] none)
  | stored {first second : Document} (partitionId : descriptor.partitionId.Spelled first)
      (storage : Id.OptionSpelled descriptor.storage second)
      (payload : descriptor.payload = .null) :
      Spelled limit descriptor (.array [first, second] none)
  | full {first second third : Document} (partitionId : descriptor.partitionId.Spelled first)
      (storage : Id.OptionSpelled descriptor.storage second)
      (payload : descriptor.payload.Spelled limit third) :
      Spelled limit descriptor (.array [first, second, third] none)

theorem ShuffleDescriptor.Spelled.ofDocument_eq {room : Nat} {descriptor : ShuffleDescriptor}
    {document : Document} (spelled : descriptor.Spelled room document) (whole : document.Whole) :
    ofDocument (room + 1) document = .ok descriptor := by
  cases spelled with
  | object partitionId storage payload =>
    -- Each field fills its slot by itself, and whatever has another name can be skipped.
    obtain ⟨second, secondHolds, stored⟩ :=
      storage.exists_holds fun _ _ writes => writes.optionalId_eq room
    obtain ⟨third, thirdHolds, content⟩ :=
      payload.exists_holds fun _ _ writes => writes.readValue_eq
    rw [ofDocument_object_eq_ok_iff]
    exact ⟨⟨some descriptor.partitionId, second, third⟩,
      { first := partitionId.holds fun _ _ writes => writes.id_eq room
        second := secondHolds
        third := thirdHolds
        skipped := fun entry inside _ => skip_of_mem_named whole room entry inside },
      rfl, stored, content⟩
  | @identified first partitionId storage payload =>
    show ((Document.fieldSource room).id .partition first >>= fun partitionId =>
      .ok ⟨partitionId, none, .null⟩) = Except.ok descriptor
    rw [partitionId.id_eq room, ← storage, ← payload]
    rfl
  | @stored first second partitionId storage payload =>
    show ((Document.fieldSource room).id .partition first >>= fun partitionId =>
      (Document.fieldSource room).optionalId .worker second >>= fun storage =>
        .ok ⟨partitionId, storage, .null⟩) = Except.ok descriptor
    rw [partitionId.id_eq room, storage.optionalId_eq room, ← payload]
    rfl
  | @full first second third partitionId storage payload =>
    show ((Document.fieldSource room).id .partition first >>= fun partitionId =>
      (Document.fieldSource room).optionalId .worker second >>= fun storage =>
        third.readValue room >>= fun payload =>
          .ok ⟨partitionId, storage, payload⟩) = Except.ok descriptor
    rw [partitionId.id_eq room, storage.optionalId_eq room, payload.readValue_eq]
    rfl

/-- A document that writes a deployment: an object with the fields in any order, among members of
other names, or an array of the fields in order. -/
inductive Deployment.Spelled (limit : Nat) (deployment : Deployment) : Document → Prop
  | object {named : List (String × Document)}
      (datasetId : GivenOnce Id.Spelled deployment.datasetId (valuesNamed "dataset_id" named))
      (kind : GivenOnce PartitionKind.Spelled deployment.kind (valuesNamed "kind" named))
      (shuffle : GivenOnce (ShuffleDescriptor.Spelled limit) deployment.shuffle
        (valuesNamed "shuffle" named)) :
      Spelled limit deployment (.object (named.map Document.member) none)
  | full {first second third : Document} (datasetId : deployment.datasetId.Spelled first)
      (kind : deployment.kind.Spelled second) (shuffle : deployment.shuffle.Spelled limit third) :
      Spelled limit deployment (.array [first, second, third] none)

/-- The fields of an array that has them all are read one after the other. -/
theorem Deployment.ofItems_three (room : Nat) (first second third : Document)
    (later : List Document) (cut : Option Json.Fault) :
    ofItems room (first :: second :: third :: later) cut =
      (Id.ofDocument .dataset first >>= fun datasetId =>
        PartitionKind.ofDocument room second >>= fun kind =>
          ShuffleDescriptor.ofDocument room third >>= fun shuffle =>
            Document.finishEmpty later cut ⟨datasetId, kind, shuffle⟩) := rfl

theorem Deployment.Spelled.ofDocument_eq {room : Nat} {deployment : Deployment}
    {document : Document} (spelled : deployment.Spelled room document) (whole : document.Whole) :
    ofDocument (room + 2) document = .ok deployment := by
  cases spelled with
  | object datasetId kind shuffle =>
    rw [ofDocument_object_eq_ok_iff]
    exact
      { first := datasetId.holds fun _ _ writes => writes.id_eq (room + 1)
        second := kind.holds fun _ _ writes => writes.ofDocument_eq room
        third := shuffle.holds fun _ inside writes =>
          writes.ofDocument_eq (whole_of_mem_named whole _ (mem_of_mem_valuesNamed inside))
        skipped := fun entry inside _ => skip_of_mem_named whole (room + 1) entry inside }
  | @full first second third datasetId kind shuffle =>
    obtain ⟨-, -, -, wholeShuffle, -⟩ := whole
    rw [ofDocument, ofItems_three, Id.ofDocument, datasetId.id_eq 0, kind.ofDocument_eq room,
      shuffle.ofDocument_eq wholeShuffle]
    rfl

/-! ### Fields that every accepted object has -/

namespace Json.Document

/-- The documents that members give under a name. -/
def given (name : String) (members : List (Document × Document)) : List Document :=
  (members.filter fun member => member.1.key? = some name).map Prod.snd

/-- If the document is an object, it gives each known field at most once, and none of the required
ones is missing. -/
def HasFields (required known : List String) : Document → Prop
  | object members _ => (∀ name ∈ required, (given name members).length = 1) ∧
      ∀ name ∈ known, (given name members).length ≤ 1
  | _ => True

theorem given_map_member (name : String) (named : List (String × Document)) :
    given name (named.map member) = valuesNamed name named := by
  rw [given, valuesNamed, List.filter_map, List.map_map]
  refine congrArg₂ List.map rfl (List.filter_congr fun entry _ => ?_)
  exact decide_eq_decide.mpr ⟨Option.some.inj, congrArg some⟩

/-- The documents that stand for the shuffle descriptor of a deployment. -/
def shuffles : Document → List Document
  | object members _ => given "shuffle" members
  | array (_ :: _ :: third :: _) _ => [third]
  | _ => []

end Json.Document

namespace ShuffleDescriptor

/-- If the document is an object, it gives the identifier of the partition once, and the other
fields at most once. -/
def FieldsOnce : Document → Prop :=
  Document.HasFields ["partition_id"] ["partition_id", "stores_local_resources_on", "payload"]

theorem fieldsOnce_of_ofDocument {room : Nat} {document : Document} {descriptor : ShuffleDescriptor}
    (read : ofDocument room document = .ok descriptor) : FieldsOnce document := by
  cases document with
  | object members cut =>
    cases room with
    | zero => cases read
    | succ room =>
      obtain ⟨rfl, named, rfl⟩ := exists_named_of_ofDocument_eq_ok read
      obtain ⟨slots, collects, identified, -⟩ := ofDocument_object_eq_ok_iff.mp read
      have once := collects.first.length_eq
      rw [identified] at once
      constructor
      · rw [List.forall_mem_singleton, Document.given_map_member]
        exact once
      · simp only [Document.given_map_member]
        exact collects.length_le_one
  | null | boolean | number | string | array | absent | broken => trivial

end ShuffleDescriptor

namespace Deployment

/-- If the document is an object, it gives every field once. An object that stands for its shuffle
descriptor gives the fields of that one once, or leaves out those that have a default. -/
structure FieldsOnce (document : Document) : Prop where
  outer : document.HasFields ["dataset_id", "kind", "shuffle"] ["dataset_id", "kind", "shuffle"]
  inner : ∀ shuffle ∈ document.shuffles, ShuffleDescriptor.FieldsOnce shuffle

theorem fieldsOnce_of_ofItems {room : Nat} {items : List Document} {cut : Option Json.Fault}
    {deployment : Deployment} (read : ofItems room items cut = .ok deployment) :
    FieldsOnce (.array items cut) := by
  refine ⟨trivial, ?_⟩
  -- Fewer than three items hold no shuffle descriptor.
  obtain _ | ⟨first, _ | ⟨second, _ | ⟨third, later⟩⟩⟩ := items
  · exact nofun
  · exact nofun
  · exact nofun
  · rw [ofItems_three] at read
    obtain ⟨datasetId, -, next⟩ := exists_of_bind_eq_ok read
    obtain ⟨kind, -, next⟩ := exists_of_bind_eq_ok next
    obtain ⟨shuffle, readShuffle, -⟩ := exists_of_bind_eq_ok next
    exact List.forall_mem_singleton.mpr (ShuffleDescriptor.fieldsOnce_of_ofDocument readShuffle)

theorem fieldsOnce_of_members {room : Nat} {members : List (Document × Document)}
    {cut : Option Json.Fault} {deployment : Deployment}
    (read : ofDocument (room + 1) (.object members cut) = .ok deployment) :
    FieldsOnce (.object members cut) := by
  obtain ⟨rfl, named, rfl⟩ := exists_named_of_ofDocument_eq_ok read
  have collects := ofDocument_object_eq_ok_iff.mp read
  refine ⟨⟨?_, ?_⟩, ?_⟩
  · simp only [List.forall_mem_cons, Document.given_map_member]
    exact ⟨collects.first.length_eq, collects.second.length_eq, collects.third.length_eq, nofun⟩
  · simp only [Document.given_map_member]
    exact collects.length_le_one
  · intro shuffle inside
    rw [Document.shuffles, Document.given_map_member] at inside
    exact ShuffleDescriptor.fieldsOnce_of_ofDocument (collects.third.read_of_mem inside)

theorem fieldsOnce_of_ofDocument {room : Nat} {document : Document} {deployment : Deployment}
    (read : ofDocument room document = .ok deployment) : FieldsOnce document := by
  cases document with
  | object members cut =>
    cases room with
    | zero => cases read
    | succ room => exact fieldsOnce_of_members read
  | array items cut =>
    cases room with
    | zero => cases read
    | succ room => exact fieldsOnce_of_ofItems read
  | null | boolean | number | string | absent | broken => exact ⟨trivial, nofun⟩

end Deployment

/-! ### Texts -/

/-- A text that writes a shuffle descriptor in any of its forms, with a payload nested no deeper
than 126 levels, is read as that descriptor, and so is one that writes a deployment, with a payload
nested no deeper than 125. Members of other names may hold anything, nested to any depth. And no
text is read that is an object, or has one for its shuffle descriptor, where a known field is
repeated or one without a default is missing. -/
theorem forms_read_alike :
    (∀ (descriptor : ShuffleDescriptor) (document : Document) (text : String),
      document.Written text → descriptor.Spelled 126 document →
        ShuffleDescriptor.ofText text = .ok descriptor) ∧
    (∀ (deployment : Deployment) (document : Document) (text : String),
      document.Written text → deployment.Spelled 125 document →
        Deployment.ofText text = .ok deployment) ∧
    (∀ (text : String) (descriptor : ShuffleDescriptor),
      ShuffleDescriptor.ofText text = .ok descriptor →
        ShuffleDescriptor.FieldsOnce (Document.ofText text).1) ∧
    (∀ (text : String) (deployment : Deployment),
      Deployment.ofText text = .ok deployment →
        Deployment.FieldsOnce (Document.ofText text).1) := by
  refine ⟨?_, ?_, ?_, ?_⟩
  · intro descriptor document text written spelled
    rw [ShuffleDescriptor.ofText, Document.readText_eq _ (Document.ofText_of_written written)]
    exact spelled.ofDocument_eq written.1
  · intro deployment document text written spelled
    rw [Deployment.ofText, Document.readText_eq _ (Document.ofText_of_written written)]
    exact spelled.ofDocument_eq written.1
  · intro text descriptor accepted
    obtain ⟨document, spelled, read⟩ := Document.ofText_of_readText_eq_ok accepted
    rw [spelled]
    exact ShuffleDescriptor.fieldsOnce_of_ofDocument read
  · intro text deployment accepted
    obtain ⟨document, spelled, read⟩ := Document.ofText_of_readText_eq_ok accepted
    rw [spelled]
    exact Deployment.fieldsOnce_of_ofDocument read

/-- The value of a deployment in mixed forms: an object whose fields stand in another order around a
member that nobody knows, with its kind as an object and its shuffle descriptor as an array. -/
def mixedDeployment : Json :=
  .object [("shuffle", .array [Id.toJson (⟨5⟩ : PartitionId), .null,
      .object [("size", .boolean true), ("bucket", .null)]]),
    ("note", .object [("kind", .array [])]), ("kind", .object [("blocking", .null)]),
    ("dataset_id", Id.toJson (⟨7⟩ : DatasetId))]

theorem exact_mixedDeployment : mixedDeployment.Exact :=
  ⟨⟨trivial, trivial, ⟨trivial, trivial, trivial⟩, trivial⟩, ⟨trivial, trivial⟩, ⟨trivial, trivial⟩,
    trivial, trivial⟩

theorem spelled_mixedDeployment :
    Deployment.Spelled 125 ⟨⟨7⟩, .blocking,
      ⟨⟨5⟩, none, .object [("bucket", .null), ("size", .boolean true)]⟩⟩
      mixedDeployment.document := by
  refine @Deployment.Spelled.object 125 _
    [("shuffle", _), ("note", _), ("kind", _), ("dataset_id", _)]
    ⟨_, rfl, _, rfl, Id.parse_text _⟩ ⟨_, rfl, .object⟩ ⟨_, rfl, ?_⟩
  refine .full ⟨_, rfl, Id.parse_text _⟩ rfl ?_
  exact @Json.Spelled.once 125 _ (.object [("size", .boolean true), ("bucket", .null)])
    ⟨by decide, trivial, trivial, trivial⟩ (by decide) (by decide)

/-- A deployment is read in mixed forms, and its text is not one that repeats a field. -/
theorem forms_read_alike_mixed :
    Deployment.ofText mixedDeployment.text =
        .ok ⟨⟨7⟩, .blocking,
          ⟨⟨5⟩, none, .object [("bucket", .null), ("size", .boolean true)]⟩⟩ ∧
      Deployment.FieldsOnce (Document.ofText mixedDeployment.text).1 := by
  have read := forms_read_alike.2.1 _ _ _
    (Json.written_text mixedDeployment exact_mixedDeployment) spelled_mixedDeployment
  exact ⟨read, forms_read_alike.2.2.2 _ _ read⟩

end PartitionLedger
