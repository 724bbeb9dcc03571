/-
# Descriptors read back from their texts

A descriptor is written as an object with one member for each field, and reading collects
the members again. The payload of a shuffle descriptor stands one level below the top, and
two levels below inside a deployment, so that it has less room for nesting by as much. Writing
knows no such limit.
-/

import PartitionLedger.Partition.Encoding
import PartitionLedger.Partition.OfDocument
import PartitionLedger.Proofs.Identity.Grammar
import PartitionLedger.Proofs.Json.Restoration

namespace PartitionLedger

open Json (Document ReadError Fits within ok_bind exists_of_bind_eq_ok)

/-! ### Fields -/

theorem id_of_parse {kind : IdKind} (room : Nat) {text : String} {id : Id kind}
    (parsed : Id.parse kind text = .ok id) :
    (Document.fieldSource room).id kind (.string (.ok text)) = .ok id := by
  have read : (Document.fieldSource room).string (.string (.ok text)) = .ok text := rfl
  rw [FieldSource.id, read, ok_bind, parsed]

theorem optionalId_of_parse {kind : IdKind} (room : Nat) {text : String} {id : Id kind}
    (parsed : Id.parse kind text = .ok id) :
    (Document.fieldSource room).optionalId kind (.string (.ok text)) = .ok (some id) := by
  have given : (Document.fieldSource room).isNull (.string (.ok text)) = false := rfl
  rw [FieldSource.optionalId, given, id_of_parse room parsed]
  rfl

theorem id_toJson {kind : IdKind} (room : Nat) (id : Id kind) :
    (Document.fieldSource room).id kind id.toJson.document = .ok id :=
  id_of_parse room id.parse_text

theorem optionalId_toJson {kind : IdKind} (room : Nat) (id : Id kind) :
    (Document.fieldSource room).optionalId kind id.toJson.document = .ok (some id) :=
  optionalId_of_parse room id.parse_text

theorem PartitionKind.ofName_name (kind : PartitionKind) : ofName kind.name = .ok kind := by
  rw [ofName, ofName?_name]

theorem PartitionKind.ofDocument_toJson (room : Nat) (kind : PartitionKind) :
    PartitionKind.ofDocument room kind.toJson.document = .ok kind :=
  kind.ofName_name

theorem fill_none {α : Type} (name : String) (value : Except ReadError α) :
    fill name none value = value.map some := rfl

namespace ShuffleFields

variable {δ : Type} (source : FieldSource δ) (fields : ShuffleFields) (value : δ)

theorem put_partitionId {id : PartitionId} (read : source.id .partition value = .ok id)
    (empty : fields.partitionId = none) :
    fields.put source "partition_id" value = .ok { fields with partitionId := some id } := by
  rw [put, if_pos rfl, empty, fill_none, read]
  rfl

theorem put_storage {storage : Option WorkerId}
    (read : source.optionalId .worker value = .ok storage) (empty : fields.storage = none) :
    fields.put source "stores_local_resources_on" value =
      .ok { fields with storage := some storage } := by
  rw [put, if_neg (by decide), if_pos rfl, empty, fill_none, read]
  rfl

theorem put_payload {room depth : Nat} {payload : Json}
    (read : source.value value = within room depth payload) (empty : fields.payload = none) :
    fields.put source "payload" value =
      within room depth { fields with payload := some payload } := by
  rw [put, if_neg (by decide), if_neg (by decide), if_pos rfl, empty, fill_none, read,
    Json.map_within]
  exact Json.within_bind room rfl

end ShuffleFields

namespace ShuffleDescriptor

theorem collect_member (room : Nat) (fields : ShuffleFields) (key : String) (value : Document)
    (members : List (Document × Document)) :
    collect room fields ((.string (.ok key), value) :: members) =
      (fields.put (Document.fieldSource room) key value >>= fun fields =>
        collect room fields members) := rfl

/-- The storing worker is there if the descriptor names one. -/
theorem collect_storage {room : Nat} (fields : ShuffleFields) (storage : Option WorkerId)
    (later : List (Document × Document)) (empty : fields.storage = none) :
    collect room fields
        ((storage.toList.map fun worker =>
          (.string (.ok "stores_local_resources_on"), worker.toJson.document)) ++ later) =
      collect room { fields with storage := storage.map some } later := by
  cases storage with
  | none =>
    obtain ⟨partitionId, _, payload⟩ := fields
    cases empty
    rfl
  | some worker =>
    have put := ShuffleFields.put_storage _ fields _ (optionalId_toJson room worker) empty
    exact congrArg (· >>= fun fields => collect room fields later) put

/-- The payload comes last. -/
theorem collect_payload (payload : Json) (canonical : payload.Canonical) (room : Nat)
    (fields : ShuffleFields) (empty : fields.payload = none) :
    collect room fields [(.string (.ok "payload"), payload.document)] =
      within room payload.depth { fields with payload := some payload } := by
  have read := Json.readValue_document payload canonical room
  rw [collect_member, ShuffleFields.put_payload (Document.fieldSource room) _ _ read empty]
  exact Json.within_bind room rfl

/-- The document of a written descriptor, with its members cut apart. -/
theorem document_toJson (descriptor : ShuffleDescriptor) :
    descriptor.toJson.document =
      .object ((.string (.ok "partition_id"), descriptor.partitionId.toJson.document) ::
        (descriptor.storage.toList.map fun worker =>
          (.string (.ok "stores_local_resources_on"), worker.toJson.document)) ++
        [(.string (.ok "payload"), descriptor.payload.document)]) none := by
  obtain ⟨partitionId, storage, payload⟩ := descriptor
  cases storage <;> rfl

theorem ofDocument_toJson (descriptor : ShuffleDescriptor)
    (canonical : descriptor.payload.Canonical) (room : Nat) :
    ofDocument (room + 1) descriptor.toJson.document =
      within room descriptor.payload.depth descriptor := by
  rw [document_toJson, ofDocument, List.cons_append, collect_member,
    ShuffleFields.put_partitionId _ _ _ (id_toJson room _) rfl, ok_bind, collect_storage _ _ _ rfl,
    collect_payload _ canonical _ _ rfl]
  obtain ⟨partitionId, storage, payload⟩ := descriptor
  cases storage <;> exact Json.within_bind room rfl

end ShuffleDescriptor

namespace DeploymentFields

variable {δ : Type} (source : FieldSource δ) (readKind : δ → Except ReadError PartitionKind)
  (readShuffle : δ → Except ReadError ShuffleDescriptor) (fields : DeploymentFields) (value : δ)

theorem put_datasetId {id : DatasetId} (read : source.id .dataset value = .ok id)
    (empty : fields.datasetId = none) :
    fields.put source readKind readShuffle "dataset_id" value =
      .ok { fields with datasetId := some id } := by
  rw [put, if_pos rfl, empty, fill_none, read]
  rfl

theorem put_kind {kind : PartitionKind} (read : readKind value = .ok kind)
    (empty : fields.kind = none) :
    fields.put source readKind readShuffle "kind" value =
      .ok { fields with kind := some kind } := by
  rw [put, if_neg (by decide), if_pos rfl, empty, fill_none, read]
  rfl

theorem put_shuffle {room depth : Nat} {shuffle : ShuffleDescriptor}
    (read : readShuffle value = within room depth shuffle) (empty : fields.shuffle = none) :
    fields.put source readKind readShuffle "shuffle" value =
      within room depth { fields with shuffle := some shuffle } := by
  rw [put, if_neg (by decide), if_neg (by decide), if_pos rfl, empty, fill_none, read,
    Json.map_within]
  exact Json.within_bind room rfl

end DeploymentFields

namespace Deployment

theorem collect_member (room : Nat) (fields : DeploymentFields) (key : String) (value : Document)
    (members : List (Document × Document)) :
    collect room fields ((.string (.ok key), value) :: members) =
      (fields.put (Document.fieldSource room) (PartitionKind.ofDocument room)
        (ShuffleDescriptor.ofDocument room) key value >>= fun fields =>
          collect room fields members) := rfl

/-- A deployment is read back from its document if its payload fits two levels further in. -/
theorem ofDocument_toJson (deployment : Deployment)
    (canonical : deployment.shuffle.payload.Canonical) (room : Nat) :
    ofDocument (room + 2) deployment.toJson.document =
      within room deployment.shuffle.payload.depth deployment := by
  have read := deployment.shuffle.ofDocument_toJson canonical room
  have written : deployment.toJson.document = .object
      [(.string (.ok "dataset_id"), deployment.datasetId.toJson.document),
        (.string (.ok "kind"), deployment.kind.toJson.document),
        (.string (.ok "shuffle"), deployment.shuffle.toJson.document)] none := rfl
  rw [written, ofDocument, collect_member,
    DeploymentFields.put_datasetId _ _ _ _ _ (id_toJson _ _) rfl, ok_bind, collect_member,
    DeploymentFields.put_kind _ _ _ _ _ (PartitionKind.ofDocument_toJson _ _) rfl, ok_bind,
    collect_member, DeploymentFields.put_shuffle _ _ _ _ _ read rfl, bind_assoc]
  exact Json.within_bind room rfl

end Deployment

/-! ### Payloads that are accepted -/

theorem exists_of_fill_eq_ok {α : Type} {name : String} {slot filled : Option α}
    {value : Except ReadError α} (succeeded : fill name slot value = .ok filled) :
    ∃ result, value = .ok result ∧ filled = some result := by
  cases slot with
  | some _ => cases succeeded
  | none =>
    cases value with
    | error _ => cases succeeded
    | ok result => exact ⟨result, rfl, (Except.ok.inj succeeded).symm⟩

theorem eq_some_of_required_eq_ok {α : Type} {name : String} {slot : Option α} {value : α}
    (taken : required name slot = .ok value) : slot = some value := by
  cases slot with
  | none => cases taken
  | some given => rw [Except.ok.inj taken]

/-- A member leaves the payload alone or is the payload. -/
theorem ShuffleFields.payload_of_put {δ : Type} {source : FieldSource δ}
    {fields later : ShuffleFields} {key : String} {value : δ}
    (put : fields.put source key value = .ok later) :
    later.payload = fields.payload ∨
      ∃ payload, source.value value = .ok payload ∧ later.payload = some payload := by
  rw [ShuffleFields.put] at put
  split_ifs at put
  all_goals
    obtain ⟨_, filled, made⟩ := exists_of_bind_eq_ok put
    cases made
  · exact .inl rfl
  · exact .inl rfl
  · exact .inr (exists_of_fill_eq_ok filled)
  · exact .inl rfl

/-- A member leaves the shuffle descriptor alone or is the descriptor. -/
theorem DeploymentFields.shuffle_of_put {δ : Type} {source : FieldSource δ}
    {readKind : δ → Except ReadError PartitionKind}
    {readShuffle : δ → Except ReadError ShuffleDescriptor} {fields later : DeploymentFields}
    {key : String} {value : δ}
    (put : fields.put source readKind readShuffle key value = .ok later) :
    later.shuffle = fields.shuffle ∨
      ∃ shuffle, readShuffle value = .ok shuffle ∧ later.shuffle = some shuffle := by
  rw [DeploymentFields.put] at put
  split_ifs at put
  all_goals
    obtain ⟨_, filled, made⟩ := exists_of_bind_eq_ok put
    cases made
  · exact .inl rfl
  · exact .inl rfl
  · exact .inr (exists_of_fill_eq_ok filled)
  · exact .inl rfl

theorem eq_of_finishEmpty_eq_ok {α β : Type} {left : List β} {cut : Option Json.Fault}
    {result value : α} (finished : Document.finishEmpty left cut result = .ok value) :
    value = result := by
  cases left with
  | nil => exact Json.eq_of_finish_eq_ok finished
  | cons _ _ => cases finished

namespace ShuffleDescriptor

variable {room : Nat}

theorem fits_of_collect {members : List (Document × Document)} {fields later : ShuffleFields}
    (collected : collect room fields members = .ok later)
    (fit : ∀ payload ∈ fields.payload, Fits room payload) :
    ∀ payload ∈ later.payload, Fits room payload := by
  induction members generalizing fields with
  | nil =>
    cases collected
    exact fit
  | cons member members ih =>
    obtain ⟨key, _, next⟩ := exists_of_bind_eq_ok collected
    obtain ⟨filled, put, next⟩ := exists_of_bind_eq_ok next
    refine ih next ?_
    rcases ShuffleFields.payload_of_put put with same | ⟨given, read, same⟩
    · rwa [same]
    · rw [same]
      rintro payload ⟨⟩
      exact Json.fits_of_readValue member.2 read

theorem fits_of_ofItems {items : List Document} {cut : Option Json.Fault}
    {descriptor : ShuffleDescriptor} (read : ofItems room items cut = .ok descriptor) :
    Fits room descriptor.payload := by
  obtain ⟨_ | ⟨item, items⟩, _, next⟩ := exists_of_bind_eq_ok read
  · cases next
  obtain ⟨partitionId, _, next⟩ := exists_of_bind_eq_ok next
  obtain ⟨_ | ⟨item, items⟩, _, next⟩ := exists_of_bind_eq_ok next
  · cases next
    exact Json.fits_null room
  obtain ⟨storage, _, next⟩ := exists_of_bind_eq_ok next
  obtain ⟨_ | ⟨item, items⟩, _, next⟩ := exists_of_bind_eq_ok next
  · cases next
    exact Json.fits_null room
  obtain ⟨payload, readPayload, finished⟩ := exists_of_bind_eq_ok next
  rw [eq_of_finishEmpty_eq_ok finished]
  exact Json.fits_of_readValue item readPayload

/-- The payload of a descriptor read from any document fits one level further in. -/
theorem fits_of_ofDocument {document : Document} {descriptor : ShuffleDescriptor}
    (read : ofDocument (room + 1) document = .ok descriptor) : Fits room descriptor.payload := by
  cases document with
  | array items cut => exact fits_of_ofItems read
  | object members cut =>
    obtain ⟨fields, collected, next⟩ := exists_of_bind_eq_ok read
    obtain ⟨finished, cutOff, next⟩ := exists_of_bind_eq_ok next
    obtain ⟨partitionId, _, made⟩ := exists_of_bind_eq_ok next
    cases made
    rw [Json.eq_of_finish_eq_ok cutOff]
    have fit := fits_of_collect collected nofun
    cases given : fields.payload with
    | none => exact Json.fits_null room
    | some payload => exact fit payload given
  | null | boolean | number | string | absent | broken => cases read

end ShuffleDescriptor

namespace Deployment

variable {room : Nat}

theorem fits_of_collect {members : List (Document × Document)} {fields later : DeploymentFields}
    (collected : collect (room + 1) fields members = .ok later)
    (fit : ∀ shuffle ∈ fields.shuffle, Fits room shuffle.payload) :
    ∀ shuffle ∈ later.shuffle, Fits room shuffle.payload := by
  induction members generalizing fields with
  | nil =>
    cases collected
    exact fit
  | cons member members ih =>
    obtain ⟨key, _, next⟩ := exists_of_bind_eq_ok collected
    obtain ⟨filled, put, next⟩ := exists_of_bind_eq_ok next
    refine ih next ?_
    rcases DeploymentFields.shuffle_of_put put with same | ⟨given, read, same⟩
    · rwa [same]
    · rw [same]
      rintro shuffle ⟨⟩
      exact ShuffleDescriptor.fits_of_ofDocument read

theorem fits_of_ofItems {items : List Document} {cut : Option Json.Fault} {deployment : Deployment}
    (read : ofItems (room + 1) items cut = .ok deployment) :
    Fits room deployment.shuffle.payload := by
  obtain ⟨_ | ⟨item, items⟩, _, next⟩ := exists_of_bind_eq_ok read
  · cases next
  obtain ⟨datasetId, _, next⟩ := exists_of_bind_eq_ok next
  obtain ⟨_ | ⟨item, items⟩, _, next⟩ := exists_of_bind_eq_ok next
  · cases next
  obtain ⟨kind, _, next⟩ := exists_of_bind_eq_ok next
  obtain ⟨_ | ⟨item, items⟩, _, next⟩ := exists_of_bind_eq_ok next
  · cases next
  obtain ⟨shuffle, readShuffle, finished⟩ := exists_of_bind_eq_ok next
  rw [eq_of_finishEmpty_eq_ok finished]
  exact ShuffleDescriptor.fits_of_ofDocument readShuffle

/-- The payload of a deployment read from any document fits two levels further in. -/
theorem fits_of_ofDocument {document : Document} {deployment : Deployment}
    (read : ofDocument (room + 2) document = .ok deployment) :
    Fits room deployment.shuffle.payload := by
  cases document with
  | array items cut => exact fits_of_ofItems read
  | object members cut =>
    obtain ⟨fields, collected, next⟩ := exists_of_bind_eq_ok read
    obtain ⟨finished, cutOff, next⟩ := exists_of_bind_eq_ok next
    obtain ⟨datasetId, _, next⟩ := exists_of_bind_eq_ok next
    obtain ⟨kind, _, next⟩ := exists_of_bind_eq_ok next
    obtain ⟨shuffle, given, made⟩ := exists_of_bind_eq_ok next
    cases made
    rw [Json.eq_of_finish_eq_ok cutOff] at given
    exact fits_of_collect collected nofun shuffle (eq_some_of_required_eq_ok given)
  | null | boolean | number | string | absent | broken => cases read

end Deployment

/-! ### Texts -/

/-- Values with a payload inside are written and read faithfully, up to a limit on how deeply
the payload is nested. A payload counts as written exactly if it holds no binary64 number. -/
structure Faithful {α : Type} (payload : α → Json) (write : α → String)
    (read : String → Except ReadError α) (limit : Nat) : Prop where
  /-- A text gives back what was written, or is malformed if the payload is nested too deeply. -/
  read_write : ∀ value, (payload value).Canonical → (payload value).Exact →
    read (write value) = if (payload value).depth ≤ limit then .ok value else .error .malformed
  /-- Within the limit, different values have different texts. -/
  write_injective : ∀ first second,
    Fits limit (payload first) → (payload first).Exact →
    Fits limit (payload second) → (payload second).Exact →
    write first = write second → first = second
  /-- Whatever text a value was read from, it has a payload within the limit, and its own text
  gives it back and is kept from then on. -/
  write_read : ∀ text value, read text = .ok value → Fits limit (payload value) ∧
    ((payload value).Exact → read (write value) = .ok value ∧
      (read (write value)).map write = .ok (write value))

/-- It is enough that values within the limit are read back and no others are read. -/
theorem Faithful.of_within {α : Type} {payload : α → Json} {write : α → String}
    {read : String → Except ReadError α} {limit : Nat}
    (back : ∀ value, (payload value).Canonical → (payload value).Exact →
      read (write value) = within limit (payload value).depth value)
    (fits : ∀ text value, read text = .ok value → Fits limit (payload value)) :
    Faithful payload write read limit := by
  have known : ∀ value, Fits limit (payload value) → (payload value).Exact →
      read (write value) = .ok value := by
    intro value fit exact
    rw [back value fit.canonical exact, within, if_pos fit.shallow]
  refine ⟨back, ?_, ?_⟩
  · intro first second fitFirst exactFirst fitSecond exactSecond same
    have readFirst := known first fitFirst exactFirst
    rw [same, known second fitSecond exactSecond] at readFirst
    exact (Except.ok.inj readFirst).symm
  · intro text value accepted
    refine ⟨fits text value accepted, fun exact => ?_⟩
    rw [known value (fits text value accepted) exact]
    exact ⟨rfl, rfl⟩

theorem ShuffleDescriptor.exact_toJson {descriptor : ShuffleDescriptor}
    (exact : descriptor.payload.Exact) : descriptor.toJson.Exact := by
  obtain ⟨partitionId, storage, payload⟩ := descriptor
  cases storage with
  | none => exact ⟨trivial, exact, trivial⟩
  | some worker => exact ⟨trivial, trivial, exact, trivial⟩

theorem Deployment.exact_toJson {deployment : Deployment}
    (exact : deployment.shuffle.payload.Exact) : deployment.toJson.Exact :=
  ⟨trivial, trivial, ShuffleDescriptor.exact_toJson exact, trivial⟩

/-- Shuffle descriptors are written and read faithfully as long as the payload is nested no deeper
than 126 levels, and deployments as long as it is nested no deeper than 125. -/
theorem descriptors_faithful :
    Faithful ShuffleDescriptor.payload (fun descriptor => descriptor.toJson.text)
        ShuffleDescriptor.ofText 126 ∧
      Faithful (fun deployment : Deployment => deployment.shuffle.payload)
        (fun deployment => deployment.toJson.text) Deployment.ofText 125 := by
  constructor
  · refine Faithful.of_within ?_ ?_
    · intro descriptor canonical exact
      rw [ShuffleDescriptor.ofText,
        Document.readText_text _ _ (ShuffleDescriptor.exact_toJson exact)]
      exact descriptor.ofDocument_toJson canonical 126
    · intro text descriptor accepted
      obtain ⟨document, read⟩ := Document.exists_of_readText_eq_ok accepted
      exact ShuffleDescriptor.fits_of_ofDocument read
  · refine Faithful.of_within ?_ ?_
    · intro deployment canonical exact
      rw [Deployment.ofText, Document.readText_text _ _ (Deployment.exact_toJson exact)]
      exact deployment.ofDocument_toJson canonical 125
    · intro text deployment accepted
      obtain ⟨document, read⟩ := Document.exists_of_readText_eq_ok accepted
      exact Deployment.fits_of_ofDocument read

end PartitionLedger
