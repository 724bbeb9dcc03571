/-
# Reading texts and reading values

A descriptor may be read straight from a text, or from the value that the text was parsed
into. The text has its members in any order and is skipped where nobody asks for it; the
value has them in order of their keys and is all there. Where no object repeats a key, both
ways succeed alike and with the same result. How they fail differs: a text stops at its first
problem, and a value knows no broken texts.
-/

import PartitionLedger.Proofs.Partition.Collecting

namespace PartitionLedger

open Json (Document ReadError bind_eq_ok_iff exists_of_bind_eq_ok)

/-! ### Computations that succeed alike -/

/-- Two computations succeed alike and with the same result; how they fail may differ. -/
def Alike {ε α : Type} (first second : Except ε α) : Prop :=
  ∀ result, first = .ok result ↔ second = .ok result

section Alike

variable {ε α β : Type}

theorem Alike.of_eq {first second : Except ε α} (same : first = second) : Alike first second := by
  intro result
  rw [same]

theorem Alike.of_errors {first second : ε} : Alike (.error first : Except ε α) (.error second) :=
  fun _ => ⟨nofun, nofun⟩

theorem Alike.bind {first second : Except ε α} {next other : α → Except ε β}
    (alike : Alike first second) (later : ∀ value, Alike (next value) (other value)) :
    Alike (first >>= next) (second >>= other) := by
  intro result
  simp only [bind_eq_ok_iff, alike _, later _ result]

end Alike

/-! ### Fields -/

section Fields

variable {δ η α β γ : Type} {R : δ → η → Prop}

theorem forall₂_valuesNamed {name : String} {members : List (String × δ)}
    {others : List (String × η)}
    (related : List.Forall₂ (fun first second => first.1 = second.1 ∧ R first.2 second.2)
      members others) :
    List.Forall₂ R (valuesNamed name members) (valuesNamed name others) := by
  induction related with
  | nil => exact .nil
  | @cons first second _ _ pair _ ih =>
    obtain ⟨names, values⟩ := pair
    rw [show first = (first.1, first.2) from rfl, show second = (second.1, second.2) from rfl,
      valuesNamed_cons, valuesNamed_cons, names]
    split
    · exact .cons values ih
    · exact ih

theorem holds_congr {read : δ → Except ReadError α} {other : η → Except ReadError α}
    (alike : ∀ first second, R first second → Alike (read first) (other second))
    {before after : Option α} {values : List δ} {others : List η}
    (related : List.Forall₂ R values others) :
    Holds read before values after ↔ Holds other before others after := by
  match related with
  | .nil => exact Iff.rfl
  | .cons pair .nil =>
    simp only [Holds, alike _ _ pair _]
  | .cons _ (.cons _ _) => exact Iff.rfl

theorem forall_mem_iff_of_forall₂ {first : δ → Prop} {second : η → Prop}
    (same : ∀ value related, R value related → (first value ↔ second related))
    {values : List δ} {others : List η} (related : List.Forall₂ R values others) :
    (∀ value ∈ values, first value) ↔ ∀ other ∈ others, second other := by
  induction related with
  | nil => exact iff_of_true nofun nofun
  | cons pair _ ih => rw [List.forall_mem_cons, List.forall_mem_cons, ih, same _ _ pair]

/-- Two fields of one name read related values alike. -/
structure Field.Agrees (R : δ → η → Prop) (field : Field δ α) (other : Field η α) : Prop where
  name : field.name = other.name
  read : ∀ first second, R first second → Alike (field.read first) (other.read second)

/-- Two structures have the same fields, and skip related values alike. -/
structure Scheme.Agrees (R : δ → η → Prop) (scheme : Scheme δ α β γ) (other : Scheme η α β γ) :
    Prop where
  first : scheme.first.Agrees R other.first
  second : scheme.second.Agrees R other.second
  third : scheme.third.Agrees R other.third
  skip : ∀ first second, R first second → Alike (scheme.skip first) (other.skip second)

section Related

variable {members : List (String × δ)} {others : List (String × η)}
  (related : List.Forall₂ (fun first second => first.1 = second.1 ∧ R first.2 second.2)
    members others)

include related

theorem Field.Agrees.holds_iff {field : Field δ α} {other : Field η α}
    (agrees : field.Agrees R other) {before after : Option α} :
    Holds field.read before (valuesNamed field.name members) after ↔
      Holds other.read before (valuesNamed other.name others) after := by
  rw [← agrees.name]
  exact holds_congr agrees.read (forall₂_valuesNamed related)

/-- Related members fill the slots alike. -/
theorem Scheme.Agrees.collects_iff {scheme : Scheme δ α β γ} {other : Scheme η α β γ}
    (agrees : scheme.Agrees R other) {before after : Slots α β γ} :
    scheme.Collects before members after ↔ other.Collects before others after := by
  have names : scheme.names = other.names := by
    rw [names, names, agrees.first.name, agrees.second.name, agrees.third.name]
  have skips : (∀ member ∈ members, member.1 ∉ scheme.names → scheme.skip member.2 = .ok ()) ↔
      ∀ member ∈ others, member.1 ∉ other.names → other.skip member.2 = .ok () := by
    refine forall_mem_iff_of_forall₂ ?_ related
    rintro member given ⟨name, pair⟩
    rw [names, name, agrees.skip _ _ pair ()]
  constructor
  · rintro ⟨firsts, seconds, thirds, skipped⟩
    exact ⟨(agrees.first.holds_iff related).mp firsts, (agrees.second.holds_iff related).mp seconds,
      (agrees.third.holds_iff related).mp thirds, skips.mp skipped⟩
  · rintro ⟨firsts, seconds, thirds, skipped⟩
    exact ⟨(agrees.first.holds_iff related).mpr firsts,
      (agrees.second.holds_iff related).mpr seconds,
      (agrees.third.holds_iff related).mpr thirds, skips.mpr skipped⟩

end Related

end Fields

/-! ### Readers of documents and of values -/

open Json.Document (Gives)

variable {room : Nat} {document : Document} {value : Json}

theorem readString_eq (gives : Gives room document value) :
    document.readString = value.asString := by
  cases gives.shape <;> rfl

theorem readUnit_eq (gives : Gives room document value) : document.readUnit = value.asUnit := by
  cases gives.shape <;> rfl

theorem isNull_eq (inner : Nat) (gives : Gives room document value) :
    (Document.fieldSource inner).isNull document = Json.fieldSource.isNull value := by
  cases gives.shape <;> rfl

theorem id_eq (inner : Nat) (kind : IdKind) (gives : Gives room document value) :
    (Document.fieldSource inner).id kind document = Json.fieldSource.id kind value := by
  have same : (Document.fieldSource inner).string document = Json.fieldSource.string value :=
    readString_eq gives
  rw [FieldSource.id, FieldSource.id, same]

theorem optionalId_eq (inner : Nat) (kind : IdKind) (gives : Gives room document value) :
    (Document.fieldSource inner).optionalId kind document =
      Json.fieldSource.optionalId kind value := by
  rw [FieldSource.optionalId, FieldSource.optionalId, isNull_eq inner gives,
    id_eq inner kind gives]

/-- What was read as a whole can be skipped. -/
theorem skip_eq_ok (gives : Gives room document value) : document.readSkipped = .ok () := by
  cases gives.shape <;> rfl

theorem PartitionKind.alike (gives : Gives room document value) :
    Alike (ofDocument room document) (ofJson value) := by
  cases gives.shape with
  | null | boolean | number | array => exact .of_errors
  | string => exact .of_eq rfl
  | @object room _ _ sorted same related =>
    cases related with
    | nil =>
      obtain rfl := same.eq_nil
      exact .of_errors
    | @cons first second _ _ pair later =>
      obtain ⟨key, inner⟩ := first
      obtain ⟨_, content⟩ := second
      obtain ⟨rfl, pair⟩ := pair
      cases later with
      | nil =>
        obtain rfl := List.perm_singleton.mp same
        refine .of_eq ?_
        show (ofName key >>= fun kind => inner.readUnit >>= fun _ => .ok kind) =
          (ofName key >>= fun kind => content.asUnit >>= fun _ => .ok kind)
        rw [readUnit_eq pair]
      | cons _ _ =>
        -- A second key is refused on both sides, but only after the first one was looked at.
        intro result
        constructor
        · intro read
          obtain ⟨name, -, next⟩ := exists_of_bind_eq_ok read
          obtain ⟨kind, -, next⟩ := exists_of_bind_eq_ok next
          obtain ⟨_, -, finished⟩ := exists_of_bind_eq_ok next
          cases finished
        · intro read
          match sorted, same.length_eq with
          | _ :: _ :: _, _ => cases read

/-- Both ways give a field the same name, and read its values alike. -/
theorem alike_shuffleFields (inner : Nat) :
    (ShuffleFields.scheme (Document.fieldSource inner)).Agrees (Gives inner)
      (ShuffleFields.scheme Json.fieldSource) where
  first := ⟨rfl, fun _ _ gives => .of_eq (id_eq inner _ gives)⟩
  second := ⟨rfl, fun _ _ gives => .of_eq (optionalId_eq inner _ gives)⟩
  third := ⟨rfl, fun _ _ gives => .of_eq gives.read⟩
  skip _ _ gives := .of_eq (skip_eq_ok gives)

namespace ShuffleDescriptor

theorem alike_ofItems {items : List Document} {values : List Json}
    (related : List.Forall₂ (Gives room) items values) :
    Alike (ofItems room items none) (ofValues values) := by
  cases related with
  | nil => exact .of_errors
  | cons first related =>
    have ids := Alike.of_eq (id_eq room .partition first)
    cases related with
    | nil => exact ids.bind fun _ => .of_eq rfl
    | cons second related =>
      have workers := Alike.of_eq (optionalId_eq room .worker second)
      cases related with
      | nil => exact ids.bind fun _ => workers.bind fun _ => .of_eq rfl
      | cons third related =>
        refine ids.bind fun _ => workers.bind fun _ => Alike.bind (.of_eq third.read) fun _ => ?_
        cases related with
        | nil => exact .of_eq rfl
        | cons _ _ => exact .of_errors

/-- A shuffle descriptor is read alike. -/
theorem alike (gives : Gives room document value) :
    Alike (ofDocument room document) (ofJson value) := by
  cases gives.shape with
  | null | boolean | number | string => exact .of_errors
  | array related => exact alike_ofItems related
  | @object inner named values sorted same related =>
    intro descriptor
    rw [ofDocument_object_eq_ok_iff, ofJson_object_eq_ok_iff]
    have composed : descriptor.ComposedOf (Document.fieldSource inner) named ↔
        descriptor.ComposedOf Json.fieldSource values :=
      exists_congr fun slots => and_congr_left'
        ((alike_shuffleFields inner).collects_iff related)
    rw [composed]
    exact ⟨fun members => members.perm same.symm, fun members => members.perm same⟩

end ShuffleDescriptor

/-- Both ways give a field the same name, and read its values alike. -/
theorem alike_deploymentFields (inner : Nat) :
    (DeploymentFields.scheme (Document.fieldSource inner) (PartitionKind.ofDocument inner)
        (ShuffleDescriptor.ofDocument inner)).Agrees (Gives inner)
      (DeploymentFields.scheme Json.fieldSource PartitionKind.ofJson ShuffleDescriptor.ofJson) where
  first := ⟨rfl, fun _ _ gives => .of_eq (id_eq inner _ gives)⟩
  second := ⟨rfl, fun _ _ gives => PartitionKind.alike gives⟩
  third := ⟨rfl, fun _ _ gives => ShuffleDescriptor.alike gives⟩
  skip _ _ gives := .of_eq (skip_eq_ok gives)

namespace Deployment

theorem alike_ofItems {items : List Document} {values : List Json}
    (related : List.Forall₂ (Gives room) items values) :
    Alike (ofItems room items none) (ofValues values) := by
  cases related with
  | nil => exact .of_errors
  | cons first related =>
    have ids : Alike (Id.ofDocument .dataset _) (Id.ofJson .dataset _) :=
      .of_eq (id_eq 0 .dataset first)
    cases related with
    | nil => exact ids.bind fun _ => .of_errors
    | cons second related =>
      have kinds := PartitionKind.alike second
      cases related with
      | nil => exact ids.bind fun _ => kinds.bind fun _ => .of_errors
      | cons third related =>
        refine ids.bind fun _ => kinds.bind fun _ =>
          (ShuffleDescriptor.alike third).bind fun _ => ?_
        cases related with
        | nil => exact .of_eq rfl
        | cons _ _ => exact .of_errors

/-- A deployment is read alike. -/
theorem alike (gives : Gives room document value) :
    Alike (ofDocument room document) (ofJson value) := by
  cases gives.shape with
  | null | boolean | number | string => exact .of_errors
  | array related => exact alike_ofItems related
  | @object inner named values sorted same related =>
    intro deployment
    rw [ofDocument_object_eq_ok_iff, ofJson_object_eq_ok_iff, ComposedOf,
      (alike_deploymentFields inner).collects_iff related]
    exact ⟨fun members => members.perm same.symm, fun members => members.perm same⟩

end Deployment

/-! ### Texts -/

/-- If no object of a text repeats a key and the text is parsed as some value, then an identifier, a
kind, a shuffle descriptor or a deployment is read from the text if and only if it is read from
the value, and it is the same one. -/
theorem parsed_values_read_alike {text : String} {value : Json}
    (parsed : Json.parse text = .ok value) (distinct : (Document.ofText text).1.Distinct) :
    (∀ kind, Alike (Id.ofText kind text) (Id.ofJson kind value)) ∧
      Alike (PartitionKind.ofText text) (PartitionKind.ofJson value) ∧
      Alike (ShuffleDescriptor.ofText text) (ShuffleDescriptor.ofJson value) ∧
      Alike (Deployment.ofText text) (Deployment.ofJson value) := by
  obtain ⟨document, spelled, read⟩ := Document.ofText_of_readText_eq_ok parsed
  rw [spelled] at distinct
  have gives : Gives Json.depthLimit document value := ⟨read, distinct⟩
  refine ⟨fun kind => ?_, ?_, ?_, ?_⟩
  · rw [Id.ofText, Document.readText_eq _ spelled]
    exact .of_eq (id_eq 0 kind gives)
  · rw [PartitionKind.ofText, Document.readText_eq _ spelled]
    exact PartitionKind.alike gives
  · rw [ShuffleDescriptor.ofText, Document.readText_eq _ spelled]
    exact ShuffleDescriptor.alike gives
  · rw [Deployment.ofText, Document.readText_eq _ spelled]
    exact Deployment.alike gives

/-- The value of a deployment whose fields do not ascend, with a field that nobody knows. -/
def unsortedDeployment : Json :=
  .object [("shuffle", .array [Id.toJson (⟨5⟩ : PartitionId)]), ("note", .array []),
    ("kind", .object [("blocking", .null)]), ("dataset_id", Id.toJson (⟨7⟩ : DatasetId))]

theorem exact_unsortedDeployment : unsortedDeployment.Exact :=
  ⟨⟨trivial, trivial⟩, trivial, ⟨trivial, trivial⟩, trivial, trivial⟩

/-- A deployment is read from a text where its fields do not ascend, since the parsed value, where
they do, gives the same one. -/
theorem parsed_values_read_alike_unsorted :
    Json.parse unsortedDeployment.text = .ok unsortedDeployment.sorted ∧
      (Document.ofText unsortedDeployment.text).1.Distinct ∧
      Deployment.ofText unsortedDeployment.text =
        .ok ⟨⟨7⟩, .blocking, ⟨⟨5⟩, none, .null⟩⟩ := by
  have parsed : Json.parse unsortedDeployment.text = .ok unsortedDeployment.sorted := by
    rw [Json.parse, Document.readText_text _ _ exact_unsortedDeployment,
      Json.readValue_document_eq]
    rfl
  have distinct : (Document.ofText unsortedDeployment.text).1.Distinct := by
    rw [Document.ofText_of_written (Json.written_text _ exact_unsortedDeployment)]
    exact ⟨by decide, ⟨trivial, trivial⟩, trivial, ⟨by decide, trivial, trivial⟩, trivial, trivial⟩
  refine ⟨parsed, distinct, ?_⟩
  exact ((parsed_values_read_alike parsed distinct).2.2.2 _).mpr rfl

end PartitionLedger
