import Backlog.Dataset
import Backlog.Proofs.Json.Recovery
import Backlog.Proofs.Timestamp.RoundTrip
/-!
# RoundTrip — a dataset that is written is read back

Every kind of entry is recovered from its JSON, the fields of a work item with all that they tell apart: what is unset
and what is empty, numbers up to the largest of 64 bits, moments with all their digits.  So the file of a dataset holds
that dataset (`Dataset.ofText?_text`).
-/
namespace Backlog

open Json (Recovers record?_obj)

theorem Timestamp.recovers : Recovers toJson ofJson? :=
  ⟨fun _ => rfl, read?_text⟩

/-! ## The catalog -/

theorem Space.recovers : Recovers toJson ofJson? where
  isNatural_write _ := rfl
  read_write s := by
    rw [ofJson?, toJson, record?_obj []]
    · rfl
    · rfl
    · decide

theorem WorkItemType.recovers : Recovers toJson ofJson? where
  isNatural_write _ := rfl
  read_write t := by
    rw [ofJson?, toJson, record?_obj []]
    · rfl
    · rfl
    · decide

theorem Bucket.recovers : Recovers (fun b => .str (name b)) (Json.variant? names) :=
  Json.recovers_variant lookup_name

theorem TypeGroup.recovers : Recovers toJson ofJson? where
  isNatural_write g := by
    simp only [toJson, Json.isNatural, Json.areNaturalMembers, Json.recovers_texts.isNatural_write, Bool.and_self]
  read_write g := by
    rw [ofJson?, toJson, record?_obj []]
    · simp only [List.map_cons, List.map_nil, List.append_nil, Option.bind_eq_bind, Option.bind_some,
        Json.recovers_text.needed, Bucket.recovers.needed, Json.recovers_texts.needed]
      rfl
    · rfl
    · decide

theorem Iteration.recovers : Recovers toJson ofJson? where
  isNatural_write _ := rfl
  read_write i := by
    rw [ofJson?, toJson, record?_obj []]
    · rfl
    · rfl
    · decide

theorem Label.recovers : Recovers toJson ofJson? where
  isNatural_write _ := rfl
  read_write l := by
    rw [ofJson?, toJson, record?_obj []]
    · rfl
    · rfl
    · decide

/-! ## Links -/

theorem Topology.recovers : Recovers (fun t => .str (name t)) (Json.variant? names) :=
  Json.recovers_variant lookup_name

theorem LinkType.recovers : Recovers toJson ofJson? where
  isNatural_write _ := rfl
  read_write t := by
    rw [ofJson?, toJson, record?_obj []]
    · simp only [List.map_cons, List.map_nil, List.append_nil, Option.bind_eq_bind, Option.bind_some,
        Json.recovers_text.needed, Topology.recovers.needed]
      rfl
    · rfl
    · decide

theorem Link.recovers : Recovers toJson ofJson? where
  isNatural_write _ := rfl
  read_write l := by
    rw [ofJson?, toJson, record?_obj []]
    · rfl
    · rfl
    · decide

/-! ## Work items -/

namespace WorkItem

theorem toNat_number_le (i : WorkItem) : i.number.toNat ≤ Text.maxWord :=
  Nat.le_of_lt_succ i.number.toNat_lt

theorem isNatural_toJson (i : WorkItem) : i.toJson.isNatural = true := by
  have hnumber := Json.isNatural_ofNat i.toNat_number_le
  rw [toJson]
  cases i.parent <;>
    simp only [List.cons_append, List.nil_append, Json.isNatural, Json.areNaturalMembers, hnumber,
      Json.isNatural_ofText?, Json.isNatural_ofTexts?, Timestamp.recovers.isNatural_write, Bool.and_self]

theorem record?_toJson (i : WorkItem) : Json.record? fieldNames i.toJson =
    some [some (.str i.id), some (.ofNat i.number.toNat), some (.str i.space), some (.str i.type), some (.str i.title),
      some (Json.ofText? i.description), some (.str i.state), some (Json.ofText? i.iteration),
      some (Json.ofText? i.creator), some (Json.ofTexts? i.assignees), some (Json.ofTexts? i.labels),
      some i.createdAt.toJson, some i.updatedAt.toJson, i.parent.map .str] := by
  rw [toJson]
  cases i.parent with
  | none =>
    rw [record?_obj ["parent"]]
    · rfl
    · rfl
    · decide
  | some parent =>
    rw [record?_obj []]
    · rfl
    · rfl
    · decide

theorem recovers : Recovers toJson ofJson? where
  isNatural_write := isNatural_toJson
  read_write i := by
    have hparent : Json.optional Json.text? (i.parent.map .str) = some i.parent := by
      cases i.parent <;> rfl
    rw [ofJson?, record?_toJson]
    dsimp only [Option.bind_eq_bind, Option.bind_some]
    simp only [Json.recovers_text.needed, Json.needed_ofNat i.toNat_number_le, Json.optional_ofText?,
      Json.optional_ofTexts?, Timestamp.recovers.needed, hparent, Option.bind_some, UInt64.ofNat_toNat]
    rfl

end WorkItem

/-! ## Datasets -/

namespace Dataset

theorem isNatural_toJson (d : Dataset) : d.toJson.isNatural = true := by
  simp only [toJson, Json.isNatural, Json.areNaturalMembers, Json.areNatural_map Space.recovers.isNatural_write,
    Json.areNatural_map WorkItemType.recovers.isNatural_write, Json.areNatural_map TypeGroup.recovers.isNatural_write,
    Json.areNatural_map Iteration.recovers.isNatural_write, Json.areNatural_map Label.recovers.isNatural_write,
    Json.areNatural_map LinkType.recovers.isNatural_write, Json.areNatural_map Link.recovers.isNatural_write,
    Json.areNatural_map WorkItem.recovers.isNatural_write, Bool.and_self]

theorem recovers : Recovers toJson ofJson? where
  isNatural_write := isNatural_toJson
  read_write d := by
    rw [ofJson?, toJson, record?_obj []]
    · simp only [List.map_cons, List.map_nil, List.append_nil, Option.bind_eq_bind, Option.bind_some,
        Space.recovers.list.defaulted, WorkItemType.recovers.list.defaulted, TypeGroup.recovers.list.defaulted,
        Iteration.recovers.list.defaulted, Label.recovers.list.defaulted, LinkType.recovers.list.defaulted,
        Link.recovers.list.defaulted, WorkItem.recovers.list.defaulted]
      rfl
    · rfl
    · decide

theorem ofText?_text (d : Dataset) : ofText? d.text = some d := by
  rw [ofText?, text, Json.pretty, Json.readLoosely?_render (.lines 0) (recovers.isNatural_write d), Option.bind_some,
    recovers.read_write]

end Dataset
end Backlog
