import Backlog.Proofs.Dataset.RoundTrip
import Backlog.Proofs.Store.Order
import Mathlib.Data.List.Nodup
/-!
# Normal — what becomes of a dataset in a store

A store lists its entries as a dataset again: without the entries that a later one with the same identifier has
replaced, and in an order of its own (`Dataset.isNormalFormOf_normal`).  Nothing else is lost.  The store of the listed
dataset is the same store (`Store.ofDataset_toDataset`), so listing a second time changes nothing, and the file of the
listed dataset holds it.
-/
namespace Backlog

open Keyed (key)

section

variable {α : Type} [Keyed α]

/-- Whether a list keeps, of all entries with one key, the last and nothing else, in an order. -/
structure KeepsLast (before : α → α → Prop) (entries kept : List α) : Prop where
  mem_iff : ∀ a, a ∈ kept ↔ (entries.filter fun b => key b == key a).getLast? = some a
  nodup_keys : (kept.map key).Nodup
  pairwise : kept.Pairwise before

namespace Registry

theorem mem_ofList_iff {as : List α} {a : α} :
    a ∈ (ofList as).entries ↔ (as.filter fun b => key b == key a).getLast? = some a := by
  rw [← get?_ofList, get?_eq_some_iff]
  exact (and_iff_left rfl).symm

theorem keepsLast_ofList (as : List α) : KeepsLast (fun a b => key a < key b) as (ofList as).entries :=
  ⟨fun _ => mem_ofList_iff, (ofList as).nodup_keys, (ofList as).sorted⟩

/-- **A registry of its own entries**, whatever order they are listed in, is the same registry. -/
theorem ofList_of_perm {r : Registry α} {as : List α} (h : as.Perm r.entries) : ofList as = r := by
  have hd : (as.map key).Nodup := (h.map key).nodup_iff.2 r.nodup_keys
  refine ext_entries (eq_of_mem_iff (ofList as).sorted r.sorted fun a => ?_)
  rw [mem_ofList_iff, ← h.mem_iff]
  constructor
  · exact fun hlast => (List.mem_filter.1 (List.mem_of_getLast? hlast)).1
  · intro ha
    have hfilter : a ∈ as.filter fun b => key b == key a := List.mem_filter.2 ⟨ha, beq_self_eq_true _⟩
    obtain ⟨b, hlast⟩ := Option.isSome_iff_exists.1 (List.getLast?_isSome.2 (List.ne_nil_of_mem hfilter))
    obtain ⟨hb, hkey⟩ := List.mem_filter.1 (List.mem_of_getLast? hlast)
    rw [hlast, List.inj_on_of_nodup_map hd hb ha (eq_of_beq hkey)]

end Registry

end

namespace Store

theorem perm_sort_items (s : Store) : (WorkItem.sort s.items.entries).Perm s.items.entries :=
  (WorkItem.sort_spec s.nodup_ids).1

/-- **The entries of a store make the same store.** -/
theorem ofDataset_toDataset (s : Store) : ofDataset s.toDataset = s := by
  have hentries : ∀ {α : Type} [Keyed α] (r : Registry α), Registry.ofList r.entries = r :=
    fun r => Registry.ofList_of_perm (.refl _)
  simp only [ofDataset, toDataset, hentries, Registry.ofList_of_perm s.perm_sort_items]

end Store

namespace Dataset

def normal (d : Dataset) : Dataset :=
  (Store.ofDataset d).toDataset

/-- Whether a dataset is another without replaced entries and in order: work items in that of their creation, type groups
and links as they were, and the others in that of their identifiers. -/
structure IsNormalFormOf (d n : Dataset) : Prop where
  spaces : KeepsLast (fun a b => a.id < b.id) d.spaces n.spaces
  types : KeepsLast (fun a b => a.id < b.id) d.types n.types
  groups : n.groups = d.groups
  iterations : KeepsLast (fun a b => a.id < b.id) d.iterations n.iterations
  labels : KeepsLast (fun a b => a.id < b.id) d.labels n.labels
  linkTypes : KeepsLast (fun a b => a.id < b.id) d.linkTypes n.linkTypes
  links : n.links = d.links
  items : KeepsLast
    (fun a b => a.createdAt.fields < b.createdAt.fields ∨ a.createdAt = b.createdAt ∧ a.id < b.id) d.items n.items

theorem isNormalFormOf_normal (d : Dataset) : IsNormalFormOf d d.normal where
  spaces := Registry.keepsLast_ofList d.spaces
  types := Registry.keepsLast_ofList d.types
  groups := rfl
  iterations := Registry.keepsLast_ofList d.iterations
  labels := Registry.keepsLast_ofList d.labels
  linkTypes := Registry.keepsLast_ofList d.linkTypes
  links := rfl
  items := by
    have hperm := (Store.ofDataset d).perm_sort_items
    have hsorted := (WorkItem.sort_spec (Store.ofDataset d).nodup_ids).2
    exact ⟨fun a => hperm.mem_iff.trans Registry.mem_ofList_iff,
      (hperm.map key).nodup_iff.2 (Registry.nodup_keys _), hsorted.imp WorkItem.precedes_iff.1⟩

example : normal { empty with labels := [⟨"b", "s", "old"⟩, ⟨"a", "s", "other"⟩, ⟨"b", "s", "new"⟩] } =
    { empty with labels := [⟨"a", "s", "other"⟩, ⟨"b", "s", "new"⟩] } := by
  decide +kernel

theorem normal_normal (d : Dataset) : d.normal.normal = d.normal :=
  congrArg Store.toDataset (Store.ofDataset_toDataset (.ofDataset d))

/-- **A dataset survives the store and the file.**  The store keeps the last entry with each identifier, and keeps the
same when it is filled with what it lists; the file of what it lists holds that. -/
theorem survives (d : Dataset) :
    IsNormalFormOf d d.normal ∧ d.normal.normal = d.normal ∧ ofText? d.normal.text = some d.normal :=
  ⟨d.isNormalFormOf_normal, d.normal_normal, ofText?_text d.normal⟩

end Dataset
end Backlog
