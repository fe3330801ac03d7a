import Backlog.Proofs.Filter.Algebra
import Backlog.Proofs.Filter.Denotation
import Backlog.Proofs.Search.Parentage
/-!
# Update — what a change of an item shows in a search

A change sets some attributes of one item.  A filter that looks at none of these matches the item as before, and the
others anyway, since a filter sees nothing of an item but the attributes of its comparisons.  Nor can the item change
its place, because no change touches what the order goes by.  So the filter finds the same items in the same order, and
what has changed in them is what the change sets and nothing else (`search_of_update`).
-/
namespace Backlog

open Backlog.Filter (Compiled Document Resolver subjectOf)
open Hierarchy (withoutParents)

namespace WorkItemUpdate

def sets (u : WorkItemUpdate) : Attribute → Bool
  | .title => u.title.isSome
  | .description => u.description.isSome
  | .state => u.state.isSome
  | .iteration => u.iteration.isSome
  | .assignees => u.assignees.isSome
  | .labels => u.labels.isSome
  | _ => false

/-- Whether an item differs from another one in nothing but what a change sets, and in when it was changed. -/
structure LeavesRest (u : WorkItemUpdate) (a b : WorkItem) : Prop where
  title : u.title = none → b.title = a.title
  description : u.description = none → b.description = a.description
  state : u.state = none → b.state = a.state
  iteration : u.iteration = none → b.iteration = a.iteration
  assignees : u.assignees = none → b.assignees = a.assignees
  labels : u.labels = none → b.labels = a.labels
  rest : b = { a with
    title := b.title, description := b.description, state := b.state, iteration := b.iteration,
    assignees := b.assignees, labels := b.labels, updatedAt := b.updatedAt }

theorem leavesRest_applyTo (u : WorkItemUpdate) (now : Timestamp) (item : WorkItem) :
    u.LeavesRest item (u.applyTo now item) := by
  constructor
  case rest => rfl
  all_goals
    intro h
    simp only [applyTo, h]
    rfl

/-- **What a change does not set** is in the item as before. -/
theorem content_applyTo {u : WorkItemUpdate} {subject : Attribute} (h : u.sets subject = false) (now : Timestamp)
    (item : WorkItem) : subject.content (u.applyTo now item) = subject.content item := by
  have hrest := u.leavesRest_applyTo now item
  cases subject with
  | title => rw [Attribute.content, Attribute.content, hrest.title (by simpa [sets] using h)]
  | description => rw [Attribute.content, Attribute.content, hrest.description (by simpa [sets] using h)]
  | state => rw [Attribute.content, Attribute.content, hrest.state (by simpa [sets] using h)]
  | iteration => rw [Attribute.content, Attribute.content, hrest.iteration (by simpa [sets] using h)]
  | assignees => rw [Attribute.content, Attribute.content, hrest.assignees (by simpa [sets] using h)]
  | labels => rw [Attribute.content, Attribute.content, hrest.labels (by simpa [sets] using h)]
  | id | number | space | type | creator => rfl

def onItem (u : WorkItemUpdate) (now : Timestamp) (id : String) (item : WorkItem) : WorkItem :=
  if item.id = id then u.applyTo now item else item

variable {u : WorkItemUpdate} {now : Timestamp} {id : String}

theorem onItem_id (item : WorkItem) : (u.onItem now id item).id = item.id := by
  unfold onItem
  split <;> rfl

theorem precedes_onItem (a b : WorkItem) : (u.onItem now id a).precedes (u.onItem now id b) = a.precedes b := by
  unfold onItem
  split <;> split <;> rfl

theorem parentless_onItem (item : WorkItem) : (u.onItem now id item).parentless = u.onItem now id item.parentless := by
  have hid : item.parentless.id = item.id := rfl
  unfold onItem
  rw [hid]
  split <;> rfl

theorem withoutParents_map_onItem (items : List WorkItem) :
    withoutParents (items.map (u.onItem now id)) = (withoutParents items).map (u.onItem now id) := by
  rw [WorkItem.withoutParents_eq_map, WorkItem.withoutParents_eq_map, List.map_map, List.map_map]
  exact List.map_congr_left fun item _ => parentless_onItem item

theorem eq_or_leavesRest_onItem (item : WorkItem) :
    u.onItem now id item = item ∨ item.id = id ∧ u.LeavesRest item (u.onItem now id item) := by
  unfold onItem
  by_cases hid : item.id = id
  · rw [if_pos hid]
    exact .inr ⟨hid, u.leavesRest_applyTo now item⟩
  · rw [if_neg hid]
    exact .inl rfl

end WorkItemUpdate

namespace Filter.Resolver

variable {r : Resolver} {d : Document} {request : Option String} {k : Compiled} {u : WorkItemUpdate}

/-- **A change shows in no filter that looks elsewhere.** -/
theorem isMatch_applyTo (hk : r.compile d request = .ok k)
    (hreads : ∀ c ∈ d.root.comparisons, u.sets (subjectOf c.field) = false) (now : Timestamp) (item : WorkItem) :
    k.predicate.isMatch (u.applyTo now item) = k.predicate.isMatch item := by
  obtain ⟨hscope, p, hp, hcompiled⟩ := compile_eq_ok_iff.1 hk
  have hcondition : p.isMatch (u.applyTo now item) = p.isMatch item :=
    isMatch_congr_of_nodePredicate d.root hp fun c hc => WorkItemUpdate.content_applyTo (hreads c hc) now item
  have hadmits : r.Admits request (u.applyTo now item) ↔ r.Admits request item := .rfl
  have hspace := convertSpace_of_scopeUnder hscope
  rw [← hcompiled, Bool.eq_iff_iff, isMatch_confine hspace, isMatch_confine hspace, hadmits, hcondition]

end Filter.Resolver

namespace Store

variable {s : Store} {p : Predicate} {u : WorkItemUpdate} {now : Timestamp} {item : WorkItem}

theorem mem_entries_insert_applyTo_iff (hitem : item ∈ s.items.entries) (b : WorkItem) :
    b ∈ (s.items.insert (u.applyTo now item)).entries ↔ ∃ a ∈ s.items.entries, u.onItem now item.id a = b := by
  have hself : u.onItem now item.id item = u.applyTo now item := if_pos rfl
  rw [Registry.mem_insert_iff]
  constructor
  · rintro (rfl | ⟨hb, hid⟩)
    · exact ⟨item, hitem, hself⟩
    · exact ⟨b, hb, if_neg hid⟩
  · rintro ⟨a, ha, rfl⟩
    by_cases hid : a.id = item.id
    · have hsame : a = item := Registry.eq_of_key_eq ha hitem hid
      rw [hsame, hself]
      exact .inl rfl
    · rw [WorkItemUpdate.onItem, if_neg hid]
      exact .inr ⟨ha, hid⟩

/-- **The matches after a change** that does not show in what is asked for are the same ones, in the same order. -/
theorem matchesOf_insert_applyTo (hitem : item ∈ s.items.entries)
    (hmatch : ∀ a, p.isMatch (u.applyTo now a) = p.isMatch a) :
    ({ s with items := s.items.insert (u.applyTo now item) } : Store).matchesOf p =
      (s.matchesOf p).map (u.onItem now item.id) := by
  have hmatch : ∀ a, p.isMatch (u.onItem now item.id a) = p.isMatch a := by
    intro a
    unfold WorkItemUpdate.onItem
    split
    · exact hmatch a
    · rfl
  refine WorkItem.eq_of_pairwise_of_mem_iff (pairwise_matchesOf _ p) ?_ fun b => ?_
  · rw [List.pairwise_map]
    simp only [WorkItemUpdate.precedes_onItem]
    exact s.pairwise_matchesOf p
  · rw [mem_matchesOf, mem_entries_insert_applyTo_iff hitem, List.mem_map]
    constructor
    · rintro ⟨⟨a, ha, rfl⟩, hb⟩
      exact ⟨a, mem_matchesOf.2 ⟨ha, (hmatch a).symm.trans hb⟩, rfl⟩
    · rintro ⟨a, ha, rfl⟩
      obtain ⟨ha, hb⟩ := mem_matchesOf.1 ha
      exact ⟨⟨a, ha, rfl⟩, (hmatch a).trans hb⟩

end Store

/-- Whether two results are those of one search before and after a change of an item: the same identifiers in the same
order, the same number of matches and the same page, and no difference in the items but what the change sets. -/
structure SearchResult.DiffersIn (u : WorkItemUpdate) (id : String) (before after : SearchResult) : Prop where
  ids : Hierarchy.ids after.items = Hierarchy.ids before.items
  items : List.Forall₂ (fun a b => b = a ∨ a.id = id ∧ u.LeavesRest a b) before.items after.items
  included : after.included = before.included
  total : after.total = before.total
  page : after.page = before.page

namespace Engine

variable {e : Engine} {item : WorkItem} {u : WorkItemUpdate} {d : Document} {space : Option String} {k : Compiled}

theorem differsIn_map_onItem (u : WorkItemUpdate) (now : Timestamp) (id : String) (result : SearchResult) :
    result.DiffersIn u id { result with items := result.items.map (u.onItem now id) } := by
  refine ⟨?_, ?_, rfl, rfl, rfl⟩
  · show (result.items.map (u.onItem now id)).map WorkItem.id = result.items.map WorkItem.id
    rw [List.map_map]
    exact List.map_congr_left fun item _ => WorkItemUpdate.onItem_id item
  · rw [List.forall₂_map_right_iff]
    exact List.forall₂_same.2 fun item _ => WorkItemUpdate.eq_or_leavesRest_onItem item

/-- **An update is invisible to filters on other attributes.**  If a filter compiles that wants no ancestors and looks at
nothing that a change of a stored item sets, the change can be made and the filter is compiled as before.  Every page has
the same items in the same order and the same total as before, and so has the answer to every text that stands for the
filter; the items differ in what the change sets at most, and when they were changed. -/
theorem search_of_update (hitem : e.store.load item.id = .ok item) (now : Timestamp)
    (hk : e.compile d space = .ok k) (htree : d.treeView = false)
    (hreads : ∀ c ∈ d.root.comparisons, u.sets (subjectOf c.field) = false) :
    ∃ s, e.store.update item.id u now = .ok s ∧ { e with store := s }.compile d space = .ok k ∧
      (∀ page, ∃ before after, e.runCompiled k page = .ok before ∧
        { e with store := s }.runCompiled k page = .ok after ∧ before.DiffersIn u item.id after) ∧
      ∀ expression, Document.ofText expression = .ok d → ∀ offset limit, ∃ before after,
        e.search ⟨expression, space, offset, limit⟩ = .ok before ∧
          { e with store := s }.search ⟨expression, space, offset, limit⟩ = .ok after ∧
            before.DiffersIn u item.id after := by
  let s : Store := { e.store with items := e.store.items.insert (u.applyTo now item) }
  have hstored : item ∈ e.store.items.entries := (Store.load_eq_ok_iff.1 hitem).1
  have hsame : ∀ scope, e.store.SameIn scope s := fun _ => ⟨fun _ _ => .rfl, fun _ _ => .rfl, fun _ _ _ => rfl⟩
  have hcompile : { e with store := s }.compile d space = .ok k := (compile_eq_of_sameIn hsame d space).trans hk
  have hmatches : s.matchesOf k.predicate = (e.store.matchesOf k.predicate).map (u.onItem now item.id) :=
    Store.matchesOf_insert_applyTo hstored fun a => Resolver.isMatch_applyTo hk hreads now a
  have hflat : k.treeView = false := (treeView_eq_of_compile hk).trans htree
  have hpage : ∀ page, ∃ before after, e.runCompiled k page = .ok before ∧
      { e with store := s }.runCompiled k page = .ok after ∧ before.DiffersIn u item.id after := by
    intro page
    refine ⟨_, _, runCompiled_of_treeView_eq_false e hflat page, ?_, differsIn_map_onItem u now item.id _⟩
    rw [runCompiled_of_treeView_eq_false { e with store := s } hflat page]
    simp only [hmatches, ← WorkItemUpdate.withoutParents_map_onItem, List.map_take, List.map_drop, List.length_map]
  refine ⟨s, ?_, hcompile, hpage, fun expression hread offset limit => ?_⟩
  · rw [Store.update, hitem]
    rfl
  · rw [search_of_ofText (r := ⟨expression, space, offset, limit⟩) hread hk,
      search_of_ofText (e := { e with store := s }) (r := ⟨expression, space, offset, limit⟩) hread hcompile]
    exact hpage _

def takenOver : WorkItemUpdate :=
  ⟨some "Renamed", none, some "active", none, some ["ann"], none⟩

theorem search_of_update_unlabelledWork :
    ∃ item s before after, (ofConfig twoSpaces .none).store.load "2" = .ok item ∧ item.labels = some ["lb"] ∧
      (∀ c ∈ unlabelledWork.root.comparisons, takenOver.sets (subjectOf c.field) = false) ∧
      twoSpaces.update "2" takenOver (startOfDay 9) = .ok s ∧
      (ofConfig twoSpaces .none).search ⟨unlabelledWork.text .compact, none, none, none⟩ = .ok before ∧
      (ofConfig s .none).search ⟨unlabelledWork.text .compact, none, none, none⟩ = .ok after ∧
      Hierarchy.ids before.items = ["2", "1"] ∧ before.DiffersIn takenOver "2" after := by
  obtain ⟨item, hitem⟩ : ∃ item, (ofConfig twoSpaces .none).store.load "2" = .ok item := ⟨_, rfl⟩
  obtain ⟨k, hk⟩ : ∃ k, (ofConfig twoSpaces .none).compile unlabelledWork none = .ok k := ⟨_, rfl⟩
  have hid : item.id = "2" := (Store.load_eq_ok_iff.1 hitem).2
  have hlabels : ((ofConfig twoSpaces .none).store.load "2").toOption.map WorkItem.labels = some (some ["lb"]) := by
    decide +kernel
  rw [hitem] at hlabels
  have hreads : ∀ c ∈ unlabelledWork.root.comparisons, takenOver.sets (subjectOf c.field) = false := by decide
  have hread : Document.ofText (unlabelledWork.text .compact) = .ok unlabelledWork :=
    Document.ofText_text (by decide +kernel) (by decide +kernel) .compact
  have hstored : (ofConfig twoSpaces .none).store.load item.id = .ok item := hid ▸ hitem
  obtain ⟨s, hs, -, -, hsearch⟩ := search_of_update hstored (startOfDay 9) hk rfl hreads
  obtain ⟨before, after, hbefore, hafter, hdiffers⟩ := hsearch _ hread none none
  have hids : ((ofConfig twoSpaces .none).search ⟨unlabelledWork.text .compact, none, none, none⟩).toOption.map
      (fun result => Hierarchy.ids result.items) = some ["2", "1"] := by
    rw [search_eq_bind (r := ⟨unlabelledWork.text .compact, none, none, none⟩) hread]
    decide +kernel
  rw [hbefore] at hids
  rw [hid] at hs hdiffers
  exact ⟨item, s, before, after, hitem, Option.some.inj hlabels, hreads, hs, hbefore, hafter, Option.some.inj hids,
    hdiffers⟩

end Engine
end Backlog
