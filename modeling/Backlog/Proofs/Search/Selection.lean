import Backlog.Proofs.Filter.Soundness
import Backlog.Proofs.Store.Order
import Backlog.Search
/-!
# Selection — a search finds what its filter selects

A filter selects some of the stored items (`Document.Selects`), and these stand in the order of their creation
(`Document.Lists`) in one way only (`Document.Lists.eq`).  A search whose filter wants no ancestors answers with a
stretch of that list, and its total is the length of the list: nothing of compilation, look-ups, truth values and paging
shows in what is found.
-/
namespace Backlog

open Backlog.Filter (Document Compiled Resolver)

/-- The stored items that a filter selects, in the order of their creation. -/
structure Filter.Document.Lists (d : Document) (space : Option String) (s : Store) (states : List String)
    (found : List WorkItem) : Prop where
  ordered : found.Pairwise fun a b =>
    a.createdAt.fields < b.createdAt.fields ∨ a.createdAt = b.createdAt ∧ a.id < b.id
  mem_iff : ∀ item, item ∈ found ↔ item ∈ s.items.entries ∧ d.Selects space s states item

theorem Filter.Document.Lists.eq {d : Document} {space : Option String} {s : Store} {states : List String}
    {found found' : List WorkItem} (h : d.Lists space s states found) (h' : d.Lists space s states found') :
    found = found' := by
  have hmem : ∀ item, item ∈ found ↔ item ∈ found' := fun item => (h.mem_iff item).trans (h'.mem_iff item).symm
  exact WorkItem.eq_of_pairwise_of_mem_iff (h.ordered.imp WorkItem.precedes_iff.2)
    (h'.ordered.imp WorkItem.precedes_iff.2) hmem

namespace Engine

variable {s : Store} {c : Config} {d : Document} {space : Option String} {k : Compiled}

theorem lists_matchesOf (h : (ofConfig s c).compile d space = .ok k) :
    d.Lists space s c.allStates (s.matchesOf k.predicate) := by
  refine ⟨(s.pairwise_matchesOf k.predicate).imp WorkItem.precedes_iff.1, fun item => ?_⟩
  rw [Store.mem_matchesOf, Resolver.isMatch_compile rfl h item]
  rfl

theorem runCompiled_of_treeView_eq_false (e : Engine) (h : k.treeView = false) (page : Page) :
    e.runCompiled k page =
      .ok ⟨Hierarchy.withoutParents (((e.store.matchesOf k.predicate).drop page.offset).take page.limit), [],
        (e.store.matchesOf k.predicate).length, page⟩ := by
  unfold runCompiled arrange
  rw [h]
  rfl

theorem search_eq_bind {e : Engine} {r : Request} (hd : Document.ofText r.expression = .ok d) :
    e.search r = e.compile d r.space >>= fun k => e.runCompiled k (.ofRequest e.settings r.offset r.limit) := by
  rw [search, hd]
  rfl

theorem search_of_ofText {e : Engine} {r : Request} (hd : Document.ofText r.expression = .ok d)
    (hk : e.compile d r.space = .ok k) :
    e.search r = e.runCompiled k (.ofRequest e.settings r.offset r.limit) := by
  rw [search_eq_bind hd, hk]
  rfl

/-- **A search finds what its filter selects.**  When a filter without ancestors compiles, there is a list of the items
that it selects, in the order of their creation; every page of the compiled filter is a stretch of that list with the
length of the whole as its total, and the answer to a request is the page that the request asks for. -/
theorem search_lists_selected (hk : (ofConfig s c).compile d space = .ok k) (htree : d.treeView = false) :
    ∃ found, d.Lists space s c.allStates found ∧
      (∀ page, (ofConfig s c).runCompiled k page =
        .ok ⟨Hierarchy.withoutParents ((found.drop page.offset).take page.limit), [], found.length, page⟩) ∧
      ∀ r : Request, Document.ofText r.expression = .ok d → r.space = space →
        (ofConfig s c).search r = (ofConfig s c).runCompiled k (.ofRequest c.settings r.offset r.limit) := by
  refine ⟨s.matchesOf k.predicate, lists_matchesOf hk, fun page => ?_, fun r hd hspace => ?_⟩
  · exact runCompiled_of_treeView_eq_false (ofConfig s c) ((Resolver.treeView_of_compile rfl hk).trans htree) page
  · exact search_of_ofText hd (hspace ▸ hk)

/-! ## Two spaces -/

def startOfDay (day : Fin 31) : Timestamp :=
  ⟨⟨2024, 1, day + 1, 0, 0, 0, 0⟩, by revert day; decide⟩

/-- A store of two spaces, each of which has a label, an iteration and a group with the same name as the other. -/
def twoSpaces : Store :=
  .ofDataset ⟨[⟨"a", "A"⟩, ⟨"b", "B"⟩], [],
    [⟨"work", "a", .requirement, ["bug"]⟩, ⟨"work", "b", .requirement, ["task"]⟩],
    [⟨"ia", "a", "Sprint 1"⟩, ⟨"ib", "b", "Sprint 1"⟩], [⟨"la", "a", "red"⟩, ⟨"lb", "b", "red"⟩], [], [],
    [{ WorkItem.new "1" (startOfDay 3) "a" "bug" "First" with iteration := some "ia", description := some "" },
      { WorkItem.new "2" (startOfDay 2) "a" "bug" "Second" with labels := some ["lb"] },
      { WorkItem.new "3" (startOfDay 1) "a" "bug" "Third" with labels := some ["la"] },
      WorkItem.new "4" (startOfDay 0) "a" "task" "Fourth", WorkItem.new "5" (startOfDay 0) "b" "task" "Fifth"]⟩

/-- What is in the group and has no such label, and is in the sprint or has nothing in its description. -/
def unlabelledWork : Document :=
  ⟨.combinator .and
    [.comparison ⟨"space", .isIn, .texts ["a"], false⟩,
      .combinator .or [.comparison ⟨"label", .eq, .text "red", false⟩, .comparison ⟨"work", .ne, .text "", false⟩] true,
      .combinator .or [.comparison ⟨"iteration.name", .substr, .text "print", false⟩,
        .comparison ⟨"description", .ne, .text "", true⟩] false] false, false⟩

theorem search_lists_selected_unlabelledWork :
    ∃ k, (ofConfig twoSpaces .none).compile unlabelledWork none = .ok k ∧ unlabelledWork.treeView = false ∧
      ∃ found, unlabelledWork.Lists none twoSpaces Config.none.allStates found ∧
        (∀ page, (ofConfig twoSpaces .none).runCompiled k page =
          .ok ⟨Hierarchy.withoutParents ((found.drop page.offset).take page.limit), [], found.length, page⟩) ∧
        ∀ r : Request, Document.ofText r.expression = .ok unlabelledWork → r.space = none →
          (ofConfig twoSpaces .none).search r =
            (ofConfig twoSpaces .none).runCompiled k (.ofRequest Config.none.settings r.offset r.limit) :=
  ⟨_, rfl, rfl, search_lists_selected rfl rfl⟩

example :
    ((ofConfig twoSpaces .none).search
      ⟨"\x7b\"$AND\": [\x7b\"space\": \x7b\"$IN\": [\"a\"]\x7d\x7d, \x7b\"label\": \"red\", \"negate\": true\x7d]\x7d",
        none, some 1, none⟩).toOption.map (fun result => (result.items.map WorkItem.id, result.total)) =
      some (["2", "1"], 3) := by
  decide +kernel

end Engine
end Backlog
