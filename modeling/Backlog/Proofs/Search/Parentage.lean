import Backlog.Proofs.Filter.Confinement
import Backlog.Proofs.Filter.Reading
import Backlog.Proofs.Hierarchy.Inclusion
import Backlog.Proofs.Search.Selection
/-!
# Parentage — the parents that a search shows come from the links

An item may be stored with a parent, but nobody asks it: predicates test other attributes, the order goes by creation,
and a filter is compiled without the items.  Where parents are shown, every item of the page and every ancestor gets the
one that the walk over the links met; where they are not, every item loses its own.  So stores that are equal but for
the parents of their items (`Store.SameButParents`) answer alike, and the two ways to show a page differ in nothing but
the hierarchy (`search_trusts_no_parent`).
-/
namespace Backlog

open Backlog.Filter (Document Compiled Resolver)
open Hierarchy (withoutParents)

namespace WorkItem

def parentless (item : WorkItem) : WorkItem :=
  { item with parent := none }

theorem withoutParents_eq_map (items : List WorkItem) : withoutParents items = items.map parentless := rfl

theorem exists_parent_of_parentless_eq {a b : WorkItem} (h : a.parentless = b.parentless) :
    ∃ parent, a = { b with parent } :=
  ⟨a.parent, congrArg (fun item : WorkItem => { item with parent := a.parent }) h⟩

theorem isMatch_parentless (p : Predicate) (item : WorkItem) : p.isMatch item.parentless = p.isMatch item := by
  rw [Predicate.isMatch, Predicate.isMatch, Predicate.evaluate_congr fun subject => ?_]
  cases subject <;> rfl

theorem insertInOrder_map_parentless (a : WorkItem) :
    ∀ bs : List WorkItem, insertInOrder a.parentless (bs.map parentless) = (insertInOrder a bs).map parentless
  | [] => rfl
  | b :: bs => by
    have hsame : a.parentless.precedes b.parentless = a.precedes b := rfl
    rw [List.map_cons, insertInOrder, insertInOrder, hsame, insertInOrder_map_parentless a bs, apply_ite (List.map _)]
    rfl

theorem foldl_insertInOrder_map_parentless :
    ∀ items sorted : List WorkItem,
      (items.map parentless).foldl (fun sorted a => insertInOrder a sorted) (sorted.map parentless) =
        (items.foldl (fun sorted a => insertInOrder a sorted) sorted).map parentless
  | [], _ => rfl
  | a :: items, sorted => by
    rw [List.map_cons, List.foldl_cons, List.foldl_cons, insertInOrder_map_parentless,
      foldl_insertInOrder_map_parentless items]

theorem sort_map_parentless (items : List WorkItem) : sort (items.map parentless) = (sort items).map parentless :=
  foldl_insertInOrder_map_parentless items []

end WorkItem

/-- Whether two stores are equal but for the parents that their work items are stored with. -/
structure Store.SameButParents (s s' : Store) : Prop where
  rest : s' = { s with items := s'.items }
  items : withoutParents s'.items.entries = withoutParents s.items.entries

namespace Store

variable {s s' : Store}

/-- The matches of a predicate, but for their parents, are those among the items without parents. -/
theorem withoutParents_matchesOf (s : Store) (p : Predicate) :
    withoutParents (s.matchesOf p) = WorkItem.sort ((withoutParents s.items.entries).filter p.isMatch) := by
  have hmatch : p.isMatch ∘ WorkItem.parentless = p.isMatch := funext (WorkItem.isMatch_parentless p)
  rw [matchesOf, WorkItem.withoutParents_eq_map, WorkItem.withoutParents_eq_map, List.filter_map, hmatch,
    WorkItem.sort_map_parentless]

namespace SameButParents

variable (h : s.SameButParents s')
include h

theorem withoutParents_matchesOf_eq (p : Predicate) :
    withoutParents (s'.matchesOf p) = withoutParents (s.matchesOf p) := by
  rw [withoutParents_matchesOf, withoutParents_matchesOf, h.items]

/-- **A page of matches** has the same items but for their parents, and the same total. -/
theorem find_eq (p : Predicate) (offset limit : Nat) :
    withoutParents (s'.find p offset limit).1 = withoutParents (s.find p offset limit).1 ∧
      (s'.find p offset limit).2 = (s.find p offset limit).2 := by
  have hmatches := h.withoutParents_matchesOf_eq p
  rw [WorkItem.withoutParents_eq_map, WorkItem.withoutParents_eq_map] at hmatches
  constructor
  · simp only [find, WorkItem.withoutParents_eq_map, List.map_take, List.map_drop, hmatches]
  · show (s'.matchesOf p).length = (s.matchesOf p).length
    simpa using congrArg List.length hmatches

theorem load_eq (id : String) :
    (s'.load id).map WorkItem.parentless = (s.load id).map WorkItem.parentless := by
  have hkey : (fun item : WorkItem => Keyed.key item == id) ∘ WorkItem.parentless = fun item => Keyed.key item == id := rfl
  have hget : (s'.items.get? id).map WorkItem.parentless = (s.items.get? id).map WorkItem.parentless := by
    have hitems := congrArg (List.find? fun item => Keyed.key item == id) h.items
    rw [WorkItem.withoutParents_eq_map, WorkItem.withoutParents_eq_map, List.find?_map, List.find?_map, hkey] at hitems
    exact hitems
  unfold load
  cases hs : s.items.get? id with
  | none =>
    rw [hs] at hget
    rw [Option.map_eq_none_iff.1 hget]
  | some item =>
    rw [hs] at hget
    obtain ⟨item', hitem', hsame⟩ := Option.map_eq_some_iff.1 hget
    rw [hitem']
    exact congrArg Except.ok hsame

theorem sameIn (scope : Filter.Scope) : s.SameIn scope s' where
  iterations i _ := by rw [h.rest]
  labels l _ := by rw [h.rest]
  groups space name _ := by rw [h.rest]

theorem parentOf?_eq (id : String) : s'.parentOf? id = s.parentOf? id := by
  have hlinks : s'.links = s.links := by rw [h.rest]
  have htypes : s'.linkTypes = s.linkTypes := by rw [h.rest]
  rw [parentOf?, parentOf?, hlinks, parentsIn_congr htypes]

end SameButParents
end Store

namespace Hierarchy

variable {s s' : Store}

/-! ## The walk to the ancestors -/

theorem ancestorsToList_congr
    (hload : ∀ id, (s'.load id).map WorkItem.parentless = (s.load id).map WorkItem.parentless) (skip : String → Bool) :
    ∀ chain : List String, ancestorsToList s' skip chain = ancestorsToList s skip chain
  | [] => rfl
  | id :: above => by
    rw [ancestorsToList, ancestorsToList, ancestorsToList_congr hload skip above]
    have hload := hload id
    cases hs : s.load id with
    | error e =>
      rw [hs] at hload
      rw [Outcome.map_eq_error.1 hload]
    | ok item =>
      rw [hs] at hload
      obtain ⟨item', hitem', hsame⟩ := Outcome.map_eq_ok.1 hload
      obtain ⟨parent, rfl⟩ := WorkItem.exists_parent_of_parentless_eq hsame
      rw [hitem']

section

variable (h : s.SameButParents s')
include h

theorem climb_eq_of_sameButParents (start : String) (levels : Nat) :
    ∀ (left : Nat) (current : String) (met : List String),
      climb s' start levels left current met = climb s start levels left current met
  | 0, current, met => by
    unfold climb
    rw [h.parentOf?_eq]
  | left + 1, current, met => by
    unfold climb
    simp only [h.parentOf?_eq, climb_eq_of_sameButParents start levels left]

theorem listAncestors_eq_of_sameButParents (levels : Nat) (onPage : String → Bool) {items items' : List WorkItem}
    (hitems : withoutParents items' = withoutParents items) (listed : List WorkItem) :
    listAncestors s' levels onPage listed items' = listAncestors s levels onPage listed items := by
  induction items generalizing items' listed with
  | nil =>
    rw [List.map_eq_nil_iff.1 hitems]
    rfl
  | cons item items ih =>
    obtain ⟨item', items', rfl, hitem, hrest⟩ := List.map_eq_cons_iff.1 hitems
    obtain ⟨parent, rfl⟩ := WorkItem.exists_parent_of_parentless_eq hitem
    have hwalk : ancestors s' levels item.id = ancestors s levels item.id := climb_eq_of_sameButParents h ..
    simp only [listAncestors, hwalk, ancestorsToList_congr h.load_eq, ih hrest]

/-- **A page with its ancestors** does not show the parents that items are stored with. -/
theorem withAncestors_eq_of_sameButParents (levels : Nat) {items items' : List WorkItem}
    (hitems : withoutParents items' = withoutParents items) :
    withAncestors s' levels items' = withAncestors s levels items := by
  have hids : ids items' = ids items := by rw [← ids_withoutParents, hitems, ids_withoutParents]
  have hpage : (fun id => items'.any (·.id == id)) = fun id => items.any (·.id == id) := by
    funext id
    rw [Bool.eq_iff_iff, ← not_iff_not, Bool.not_eq_true, Bool.not_eq_true, isOnPage_eq_false_iff,
      isOnPage_eq_false_iff, hids]
  rw [withAncestors, withAncestors, hpage]
  exact listAncestors_eq_of_sameButParents h levels _ hitems []

end

end Hierarchy

/-- A result without the hierarchy that it shows: no item has a parent, and there are no ancestors. -/
def SearchResult.flat (result : SearchResult) : SearchResult :=
  ⟨withoutParents result.items, [], result.total, result.page⟩

namespace Engine

variable {e : Engine} {s : Store} {d : Document} {space : Option String} {k : Compiled} {page : Page}
  {result : SearchResult}

/-! ## Stores with other parents -/

/-- **A filter is compiled alike** in stores that hold the same in every space. -/
theorem compile_eq_of_sameIn (h : ∀ scope, e.store.SameIn scope s) (d : Document) (space : Option String) :
    { e with store := s }.compile d space = e.compile d space := by
  have hlookups : ∀ scope, Resolver.SameLookups scope e.resolver { e with store := s }.resolver := fun scope =>
    Resolver.sameLookups_of_sameIn (h scope)
  refine (Resolver.compile_eq_of_sameLookups ?_ fun scope _ => hlookups scope).symm
  rfl

theorem runCompiled_eq_of_sameButParents (h : e.store.SameButParents s) (k : Compiled) (page : Page) :
    { e with store := s }.runCompiled k page = e.runCompiled k page := by
  obtain ⟨hitems, htotal⟩ := h.find_eq k.predicate page.offset page.limit
  have harrange : { e with store := s }.arrange k.treeView (s.find k.predicate page.offset page.limit).1 =
      e.arrange k.treeView (e.store.find k.predicate page.offset page.limit).1 := by
    unfold arrange
    cases k.treeView with
    | false =>
      simp only [Bool.false_eq_true, if_false]
      rw [hitems]
    | true =>
      simp only [if_true]
      rw [Hierarchy.withAncestors_eq_of_sameButParents h _ hitems]
  unfold runCompiled
  dsimp only
  rw [harrange, htotal]

theorem search_eq_of_sameButParents (h : e.store.SameButParents s) (r : Request) :
    { e with store := s }.search r = e.search r := by
  simp only [search, compile_eq_of_sameIn h.sameIn, runCompiled_eq_of_sameButParents h]

/-! ## The same page without its hierarchy -/

theorem compile_with_treeView (e : Engine) (d : Document) (space : Option String) (treeView : Bool) :
    e.compile { d with treeView } space = (e.compile d space).map fun k => { k with treeView } := by
  have hscope : Document.scopeUnder { d with treeView } e.resolver.convert space =
      d.scopeUnder e.resolver.convert space := rfl
  rw [compile, compile, Resolver.compile_eq_bind, Resolver.compile_eq_bind, hscope]
  cases d.scopeUnder e.resolver.convert space with
  | error e => rfl
  | ok scope =>
    show Except.map _ (e.resolver.nodePredicate scope d.root) =
      Except.map _ (Except.map _ (e.resolver.nodePredicate scope d.root))
    cases e.resolver.nodePredicate scope d.root <;> rfl

theorem treeView_eq_of_compile (h : e.compile d space = .ok k) : k.treeView = d.treeView := by
  have hsame := e.compile_with_treeView d space d.treeView
  rw [h] at hsame
  exact congrArg Compiled.treeView (Except.ok.inj hsame)

/-- **A page that is shown with ancestors** is the same page when it is shown without them. -/
theorem runCompiled_flat (htree : k.treeView = true) (h : e.runCompiled k page = .ok result) :
    e.runCompiled { k with treeView := false } page = .ok result.flat := by
  obtain ⟨⟨shown, included⟩, harrange, hresult⟩ := Outcome.bind_eq_ok.1 h
  rw [arrange, htree, if_pos rfl, Outcome.mapError_eq_ok] at harrange
  obtain ⟨-, hshown, -⟩ := Hierarchy.isListing_nil.listAncestors harrange
  cases hresult
  rw [runCompiled_of_treeView_eq_false e rfl page, SearchResult.flat, hshown]

theorem answer_flat (htree : d.treeView = true)
    (h : (e.compile d space >>= fun k => e.runCompiled k page) = .ok result) :
    (e.compile { d with treeView := false } space >>= fun k => e.runCompiled k page) = .ok result.flat := by
  obtain ⟨k, hk, hrun⟩ := Outcome.bind_eq_ok.1 h
  rw [compile_with_treeView, hk]
  exact runCompiled_flat ((treeView_eq_of_compile hk).trans htree) hrun

/-- **A stored parent is never trusted, and ancestors only add.**  Stores that are equal but for the parents of their
items have the same answer to every request, or refuse it for the same reason.  And where a filter with ancestors has an
answer, the filter without them has the same one but for the hierarchy: the items without parents, no ancestors, the
same total and the same page. -/
theorem search_trusts_no_parent (e : Engine) :
    (∀ s, e.store.SameButParents s → ∀ r, { e with store := s }.search r = e.search r) ∧
      ∀ d : Document, d.treeView = true →
        (∀ space page result, (e.compile d space >>= fun k => e.runCompiled k page) = .ok result →
          (e.compile { d with treeView := false } space >>= fun k => e.runCompiled k page) = .ok result.flat) ∧
        ∀ expression expression', Document.ofText expression = .ok d →
          Document.ofText expression' = .ok { d with treeView := false } →
            ∀ space offset limit result, e.search ⟨expression, space, offset, limit⟩ = .ok result →
              e.search ⟨expression', space, offset, limit⟩ = .ok result.flat := by
  refine ⟨fun s => search_eq_of_sameButParents, fun d htree => ⟨fun _ _ _ => answer_flat htree, ?_⟩⟩
  intro expression expression' hread hread' space offset limit result hresult
  rw [search_eq_bind (r := ⟨expression, space, offset, limit⟩) hread] at hresult
  rw [search_eq_bind (r := ⟨expression', space, offset, limit⟩) hread']
  exact answer_flat htree hresult

/-! ## A tree whose items are stored with wrong parents -/

/-- The tree, stored as if every item were the parent of the one before it. -/
def misplaced : Store :=
  .ofDataset { Hierarchy.tree.toDataset with
    items := [{ WorkItem.new "root" Hierarchy.newYear "s" "t" "" with parent := some "area" },
      { WorkItem.new "area" Hierarchy.newYear "s" "t" "" with parent := some "story" },
      { WorkItem.new "story" Hierarchy.newYear "s" "t" "" with parent := some "spike" },
      { WorkItem.new "spike" Hierarchy.newYear "s" "t" "" with parent := some "task" },
      .new "task" Hierarchy.newYear "s" "t" ""] }

def bottomOfTree (treeView : Bool) : Document :=
  ⟨.comparison ⟨"id", .isIn, .texts ["task", "spike"], false⟩, treeView⟩

def bottomRequest (treeView : Bool) : Request :=
  ⟨(bottomOfTree treeView).text .compact, none, none, none⟩

theorem search_trusts_no_parent_misplaced :
    Hierarchy.tree.SameButParents misplaced ∧
      (ofConfig misplaced .none).search (bottomRequest true) =
        (ofConfig Hierarchy.tree .none).search (bottomRequest true) ∧
      ∃ result, (ofConfig Hierarchy.tree .none).search (bottomRequest true) = .ok result ∧
        Hierarchy.ids result.included = ["root", "area", "story"] ∧
        result.items.map WorkItem.parent = [some "area", some "story"] ∧
        (ofConfig Hierarchy.tree .none).search (bottomRequest false) = .ok result.flat := by
  obtain ⟨hstores, hfilters⟩ := search_trusts_no_parent (ofConfig Hierarchy.tree .none)
  have hsame : Hierarchy.tree.SameButParents misplaced := ⟨by decide +kernel, by decide +kernel⟩
  have hread : ∀ treeView, Document.ofText (bottomRequest treeView).expression = .ok (bottomOfTree treeView) := by
    intro treeView
    exact Document.ofText_text (d := bottomOfTree treeView) (by cases treeView <;> decide +kernel)
      (by cases treeView <;> decide +kernel) .compact
  have hshown : ((ofConfig Hierarchy.tree .none).compile (bottomOfTree true) none >>= fun k =>
      (ofConfig Hierarchy.tree .none).runCompiled k (.ofRequest Config.none.settings none none)).toOption.map
        (fun result => (Hierarchy.ids result.included, result.items.map WorkItem.parent)) =
      some (["root", "area", "story"], [some "area", some "story"]) := by
    decide +kernel
  obtain ⟨result, hanswer, hshown⟩ := Option.map_eq_some_iff.1 hshown
  obtain ⟨hincluded, hparents⟩ := Prod.mk.inj hshown
  have hresult : (ofConfig Hierarchy.tree .none).search (bottomRequest true) = .ok result := by
    rw [search_eq_bind (hread true)]
    exact Outcome.toOption_eq_some.1 hanswer
  exact ⟨hsame, hstores misplaced hsame (bottomRequest true), result, hresult, hincluded, hparents,
    (hfilters (bottomOfTree true) rfl).2 _ _ (hread true) (hread false) none none none result hresult⟩

end Engine
end Backlog
