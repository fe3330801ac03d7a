import Backlog.Proofs.Search.Parentage
import Mathlib.Data.List.Nodup
/-!
# Rearrangement — the order of a dataset does not show

A dataset lists its entries in some order, and two datasets may list the same entries differently
(`Dataset.Rearranges`).  Where no two entries of a kind go by the same identifier, and no two groups by the same name in
one space, the order says nothing about what is stored: an entry is found by its identifier and a group by its name and
its space, whatever stands before it.  So the stores of the two differ in the order of groups and links only
(`Store.SameButOrder`).  The first shows nowhere, since names are looked up for a set of members; the second does not
show in the parents of an item, which are a set too.

Hence both stores answer every request alike (`search_rearranged`).  It is only in a failure of the search itself that
the order shows: of several links whose type is unknown, the first is reported.  The kind of failure is the same.
-/
namespace Backlog

open Backlog.Filter (Document Compiled Resolver)

/-- Where no two members of a list have the same key, a rearrangement leaves those with one key as they are. -/
theorem filter_key_eq_of_perm {α κ : Type} [BEq κ] [LawfulBEq κ] {key : α → κ} {as bs : List α} (h : as.Perm bs)
    (hd : (as.map key).Nodup) (k : κ) : as.filter (fun a => key a == k) = bs.filter fun a => key a == k := by
  have hle : (as.filter fun a => key a == k).length ≤ 1 := by
    rw [← List.countP_eq_length_filter, ← Function.comp_def (· == k) key, ← List.countP_map]
    exact List.nodup_iff_count_le_one.1 hd k
  have hperm := h.filter fun a => key a == k
  match hsame : as.filter fun a => key a == k with
  | [] => rw [hsame] at hperm; exact hperm.nil_eq
  | [a] => rw [hsame] at hperm; exact (List.perm_singleton.1 hperm.symm).symm
  | _ :: _ :: _ => rw [hsame] at hle; simp at hle

theorem Registry.ofList_eq_of_perm {α : Type} [Keyed α] {as bs : List α} (h : as.Perm bs)
    (hd : (as.map Keyed.key).Nodup) : ofList as = ofList bs := by
  refine ext_get? fun k => ?_
  rw [get?_ofList, get?_ofList, filter_key_eq_of_perm h hd]

namespace Dataset

/-- Whether two datasets have the same entries, each as often, in whatever order. -/
structure Rearranges (d d' : Dataset) : Prop where
  spaces : d.spaces.Perm d'.spaces
  types : d.types.Perm d'.types
  groups : d.groups.Perm d'.groups
  iterations : d.iterations.Perm d'.iterations
  labels : d.labels.Perm d'.labels
  linkTypes : d.linkTypes.Perm d'.linkTypes
  links : d.links.Perm d'.links
  items : d.items.Perm d'.items

/-- Whether no two entries of a kind have the same identifier, and no two groups the same name in one space.  Links have
identifiers too, but nothing is looked up by them. -/
structure HasDistinctKeys (d : Dataset) : Prop where
  spaces : (d.spaces.map Space.id).Nodup
  types : (d.types.map WorkItemType.id).Nodup
  groups : (d.groups.map fun g => (g.space, g.name)).Nodup
  iterations : (d.iterations.map Iteration.id).Nodup
  labels : (d.labels.map Label.id).Nodup
  linkTypes : (d.linkTypes.map LinkType.id).Nodup
  items : (d.items.map WorkItem.id).Nodup

def backwards (d : Dataset) : Dataset :=
  ⟨d.spaces.reverse, d.types.reverse, d.groups.reverse, d.iterations.reverse, d.labels.reverse, d.linkTypes.reverse,
    d.links.reverse, d.items.reverse⟩

theorem rearranges_backwards (d : Dataset) : d.Rearranges d.backwards := by
  constructor <;> exact (List.reverse_perm _).symm

end Dataset

namespace Store

/-- Whether two stores are equal but for the order of links, and that of groups which go by different names or are in
different spaces. -/
structure SameButOrder (s s' : Store) : Prop where
  rest : s' = { s with groups := s'.groups, links := s'.links }
  groups : ∀ space name, s.groups.filter (fun g => g.space == space && g.name == name) =
    s'.groups.filter fun g => g.space == space && g.name == name
  links : s'.links.Perm s.links

theorem sameButOrder_ofDataset {d d' : Dataset} (h : d.Rearranges d') (hd : d.HasDistinctKeys) :
    (ofDataset d).SameButOrder (ofDataset d') where
  rest := by
    simp only [ofDataset, Registry.ofList_eq_of_perm h.spaces hd.spaces, Registry.ofList_eq_of_perm h.types hd.types,
      Registry.ofList_eq_of_perm h.iterations hd.iterations, Registry.ofList_eq_of_perm h.labels hd.labels,
      Registry.ofList_eq_of_perm h.linkTypes hd.linkTypes, Registry.ofList_eq_of_perm h.items hd.items]
  groups space name := filter_key_eq_of_perm h.groups hd.groups (space, name)
  links := h.links.symm

namespace SameButOrder

variable {s s' : Store} (h : s.SameButOrder s')
include h

theorem items_eq : s'.items = s.items := by rw [h.rest]

theorem sameIn (scope : Filter.Scope) : s.SameIn scope s' where
  iterations i _ := by rw [h.rest]
  labels l _ := by rw [h.rest]
  groups space name _ := h.groups space name

theorem find_eq (p : Predicate) (offset limit : Nat) : s'.find p offset limit = s.find p offset limit := by
  rw [find, find, matchesOf, matchesOf, h.items_eq]

theorem load_eq (id : String) : s'.load id = s.load id := by
  rw [load, load, h.items_eq]

theorem toOption_parentOf?_eq (id : String) : (s'.parentOf? id).toOption = (s.parentOf? id).toOption :=
  toOption_parentOf?_of_perm (by rw [h.rest]) h.links id

end SameButOrder
end Store

namespace Hierarchy

variable {s s' : Store}

/-! ## The walk to the ancestors -/

theorem toOption_climb (s : Store) (start : String) (levels left : Nat) (current : String) (met : List String) :
    (climb s start levels left current met).toOption = (s.parentOf? current).toOption.bind fun
      | none => some []
      | some parent =>
        if met.contains parent then none
        else match left with
          | 0 => none
          | left + 1 => (climb s start levels left parent (parent :: met)).toOption.map (parent :: ·) := by
  rw [climb.eq_def]
  dsimp only
  cases s.parentOf? current with
  | error e => rfl
  | ok parent =>
    cases parent with
    | none => rfl
    | some parent =>
      dsimp only [Except.toOption, Option.bind_some]
      cases met.contains parent with
      | true => rfl
      | false =>
        cases left with
        | zero => rfl
        | succ left => exact Outcome.toOption_map _ _

section

variable (h : s.SameButOrder s')
include h

theorem toOption_climb_eq_of_sameButOrder (start : String) (levels : Nat) :
    ∀ (left : Nat) (current : String) (met : List String),
      (climb s' start levels left current met).toOption = (climb s start levels left current met).toOption
  | 0, current, met => by
    rw [toOption_climb, toOption_climb, h.toOption_parentOf?_eq]
  | left + 1, current, met => by
    rw [toOption_climb, toOption_climb, h.toOption_parentOf?_eq]
    simp only [toOption_climb_eq_of_sameButOrder start levels left]

theorem toOption_listAncestors_eq_of_sameButOrder (levels : Nat) (onPage : String → Bool) :
    ∀ items listed : List WorkItem,
      (listAncestors s' levels onPage listed items).toOption = (listAncestors s levels onPage listed items).toOption
  | [], _ => rfl
  | item :: items, listed => by
    have hwalk : (ancestors s' levels item.id).toOption = (ancestors s levels item.id).toOption :=
      toOption_climb_eq_of_sameButOrder h ..
    -- the items are the same in both stores, so an ancestor that is reached is loaded in both or in neither
    have hlist : ∀ skip chain, ancestorsToList s' skip chain = ancestorsToList s skip chain :=
      ancestorsToList_congr fun id => by rw [h.load_eq]
    simp only [listAncestors, Outcome.toOption_bind, hwalk, hlist,
      toOption_listAncestors_eq_of_sameButOrder levels onPage items]

end

end Hierarchy

namespace Engine

/-! ## The same answers -/

section

variable {e : Engine} {s : Store} (h : e.store.SameButOrder s)
include h

theorem check_eq_of_sameButOrder (d : Document) (space : Option String) :
    { e with store := s }.check d space = e.check d space := by
  have hcatalog : Filter.Catalog.ofStore s = Filter.Catalog.ofStore e.store := by
    rw [Filter.Catalog.ofStore, Filter.Catalog.ofStore, h.rest]
  rw [check, check, compile_eq_of_sameIn h.sameIn, Filter.warnings, Filter.warnings, hcatalog]

/-- Every page of ancestors is the same, or fails for a fault of the search itself in both stores. -/
theorem code_arrange_eq_of_sameButOrder (treeView : Bool) (items : List WorkItem) :
    ({ e with store := s }.arrange treeView items).mapError QueryError.code =
      (e.arrange treeView items).mapError QueryError.code := by
  cases treeView with
  | false => rfl
  | true =>
    -- which of several faults is met depends on the order of links, but all of them have one code
    rw [arrange, arrange, if_pos rfl, if_pos rfl, Outcome.mapError_mapError, Outcome.mapError_mapError]
    exact Outcome.mapError_eq_of_toOption_eq (fun _ _ => rfl)
      (Hierarchy.toOption_listAncestors_eq_of_sameButOrder h _ _ items [])

theorem code_runCompiled_eq_of_sameButOrder (k : Compiled) (page : Page) :
    ({ e with store := s }.runCompiled k page).mapError QueryError.code =
      (e.runCompiled k page).mapError QueryError.code := by
  unfold runCompiled
  dsimp only
  rw [Outcome.mapError_bind, Outcome.mapError_bind, h.find_eq, code_arrange_eq_of_sameButOrder h]

theorem code_search_eq_of_sameButOrder (r : Request) :
    ({ e with store := s }.search r).mapError QueryError.code = (e.search r).mapError QueryError.code := by
  simp only [search, Outcome.mapError_bind, compile_eq_of_sameIn h.sameIn, code_runCompiled_eq_of_sameButOrder h]

end

/-- **The order of a dataset does not show.**  Where no two entries of a dataset go by the same identifier, and no two of
its groups by the same name in one space, a dataset with the same entries in another order answers every request alike,
under every configuration: with the same page, or with a failure of the same kind.  And a check gives the same warnings
about every filter, or the same failure. -/
theorem search_rearranged {d d' : Dataset} (h : d.Rearranges d') (hd : d.HasDistinctKeys) (c : Config) :
    (∀ r, ((ofConfig (.ofDataset d') c).search r).mapError QueryError.code =
      ((ofConfig (.ofDataset d) c).search r).mapError QueryError.code) ∧
      ∀ filter space, (ofConfig (.ofDataset d') c).check filter space = (ofConfig (.ofDataset d) c).check filter space :=
  have hstores := Store.sameButOrder_ofDataset h hd
  ⟨code_search_eq_of_sameButOrder (e := ofConfig (.ofDataset d) c) hstores,
    check_eq_of_sameButOrder (e := ofConfig (.ofDataset d) c) hstores⟩

/-! ## A dataset, forwards and backwards -/

/-- Two spaces, each with an item of a group of the same name, in one tree; and an item `odd` to which there are two
links whose types are not there. -/
def shared : Dataset :=
  ⟨[⟨"a", "A"⟩, ⟨"b", "B"⟩], [⟨"bug", "a", "Bug"⟩, ⟨"task", "b", "Task"⟩],
    [⟨"work", "a", .requirement, ["bug"]⟩, ⟨"work", "b", .requirement, ["task"]⟩, ⟨"play", "b", .portfolio, ["epic"]⟩],
    [⟨"ia", "a", "Sprint"⟩, ⟨"ib", "b", "Sprint"⟩], [⟨"la", "a", "red"⟩, ⟨"lb", "b", "red"⟩],
    [.parenting "up", ⟨"sees", "Related", .network, "relates to", "relates to"⟩],
    [⟨"1", "root", "left", "up"⟩, ⟨"2", "left", "low", "up"⟩, ⟨"3", "right", "low", "sees"⟩, ⟨"4", "root", "right", "up"⟩,
      ⟨"5", "left", "odd", "x"⟩, ⟨"6", "right", "odd", "y"⟩],
    [.new "root" Hierarchy.newYear "a" "epic" "", .new "left" Hierarchy.newYear "a" "epic" "",
      .new "right" Hierarchy.newYear "b" "task" "", .new "low" Hierarchy.newYear "a" "bug" "",
      .new "odd" Hierarchy.newYear "b" "epic" ""]⟩

def workOfBoth : Document :=
  ⟨.comparison ⟨"work", .eq, .text "", false⟩, true⟩

def oddOne : Document :=
  ⟨.comparison ⟨"id", .eq, .text "odd", false⟩, true⟩

/-- A request for all that a filter finds, in whatever space. -/
def requestFor (d : Document) : Request :=
  ⟨d.text .compact, none, none, none⟩

theorem search_rearranged_backwards :
    shared.Rearranges shared.backwards ∧ shared.HasDistinctKeys ∧
      (∃ result, Hierarchy.ids result.items = ["low", "right"] ∧ Hierarchy.ids result.included = ["root", "left"] ∧
        (ofConfig (.ofDataset shared) .none).search (requestFor workOfBoth) = .ok result ∧
        (ofConfig (.ofDataset shared.backwards) .none).search (requestFor workOfBoth) =
          .ok result) ∧
      (∀ filter space, (ofConfig (.ofDataset shared.backwards) .none).check filter space =
        (ofConfig (.ofDataset shared) .none).check filter space) ∧
      (ofConfig (.ofDataset shared) .none).search (requestFor oddOne) =
        .error (.internal [] (.store (.unknownLinkType "5" "x"))) ∧
      (ofConfig (.ofDataset shared.backwards) .none).search (requestFor oddOne) =
        .error (.internal [] (.store (.unknownLinkType "6" "y"))) := by
  have hdistinct : shared.HasDistinctKeys := by
    constructor <;> decide +kernel
  obtain ⟨hsearch, hcheck⟩ := search_rearranged shared.rearranges_backwards hdistinct .none
  have hwork : Document.ofText (requestFor workOfBoth).expression = .ok workOfBoth :=
    Document.ofText_text (by decide +kernel) (by decide +kernel) .compact
  have hodd : Document.ofText (requestFor oddOne).expression = .ok oddOne :=
    Document.ofText_text (by decide +kernel) (by decide +kernel) .compact
  refine ⟨shared.rearranges_backwards, hdistinct, ?_, hcheck, ?_, ?_⟩
  · have hshown : ((ofConfig (.ofDataset shared) .none).compile workOfBoth none >>= fun k =>
        (ofConfig (.ofDataset shared) .none).runCompiled k (.ofRequest Config.none.settings none none)).toOption.map
          (fun result => (Hierarchy.ids result.items, Hierarchy.ids result.included)) =
        some (["low", "right"], ["root", "left"]) := by
      decide +kernel
    obtain ⟨result, hanswer, hshown⟩ := Option.map_eq_some_iff.1 hshown
    obtain ⟨hitems, hincluded⟩ := Prod.mk.inj hshown
    have hresult : (ofConfig (.ofDataset shared) .none).search (requestFor workOfBoth) =
        .ok result := (search_eq_bind hwork).trans (Outcome.toOption_eq_some.1 hanswer)
    refine ⟨result, hitems, hincluded, hresult, ?_⟩
    rw [← Outcome.mapError_eq_ok (f := QueryError.code), hsearch, hresult]
    rfl
  · rw [search_eq_bind hodd]
    rfl
  · rw [search_eq_bind hodd]
    rfl

end Engine
end Backlog
