import Backlog.Proofs.Filter.Acceptance
import Backlog.Proofs.Search.Exchange
import Backlog.Proofs.Search.Failure
/-!
# Grouping — two ways to ask for the members of a group

A group of types can be asked for under its own name, whatever the value, and with its name as the value of
`typegroup.name`.  The two are compiled apart from each other, but the texts stand for the same types
(`denoted_of_not_key`), so that either can stand for the other in any filter.  Only where names without a meaning are
refused it makes a difference if there is no such group in the scope: then the first is refused and the second is asked
for in vain (`groupKey_eq_groupName`).
-/
namespace Backlog

open Backlog.Filter (Comparison Compiled Document Key Node Operator Resolver Scope)

/-- Whether there is a group with a name in a scope. -/
def Store.HasGroup (s : Store) (scope : Scope) (name : String) : Prop :=
  ∃ g ∈ s.groups, g.name = name ∧ scope.contains g.space = true

namespace Filter

def Operator.ofGroupKey (operator : Operator) (name v : String) (negate : Bool) : Node :=
  .comparison ⟨name, operator, .text v, negate⟩

def Operator.ofGroupName (operator : Operator) (name : String) (negate : Bool) : Node :=
  .comparison ⟨Key.typeGroupName.name, operator, .text name, negate⟩

namespace Resolver

variable {r : Resolver} {scope : Scope} {name : String}

theorem membersIn_eq_none_iff_hasGroup : membersIn r.store scope name = none ↔ ¬r.store.HasGroup scope name := by
  rw [membersIn_eq_none_iff]
  refine not_congr ⟨?_, ?_⟩
  · rintro ⟨g, hg, hname, hcounts⟩
    have hspace : scope.contains g.space = true := (contains_iff_covers (r := r)).2 fun hsome => (hcounts hsome).1
    exact ⟨g, hg, hname, hspace⟩
  · rintro ⟨g, hg, rfl, hspace⟩
    -- the group itself need not count, but the first with its name in its space does
    have hsome : (r.store.groups.find? fun h => h.space == g.space && h.name == g.name).isSome = true :=
      List.find?_isSome.2 ⟨g, hg, by simp⟩
    obtain ⟨first, hfirst⟩ := Option.isSome_iff_exists.1 hsome
    have hkeys := List.find?_some hfirst
    simp only [Bool.and_eq_true, beq_iff_eq] at hkeys
    refine ⟨first, List.mem_of_find?_eq_some hfirst, hkeys.2, fun hnamed => ?_⟩
    rw [hkeys.1, hkeys.2]
    exact ⟨(contains_iff_covers (r := r)).1 hspace hnamed, hfirst⟩

theorem denoted_typeGroupName (r : Resolver) (scope : Scope) (name : String) :
    r.denoted scope Key.typeGroupName.name name = .ok ((membersIn r.store scope name).getD .empty) := by
  rw [denoted, resolution_of_key (Key.ofName?_name .typeGroupName)]
  rfl

/-- **A text under the name of a group** stands for what the name stands for under `typegroup.name`, if it is not
refused. -/
theorem denoted_of_not_key (hname : Key.ofName? name = none) (v : String) :
    r.denoted scope name v = if (membersIn r.store scope name).isNone && r.strict then .error (.unknownKey name)
      else r.denoted scope Key.typeGroupName.name name := by
  rw [denoted, resolution_of_not_key hname, denoted_typeGroupName]
  split <;> rfl

theorem matcher_ofGroupKey {operator : Operator} (hoperator : operator = .eq ∨ operator = .ne)
    (hname : Key.ofName? name = none) (v : String) (negate : Bool) :
    r.matcher scope (operator.ofGroupKey name v negate) =
      if (membersIn r.store scope name).isNone && r.strict then .error (.unknownKey name)
      else r.matcher scope (operator.ofGroupName name negate) := by
  have hsubject : subjectOf name = subjectOf Key.typeGroupName.name := by
    rw [subjectOf_name, subjectOf, hname]
    rfl
  rw [Operator.ofGroupKey, Operator.ofGroupName, matcher_text r scope name v negate hoperator,
    matcher_text r scope Key.typeGroupName.name name negate hoperator, denoted_of_not_key hname, hsubject]
  split <;> rfl

theorem exists_compiledIn_ofGroupName {operator : Operator} (hoperator : operator = .eq ∨ operator = .ne)
    (hnone : ¬r.store.HasGroup scope name) (negate : Bool) :
    ∃ p, r.compiledIn scope (operator.ofGroupName name negate) = .ok p ∧
      ∀ item, p.isMatch item = (negate != decide (operator = .ne)) := by
  have hmatcher := matcher_text r scope Key.typeGroupName.name name negate hoperator
  rw [denoted_typeGroupName, membersIn_eq_none_iff_hasGroup.2 hnone, subjectOf_name, Option.getD_none,
    ← map_isMatch_compiledIn] at hmatcher
  obtain ⟨p, hp, hmatch⟩ := Outcome.map_eq_ok.1 hmatcher
  refine ⟨p, hp, fun item => ?_⟩
  have hasks : asks operator (Key.typeGroupName.subject.content item) .empty = decide (operator = .ne) := by
    rw [show Key.typeGroupName.subject = Attribute.type from rfl, asks_type, Content.meets_empty]
    rcases hoperator with rfl | rfl <;> rfl
  exact (congrFun hmatch item).trans (congrArg (negate != ·) hasks)

/-! ## A part that is refused -/

theorem matcher_eq_error_of_exchanged {m m' n n' : Node} (h : Node.Exchanged m m' n n') {error : QueryError}
    (hm : r.matcher scope m = .error error) :
    r.matcher scope n = .error error ∨ ∃ error', r.matcher scope n = .error error' ∧ r.matcher scope n' = .error error' := by
  induction h with
  | here => exact .inl hm
  | @inside n n' connective before after negate _ ih =>
    rw [matcher_combinator, matcher_combinator, List.mapM_append, List.mapM_append, List.mapM_cons, List.mapM_cons]
    cases before.mapM (r.matcher scope) with
    | error error' => exact .inr ⟨error', rfl, rfl⟩
    | ok accepts =>
      rcases ih with hn | ⟨error', hn, hn'⟩
      · rw [hn]
        exact .inl rfl
      · rw [hn, hn']
        exact .inr ⟨error', rfl, rfl⟩

end Resolver

theorem requestedSpaces_ofGroupKey {name : String} (hname : Key.ofName? name = none) (operator : Operator) (v : String)
    (negate : Bool) : (operator.ofGroupKey name v negate).comparisons.flatMap Comparison.requestedSpaces =
      (operator.ofGroupName name negate).comparisons.flatMap Comparison.requestedSpaces := by
  have hspace : name ≠ Key.space.name := by
    rintro rfl
    cases hname
  have hgroups : Key.typeGroupName.name ≠ Key.space.name := by decide
  exact (Node.requestedSpaces_comparison hspace).trans (Node.requestedSpaces_comparison hgroups).symm

end Filter

namespace Engine

theorem compile_of_matcher_eq_error {e : Engine} {d : Document} {space : Option String} {scope : Scope}
    {error : QueryError} (hscope : d.scopeUnder e.convert space = .ok scope)
    (h : e.resolver.matcher scope d.root = .error error) : e.compile d space = .error error := by
  have hscope : d.scopeUnder e.resolver.convert space = .ok scope := hscope
  have hpredicate : e.resolver.nodePredicate scope d.root = .error error := Outcome.map_eq_error.1 h
  rw [compile, Resolver.compile_eq_bind, hscope]
  show (e.resolver.nodePredicate scope d.root).map _ = _
  rw [hpredicate]
  rfl

/-- **A group under its own name is the group of that name.**  Wherever in a filter the name of a group is compared,
whatever with, `typegroup.name` can be compared with the name in its place: no request tells the filters apart, whether
there are such groups in the scope or not.  Only where names without a meaning are refused, and there is no such group in
the scope, the first comparison is refused, and the other is one with no types.  Then the first filter is refused for
this, or for what comes before it and for which the second is refused too. -/
theorem groupKey_eq_groupName (e : Engine) {operator : Operator} (hoperator : operator = .eq ∨ operator = .ne)
    {name : String} (hname : Key.ofName? name = none) (v : String) (negate : Bool) {d d' : Document}
    (hroot : Node.Exchanged (operator.ofGroupKey name v negate) (operator.ofGroupName name negate) d.root d'.root)
    (htree : d'.treeView = d.treeView) (space : Option String) :
    ((e.settings.strictKeys = true → ∀ scope, d.scopeUnder e.convert space = .ok scope → e.store.HasGroup scope name) →
        e.Interchangeable d d' space) ∧
      ∀ scope, d.scopeUnder e.convert space = .ok scope → e.settings.strictKeys = true → ¬e.store.HasGroup scope name →
        e.resolver.compiledIn scope (operator.ofGroupKey name v negate) = .error (.unknownKey name) ∧
        (∃ p, e.resolver.compiledIn scope (operator.ofGroupName name negate) = .ok p ∧
          ∀ item, p.isMatch item = (negate != decide (operator = .ne))) ∧
        (e.compile d space = .error (.unknownKey name) ∨
          ∃ error, e.compile d space = .error error ∧ e.compile d' space = .error error) := by
  have hspaces := Filter.requestedSpaces_ofGroupKey hname operator v negate
  constructor
  · intro hhas
    -- with such a group in the scope there is nothing to refuse, and neither is there where nothing is refused
    refine interchangeable_of_exchanged_in hroot htree hspaces space fun scope hscope => ?_
    rw [Resolver.matcher_ofGroupKey hoperator hname v negate, if_neg]
    rw [Bool.and_eq_true, Option.isNone_iff_eq_none, Resolver.membersIn_eq_none_iff_hasGroup]
    exact fun ⟨hnone, hstrict⟩ => hnone (hhas hstrict scope hscope)
  · intro scope hscope hstrict hnone
    have hmatcher : e.resolver.matcher scope (operator.ofGroupKey name v negate) = .error (.unknownKey name) := by
      rw [Resolver.matcher_ofGroupKey hoperator hname v negate, if_pos]
      rw [Bool.and_eq_true, Option.isNone_iff_eq_none, Resolver.membersIn_eq_none_iff_hasGroup]
      exact ⟨hnone, hstrict⟩
    refine ⟨?_, Resolver.exists_compiledIn_ofGroupName hoperator hnone negate, ?_⟩
    · rw [← Resolver.map_isMatch_compiledIn] at hmatcher
      exact Outcome.map_eq_error.1 hmatcher
    · have hscope' := (Document.scopeUnder_eq_of_exchanged hroot hspaces e.convert space).trans hscope
      rcases Resolver.matcher_eq_error_of_exchanged hroot hmatcher with hd | ⟨error, hd, hd'⟩
      · exact .inl (compile_of_matcher_eq_error hscope hd)
      · exact .inr ⟨error, compile_of_matcher_eq_error hscope hd, compile_of_matcher_eq_error hscope' hd'⟩

theorem groupKey_eq_groupName_notRedAnd :
    (ofConfig twoSpaces strictly).Interchangeable (notRedAnd (Operator.ne.ofGroupKey "work" "any" true))
        (notRedAnd (Operator.ne.ofGroupName "work" true)) (some "b") ∧
      (∃ result, result.items.map WorkItem.id = ["5"] ∧
        (ofConfig twoSpaces strictly).search
          ⟨(notRedAnd (Operator.ne.ofGroupKey "work" "any" true)).text .compact, some "b", none, none⟩ = .ok result ∧
        (ofConfig twoSpaces strictly).search
          ⟨(notRedAnd (Operator.ne.ofGroupName "work" true)).text .compact, some "b", none, none⟩ = .ok result) ∧
      (ofConfig twoSpaces strictly).resolver.compiledIn (.ofList ["b"]) (Operator.ne.ofGroupKey "play" "any" true) =
        .error (.unknownKey "play") ∧
      ∃ p, (ofConfig twoSpaces strictly).resolver.compiledIn (.ofList ["b"]) (Operator.ne.ofGroupName "play" true) =
        .ok p := by
  have hroot (name : String) : Node.Exchanged (Operator.ne.ofGroupKey name "any" true)
      (Operator.ne.ofGroupName name true) (notRedAnd (Operator.ne.ofGroupKey name "any" true)).root
      (notRedAnd (Operator.ne.ofGroupName name true)).root :=
    .inside .or [] [] true (.inside .and [] [_] false .here)
  have hwork := groupKey_eq_groupName (ofConfig twoSpaces strictly) (.inr rfl)
    (show Key.ofName? "work" = none from rfl) "any" true (hroot "work") rfl (some "b")
  have hplay := groupKey_eq_groupName (ofConfig twoSpaces strictly) (.inr rfl)
    (show Key.ofName? "play" = none from rfl) "any" true (hroot "play") rfl (some "b")
  have hsame := hwork.1 fun _ scope hscope => by
    cases hscope
    exact ⟨⟨"work", "b", .requirement, ["task"]⟩, by decide +kernel, rfl, by decide +kernel⟩
  have hnone : ¬twoSpaces.HasGroup (.ofList ["b"]) "play" := by
    rintro ⟨g, hg, hname, -⟩
    have hnames : ∀ g ∈ twoSpaces.groups, g.name ≠ "play" := by decide +kernel
    exact hnames g hg hname
  obtain ⟨hrefused, ⟨p, hp, -⟩, -⟩ := hplay.2 (.ofList ["b"]) rfl rfl hnone
  refine ⟨hsame, ?_, hrefused, p, hp⟩
  have hread : Document.ofText ((notRedAnd (Operator.ne.ofGroupKey "work" "any" true)).text .compact) = .ok _ :=
    Document.ofText_text (by decide +kernel) (by decide +kernel) .compact
  have hread' : Document.ofText ((notRedAnd (Operator.ne.ofGroupName "work" true)).text .compact) = .ok _ :=
    Document.ofText_text (by decide +kernel) (by decide +kernel) .compact
  have hids : ((ofConfig twoSpaces strictly).search
      ⟨(notRedAnd (Operator.ne.ofGroupKey "work" "any" true)).text .compact, some "b", none, none⟩).toOption.map
        (fun result => result.items.map WorkItem.id) = some ["5"] := by
    rw [search_eq_bind (r := ⟨(notRedAnd (Operator.ne.ofGroupKey "work" "any" true)).text .compact, some "b", none, none⟩)
      hread]
    decide +kernel
  obtain ⟨result, hresult, hids⟩ := Option.map_eq_some_iff.1 hids
  have hresult := Outcome.toOption_eq_some.1 hresult
  exact ⟨result, hids, hresult, (hsame.search _ _ hread hread' none none).trans hresult⟩

end Engine
end Backlog
