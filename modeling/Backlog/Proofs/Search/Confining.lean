import Backlog.Proofs.Filter.Algebra
import Backlog.Proofs.Filter.Denotation
import Backlog.Proofs.Search.Negation
import Backlog.Proofs.Search.Parentage
/-!
# Confining — a search in one space

A request that is confined to a space finds what is in the space, but it also has a narrower scope, and in that names may
stand for less.  Fewer labels have a name then, so fewer items have a label with the name and more have none.  An item of
the space shows nothing of this as long as what it refers to is in its space, since its labels and its iteration are in
the scope either way (`matcherAmong_eq`).  So on data with such references a confined search finds what the search
everywhere finds in the space, and nothing else (`search_confined`).
-/
namespace Backlog

open Backlog.Filter (Comparison Compiled Document Key Node Resolver Scope)

/-- **Whether items refer to what is in their own spaces**, as far as there is an iteration or a label with the
identifier that they refer to. -/
structure Store.RefersWithinSpaces (s : Store) : Prop where
  iteration : ∀ item ∈ s.items.entries, ∀ i ∈ s.iterations.entries, item.iteration = some i.id → i.space = item.space
  labels : ∀ item ∈ s.items.entries, ∀ l ∈ s.labels.entries, l.id ∈ item.labels.getD [] → l.space = item.space

namespace Filter

def Comparison.isSpaceless (c : Comparison) : Bool :=
  match Key.ofName? c.field with
  | none | some .space | some .typeGroupName => false
  | some _ => true

theorem Comparison.requestedSpaces_of_isSpaceless {c : Comparison} (h : c.isSpaceless = true) :
    c.requestedSpaces = [] := by
  refine requestedSpaces_of_ne_space fun hspace => ?_
  rw [isSpaceless, hspace] at h
  cases h

namespace Resolver

variable {r : Resolver} {scope scope' : Scope} {P : WorkItem → Prop}

/-! ## What matches among some items -/

/-- What is accepted among the items of some kind, if anything can be said of items at all. -/
def among (P : WorkItem → Prop) (x : Except QueryError (WorkItem → Bool)) :
    Except QueryError ({ item // P item } → Bool) :=
  x.map fun accepts item => accepts item.val

theorem among_map {α : Type} (x : Except QueryError α) (f : α → WorkItem → Bool) :
    among P (x.map f) = x.map fun a item => f a item.val :=
  Outcome.map_map x f _

theorem among_map_congr {α β : Type} {x y : Except QueryError α} {f f' : α → WorkItem → Bool} {g : α → β}
    (h : x.map g = y.map g) (hf : ∀ a b, g a = g b → ∀ item, P item → f a item = f' b item) :
    among P (x.map f) = among P (y.map f') := by
  rw [among_map, among_map]
  exact Outcome.map_congr_of_map_eq h fun a b hab => funext fun item => hf a b hab item.val item.property

/-- What matches a condition among the items of some kind, if the condition has a meaning. -/
def matcherAmong (r : Resolver) (scope : Scope) (P : WorkItem → Prop) (n : Node) :
    Except QueryError ({ item // P item } → Bool) :=
  among P (r.matcher scope n)

theorem matcherAmong_combinator_congr {connective : Connective} {ns : List Node} {negate : Bool}
    (h : ns.mapM (r.matcherAmong scope P) = ns.mapM (r.matcherAmong scope' P)) :
    r.matcherAmong scope P (.combinator connective ns negate) =
      r.matcherAmong scope' P (.combinator connective ns negate) := by
  unfold matcherAmong among at h
  rw [Outcome.mapM_map_result, Outcome.mapM_map_result] at h
  unfold matcherAmong
  rw [matcher_combinator, matcher_combinator]
  refine among_map_congr h fun accepts accepts' hsame item hitem => ?_
  have hitem := congrArg (List.map (· ⟨item, hitem⟩)) hsame
  rw [List.map_map, List.map_map] at hitem
  exact joinedMatchers_congr_at connective hitem

mutual

/-- **A condition matches the same** in two scopes among some items, if each of its comparisons does. -/
theorem matcherAmong_congr :
    ∀ n : Node, (∀ c ∈ n.comparisons, r.matcherAmong scope P (.comparison c) = r.matcherAmong scope' P (.comparison c)) →
      r.matcherAmong scope P n = r.matcherAmong scope' P n
  | .comparison c, h => h c (List.mem_singleton_self c)
  | .combinator _ ns _, h => matcherAmong_combinator_congr (mapM_matcherAmong_congr ns h)

theorem mapM_matcherAmong_congr :
    ∀ ns : List Node, (∀ c ∈ Node.comparisonsOfAll ns,
      r.matcherAmong scope P (.comparison c) = r.matcherAmong scope' P (.comparison c)) →
      ns.mapM (r.matcherAmong scope P) = ns.mapM (r.matcherAmong scope' P)
  | [], _ => rfl
  | n :: ns, h => by
    rw [Node.comparisonsOfAll, List.forall_mem_append] at h
    rw [List.mapM_cons, List.mapM_cons, matcherAmong_congr n h.1, mapM_matcherAmong_congr ns h.2]

end

/-! ## Names in the space of an item -/

/-- A test for identifiers accepts the same among some items, if the sets of identifiers have the same of theirs. -/
theorem testMatcher_joinTest_congr {subject : Attribute} {ofValue ofValue' : String → Except QueryError StringSet}
    {ofPart ofPart' : String → StringSet}
    (hvalue : ∀ v, among P ((ofValue v).map fun set item => (subject.content item).meets set) =
      among P ((ofValue' v).map fun set item => (subject.content item).meets set))
    (hpart : ∀ part item, P item → (subject.content item).meets (ofPart part) = (subject.content item).meets (ofPart' part))
    (c : Comparison) : among P (testMatcher subject (joinTest c ofValue ofPart)) =
      among P (testMatcher subject (joinTest c ofValue' ofPart')) := by
  obtain ⟨field, operator, value, negate⟩ := c
  have hmeets : ∀ v, (ofValue v).map (fun set (item : { item // P item }) => (subject.content item.val).meets set) =
      (ofValue' v).map fun set item => (subject.content item.val).meets set := by
    intro v
    have hsame := hvalue v
    rwa [among_map, among_map] at hsame
  have htext : ∀ v, operator = .eq ∨ operator = .ne →
      among P (testMatcher subject (joinTest ⟨field, operator, .text v, negate⟩ ofValue ofPart)) =
        among P (testMatcher subject (joinTest ⟨field, operator, .text v, negate⟩ ofValue' ofPart')) := by
    intro v h
    rw [testMatcher_joinTest_text field v negate h, testMatcher_joinTest_text field v negate h]
    refine among_map_congr (hmeets v) fun set set' hsame item hitem => ?_
    have hmeets : (subject.content item).meets set = (subject.content item).meets set' := congrFun hsame ⟨item, hitem⟩
    simp only [asks, hmeets]
  cases value with
  | null => cases operator <;> rfl
  | text v =>
    cases operator with
    | eq => exact htext v (.inl rfl)
    | ne => exact htext v (.inr rfl)
    | isIn => rfl
    | substr =>
      refine congrArg Except.ok (funext fun item => ?_)
      show (Predicate.leaf ⟨subject, .isIn (ofPart v)⟩).isMatch item.val =
        (Predicate.leaf ⟨subject, .isIn (ofPart' v)⟩).isMatch item.val
      rw [Predicate.isMatch_isIn, Predicate.isMatch_isIn, hpart v item.val item.property]
  | texts vs =>
    cases operator with
    | isIn =>
      have heach := congrArg (List.mapM · vs) (funext hmeets)
      simp only [Outcome.mapM_map_result] at heach
      rw [testMatcher_joinTest_texts, testMatcher_joinTest_texts]
      refine among_map_congr heach fun sets sets' hsame item hitem => ?_
      have hany := congrArg (fun accepts => (accepts.map (· ⟨item, hitem⟩)).any id) hsame
      simp only [List.map_map, List.any_map] at hany
      exact hany
    | eq | ne | substr => rfl

/-- The identifiers of entries of which an item has some stand for the same in two scopes, if the spaces of these entries
are in both or in neither. -/
theorem meets_ofList_filter_congr {α : Type} {id space name : α → String} {entries : List α} {c : Content}
    (h : ∀ a ∈ entries, id a ∈ c.values → scope.contains (space a) = scope'.contains (space a)) (accept : String → Bool) :
    c.meets (.ofList ((entries.filter fun a => scope.contains (space a) && accept (name a)).map id)) =
      c.meets (.ofList ((entries.filter fun a => scope'.contains (space a) && accept (name a)).map id)) := by
  rw [Bool.eq_iff_iff, Content.meets_iff, Content.meets_iff]
  simp only [StringSet.contains_ofList_map_filter, Bool.and_eq_true]
  constructor
  · rintro ⟨v, hv, a, ha, rfl, hspace, haccept⟩
    exact ⟨id a, hv, a, ha, rfl, h a ha hv ▸ hspace, haccept⟩
  · rintro ⟨v, hv, a, ha, rfl, hspace, haccept⟩
    exact ⟨id a, hv, a, ha, rfl, (h a ha hv).symm ▸ hspace, haccept⟩

/-- Whether what items of some kind refer to is in both of two scopes or in neither. -/
structure SeesAlike (s : Store) (scope scope' : Scope) (P : WorkItem → Prop) : Prop where
  iteration : ∀ item, P item → ∀ i ∈ s.iterations.entries, item.iteration = some i.id →
    scope.contains i.space = scope'.contains i.space
  labels : ∀ item, P item → ∀ l ∈ s.labels.entries, l.id ∈ item.labels.getD [] →
    scope.contains l.space = scope'.contains l.space

section

variable (h : SeesAlike r.store scope scope' P)
include h

theorem SeesAlike.meets_iterationsWhere {item : WorkItem} (hitem : P item) (accept : String → Bool) :
    (Attribute.iteration.content item).meets (r.iterationsWhere scope accept) =
      (Attribute.iteration.content item).meets (r.iterationsWhere scope' accept) := by
  refine meets_ofList_filter_congr (fun i hi hrefers => ?_) accept
  exact h.iteration item hitem i hi (Option.mem_toList.1 hrefers)

theorem SeesAlike.meets_labelsWhere {item : WorkItem} (hitem : P item) (accept : String → Bool) :
    (Attribute.labels.content item).meets (r.labelsWhere scope accept) =
      (Attribute.labels.content item).meets (r.labelsWhere scope' accept) := by
  refine meets_ofList_filter_congr (fun l hl hrefers => ?_) accept
  exact h.labels item hitem l hl hrefers

theorem SeesAlike.meets_labelsOfValue (field v : String) :
    among P ((r.labelsOfValue scope field v).map fun set item => (Attribute.labels.content item).meets set) =
      among P ((r.labelsOfValue scope' field v).map fun set item => (Attribute.labels.content item).meets set) := by
  unfold labelsOfValue
  cases r.convert field .identifier v with
  | error e => rfl
  | ok id =>
    refine congrArg Except.ok (funext fun item => ?_)
    have hnamed := h.meets_labelsWhere item.property (· == v)
    rw [Bool.eq_iff_iff, Content.meets_iff, Content.meets_iff] at hnamed ⊢
    simp only [StringSet.contains_insert, Bool.or_eq_true, and_or_left, exists_or, hnamed]

/-- **A comparison of a key that is not about spaces** matches the same in both scopes. -/
theorem SeesAlike.resolvedPredicate_eq (c : Comparison) (key : Key) (hspace : key ≠ .typeGroupName) :
    among P ((r.resolvedPredicate scope c (r.ofKey key)).map Predicate.isMatch) =
      among P ((r.resolvedPredicate scope' c (r.ofKey key)).map Predicate.isMatch) := by
  cases key
  case label =>
    exact testMatcher_joinTest_congr (h.meets_labelsOfValue c.field)
      (fun part item hitem => h.meets_labelsWhere hitem (Text.occursIn part)) c
  case iterationName =>
    refine testMatcher_joinTest_congr (fun v => ?_)
      (fun part item hitem => h.meets_iterationsWhere hitem (Text.occursIn part)) c
    exact congrArg Except.ok (funext fun item => h.meets_iterationsWhere item.property (· == v))
  case labelName =>
    refine testMatcher_joinTest_congr (fun v => ?_)
      (fun part item hitem => h.meets_labelsWhere hitem (Text.occursIn part)) c
    exact congrArg Except.ok (funext fun item => h.meets_labelsWhere item.property (· == v))
  case typeGroupName => exact absurd rfl hspace
  all_goals rfl

theorem SeesAlike.matcherAmong_comparison {c : Comparison} (hc : c.isSpaceless = true) :
    r.matcherAmong scope P (.comparison c) = r.matcherAmong scope' P (.comparison c) := by
  unfold Comparison.isSpaceless at hc
  cases hkey : Key.ofName? c.field with
  | none =>
    rw [hkey] at hc
    cases hc
  | some key =>
    rw [hkey] at hc
    have hresolved := h.resolvedPredicate_eq c key (by rintro rfl; cases hc)
    rw [among_map, among_map] at hresolved
    unfold matcherAmong matcher
    rw [nodePredicate, nodePredicate, comparisonPredicate, comparisonPredicate, resolution_of_key hkey,
      resolution_of_key hkey]
    split
    · rfl
    · show among P ((r.resolvedPredicate scope c (r.ofKey key) >>= fun p => pure (p.negateIf c.negate)).map _) =
        among P ((r.resolvedPredicate scope' c (r.ofKey key) >>= fun p => pure (p.negateIf c.negate)).map _)
      rw [Outcome.bind_pure_eq_map, Outcome.bind_pure_eq_map, Outcome.map_map, Outcome.map_map]
      refine among_map_congr hresolved fun p p' hsame item hitem => ?_
      have hsame : p.isMatch item = p'.isMatch item := congrFun hsame ⟨item, hitem⟩
      simp only [Function.comp_apply, Predicate.isMatch_negateIf, hsame]

/-- **A condition that is not about spaces matches the same** in both scopes, among the items that see them alike. -/
theorem SeesAlike.matcherAmong_eq {n : Node} (hn : ∀ c ∈ n.comparisons, c.isSpaceless = true) :
    r.matcherAmong scope P n = r.matcherAmong scope' P n :=
  matcherAmong_congr n fun c hc => h.matcherAmong_comparison (hn c hc)

end

/-! ## The two scopes -/

theorem scopeUnder_of_isSpaceless {d : Document} (hd : ∀ c ∈ d.root.comparisons, c.isSpaceless = true)
    {request : Option String} {spaces : List String} (h : request.toList.mapM r.convertSpace = .ok spaces) :
    d.scopeUnder r.convert request = .ok (.ofList spaces) := by
  have hnone : d.root.comparisons.flatMap Comparison.requestedSpaces = [] := by
    rw [List.flatMap_eq_nil_iff]
    intro c hc
    exact Comparison.requestedSpaces_of_isSpaceless (hd c hc)
  rw [Document.scopeUnder, Document.namedSpaces, hnone, List.append_nil]
  show (request.toList.mapM r.convertSpace).map Scope.ofList = _
  rw [h]
  rfl

theorem seesAlike_of_refersWithinSpaces (h : r.store.RefersWithinSpaces) (space : String) :
    SeesAlike r.store (.ofList [space]) (.ofList []) fun item => item ∈ r.store.items.entries ∧ item.space = space := by
  have hin : (Scope.ofList [space]).contains space = (Scope.ofList []).contains space := by
    rw [Scope.contains, Scope.contains_spaces_ofList.2 (List.mem_singleton_self space), Bool.or_true]
    rfl
  constructor
  · rintro item ⟨hitem, rfl⟩ i hi hrefers
    rw [h.iteration item hitem i hi hrefers]
    exact hin
  · rintro item ⟨hitem, rfl⟩ l hl hrefers
    rw [h.labels item hitem l hl hrefers]
    exact hin

end Resolver
end Filter

namespace Store

/-- The items of a space among the matches of one predicate are the matches of another, if that asks for the space too. -/
theorem matchesOf_eq_filter {s : Store} {p q : Predicate} {space : String}
    (h : ∀ item ∈ s.items.entries, p.isMatch item = true ↔ item.space = space ∧ q.isMatch item = true) :
    s.matchesOf p = (s.matchesOf q).filter (·.space == space) := by
  refine WorkItem.eq_of_pairwise_of_mem_iff (s.pairwise_matchesOf p) ((s.pairwise_matchesOf q).filter _) fun item => ?_
  rw [mem_matchesOf, List.mem_filter, mem_matchesOf, beq_iff_eq, and_assoc]
  refine and_congr_right fun hitem => ?_
  rw [h item hitem, and_comm]

end Store

namespace Engine

variable {e : Engine} {d : Document} {raw space : String}

def answerOf (e : Engine) (treeView : Bool) (found : List WorkItem) (page : Page) : Except QueryError SearchResult :=
  (e.arrange treeView ((found.drop page.offset).take page.limit)).map fun (items, included) =>
    ⟨items, included, found.length, page⟩

theorem runCompiled_eq_answerOf (e : Engine) (k : Compiled) (page : Page) :
    e.runCompiled k page = e.answerOf k.treeView (e.store.matchesOf k.predicate) page :=
  Outcome.bind_pure_eq_map _ _

theorem matches_confined (hspace : e.convert Key.space.name .identifier raw = .ok space)
    (hrefers : e.store.RefersWithinSpaces) (hd : ∀ c ∈ d.root.comparisons, c.isSpaceless = true) :
    (e.compile d (some raw)).map (fun k => e.store.matchesOf k.predicate) =
      (e.compile d none).map fun k => (e.store.matchesOf k.predicate).filter (·.space == space) := by
  have hconvert : e.resolver.convertSpace raw = .ok space := hspace
  have hinside : d.scopeUnder e.resolver.convert (some raw) = .ok (.ofList [space]) := by
    refine Resolver.scopeUnder_of_isSpaceless hd ?_
    rw [Option.toList_some, List.mapM_cons, hconvert]
    rfl
  have houtside : d.scopeUnder e.resolver.convert none = .ok (.ofList []) := Resolver.scopeUnder_of_isSpaceless hd rfl
  have hmatcher := (Resolver.seesAlike_of_refersWithinSpaces (r := e.resolver) hrefers space).matcherAmong_eq hd
  unfold Resolver.matcherAmong Resolver.matcher at hmatcher
  rw [Resolver.among_map, Resolver.among_map] at hmatcher
  rw [compile, compile, Resolver.compile_eq_bind, Resolver.compile_eq_bind, hinside, houtside]
  show ((e.resolver.nodePredicate (.ofList [space]) d.root).map _).map _ =
    ((e.resolver.nodePredicate (.ofList []) d.root).map _).map _
  rw [Outcome.map_map, Outcome.map_map]
  refine Outcome.map_congr_of_map_eq hmatcher fun p q hsame => Store.matchesOf_eq_filter fun item hitem => ?_
  have hconfined := Resolver.isMatch_confine (Resolver.convertSpace_of_scopeUnder hinside) p item
  have hadmits : e.resolver.Admits (some raw) item ↔ item.space = space := by
    simp [Resolver.Admits, hconvert, eq_comm]
  rw [hadmits] at hconfined
  refine hconfined.trans (and_congr_right fun hwithin => ?_)
  have hsame : p.isMatch item = q.isMatch item := congrFun hsame ⟨item, hitem, hwithin⟩
  show p.isMatch item = true ↔ q.isMatch item = true
  rw [hsame]

/-- **A search in one space finds what the search everywhere finds there.**  If items refer to iterations and labels of
their own spaces only, and a filter compares neither the space nor groups of types, then the filter is compiled for a
space or refused as it is for all spaces, its matches are those of its matches everywhere that are in the space, and the
answer to every request for the space is a page of these. -/
theorem search_confined (hspace : e.convert Key.space.name .identifier raw = .ok space)
    (hrefers : e.store.RefersWithinSpaces) (hd : ∀ c ∈ d.root.comparisons, c.isSpaceless = true) :
    (e.compile d (some raw)).map (fun k => e.store.matchesOf k.predicate) =
        (e.compile d none).map (fun k => (e.store.matchesOf k.predicate).filter (·.space == space)) ∧
      ∀ expression, Document.ofText expression = .ok d → ∀ offset limit,
        e.search ⟨expression, some raw, offset, limit⟩ = e.compile d none >>= fun k =>
          e.answerOf d.treeView ((e.store.matchesOf k.predicate).filter (·.space == space))
            (.ofRequest e.settings offset limit) := by
  have hmatches := matches_confined hspace hrefers hd
  refine ⟨hmatches, fun expression hread offset limit => ?_⟩
  rw [search_eq_bind (r := ⟨expression, some raw, offset, limit⟩) hread]
  cases hk : e.compile d none with
  | error error =>
    rw [hk] at hmatches
    rw [Outcome.map_eq_error.1 hmatches]
    rfl
  | ok k =>
    rw [hk] at hmatches
    obtain ⟨k', hk', hfound⟩ := Outcome.map_eq_ok.1 hmatches
    rw [hk']
    show e.runCompiled k' _ = e.answerOf d.treeView _ _
    rw [runCompiled_eq_answerOf, treeView_eq_of_compile hk', hfound]

/-! ## Red labels of two spaces -/

/-- The two spaces, with items that refer to nothing of the other space, and one that has a label of neither. -/
def apart : Store :=
  { twoSpaces with
    items := .ofList
      [{ WorkItem.new "1" Hierarchy.newYear "a" "bug" "First" with iteration := some "ia", labels := some ["la"] },
        { WorkItem.new "2" Hierarchy.newYear "a" "bug" "Second" with iteration := some "ix", labels := some ["lx"] },
        { WorkItem.new "3" Hierarchy.newYear "b" "bug" "Third" with labels := some ["lb"] },
        WorkItem.new "4" Hierarchy.newYear "b" "task" "Fourth"] }

/-- What has no label that is named red, or is in some iteration but in none that is named so. -/
def unredOrElsewhere : Document :=
  ⟨.combinator .or
    [.comparison ⟨"label.name", .ne, .text "red", false⟩,
      .combinator .or [.comparison ⟨"iteration.name", .eq, .text "Sprint 1", false⟩,
        .comparison ⟨"iteration.name", .eq, .null, false⟩] true] false, false⟩

theorem search_confined_unredOrElsewhere :
    apart.RefersWithinSpaces ∧ (∀ c ∈ unredOrElsewhere.root.comparisons, c.isSpaceless = true) ∧
      ∃ k, (ofConfig apart .none).compile unredOrElsewhere none = .ok k ∧
        Hierarchy.ids (apart.matchesOf k.predicate) = ["2", "4"] ∧
        ((ofConfig apart .none).compile unredOrElsewhere (some "a")).map
          (fun k => Hierarchy.ids (apart.matchesOf k.predicate)) = .ok ["2"] := by
  have hrefers : apart.RefersWithinSpaces := ⟨by decide +kernel, by decide +kernel⟩
  have hspaceless : ∀ c ∈ unredOrElsewhere.root.comparisons, c.isSpaceless = true := by decide
  obtain ⟨k, hk⟩ : ∃ k, (ofConfig apart .none).compile unredOrElsewhere none = .ok k := ⟨_, rfl⟩
  have hids : ((ofConfig apart .none).compile unredOrElsewhere none).toOption.map
      (fun k => (Hierarchy.ids (apart.matchesOf k.predicate),
        Hierarchy.ids ((apart.matchesOf k.predicate).filter (·.space == "a")))) = some (["2", "4"], ["2"]) := by
    decide +kernel
  have hspace : (ofConfig apart .none).convert Key.space.name .identifier "a" = .ok "a" := rfl
  obtain ⟨hmatches, -⟩ := search_confined hspace hrefers hspaceless
  rw [hk] at hids hmatches
  obtain ⟨hall, hinside⟩ := Prod.mk.inj (Option.some.inj hids)
  have hconfined := congrArg (Except.map Hierarchy.ids) hmatches
  rw [Outcome.map_map] at hconfined
  exact ⟨hrefers, hspaceless, k, hk, hall, hconfined.trans (congrArg Except.ok hinside)⟩

end Engine
end Backlog
