import Backlog.Proofs.Filter.Reading
import Backlog.Proofs.Json.Levels
import Backlog.Proofs.Json.Sorting
/-!
# Surrounding — where a condition stands in a filter

A condition is the filter itself, or an item of a list of conditions that a surrounding object holds, which is a
condition in turn.  What a filter is read as depends on a condition in it only through what the condition is read as
(`filterReading_within_congr`), and a filter with a condition that is refused is refused
(`filterReading_within_refused`).  This is so for the filter as it is written: embedded texts may stand in all of its
parts, and members in any order.
-/
namespace Backlog
namespace Json

/-! ## What a written value stands for -/

/-- What a written value stands for: with the values of embedded texts, and each name once and in order. -/
def meaning? (v : Json) : Option Json :=
  (expand? readEmbedded? v).map canonical

def memberMeanings? (ms : List (String × Json)) : Option (List (String × Json)) :=
  ms.mapM fun m => (meaning? m.2).map fun v => (m.1, v)

theorem memberMeanings?_cons (m : String × Json) (ms : List (String × Json)) :
    memberMeanings? (m :: ms) = do return (m.1, ← meaning? m.2) :: (← memberMeanings? ms) := by
  rw [memberMeanings?, List.mapM_cons, ← memberMeanings?]
  cases meaning? m.2 <;> rfl

theorem map_expandItems? : ∀ vs : List Json, (expandItems? readEmbedded? vs).map canonicalItems = vs.mapM meaning?
  | [] => rfl
  | v :: vs => by
    rw [expandItems?, List.mapM_cons, ← map_expandItems? vs, meaning?]
    cases expand? readEmbedded? v with
    | none => rfl
    | some w => cases expandItems? readEmbedded? vs <;> rfl

theorem map_expandMembers? :
    ∀ ms : List (String × Json), (expandMembers? readEmbedded? ms).map canonicalMembers = memberMeanings? ms
  | [] => rfl
  | (n, v) :: ms => by
    rw [expandMembers?, memberMeanings?_cons, ← map_expandMembers? ms, meaning?]
    cases expand? readEmbedded? v with
    | none => rfl
    | some w => cases expandMembers? readEmbedded? ms <;> rfl

theorem meaning?_arr (vs : List Json) : meaning? (.arr vs) = (vs.mapM meaning?).map .arr := by
  rw [meaning?, expand?, ← map_expandItems?]
  cases expandItems? readEmbedded? vs <;> rfl

/-- **What an object stands for** whose first member has not the name that is for embedded texts. -/
theorem meaning?_obj {ms : List (String × Json)} (h : isEmbedding ms = false) :
    meaning? (.obj ms) = (memberMeanings? ms).map fun ns => .obj (sortMembers ns) := by
  rw [meaning?, expand?, h, if_neg Bool.false_ne_true, ← map_expandMembers?]
  cases expandMembers? readEmbedded? ms <;> rfl

/-- Members of which the first has that name stand for nothing, unless it is the only one and holds a text. -/
theorem meaning?_embedding {ms : List (String × Json)} (h : isEmbedding ms = true)
    (hne : ∀ name s, ms ≠ [(name, .str s)]) : meaning? (.obj ms) = none := by
  rw [meaning?, expand?, h, if_pos rfl]
  unfold embedded?
  split
  · exact absurd rfl (hne _ _)
  · rfl

theorem isEmbedding_of_not_mem {ms : List (String × Json)} (h : embeddingName ∉ ms.map Prod.fst) :
    isEmbedding ms = false := by
  cases ms with
  | nil => rfl
  | cons m ms => exact beq_eq_false_iff_ne.2 fun hm => h (List.mem_cons.2 (.inl hm.symm))

theorem memberMeanings?_append (ms ns : List (String × Json)) :
    memberMeanings? (ms ++ ns) = do return (← memberMeanings? ms) ++ (← memberMeanings? ns) :=
  List.mapM_append

def memberMeaning (m : String × Json) : String × Json :=
  (m.1, (meaning? m.2).getD .null)

theorem memberMeanings?_eq_some_iff :
    ∀ {ms ns : List (String × Json)},
      memberMeanings? ms = some ns ↔ (∀ m ∈ ms, meaning? m.2 ≠ none) ∧ ns = ms.map memberMeaning
  | [], ns => ⟨fun h => ⟨nofun, (Option.some.inj h).symm⟩, fun h => congrArg some h.2.symm⟩
  | m :: ms, ns => by
    rw [memberMeanings?_cons, List.forall_mem_cons, List.map_cons, memberMeaning]
    have htail : memberMeanings? ms = some (ms.map memberMeaning) ↔ _ := memberMeanings?_eq_some_iff
    cases hm : meaning? m.2 with
    | none => exact iff_of_false nofun fun h => h.1.1 rfl
    | some v =>
      cases hms : memberMeanings? ms with
      | none =>
        rw [hms] at htail
        exact iff_of_false nofun fun h => nomatch htail.2 ⟨h.1.2, rfl⟩
      | some ns' =>
        obtain ⟨hall, rfl⟩ := memberMeanings?_eq_some_iff.1 hms
        exact ⟨fun h => ⟨⟨nofun, hall⟩, (Option.some.inj h).symm⟩, fun h => congrArg some h.2.symm⟩

theorem map_fst_of_memberMeanings? {ms ns : List (String × Json)} (h : memberMeanings? ms = some ns) :
    ns.map Prod.fst = ms.map Prod.fst := by
  rw [(memberMeanings?_eq_some_iff.1 h).2, List.map_map]
  rfl

theorem sortMembers_of_memberMeanings? {ms ns : List (String × Json)} (h : memberMeanings? ms = some ns) :
    sortMembers ns = (sortMembers ms).map memberMeaning := by
  rw [(memberMeanings?_eq_some_iff.1 h).2]
  exact sortMembers_map (fun v => (meaning? v).getD .null) ms

/-- **Sorting before or after** the values are taken for what they stand for is the same, if all that are lost stand for
something. -/
theorem memberMeanings?_sortMembers {ms : List (String × Json)}
    (hlost : ∀ m ∈ ms, m ∉ sortMembers ms → meaning? m.2 ≠ none) :
    memberMeanings? (sortMembers ms) = (memberMeanings? ms).map sortMembers := by
  cases hms : memberMeanings? ms with
  | some ns =>
    have hall := (memberMeanings?_eq_some_iff.1 hms).1
    exact memberMeanings?_eq_some_iff.2
      ⟨fun m hm => hall m (mem_of_mem_sortMembers hm), sortMembers_of_memberMeanings? hms⟩
  | none =>
    cases hsorted : memberMeanings? (sortMembers ms) with
    | none => rfl
    | some ns =>
      have hall : ∀ m ∈ ms, meaning? m.2 ≠ none := fun m hm => by
        by_cases hkept : m ∈ sortMembers ms
        · exact (memberMeanings?_eq_some_iff.1 hsorted).1 m hkept
        · exact hlost m hm hkept
      cases hms.symm.trans (memberMeanings?_eq_some_iff.2 ⟨hall, rfl⟩)

end Json

namespace Filter

open Json (meaning? memberMeanings?)

/-! ## Lists of conditions -/

theorem readMembers_append (ms ns : List (String × Json)) :
    readMembers (ms ++ ns) = do return (← readMembers ms) ++ (← readMembers ns) := by
  rw [readMembers_eq, readMembers_eq, readMembers_eq, List.filter_append, List.mapM_append]

theorem readItems_eq (connective : Connective) :
    ∀ vs : List Json, readItems connective vs = vs.mapM (readItem connective)
  | [] => by
    rw [readItems]
    rfl
  | v :: vs => by rw [readItems, List.mapM_cons, readItems_eq connective vs]

theorem readList_eq {connective : Connective} {vs : List Json} (h : vs ≠ []) :
    readList connective vs = (readItems connective vs).map fun ns => .combinator connective ns false := by
  cases vs with
  | nil => exact absurd rfl h
  | cons v vs =>
    rw [readList, readItems]
    cases readItem connective v with
    | error e => rfl
    | ok n => cases readItems connective vs <;> rfl

theorem readMember_memberName (connective : Connective) (vs : List Json) :
    readMember connective.memberName (.arr vs) = readList connective vs := by
  rw [readMember]
  cases connective <;> rfl

/-! ## One surrounding object -/

/-- The rest of an object that holds a condition in a list: the members before the list and after it, and the items
before the condition and after it. -/
structure Surrounding where
  before : List (String × Json)
  connective : Connective
  earlier : List Json
  later : List Json
  after : List (String × Json)

namespace Surrounding

def fill (f : Surrounding) (v : Json) : List (String × Json) :=
  f.before ++ (f.connective.memberName, .arr (f.earlier ++ v :: f.later)) :: f.after

/-- Whether no later member has the name of the list, so that the list counts. -/
def Counts (f : Surrounding) : Prop :=
  f.connective.memberName ∉ f.after.map Prod.fst

def around (f : Surrounding) (r : Reading Node) : Reading Node := do
  let negate ← readNegate (f.before ++ f.after)
  let before ← readMembers f.before
  let earlier ← readItems f.connective f.earlier
  let n ← r
  let later ← readItems f.connective f.later
  let after ← readMembers f.after
  assemble negate (before ++ .combinator f.connective (earlier ++ n :: later) false :: after)

variable (f : Surrounding)

theorem lookup_fill {name : String} (h : name ≠ f.connective.memberName) (w : Json) :
    (f.fill w).lookup name = (f.before ++ f.after).lookup name := by
  rw [fill, List.lookup_append, List.lookup_append, List.lookup_cons, beq_eq_false_iff_ne.2 h]

theorem readNegate_fill (w : Json) : readNegate (f.fill w) = readNegate (f.before ++ f.after) := by
  rw [readNegate, readNegate, f.lookup_fill (by cases f.connective <;> decide)]

theorem readItems_fill (w : Json) : readItems f.connective (f.earlier ++ w :: f.later) = do
    let earlier ← readItems f.connective f.earlier
    let n ← readItem f.connective w
    let later ← readItems f.connective f.later
    return earlier ++ n :: later := by
  rw [readItems_eq, List.mapM_append, List.mapM_cons, ← readItems_eq, ← readItems_eq]
  simp only [bind_assoc, pure_bind]

theorem readMembers_fill (w : Json) : readMembers (f.fill w) = do
    let before ← readMembers f.before
    let n ← readList f.connective (f.earlier ++ w :: f.later)
    let after ← readMembers f.after
    return before ++ n :: after := by
  have hname : f.connective.memberName ≠ negateName := by cases f.connective <;> decide
  rw [fill, readMembers_append, readMembers, if_neg hname, readMember_memberName]
  simp only [bind_assoc, pure_bind]

/-- **An object that holds a condition** is read by what the condition is read as. -/
theorem readObject_fill (w : Json) : readObject (f.fill w) = f.around (readItem f.connective w) := by
  have hne : f.earlier ++ w :: f.later ≠ [] := List.append_ne_nil_of_right_ne_nil _ (List.cons_ne_nil _ _)
  rw [readObject, readNegate_fill, readMembers_fill, readList_eq hne, readItems_fill, around]
  simp only [← Outcome.bind_pure_eq_map, bind_assoc, pure_bind]

theorem exists_around_error (e : SyntaxFault) : ∃ e', f.around (.error e) = .error e' := by
  rw [around]
  cases readNegate (f.before ++ f.after) with
  | error e' => exact ⟨e', rfl⟩
  | ok negate =>
    cases readMembers f.before with
    | error e' => exact ⟨e', rfl⟩
    | ok before =>
      cases readItems f.connective f.earlier with
      | error e' => exact ⟨e', rfl⟩
      | ok earlier => exact ⟨e, rfl⟩

def conditions : Surrounding :=
  { f with before := f.before.filter (·.1 != optionsName), after := f.after.filter (·.1 != optionsName) }

/-- What the object is read as if it is the filter and the condition is read as given. -/
def filterAround (r : Reading Node) : Reading Document := do
  let treeView ← readOptions ((f.before ++ f.after).lookup optionsName)
  return ⟨← f.conditions.around r, treeView⟩

theorem ofJson_fill (w : Json) :
    Document.ofJson (.obj (f.fill w)) = f.filterAround (readItem f.connective w) := by
  have hlookup : (f.fill w).lookup optionsName = (f.before ++ f.after).lookup optionsName :=
    f.lookup_fill (by cases f.connective <;> decide) w
  have hfilter : (f.fill w).filter (·.1 != optionsName) = f.conditions.fill w := by
    have hkept : (f.connective.memberName != optionsName) = true := by cases f.connective <;> rfl
    rw [fill, List.filter_append, List.filter_cons, if_pos hkept]
    rfl
  have hsome : ¬(f.conditions.fill w).isEmpty = true := by
    rw [fill, List.isEmpty_iff]
    exact List.append_ne_nil_of_right_ne_nil _ (List.cons_ne_nil _ _)
  have hread : readObject (f.conditions.fill w) = f.conditions.around (readItem f.connective w) :=
    f.conditions.readObject_fill w
  rw [Document.ofJson, hlookup, filterAround]
  cases readOptions ((f.before ++ f.after).lookup optionsName) with
  | error e => rfl
  | ok treeView =>
    show (if _ then throw SyntaxFault.noCondition else _) = _
    rw [hfilter, if_neg hsome, hread]
    rfl

theorem exists_filterAround_error (e : SyntaxFault) : ∃ e', f.filterAround (.error e) = .error e' := by
  rw [filterAround]
  cases readOptions ((f.before ++ f.after).lookup optionsName) with
  | error e' => exact ⟨e', rfl⟩
  | ok treeView =>
    obtain ⟨e', he⟩ := f.conditions.exists_around_error e
    exact ⟨e', by rw [he]; rfl⟩

/-! ### As written -/

theorem isEmbedding_fill (v w : Json) : Json.isEmbedding (f.fill v) = Json.isEmbedding (f.fill w) := by
  rw [fill, fill]
  cases f.before <;> rfl

theorem fill_ne_singleton (v : Json) (name s : String) : f.fill v ≠ [(name, .str s)] := by
  intro h
  rw [fill] at h
  cases hbefore : f.before with
  | nil =>
    rw [hbefore] at h
    cases h
  | cons m ms =>
    rw [hbefore] at h
    cases ms <;> cases h

theorem memberMeanings?_fill (v : Json) : memberMeanings? (f.fill v) = do
    let before ← memberMeanings? f.before
    let earlier ← f.earlier.mapM meaning?
    let w ← meaning? v
    let later ← f.later.mapM meaning?
    let after ← memberMeanings? f.after
    return fill ⟨before, f.connective, earlier, later, after⟩ w := by
  have hlist : meaning? (.arr (f.earlier ++ v :: f.later)) = do
      let earlier ← f.earlier.mapM meaning?
      let w ← meaning? v
      let later ← f.later.mapM meaning?
      return .arr (earlier ++ w :: later) := by
    rw [Json.meaning?_arr, List.mapM_append, List.mapM_cons, ← Option.map_eq_map]
    simp only [map_bind, map_pure, bind_assoc, pure_bind]
  rw [fill, Json.memberMeanings?_append, Json.memberMeanings?_cons, hlist]
  simp only [bind_assoc, pure_bind]
  rfl

theorem exists_memberMeanings?_fill :
    (∀ v, memberMeanings? (f.fill v) = none) ∨ ∃ g : Surrounding, g.connective = f.connective ∧
      g.after.map Prod.fst = f.after.map Prod.fst ∧ ∀ v, memberMeanings? (f.fill v) = (meaning? v).map g.fill := by
  simp only [memberMeanings?_fill]
  cases memberMeanings? f.before with
  | none => exact .inl fun v => rfl
  | some before =>
    cases f.earlier.mapM meaning? with
    | none => exact .inl fun v => rfl
    | some earlier =>
      cases hlater : f.later.mapM meaning? with
      | none => exact .inl fun v => by cases meaning? v <;> rfl
      | some later =>
        cases hafter : memberMeanings? f.after with
        | none => exact .inl fun v => by cases meaning? v <;> rfl
        | some after =>
          refine .inr ⟨⟨before, f.connective, earlier, later, after⟩, rfl, Json.map_fst_of_memberMeanings? hafter, ?_⟩
          intro v
          cases meaning? v <;> rfl

/-- **What an object that holds a condition stands for** is what its parts stand for, or nothing whatever the condition
is. -/
theorem exists_meaning?_fill (hcounts : f.Counts) :
    (∀ v, meaning? (.obj (f.fill v)) = none) ∨ ∃ g : Surrounding,
      ∀ v, meaning? (.obj (f.fill v)) = (meaning? v).map fun w => .obj (g.fill w) := by
  cases hembedding : Json.isEmbedding (f.fill .null) with
  | true =>
    exact .inl fun v => Json.meaning?_embedding ((f.isEmbedding_fill v .null).trans hembedding) (f.fill_ne_singleton v)
  | false =>
    have hobj : ∀ v, meaning? (.obj (f.fill v)) =
        (memberMeanings? (f.fill v)).map fun ns => .obj (Json.sortMembers ns) := fun v =>
      Json.meaning?_obj ((f.isEmbedding_fill v .null).trans hembedding)
    rcases f.exists_memberMeanings?_fill with hnone | ⟨g, hconnective, hnames, hg⟩
    · exact .inl fun v => by rw [hobj, hnone]; rfl
    · have hlast : g.connective.memberName ∉ g.after.map Prod.fst := by
        rw [hconnective, hnames]
        exact hcounts
      obtain ⟨before, after, hsorted⟩ := Json.exists_sortMembers_append g.before hlast
      refine .inr ⟨⟨before, g.connective, g.earlier, g.later, after⟩, fun v => ?_⟩
      rw [hobj, hg, Option.map_map]
      exact congrArg (Option.map · _) (funext fun w => congrArg Json.obj (hsorted _))

end Surrounding

/-! ## What a condition is read as -/

/-- What a written value is read as where an item of a list is expected, if it stands for something. -/
def itemReading (v : Json) : Option (Connective → Reading Node) :=
  (meaning? v).map fun w connective => readItem connective w

/-- What a written value is read as where a filter is expected, if it stands for something. -/
def filterReading (v : Json) : Option (Reading Document) :=
  (meaning? v).map Document.ofJson

namespace Surrounding

variable {f : Surrounding}

theorem exists_reading_fill (hcounts : f.Counts) :
    (∀ v, itemReading (.obj (f.fill v)) = none ∧ filterReading (.obj (f.fill v)) = none) ∨ ∃ g : Surrounding, ∀ v,
      itemReading (.obj (f.fill v)) = (itemReading v).map (fun r _ => g.around (r g.connective)) ∧
        filterReading (.obj (f.fill v)) = (itemReading v).map fun r => g.filterAround (r g.connective) := by
  rcases f.exists_meaning?_fill hcounts with hnone | ⟨g, hg⟩
  · exact .inl fun v => ⟨by rw [itemReading, hnone]; rfl, by rw [filterReading, hnone]; rfl⟩
  · refine .inr ⟨g, fun v => ⟨?_, ?_⟩⟩
    · rw [itemReading, itemReading, hg, Option.map_map, Option.map_map]
      refine congrArg (Option.map · _) (funext fun w => funext fun connective => ?_)
      exact (readItem_obj connective _).trans (g.readObject_fill w)
    · rw [filterReading, itemReading, hg, Option.map_map, Option.map_map]
      exact congrArg (Option.map · _) (funext fun w => g.ofJson_fill w)

end Surrounding

def within : List Surrounding → Json → Json
  | [], v => v
  | f :: fs, v => within fs (.obj (f.fill v))

/-- **A filter** is read by what a condition in it is read as. -/
theorem filterReading_within_congr :
    ∀ {fs : List Surrounding} {v v' : Json}, (∀ f ∈ fs, f.Counts) → (fs = [] → filterReading v = filterReading v') →
      (fs ≠ [] → itemReading v = itemReading v') → filterReading (within fs v) = filterReading (within fs v')
  | [], v, v', _, hfilter, _ => hfilter rfl
  | f :: fs, v, v', hcounts, _, hitem => by
    obtain ⟨hf, hfs⟩ := List.forall_mem_cons.1 hcounts
    have hsame := hitem (List.cons_ne_nil f fs)
    rw [within, within]
    rcases Surrounding.exists_reading_fill hf with hnone | ⟨g, hg⟩
    · exact filterReading_within_congr hfs (fun _ => (hnone v).2.trans (hnone v').2.symm)
        fun _ => (hnone v).1.trans (hnone v').1.symm
    · refine filterReading_within_congr hfs (fun _ => ?_) fun _ => ?_
      · rw [(hg v).2, (hg v').2, hsame]
      · rw [(hg v).1, (hg v').1, hsame]

/-- **A filter with a condition that is refused** is refused. -/
theorem filterReading_within_refused :
    ∀ {fs : List Surrounding} {v : Json}, (∀ f ∈ fs, f.Counts) → (fs = [] → ∀ r ∈ filterReading v, ∃ e, r = .error e) →
      (fs ≠ [] → ∀ r ∈ itemReading v, ∀ connective, ∃ e, r connective = .error e) →
        ∀ r ∈ filterReading (within fs v), ∃ e, r = .error e
  | [], v, _, hfilter, _ => hfilter rfl
  | f :: fs, v, hcounts, _, hitem => by
    obtain ⟨hf, hfs⟩ := List.forall_mem_cons.1 hcounts
    have hrefused := hitem (List.cons_ne_nil f fs)
    rw [within]
    rcases Surrounding.exists_reading_fill hf with hnone | ⟨g, hg⟩
    · refine filterReading_within_refused hfs (fun _ r hr => ?_) fun _ r hr => ?_
      · rw [(hnone v).2] at hr
        cases hr
      · rw [(hnone v).1] at hr
        cases hr
    · refine filterReading_within_refused hfs (fun _ r hr => ?_) fun _ r hr connective => ?_
      · rw [(hg v).2] at hr
        obtain ⟨r', hr', rfl⟩ := Option.map_eq_some_iff.1 hr
        obtain ⟨e, he⟩ := hrefused r' hr' g.connective
        rw [he]
        exact g.exists_filterAround_error e
      · rw [(hg v).1] at hr
        obtain ⟨r', hr', rfl⟩ := Option.map_eq_some_iff.1 hr
        obtain ⟨e, he⟩ := hrefused r' hr' g.connective
        rw [he]
        exact g.exists_around_error e

namespace Document

/-- **What a text is read as** is what its value is read as, and a fault of its syntax if it has none. -/
theorem ofText_eq {s : String} {v : Json} (h : Json.read? s = some v) :
    ofText s = match filterReading v with
      | some r => r.mapError .illFormed
      | none => .error (.illFormed .malformedJson) := by
  rw [ofText, Json.readEmbedded?_eq, h, Option.bind_some, filterReading, meaning?]
  cases Json.expand? Json.readEmbedded? v <;> rfl

theorem ofText_refused {s : String} {v : Json} (h : Json.read? s = some v)
    (hrefused : ∀ r ∈ filterReading v, ∃ e, r = .error e) : ∃ fault, ofText s = .error (.illFormed fault) := by
  rw [ofText_eq h]
  cases hv : filterReading v with
  | none => exact ⟨_, rfl⟩
  | some r =>
    obtain ⟨e, rfl⟩ := hrefused r hv
    exact ⟨e, rfl⟩

end Document
end Filter
end Backlog
