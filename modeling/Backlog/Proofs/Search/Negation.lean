import Backlog.Proofs.Filter.Exchange
import Backlog.Proofs.Search.Walk
/-!
# Negation — of a comparison, and of a combinator with nothing else in it

A comparison can be negated by itself or be put into a combinator that is negated.  To what matches that is the same, but
not to the scope: only a comparison that is not itself negated asks for spaces.  Names are looked up in the scope, so
negating a comparison of the space in the other way can change what the names elsewhere in the filter stand for
(`negation_narrows_scope`).  Where it leaves the scope as it is, or there are no names, it leaves the answer as it is
(`search_eq_of_negation_moved`).
-/
namespace Backlog

open Backlog.Filter (Document Comparison Compiled Connective Node Resolver Scope)

theorem Store.matchesOf_congr (s : Store) {p p' : Predicate} (h : p.isMatch = p'.isMatch) :
    s.matchesOf p = s.matchesOf p' := by
  rw [matchesOf, matchesOf, h]

theorem Filter.Resolver.isMatch_confine_congr (r : Resolver) {p p' : Predicate} (h : p.isMatch = p'.isMatch)
    (request : Option String) : (r.confine request p).isMatch = (r.confine request p').isMatch := by
  unfold Resolver.confine
  split
  · funext item
    rw [Predicate.isMatch_and, Predicate.isMatch_and]
    simp [h]
  · exact h

namespace Engine

theorem runCompiled_congr (e : Engine) (k k' : Compiled) (hmatch : k.predicate.isMatch = k'.predicate.isMatch)
    (htree : k.treeView = k'.treeView) (page : Page) : e.runCompiled k page = e.runCompiled k' page := by
  unfold runCompiled Store.find
  dsimp only
  rw [e.store.matchesOf_congr hmatch, htree]

def answerIn (e : Engine) (d : Document) (space : Option String) (page : Page) (scope : Scope) :
    Except QueryError SearchResult :=
  e.resolver.nodePredicate scope d.root >>= fun p => e.runCompiled ⟨e.resolver.confine space p, scope, d.treeView⟩ page

theorem answer_eq_bind (e : Engine) (d : Document) (space : Option String) (page : Page) :
    (e.compile d space >>= fun k => e.runCompiled k page) =
      d.scopeUnder e.convert space >>= e.answerIn d space page := by
  rw [compile, Resolver.compile_eq_bind]
  show (d.scopeUnder e.convert space >>= _) >>= _ = _
  cases d.scopeUnder e.convert space with
  | error e => rfl
  | ok scope =>
    show Except.map _ (e.resolver.nodePredicate scope d.root) >>= _ = e.answerIn d space page scope
    unfold answerIn
    cases e.resolver.nodePredicate scope d.root <;> rfl

theorem map_scope_eq_bind (e : Engine) (d : Document) (space : Option String) :
    (e.compile d space).map Compiled.scope = d.scopeUnder e.convert space >>= fun scope =>
      (e.resolver.matcher scope d.root).map fun _ => scope := by
  rw [compile, Resolver.compile_eq_bind]
  show (d.scopeUnder e.convert space >>= _).map _ = _
  cases d.scopeUnder e.convert space with
  | error e => rfl
  | ok scope =>
    show ((e.resolver.nodePredicate scope d.root).map _).map _ = (e.resolver.matcher scope d.root).map _
    rw [Resolver.matcher, Outcome.map_map, Outcome.map_map]
    rfl

/-- **Filters that match the same** have the same answers, or are refused for the same reason. -/
theorem answerIn_congr {e : Engine} {d d' : Document} {scope scope' : Scope} (htree : d'.treeView = d.treeView)
    (hmatch : e.resolver.matcher scope' d'.root = e.resolver.matcher scope d.root) (space : Option String)
    (page : Page) : e.answerIn d' space page scope' = e.answerIn d space page scope := by
  unfold answerIn
  unfold Resolver.matcher at hmatch
  cases hp : e.resolver.nodePredicate scope d.root with
  | error error =>
    rw [hp] at hmatch
    rw [Outcome.map_eq_error.1 hmatch]
    rfl
  | ok p =>
    rw [hp] at hmatch
    obtain ⟨p', hp', hsame⟩ := Outcome.map_eq_ok.1 hmatch
    rw [hp']
    exact e.runCompiled_congr ⟨e.resolver.confine space p', scope', d'.treeView⟩
      ⟨e.resolver.confine space p, scope, d.treeView⟩ (e.resolver.isMatch_confine_congr hsame space) htree page

variable {s : Store} {c : Config} {d d' : Document} {space : Option String}

theorem map_scope_compile :
    ((ofConfig s c).compile d space).map Compiled.scope =
      ((ofConfig s c).resolver.matcher (d.scope space) d.root).map fun _ => d.scope space := by
  rw [map_scope_eq_bind]
  show (d.scopeUnder Filter.Conversion.standard space >>= _) = _
  rw [d.scopeUnder_standard]
  rfl

theorem answer_eq_of_matcher_eq (htree : d'.treeView = d.treeView)
    (hmatch : (ofConfig s c).resolver.matcher (d'.scope space) d'.root =
      (ofConfig s c).resolver.matcher (d.scope space) d.root) (page : Page) :
    ((ofConfig s c).compile d' space >>= fun k => (ofConfig s c).runCompiled k page) =
      (ofConfig s c).compile d space >>= fun k => (ofConfig s c).runCompiled k page := by
  rw [answer_eq_bind, answer_eq_bind]
  show (d'.scopeUnder Filter.Conversion.standard space >>= _) = (d.scopeUnder Filter.Conversion.standard space >>= _)
  rw [d.scopeUnder_standard, d'.scopeUnder_standard]
  exact answerIn_congr htree hmatch space page

/-- **Negation of a comparison or around it.**  Wherever in a filter a comparison with a value is negated, a negated
combinator that joins nothing but the comparison can stand in its place.  The scope stays as it is exactly if it has the
spaces anyway that the comparison would ask for were it not negated, and then so does the scope of the compiled filter,
or the error.  The answer to every request stays as it is if the scope does, or if the filter looks up no names. -/
theorem search_eq_of_negation_moved {comparison : Comparison} (hplain : comparison.negate = false)
    (hvalue : comparison.value ≠ .null) (connective : Connective)
    (hroot : Node.Exchanged (Node.comparison comparison).negated
      (Node.combinator connective [.comparison comparison] false).negated d.root d'.root)
    (htree : d'.treeView = d.treeView) (s : Store) (c : Config) (space : Option String) :
    (d'.scope space = d.scope space ↔ ∀ v ∈ comparison.requestedSpaces,
        (d.scope space).spaces.contains (Filter.Conversion.identifier v) = true) ∧
      (d'.scope space = d.scope space →
        ((ofConfig s c).compile d' space).map Compiled.scope = ((ofConfig s c).compile d space).map Compiled.scope) ∧
      (d'.scope space = d.scope space ∨ (∀ other ∈ d.root.comparisons, other.isDirect = true) →
        ∀ expression expression' offset limit, Document.ofText expression = .ok d →
          Document.ofText expression' = .ok d' →
            (ofConfig s c).search ⟨expression', space, offset, limit⟩ =
              (ofConfig s c).search ⟨expression, space, offset, limit⟩) := by
  -- in one scope both filters match the same; what is left is that the scope of the second is not that of the first
  have hmatch : ∀ scope, (ofConfig s c).resolver.matcher scope d'.root = (ofConfig s c).resolver.matcher scope d.root :=
    fun scope => (Resolver.matcher_eq_of_exchanged hroot (Resolver.matcher_negated hplain hvalue connective)).symm
  refine ⟨Filter.scope_eq_iff_of_exchanged hroot space, fun hscope => ?_, fun hor => ?_⟩
  · rw [map_scope_compile, map_scope_compile, hscope, hmatch]
  · have hown : (ofConfig s c).resolver.matcher (d'.scope space) d'.root =
        (ofConfig s c).resolver.matcher (d.scope space) d.root := by
      rw [hmatch]
      obtain hscope | hdirect := hor
      · rw [hscope]
      · exact congrArg _ (Resolver.nodePredicate_eq_of_isDirect hdirect (d'.scope space) (d.scope space))
    intro expression expression' offset limit hread hread'
    have hsearch := search_eq_bind (e := ofConfig s c) (r := ⟨expression, space, offset, limit⟩) hread
    have hsearch' := search_eq_bind (e := ofConfig s c) (r := ⟨expression', space, offset, limit⟩) hread'
    rw [hsearch, hsearch']
    exact answer_eq_of_matcher_eq htree hown (.ofRequest (ofConfig s c).settings offset limit)

def elsewhereOrRed : Document :=
  ⟨.combinator .or [.comparison ⟨"space", .eq, .text "a", true⟩, .comparison ⟨"label.name", .eq, .text "red", false⟩]
    false, false⟩

def notHereOrRed : Document :=
  ⟨.combinator .or [.combinator .and [.comparison ⟨"space", .eq, .text "a", false⟩] true,
    .comparison ⟨"label.name", .eq, .text "red", false⟩] false, false⟩

def hereAnd (d : Document) : Document :=
  ⟨.combinator .and [.comparison ⟨"space", .isIn, .texts ["a"], false⟩, d.root] false, d.treeView⟩

theorem search_eq_of_negation_moved_hereAnd :
    Node.Exchanged (Node.comparison ⟨"space", .eq, .text "a", false⟩).negated
        (Node.combinator .and [.comparison ⟨"space", .eq, .text "a", false⟩] false).negated (hereAnd elsewhereOrRed).root
        (hereAnd notHereOrRed).root ∧
      (hereAnd notHereOrRed).scope none = (hereAnd elsewhereOrRed).scope none ∧
      (ofConfig twoSpaces .none).search ⟨(hereAnd notHereOrRed).text .compact, none, none, none⟩ =
        (ofConfig twoSpaces .none).search ⟨(hereAnd elsewhereOrRed).text .compact, none, none, none⟩ := by
  have hexchanged : Node.Exchanged (Node.comparison ⟨"space", .eq, .text "a", false⟩).negated
      (Node.combinator .and [.comparison ⟨"space", .eq, .text "a", false⟩] false).negated (hereAnd elsewhereOrRed).root
      (hereAnd notHereOrRed).root := .inside .and [_] [] false (.inside .or [] [_] false .here)
  obtain ⟨hscope, -, hsearch⟩ := search_eq_of_negation_moved (d := hereAnd elsewhereOrRed) rfl (by decide) .and
    hexchanged rfl twoSpaces .none none
  have hunchanged := hscope.2 (by decide +kernel)
  exact ⟨hexchanged, hunchanged, hsearch (.inl hunchanged) _ _ none none
    (Document.ofText_text (by decide +kernel) (by decide +kernel) .compact)
    (Document.ofText_text (by decide +kernel) (by decide +kernel) .compact)⟩

/-- **Negation around a comparison of the space narrows the scope**, and so the labels that are named red. -/
theorem negation_narrows_scope :
    Node.Exchanged (Node.comparison ⟨"space", .eq, .text "a", false⟩).negated
        (Node.combinator .and [.comparison ⟨"space", .eq, .text "a", false⟩] false).negated elsewhereOrRed.root
        notHereOrRed.root ∧
      Document.ofText (elsewhereOrRed.text .compact) = .ok elsewhereOrRed ∧
      Document.ofText (notHereOrRed.text .compact) = .ok notHereOrRed ∧
      elsewhereOrRed.scope none = .unrestricted ∧ notHereOrRed.scope none = .ofList ["a"] ∧
      ((ofConfig twoSpaces .none).search ⟨elsewhereOrRed.text .compact, none, none, none⟩).toOption.map
        (·.items.map WorkItem.id) = some ["5", "3", "2"] ∧
      ((ofConfig twoSpaces .none).search ⟨notHereOrRed.text .compact, none, none, none⟩).toOption.map
        (·.items.map WorkItem.id) = some ["5", "3"] :=
  ⟨.inside .or [] [_] false .here, Document.ofText_text (by decide +kernel) (by decide +kernel) .compact,
    Document.ofText_text (by decide +kernel) (by decide +kernel) .compact, by decide +kernel, by decide +kernel,
    by decide +kernel, by decide +kernel⟩

end Engine
end Backlog
