import Backlog.Filter.Reader
import Backlog.Proofs.Json.Canonical
/-!
# Writer — from a filter to the text that says it

A filter is written without any of the short forms: every comparison names its operator, every combinator its
connective, and the options stand at the outermost object.  Only a condition that is negated has the member that says
so.
-/
namespace Backlog
namespace Filter

def Value.toJson : Value → Json
  | text value => .str value
  | null => .null
  | texts values => .arr (values.map .str)

def negation (negate : Bool) : List (String × Json) :=
  if negate then [(negateName, .bool true)] else []

namespace Node

def name : Node → String
  | comparison c => c.field
  | combinator connective _ _ => connective.memberName

def isNegated : Node → Bool
  | comparison c => c.negate
  | combinator _ _ negate => negate

mutual

def content : Node → Json
  | comparison c => .obj [(c.operator.memberName, c.value.toJson)]
  | combinator _ children _ => .arr (toJsons children)

def toJsons : List Node → List Json
  | [] => []
  | n :: ns => .obj ((n.name, content n) :: negation n.isNegated) :: toJsons ns

end

def members (n : Node) : List (String × Json) :=
  (n.name, n.content) :: negation n.isNegated

end Node

namespace Document

def optionsMember (d : Document) : String × Json :=
  (optionsName, .obj [(treeViewName, .bool d.treeView)])

def toJson (d : Document) : Json :=
  .obj (d.root.members ++ [d.optionsMember])

def text (d : Document) (layout : Json.Layout) : String :=
  String.ofList (d.toJson.render layout)

end Document

/-! ## What is written -/

theorem canonicalItems_map_str (vs : List String) : Json.canonicalItems (vs.map .str) = vs.map .str := by
  induction vs with
  | nil => rfl
  | cons v vs ih => rw [List.map_cons, Json.canonicalItems, ih, Json.canonical]

theorem canonical_toJson (v : Value) : v.toJson.canonical = v.toJson := by
  cases v with
  | text value => rfl
  | null => rfl
  | texts values => rw [Value.toJson, Json.canonical, canonicalItems_map_str]

theorem arePlain_map_str (vs : List String) : Json.arePlain (vs.map .str) = true := by
  induction vs with
  | nil => rfl
  | cons v vs ih => rw [List.map_cons, Json.arePlain, ih]; rfl

mutual

theorem isNatural_content : ∀ n : Node, n.content.isNatural = true
  | .comparison c => by
    have hvalue : c.value.toJson.isNatural = true := by
      cases c.value with
      | text value => rfl
      | null => rfl
      | texts values => exact Json.areNatural_map (fun _ => rfl) values
    rw [Node.content, Json.isNatural, Json.areNaturalMembers, hvalue]
    rfl
  | .combinator _ children _ => by
    rw [Node.content, Json.isNatural, areNatural_toJsons children]

theorem areNatural_toJsons : ∀ ns : List Node, Json.areNatural (Node.toJsons ns) = true
  | [] => rfl
  | n :: ns => by
    rw [Node.toJsons, Json.areNatural, Json.isNatural, Json.areNaturalMembers, isNatural_content n,
      areNatural_toJsons ns]
    cases n.isNegated <;> rfl

end

theorem isFieldName_iff {field : String} :
    Comparison.isFieldName field = true ↔ field ≠ "" ∧ isReserved field = false ∧ field ≠ negateName := by
  rw [Comparison.isFieldName, Bool.and_eq_true, Bool.and_eq_true, bne_iff_ne, bne_iff_ne, Bool.not_eq_true', and_assoc]
  rfl

theorem ne_of_isReserved {field name : String} (h : isReserved field = false) (hn : isReserved name = true) :
    field ≠ name := fun he => by
  rw [he, hn] at h
  cases h

theorem Operator.memberName_ne (o : Operator) : o.memberName ≠ Json.embeddingName := by cases o <;> decide

theorem Connective.memberName_ne (connective : Connective) :
    connective.memberName ≠ negateName ∧ connective.memberName ≠ optionsName ∧
      connective.memberName ≠ Json.embeddingName := by
  cases connective <;> decide

theorem name_ne {n : Node} (h : n.isWellFormed = true) :
    n.name ≠ negateName ∧ n.name ≠ optionsName ∧ n.name ≠ Json.embeddingName := by
  cases n with
  | comparison c =>
    rw [Node.isWellFormed, Comparison.isWellFormed, Bool.and_eq_true, isFieldName_iff] at h
    obtain ⟨⟨-, hreserved, hnegate⟩, -⟩ := h
    exact ⟨hnegate, ne_of_isReserved hreserved (by decide), ne_of_isReserved hreserved (by decide)⟩
  | combinator connective _ _ => exact connective.memberName_ne

/-- The members of an object that starts with the name of a condition stand for no embedded text. -/
theorem isEmbedding_cons {n : Node} (h : n.isWellFormed = true) (v : Json) (ms : List (String × Json)) :
    Json.isEmbedding ((n.name, v) :: ms) = false :=
  beq_eq_false_iff_ne.2 (name_ne h).2.2

theorem isPlain_negation (negate : Bool) : Json.arePlainMembers (negation negate) = true := by
  cases negate <;> rfl

mutual

theorem isPlain_content : ∀ n : Node, n.isWellFormed = true → n.content.isPlain = true
  | .comparison c, _ => by
    have hvalue : c.value.toJson.isPlain = true := by
      cases c.value with
      | text value => rfl
      | null => rfl
      | texts values => exact arePlain_map_str values
    have hname : Json.isEmbedding [(c.operator.memberName, c.value.toJson)] = false :=
      beq_eq_false_iff_ne.2 c.operator.memberName_ne
    rw [Node.content, Json.isPlain, hname, Json.arePlainMembers, hvalue]
    rfl
  | .combinator _ children _, h => by
    rw [Node.isWellFormed, Bool.and_eq_true] at h
    rw [Node.content, Json.isPlain, arePlain_toJsons children h.2]

theorem arePlain_toJsons : ∀ ns : List Node, Node.areWellFormed ns = true → Json.arePlain (Node.toJsons ns) = true
  | [], _ => rfl
  | n :: ns, h => by
    obtain ⟨hn, hns⟩ := Bool.and_eq_true_iff.1 h
    rw [Node.toJsons, Json.arePlain, Json.isPlain, isEmbedding_cons hn, Json.arePlainMembers, isPlain_content n hn,
      isPlain_negation, arePlain_toJsons ns hns]
    rfl

end

namespace Document

variable {d : Document}

theorem isNatural_toJson (d : Document) : d.toJson.isNatural = true := by
  rw [toJson, Node.members, Json.isNatural, List.cons_append, Json.areNaturalMembers, isNatural_content]
  cases d.root.isNegated <;> rfl

theorem isPlain_toJson (h : d.root.isWellFormed = true) : d.toJson.isPlain = true := by
  rw [toJson, Node.members, Json.isPlain, List.cons_append, isEmbedding_cons h, Json.arePlainMembers,
    isPlain_content d.root h]
  cases d.root.isNegated <;> rfl

/-- **The text of a filter reads as the value it was written as**, if the value nests no deeper than a text may. -/
theorem readEmbedded?_text (h : d.root.isWellFormed = true) (hdepth : d.toJson.depth ≤ Json.maxDepth)
    (layout : Json.Layout) : Json.readEmbedded? (d.text layout) = some d.toJson :=
  Json.readEmbedded?_render layout d.isNatural_toJson hdepth (isPlain_toJson h)

end Document
end Filter
end Backlog
