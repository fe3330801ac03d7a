import Backlog.Proofs.Filter.Writer
import Backlog.Proofs.Outcome
/-!
# Reading — the filters that have a written form are the ones that are read

What is read from any text can be written (`isWellFormed_of_ofBytes`): no combinator is empty, no field has a name that
means something else, and every operator stands with a value that it has a meaning for.  Conversely what can be written
is read back from its own text, member by member: of an object the reader sees the members in the order of their names,
so that it meets the condition, its negation and the options in some order, and nothing it finds depends on which.
-/
namespace Backlog
namespace Filter

/-! ## What is read can be written -/

theorem pairs_of_readScalar {field : String} {v : Json} {value : Value} (h : readScalar field v = .ok value) :
    Comparison.pairs .eq value = true ∧ Comparison.pairs .ne value = true := by
  unfold readScalar at h
  split at h <;> cases h <;> exact ⟨rfl, rfl⟩

theorem pairs_of_readOperand {field : String} {o : Operator} {v : Json} {value : Value}
    (h : readOperand field o v = .ok value) : Comparison.pairs o value = true := by
  cases o with
  | eq => exact (pairs_of_readScalar (by rwa [readOperand] at h <;> nofun)).1
  | ne => exact (pairs_of_readScalar (by rwa [readOperand] at h <;> nofun)).2
  | isIn =>
    cases v with
    | arr items =>
      obtain ⟨vs, -, rfl⟩ := Outcome.map_eq_ok.1 h
      rfl
    | _ => cases h
  | substr =>
    cases v with
    | str s =>
      cases h
      rfl
    | _ => cases h

/-- A comparison that is read has the field it was read for, and an operator with a meaning for its value. -/
theorem of_readComparison {field : String} {v : Json} {c : Comparison} (h : readComparison field v = .ok c) :
    c.field = field ∧ Comparison.pairs c.operator c.value = true := by
  unfold readComparison at h
  split at h
  · split at h
    · obtain ⟨value, hvalue, rfl⟩ := Outcome.map_eq_ok.1 h
      exact ⟨rfl, pairs_of_readOperand hvalue⟩
    · cases h
  · cases h
  · cases h
  · obtain ⟨value, hvalue, rfl⟩ := Outcome.map_eq_ok.1 h
    exact ⟨rfl, (pairs_of_readScalar hvalue).1⟩

theorem isWellFormed_of_readLeaf {name : String} {v : Json} {n : Node} (hname : name ≠ negateName)
    (h : readLeaf name v = .ok n) : n.isWellFormed = true := by
  unfold readLeaf at h
  split at h
  · cases h
  split at h
  · cases h
  split at h
  · cases h
  · next hreserved hempty =>
    obtain ⟨c, hc, rfl⟩ := Outcome.map_eq_ok.1 h
    obtain ⟨hfield, hpairs⟩ := of_readComparison hc
    rw [Node.isWellFormed, Comparison.isWellFormed, hpairs, Bool.and_true, isFieldName_iff, hfield]
    exact ⟨hempty, Bool.not_eq_true _ ▸ hreserved, hname⟩

theorem isWellFormed_negated {n : Node} (h : n.isWellFormed = true) : n.negated.isWellFormed = true := by
  cases n with
  | comparison c => exact h
  | combinator connective children negate => exact h

theorem isWellFormed_of_assemble {negate : Bool} {ns : List Node} {n : Node} (h : assemble negate ns = .ok n)
    (hns : Node.areWellFormed ns = true) : n.isWellFormed = true := by
  unfold assemble at h
  split at h
  · cases h
  · next n =>
    have hn : n.isWellFormed = true := (Bool.and_eq_true_iff.1 hns).1
    cases h
    split
    · exact isWellFormed_negated hn
    · exact hn
  · split at h
    · cases h
    · cases h
      rw [Node.isWellFormed, hns]
      rfl

theorem readMember_eq_readLeaf {name : String} {v : Json} {n : Node} (h : readMember name v = .ok n)
    (hv : ∀ items, v ≠ .arr items) : readLeaf name v = .ok n := by
  unfold readMember at h
  split at h
  · exact (hv _ rfl).elim
  · split at h
    · cases h
    · exact h

mutual

theorem isWellFormed_of_readMember {name : String} (hname : name ≠ negateName) :
    ∀ (v : Json) {n : Node}, readMember name v = .ok n → n.isWellFormed = true
  | .arr items, _, h => by
    rw [readMember] at h
    split at h
    · exact isWellFormed_of_readList items h
    · split at h
      · exact isWellFormed_of_readList items h
      · exact isWellFormed_of_readLeaf hname h
  | .null, _, h => isWellFormed_of_readLeaf hname (readMember_eq_readLeaf h fun _ => nofun)
  | .bool _, _, h => isWellFormed_of_readLeaf hname (readMember_eq_readLeaf h fun _ => nofun)
  | .num _, _, h => isWellFormed_of_readLeaf hname (readMember_eq_readLeaf h fun _ => nofun)
  | .str _, _, h => isWellFormed_of_readLeaf hname (readMember_eq_readLeaf h fun _ => nofun)
  | .obj _, _, h => isWellFormed_of_readLeaf hname (readMember_eq_readLeaf h fun _ => nofun)

theorem isWellFormed_of_readList {connective : Connective} :
    ∀ (vs : List Json) {n : Node}, readList connective vs = .ok n → n.isWellFormed = true
  | [], _, h => by
    rw [readList] at h
    cases h
  | v :: vs, _, h => by
    rw [readList] at h
    obtain ⟨n, hn, h⟩ := Outcome.bind_eq_ok.1 h
    obtain ⟨ns, hns, h⟩ := Outcome.bind_eq_ok.1 h
    cases h
    rw [Node.isWellFormed, Node.areWellFormed, isWellFormed_of_readItem v hn, areWellFormed_of_readItems vs hns]
    rfl

theorem areWellFormed_of_readItems {connective : Connective} :
    ∀ (vs : List Json) {ns : List Node}, readItems connective vs = .ok ns → Node.areWellFormed ns = true
  | [], _, h => by
    rw [readItems] at h
    cases h
    rfl
  | v :: vs, _, h => by
    rw [readItems] at h
    obtain ⟨n, hn, h⟩ := Outcome.bind_eq_ok.1 h
    obtain ⟨ns, hns, h⟩ := Outcome.bind_eq_ok.1 h
    cases h
    rw [Node.areWellFormed, isWellFormed_of_readItem v hn, areWellFormed_of_readItems vs hns]
    rfl

theorem isWellFormed_of_readItem {connective : Connective} :
    ∀ (v : Json) {n : Node}, readItem connective v = .ok n → n.isWellFormed = true
  | .obj members, _, h => by
    rw [readItem] at h
    obtain ⟨negate, -, h⟩ := Outcome.bind_eq_ok.1 h
    obtain ⟨ns, hns, h⟩ := Outcome.bind_eq_ok.1 h
    exact isWellFormed_of_assemble h (areWellFormed_of_readMembers members hns)
  | .null, _, h => by cases h
  | .bool _, _, h => by cases h
  | .num _, _, h => by cases h
  | .str _, _, h => by cases h
  | .arr _, _, h => by cases h

theorem areWellFormed_of_readMembers :
    ∀ (ms : List (String × Json)) {ns : List Node}, readMembers ms = .ok ns → Node.areWellFormed ns = true
  | [], _, h => by
    rw [readMembers] at h
    cases h
    rfl
  | (name, v) :: ms, _, h => by
    rw [readMembers] at h
    split at h
    · exact areWellFormed_of_readMembers ms h
    · next hname =>
      obtain ⟨n, hn, h⟩ := Outcome.bind_eq_ok.1 h
      obtain ⟨ns, hns, h⟩ := Outcome.bind_eq_ok.1 h
      cases h
      rw [Node.areWellFormed, isWellFormed_of_readMember hname v hn, areWellFormed_of_readMembers ms hns]
      rfl

end

theorem isWellFormed_of_readObject {ms : List (String × Json)} {n : Node} (h : readObject ms = .ok n) :
    n.isWellFormed = true := by
  obtain ⟨negate, -, h⟩ := Outcome.bind_eq_ok.1 h
  obtain ⟨ns, hns, h⟩ := Outcome.bind_eq_ok.1 h
  exact isWellFormed_of_assemble h (areWellFormed_of_readMembers ms hns)

namespace Document

theorem isWellFormed_of_ofJson {v : Json} {d : Document} (h : ofJson v = .ok d) : d.root.isWellFormed = true := by
  unfold ofJson at h
  split at h
  · obtain ⟨treeView, -, h⟩ := Outcome.bind_eq_ok.1 h
    dsimp only at h
    split at h
    · cases h
    · obtain ⟨root, hroot, h⟩ := Outcome.bind_eq_ok.1 h
      cases h
      exact isWellFormed_of_readObject hroot
  · cases h

theorem isWellFormed_of_ofText {s : String} {d : Document} (h : ofText s = .ok d) : d.root.isWellFormed = true := by
  unfold ofText at h
  split at h
  · next v _ =>
    cases hv : ofJson v.canonical with
    | ok d' =>
      rw [hv] at h
      cases h
      exact isWellFormed_of_ofJson hv
    | error e =>
      rw [hv] at h
      cases h
  · cases h

end Document

/-! ## What can be written is read back -/

theorem readTexts_map_str (field : String) (vs : List String) : readTexts field (vs.map .str) = .ok vs := by
  induction vs with
  | nil => rfl
  | cons v vs ih =>
    rw [List.map_cons, readTexts, ih]
    rfl

theorem readOperand_toJson {field : String} {o : Operator} {v : Value} (h : Comparison.pairs o v = true) :
    readOperand field o v.toJson = .ok v := by
  cases o <;> cases v <;> cases h
  case isIn.texts vs =>
    rw [Value.toJson, readOperand, readTexts_map_str]
    rfl
  all_goals rfl

theorem Operator.ofMemberName?_memberName (o : Operator) : ofMemberName? o.memberName = some o := by
  cases o <;> decide

theorem readComparison_content {c : Comparison} (h : Comparison.pairs c.operator c.value = true) :
    readComparison c.field (.obj [(c.operator.memberName, c.value.toJson)]) = .ok { c with negate := false } := by
  rw [readComparison, Operator.ofMemberName?_memberName]
  simp only
  rw [readOperand_toJson h]
  rfl

theorem readMembers_eq (ms : List (String × Json)) :
    readMembers ms = (ms.filter fun m => m.1 != negateName).mapM fun m => readMember m.1 m.2 := by
  induction ms with
  | nil => rfl
  | cons m ms ih =>
    obtain ⟨name, v⟩ := m
    rw [readMembers, List.filter_cons]
    by_cases h : name = negateName
    · rw [if_pos h, if_neg (by simp [h]), ih]
    · rw [if_neg h, if_pos (by simp [h]), List.mapM_cons, ih]

/-- **An object is read in any order of its members**: the condition, and the negation if there is one. -/
theorem readObject_of_perm {ms : List (String × Json)} {name : String} {v : Json} {negate : Bool} {n : Node}
    (hperm : ms.Perm ((name, v) :: negation negate)) (hname : name ≠ negateName) (hv : readMember name v = .ok n) :
    readObject ms = .ok (if negate then n.negated else n) := by
  have hd : (((name, v) :: negation negate).map Prod.fst).Nodup := by
    cases negate <;> simp [negation, hname]
  have hnegate : readNegate ms = .ok negate := by
    rw [readNegate, Json.lookup_eq_of_perm hperm ((hperm.map Prod.fst).nodup_iff.2 hd), List.lookup_cons,
      beq_eq_false_iff_ne.2 hname.symm]
    cases negate <;> rfl
  have hfilter : ms.filter (fun m => m.1 != negateName) = [(name, v)] := by
    have hp := hperm.filter fun m => m.1 != negateName
    have hone : ((name, v) :: negation negate).filter (fun m => m.1 != negateName) = [(name, v)] := by
      cases negate <;> simp [negation, hname]
    rw [hone] at hp
    exact List.perm_singleton.1 hp
  rw [readObject, hnegate, readMembers_eq, hfilter, List.mapM_cons, hv]
  rfl

namespace Node

def unnegated : Node → Node
  | comparison c => comparison { c with negate := false }
  | combinator connective children _ => combinator connective children false

theorem negated_unnegated (n : Node) : (if n.isNegated then n.unnegated.negated else n.unnegated) = n := by
  cases n with
  | comparison c =>
    obtain ⟨field, operator, value, negate⟩ := c
    cases negate <;> rfl
  | combinator connective children negate => cases negate <;> rfl

theorem content_canonical (c : Comparison) :
    (comparison c).content.canonical = .obj [(c.operator.memberName, c.value.toJson)] := by
  rw [content, Json.canonical, Json.canonicalMembers, canonical_toJson]
  rfl

theorem canonicalMembers_members (n : Node) :
    Json.canonicalMembers n.members = (n.name, n.content.canonical) :: negation n.isNegated := by
  rw [members, Json.canonicalMembers]
  cases n.isNegated <;> rfl

theorem nodup_members {n : Node} (h : n.isWellFormed = true) :
    (((n.name, n.content.canonical) :: negation n.isNegated).map Prod.fst).Nodup := by
  have hne := (name_ne h).1
  cases n.isNegated <;> simp [negation, hne]

end Node

theorem readItem_obj (connective : Connective) (ms : List (String × Json)) :
    readItem connective (.obj ms) = readObject ms := by
  rw [readItem, readObject]

mutual

/-- **A condition that can be written is read back**, but for its negation, from the member that it is written as. -/
theorem readMember_content : ∀ n : Node, n.isWellFormed = true → readMember n.name n.content.canonical = .ok n.unnegated
  | .comparison c, h => by
    rw [Node.isWellFormed, Comparison.isWellFormed, Bool.and_eq_true, isFieldName_iff] at h
    obtain ⟨⟨hempty, hreserved, -⟩, hpairs⟩ := h
    have hne : ∀ {name : String}, isReserved name = true → c.field ≠ name := ne_of_isReserved hreserved
    have hleaf :
        readLeaf c.field (.obj [(c.operator.memberName, c.value.toJson)]) = .ok (Node.comparison c).unnegated := by
      rw [readLeaf, if_neg (hne (by decide)), hreserved, if_neg Bool.false_ne_true, if_neg hempty,
        readComparison_content hpairs]
      rfl
    rw [Node.name, Node.content_canonical, readMember]
    · simp [hne (by decide : isReserved "$AND" = true), hne (by decide : isReserved "$OR" = true), hleaf]
    · exact fun _ => nofun
  | .combinator connective [] negate, h => by
    rw [Node.isWellFormed] at h
    cases h
  | .combinator connective (n :: ns) negate, h => by
    rw [Node.isWellFormed, Bool.and_eq_true] at h
    have hitems := readItems_toJsons connective (n :: ns) h.2
    have hlist : readList connective (Json.canonicalItems (Node.toJsons (n :: ns))) =
        .ok (.combinator connective (n :: ns) false) := by
      rw [Node.toJsons, Json.canonicalItems, readItems] at hitems
      obtain ⟨n', hn, hitems⟩ := Outcome.bind_eq_ok.1 hitems
      obtain ⟨ns', hns, hitems⟩ := Outcome.bind_eq_ok.1 hitems
      cases hitems
      rw [Node.toJsons, Json.canonicalItems, readList, hn, hns]
      rfl
    rw [Node.content, Json.canonical, readMember, Node.name]
    cases connective with
    | and => exact hlist
    | or => exact hlist

theorem readItems_toJsons (connective : Connective) :
    ∀ ns : List Node, Node.areWellFormed ns = true →
      readItems connective (Json.canonicalItems (Node.toJsons ns)) = .ok ns
  | [], _ => by
    rw [Node.toJsons, Json.canonicalItems, readItems]
  | n :: ns, h => by
    obtain ⟨hn, hns⟩ := Bool.and_eq_true_iff.1 h
    have hmembers := Json.perm_sortMembers (n.nodup_members hn)
    have hread := readObject_of_perm hmembers (name_ne hn).1 (readMember_content n hn)
    rw [Node.negated_unnegated] at hread
    rw [Node.toJsons, ← Node.members, Json.canonicalItems, Json.canonical, Node.canonicalMembers_members, readItems,
      readItem_obj, hread, readItems_toJsons connective ns hns]
    rfl

end

namespace Document

/-- The outermost object is read in any order of its members: the options, and the condition that the others are. -/
theorem ofJson_of_perm {d : Document} {ms core : List (String × Json)} (hperm : ms.Perm (core ++ [d.optionsMember]))
    (hnodup : ((core ++ [d.optionsMember]).map Prod.fst).Nodup) (hne : core ≠ [])
    (hread : ∀ conditions, conditions.Perm core → readObject conditions = .ok d.root) : ofJson (.obj ms) = .ok d := by
  have hcore : ∀ m ∈ core, m.1 ≠ optionsName := fun m hm he => by
    rw [List.map_append, List.nodup_append] at hnodup
    exact hnodup.2.2 m.1 (List.mem_map_of_mem hm) optionsName List.mem_cons_self he
  have hlookup : ms.lookup optionsName = some d.optionsMember.2 := by
    have hnone : core.lookup optionsName = none :=
      List.lookup_eq_none_iff.2 fun m hm => bne_iff_ne.2 (hcore m hm).symm
    rw [Json.lookup_eq_of_perm hperm ((hperm.map Prod.fst).nodup_iff.2 hnodup), List.lookup_append, hnone]
    rfl
  have hfilter : (ms.filter fun m => m.1 != optionsName).Perm core := by
    have hp := hperm.filter fun m => m.1 != optionsName
    have hall : core.filter (fun m => m.1 != optionsName) = core :=
      List.filter_eq_self.2 fun m hm => bne_iff_ne.2 (hcore m hm)
    rw [List.filter_append, hall] at hp
    simpa [Document.optionsMember] using hp
  have hsome : ¬(ms.filter fun m => m.1 != optionsName).isEmpty = true := fun hnil => by
    rw [List.isEmpty_iff.1 hnil] at hfilter
    exact hne hfilter.nil_eq.symm
  have hoptions : readOptions (some d.optionsMember.2) = .ok d.treeView := rfl
  rw [ofJson, hlookup, hoptions]
  show (if _ then throw SyntaxFault.noCondition else _) = _
  rw [if_neg hsome, hread _ hfilter]
  rfl

/-- **A filter that can be written is read back** from the value it is written as. -/
theorem ofJson_canonical {d : Document} (h : d.root.isWellFormed = true) : ofJson d.toJson.canonical = .ok d := by
  obtain ⟨hnegate, hoptions, -⟩ := name_ne h
  have hcanonical : Json.canonicalMembers (d.root.members ++ [d.optionsMember]) =
      (d.root.name, d.root.content.canonical) :: negation d.root.isNegated ++ [d.optionsMember] := by
    rw [Node.members, List.cons_append, Json.canonicalMembers]
    cases d.root.isNegated <;> rfl
  have hnodup : (((d.root.name, d.root.content.canonical) :: negation d.root.isNegated ++ [d.optionsMember]).map
      Prod.fst).Nodup := by
    cases d.root.isNegated <;> simp [negation, optionsMember, hnegate, hoptions, (by decide : negateName ≠ optionsName)]
  rw [toJson, Json.canonical, hcanonical]
  refine ofJson_of_perm (Json.perm_sortMembers hnodup) hnodup (List.cons_ne_nil _ _) fun conditions hperm => ?_
  rw [readObject_of_perm hperm hnegate (readMember_content d.root h), Node.negated_unnegated]

/-- **The text of a filter is read back**, in any layout, if it nests no deeper than a text may. -/
theorem ofText_text {d : Document} (h : d.root.isWellFormed = true) (hdepth : d.toJson.depth ≤ Json.maxDepth)
    (layout : Json.Layout) : ofText (d.text layout) = .ok d := by
  rw [ofText, readEmbedded?_text h hdepth]
  show (ofJson d.toJson.canonical).mapError _ = _
  rw [ofJson_canonical h]
  rfl

theorem ofBytes_toUTF8 (s : String) : ofBytes s.toUTF8 = ofText s := by
  have hs : String.fromUTF8? s.toUTF8 = some s := dif_pos s.isValidUTF8
  rw [ofBytes, hs]

theorem isWellFormed_of_ofBytes {bytes : ByteArray} {d : Document} (h : ofBytes bytes = .ok d) :
    d.root.isWellFormed = true := by
  unfold ofBytes at h
  split at h
  · exact isWellFormed_of_ofText h
  · cases h

/-- **The filters that are read are those that can be written.**  A filter that can be written is read back exactly from
its text, in every layout, as long as the text nests no deeper than a text may; and whatever bytes a filter was read
from, it can be written, so that reading its own text gives it back. -/
theorem ofBytes_accepts_written :
    (∀ d : Document, d.root.isWellFormed = true → d.toJson.depth ≤ Json.maxDepth →
      ∀ layout, ofBytes (d.text layout).toUTF8 = .ok d) ∧
    ∀ (bytes : ByteArray) (d : Document), ofBytes bytes = .ok d →
      d.root.isWellFormed = true ∧
        (d.toJson.depth ≤ Json.maxDepth → ∀ layout, ofBytes (d.text layout).toUTF8 = .ok d) := by
  have hwritten : ∀ d : Document, d.root.isWellFormed = true → d.toJson.depth ≤ Json.maxDepth →
      ∀ layout, ofBytes (d.text layout).toUTF8 = .ok d := fun d h hdepth layout => by
    rw [ofBytes_toUTF8, ofText_text h hdepth]
  refine ⟨hwritten, fun bytes d h => ?_⟩
  have hd := isWellFormed_of_ofBytes h
  exact ⟨hd, hwritten d hd⟩

/-- A filter with every operator, negations at two levels, and characters that have to be escaped. -/
def escapes : Document :=
  ⟨.combinator .or
    [.comparison ⟨"title", .substr, .text "\x00\"\\\n", true⟩,
      .combinator .and
        [.comparison ⟨"label\t", .isIn, .texts [], false⟩, .comparison ⟨"négate", .isIn, .texts ["𝄞", "$AND"], false⟩,
          .comparison ⟨"creator", .ne, .null, false⟩] true,
      .comparison ⟨"tree_view", .eq, .text "", false⟩] false, true⟩

theorem ofBytes_accepts_written_escapes :
    escapes.root.isWellFormed = true ∧ escapes.toJson.depth ≤ Json.maxDepth ∧
      (∀ layout, ofBytes (escapes.text layout).toUTF8 = .ok escapes) ∧
      ∃ bytes, ofBytes bytes = .ok escapes ∧ escapes.root.isWellFormed = true := by
  have hform : escapes.root.isWellFormed = true := by decide
  have hdepth : escapes.toJson.depth ≤ Json.maxDepth := by decide
  have hread := ofBytes_accepts_written.1 escapes hform hdepth
  exact ⟨hform, hdepth, hread, _, hread .compact, (ofBytes_accepts_written.2 _ _ (hread .compact)).1⟩

end Document
end Filter
end Backlog
