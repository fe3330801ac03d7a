import Backlog.Proofs.Outcome
import Backlog.Store
/-!
# Parents — what the stored links say about parents

The parents of an item are the sources of the links to it whose type leads from a parent to its child
(`Store.HasParent`).  The store answers with a parent if there is one only, and refuses in two cases: a link to the item
has a type that is not stored, or the item has several parents (`of_parentOf?_eq_error`).
-/
namespace Backlog
namespace Store

variable {s : Store} {id parent : String}

/-- Whether a stored link leads to an item from one of its parents. -/
def HasParent (s : Store) (id parent : String) : Prop :=
  ∃ l ∈ s.links, l.target = id ∧ l.source = parent ∧ ∃ t, s.linkTypes.get? l.type = some t ∧ t.isParentChild = true

theorem contains_parentsIn :
    ∀ {ls : List Link} {parents : StringSet}, s.parentsIn ls = .ok parents →
      (parents.contains parent = true ↔
        ∃ l ∈ ls, l.source = parent ∧ ∃ t, s.linkTypes.get? l.type = some t ∧ t.isParentChild = true)
  | [], parents, h => by
    cases h
    simp [Registry.contains, Registry.empty]
  | l :: ls, parents, h => by
    rw [parentsIn] at h
    cases htype : s.linkTypes.get? l.type with
    | none =>
      rw [htype] at h
      cases h
    | some t =>
      rw [htype] at h
      obtain ⟨others, hothers, rfl⟩ := Outcome.map_eq_ok.1 h
      have ih := contains_parentsIn hothers
      cases ht : t.isParentChild with
      | false => simp [htype, ht, ih]
      | true => simp [htype, ht, StringSet.contains_insert, ih]

theorem of_parentsIn_eq_error {e : StoreError} :
    ∀ {ls : List Link}, s.parentsIn ls = .error e →
      ∃ l ∈ ls, s.linkTypes.get? l.type = none ∧ e = .unknownLinkType l.id l.type
  | [], h => by cases h
  | l :: ls, h => by
    rw [parentsIn] at h
    cases htype : s.linkTypes.get? l.type with
    | none =>
      rw [htype] at h
      cases h
      exact ⟨l, List.mem_cons_self, htype, rfl⟩
    | some t =>
      rw [htype] at h
      obtain ⟨l', hl', hfault⟩ := of_parentsIn_eq_error (Outcome.map_eq_error.1 h)
      exact ⟨l', List.mem_cons_of_mem _ hl', hfault⟩

theorem parentsIn_congr {s' : Store} (h : s'.linkTypes = s.linkTypes) :
    ∀ ls : List Link, s'.parentsIn ls = s.parentsIn ls
  | [] => rfl
  | l :: ls => by rw [parentsIn, parentsIn, h, parentsIn_congr h ls]

theorem toOption_parentsIn_cons (s : Store) (l : Link) (ls : List Link) :
    (s.parentsIn (l :: ls)).toOption = (s.linkTypes.get? l.type).bind fun t =>
      (s.parentsIn ls).toOption.map fun parents => if t.isParentChild then parents.insert l.source else parents := by
  rw [parentsIn]
  cases s.linkTypes.get? l.type with
  | none => rfl
  | some t => exact Outcome.toOption_map _ _

/-- **The order of links** does not show in the parents that they tell, only in which of several faults is found. -/
theorem toOption_parentsIn_of_perm {ls ls' : List Link} (h : ls.Perm ls') :
    (s.parentsIn ls).toOption = (s.parentsIn ls').toOption := by
  induction h with
  | nil => rfl
  | cons l _ ih => rw [toOption_parentsIn_cons, toOption_parentsIn_cons, ih]
  | swap l l' ls =>
    -- a type that is unknown is so in either order, and a set does not tell which source came first
    simp only [toOption_parentsIn_cons]
    cases s.linkTypes.get? l.type with
    | none => cases s.linkTypes.get? l'.type <;> rfl
    | some t =>
      cases s.linkTypes.get? l'.type with
      | none => rfl
      | some t' =>
        cases (s.parentsIn ls).toOption with
        | none => rfl
        | some parents =>
          simp only [Option.bind_some, Option.map_some, Option.some.injEq]
          cases t.isParentChild <;> cases t'.isParentChild <;> simp [StringSet.insert_comm]
  | trans _ _ ih ih' => rw [ih, ih']

theorem toOption_parentOf?_of_perm {s' : Store} (htypes : s'.linkTypes = s.linkTypes) (hlinks : s'.links.Perm s.links)
    (id : String) : (s'.parentOf? id).toOption = (s.parentOf? id).toOption := by
  rw [parentOf?, parentOf?, Outcome.toOption_bind, Outcome.toOption_bind, parentsIn_congr htypes,
    toOption_parentsIn_of_perm (hlinks.filter _)]

theorem mem_parentsIn_iff {parents : StringSet} (h : s.parentsIn (s.links.filter fun l => l.target == id) = .ok parents) :
    parent ∈ parents.entries ↔ s.HasParent id parent := by
  rw [← StringSet.contains_iff_mem, contains_parentsIn h, HasParent]
  simp only [List.mem_filter, beq_iff_eq, and_assoc]

theorem hasParent_of_parentOf? (h : s.parentOf? id = .ok (some parent)) : s.HasParent id parent := by
  obtain ⟨parents, hparents, h⟩ := Outcome.bind_eq_ok.1 h
  have hmem : parent ∈ parents.entries ↔ s.HasParent id parent := mem_parentsIn_iff hparents
  split at h
  · cases h
  · next only honly =>
    cases h
    rw [honly] at hmem
    exact hmem.1 List.mem_cons_self
  · cases h

/-- **Why there is no answer about a parent**: a link has a type that is not stored, or there are several parents. -/
theorem of_parentOf?_eq_error {e : StoreError} (h : s.parentOf? id = .error e) :
    (∃ l ∈ s.links, s.linkTypes.get? l.type = none ∧ e = .unknownLinkType l.id l.type) ∨
      ∃ parents, e = .severalParents id parents ∧ 2 ≤ parents.length ∧ parents.Nodup ∧
        ∀ parent, parent ∈ parents ↔ s.HasParent id parent := by
  rcases Outcome.bind_eq_error.1 h with h | ⟨parents, hparents, h⟩
  · obtain ⟨l, hl, hfault⟩ := of_parentsIn_eq_error h
    exact .inl ⟨l, (List.mem_filter.1 hl).1, hfault⟩
  · have hnodup : parents.entries.Nodup :=
      parents.sorted.imp fun {a b} (hlt : a < b) (he : a = b) => String.lt_irrefl b (he ▸ hlt)
    have hmem : ∀ parent, parent ∈ parents.entries ↔ s.HasParent id parent := fun _ => mem_parentsIn_iff hparents
    split at h
    · cases h
    · cases h
    · next hnone hone =>
      cases h
      have hlength : 2 ≤ parents.entries.length := by
        match hentries : parents.entries with
        | [] => exact absurd hentries hnone
        | [p] => exact absurd hentries (hone p)
        | _ :: _ :: _ => simp
      exact .inr ⟨parents.entries, rfl, hlength, hnodup, hmem⟩

end Store
end Backlog
