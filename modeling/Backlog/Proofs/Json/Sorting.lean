import Backlog.Proofs.Json.Canonical
import Backlog.Registry
import Mathlib.Data.List.Nodup
import Mathlib.Data.List.Perm.Subperm
/-!
# Sorting — the members of an object as a registry

Members are kept under their names: of one name the last stays, and they stand in ascending order.  So sorted members
are the entries of a registry (`sortMembers_eq_entries`), and what is said of them follows from which members there are
(`mem_sortMembers_iff`).  Sorting goes before or after any work on the values (`sortMembers_map`) and any choice by name
(`sortMembers_filter`), and where no name occurs twice, it forgets in which order members were written
(`sortMembers_eq_of_perm`).
-/
namespace Backlog
namespace Json

instance : Keyed (String × Json) := ⟨Prod.fst⟩

theorem insertMember_eq (m : String × Json) :
    ∀ ms : List (String × Json), insertMember m.1 m.2 ms = Registry.insertEntry m ms
  | [] => rfl
  | n :: ms => by
    rw [insertMember, Registry.insertEntry, insertMember_eq m ms]
    rfl

theorem sortMembers_eq_entries (ms : List (String × Json)) : sortMembers ms = (Registry.ofList ms).entries := by
  have hfold : ∀ (ms : List (String × Json)) (r : Registry (String × Json)),
      ms.foldl (fun sorted m => insertMember m.1 m.2 sorted) r.entries = (ms.foldl Registry.insert r).entries := by
    intro ms
    induction ms with
    | nil => exact fun _ => rfl
    | cons m ms ih =>
      intro r
      have hinsert : insertMember m.1 m.2 r.entries = (r.insert m).entries := insertMember_eq m r.entries
      rw [List.foldl_cons, List.foldl_cons, ← ih, ← hinsert]
  exact hfold ms .empty

theorem pairwise_sortMembers (ms : List (String × Json)) : (sortMembers ms).Pairwise fun m n => m.1 < n.1 := by
  rw [sortMembers_eq_entries]
  exact (Registry.ofList ms).sorted

theorem nodup_sortMembers (ms : List (String × Json)) : ((sortMembers ms).map Prod.fst).Nodup := by
  rw [sortMembers_eq_entries]
  exact (Registry.ofList ms).nodup_keys

/-- **A member stays** if it is the last of its name. -/
theorem mem_sortMembers_iff {m : String × Json} {ms : List (String × Json)} :
    m ∈ sortMembers ms ↔ (ms.filter fun n => n.1 == m.1).getLast? = some m := by
  have hget := Registry.get?_eq_some_iff (r := Registry.ofList ms) (k := m.1) (a := m)
  rw [Registry.get?_ofList] at hget
  rw [sortMembers_eq_entries, ← and_iff_left (a := m ∈ _) (rfl : Keyed.key m = m.1)]
  exact hget.symm

theorem mem_sortMembers_append {m : String × Json} (before : List (String × Json)) {after : List (String × Json)}
    (h : m.1 ∉ after.map Prod.fst) : m ∈ sortMembers (before ++ m :: after) := by
  have hafter : after.filter (fun n => n.1 == m.1) = [] :=
    List.filter_eq_nil_iff.2 fun n hn he => h (beq_iff_eq.1 he ▸ List.mem_map_of_mem hn)
  rw [mem_sortMembers_iff, List.filter_append, List.filter_cons, if_pos (beq_self_eq_true _), hafter,
    List.getLast?_concat]

theorem mem_of_mem_sortMembers {m : String × Json} {ms : List (String × Json)} (h : m ∈ sortMembers ms) : m ∈ ms :=
  (List.mem_filter.1 (List.mem_of_getLast? (mem_sortMembers_iff.1 h))).1

theorem length_sortMembers_le (ms : List (String × Json)) : (sortMembers ms).length ≤ ms.length :=
  ((List.Nodup.of_map Prod.fst (nodup_sortMembers ms)).subperm fun _ => mem_of_mem_sortMembers).length_le

theorem lookup_of_mem {m : String × Json} :
    ∀ {ms : List (String × Json)}, (ms.map Prod.fst).Nodup → m ∈ ms → ms.lookup m.1 = some m.2
  | n :: ms, hd, h => by
    rcases List.mem_cons.1 h with rfl | h
    · rw [List.lookup_cons, beq_self_eq_true]
    · obtain ⟨hn, hms⟩ := List.nodup_cons.1 hd
      have hne : (m.1 == n.1) = false := beq_eq_false_iff_ne.2 fun he => hn (he ▸ List.mem_map_of_mem h)
      rw [List.lookup_cons, hne]
      exact lookup_of_mem hms h

theorem lookup_of_not_mem {name : String} {ms : List (String × Json)} (h : name ∉ ms.map Prod.fst) :
    ms.lookup name = none :=
  List.lookup_eq_none_iff.2 fun _ hm => bne_iff_ne.2 fun he => h (he ▸ List.mem_map_of_mem hm)

theorem filter_of_not_mem {name : String} {ms : List (String × Json)} (h : name ∉ ms.map Prod.fst) :
    ms.filter (fun m => m.1 != name) = ms :=
  List.filter_eq_self.2 fun _ hm => bne_iff_ne.2 fun he => h (he ▸ List.mem_map_of_mem hm)

theorem mem_map_fst_sortMembers_iff {name : String} {ms : List (String × Json)} :
    name ∈ (sortMembers ms).map Prod.fst ↔ name ∈ ms.map Prod.fst := by
  constructor
  · intro h
    obtain ⟨m, hm, rfl⟩ := List.mem_map.1 h
    exact List.mem_map_of_mem (mem_of_mem_sortMembers hm)
  · intro h
    obtain ⟨m, hm, rfl⟩ := List.mem_map.1 h
    have hne : ms.filter (fun n => n.1 == m.1) ≠ [] := List.ne_nil_of_mem (List.mem_filter.2 ⟨hm, beq_self_eq_true _⟩)
    obtain ⟨last, hlast⟩ := Option.ne_none_iff_exists'.1 (mt List.getLast?_eq_none_iff.1 hne)
    have hname : last.1 = m.1 := beq_iff_eq.1 (List.mem_filter.1 (List.mem_of_getLast? hlast)).2
    exact List.mem_map.2 ⟨last, mem_sortMembers_iff.2 (hname ▸ hlast), hname⟩

theorem sortMembers_eq_of_mem_iff {ms sorted : List (String × Json)} (hsorted : sorted.Pairwise fun m n => m.1 < n.1)
    (h : ∀ m, m ∈ sortMembers ms ↔ m ∈ sorted) : sortMembers ms = sorted :=
  Registry.eq_of_mem_iff (pairwise_sortMembers ms) hsorted h

/-- **Sorting forgets the order** in which members were written, where no name occurs twice. -/
theorem sortMembers_eq_of_perm {ms ns : List (String × Json)} (hp : ms.Perm ns) (hd : (ms.map Prod.fst).Nodup) :
    sortMembers ms = sortMembers ns := by
  refine sortMembers_eq_of_mem_iff (pairwise_sortMembers ns) fun m => ?_
  rw [(perm_sortMembers hd).mem_iff, hp.mem_iff, (perm_sortMembers ((hp.map Prod.fst).nodup_iff.1 hd)).mem_iff]

/-- **Sorting and choosing by name** go in any order. -/
theorem sortMembers_filter (p : String → Bool) (ms : List (String × Json)) :
    sortMembers (ms.filter fun m => p m.1) = (sortMembers ms).filter fun m => p m.1 := by
  refine sortMembers_eq_of_mem_iff ((pairwise_sortMembers ms).filter _) fun m => ?_
  have hnames : (ms.filter fun n => p n.1).filter (fun n => n.1 == m.1) =
      (ms.filter fun n => n.1 == m.1).filter fun _ => p m.1 := by
    rw [List.filter_filter, List.filter_filter]
    refine List.filter_congr fun n _ => ?_
    by_cases hn : n.1 = m.1
    · rw [hn, Bool.and_comm]
    · rw [beq_eq_false_iff_ne.2 hn, Bool.false_and, Bool.and_false]
  rw [List.mem_filter, mem_sortMembers_iff, mem_sortMembers_iff, hnames]
  cases hp : p m.1 with
  | true => rw [List.filter_eq_self.2 fun _ _ => rfl, and_iff_left rfl]
  | false =>
    rw [List.filter_eq_nil_iff.2 fun _ _ => Bool.false_ne_true]
    exact iff_of_false nofun fun h => Bool.false_ne_true h.2

/-- **Sorting and working on the values** go in any order. -/
theorem sortMembers_map (f : Json → Json) (ms : List (String × Json)) :
    sortMembers (ms.map fun m => (m.1, f m.2)) = (sortMembers ms).map fun m => (m.1, f m.2) := by
  refine sortMembers_eq_of_mem_iff (List.pairwise_map.2 (pairwise_sortMembers ms)) fun m => ?_
  rw [mem_sortMembers_iff, List.filter_map, List.getLast?_map, Option.map_eq_some_iff, List.mem_map]
  refine exists_congr fun n => and_congr_left fun hn => ?_
  rw [mem_sortMembers_iff, ← hn]
  rfl

/-! ## The place of a member -/

theorem exists_insertMember_self (name : String) :
    ∀ ms : List (String × Json), ∃ before after, ∀ v, insertMember name v ms = before ++ (name, v) :: after
  | [] => ⟨[], [], fun _ => rfl⟩
  | (n, w) :: ms => by
    simp only [insertMember]
    split
    · exact ⟨[], (n, w) :: ms, fun _ => rfl⟩
    · split
      · exact ⟨[], ms, fun _ => rfl⟩
      · obtain ⟨before, after, h⟩ := exists_insertMember_self name ms
        exact ⟨(n, w) :: before, after, fun v => congrArg _ (h v)⟩

theorem exists_insertMember_other {name other : String} (hne : other ≠ name) (w : Json) (after : List (String × Json)) :
    ∀ before : List (String × Json), ∃ before' after', ∀ v,
      insertMember other w (before ++ (name, v) :: after) = before' ++ (name, v) :: after'
  | [] => by
    simp only [List.nil_append, insertMember, if_neg hne]
    split
    · exact ⟨[(other, w)], after, fun _ => rfl⟩
    · exact ⟨[], insertMember other w after, fun _ => rfl⟩
  | (n, u) :: before => by
    simp only [List.cons_append, insertMember]
    split
    · exact ⟨(other, w) :: (n, u) :: before, after, fun _ => rfl⟩
    · split
      · exact ⟨(other, w) :: before, after, fun _ => rfl⟩
      · obtain ⟨before', after', h⟩ := exists_insertMember_other hne w after before
        exact ⟨(n, u) :: before', after', fun v => congrArg _ (h v)⟩

theorem exists_foldl_insertMember {name : String} :
    ∀ {rest : List (String × Json)} (before after : List (String × Json)), name ∉ rest.map Prod.fst →
      ∃ before' after', ∀ v, rest.foldl (fun sorted m => insertMember m.1 m.2 sorted) (before ++ (name, v) :: after) =
        before' ++ (name, v) :: after'
  | [], before, after, _ => ⟨before, after, fun _ => rfl⟩
  | (n, w) :: rest, before, after, h => by
    obtain ⟨hn, hrest⟩ := not_or.1 fun he => h (List.mem_cons.2 he)
    have hne : n ≠ name := Ne.symm hn
    obtain ⟨before', after', hinsert⟩ := exists_insertMember_other hne w after before
    obtain ⟨before'', after'', hfold⟩ := exists_foldl_insertMember before' after' hrest
    refine ⟨before'', after'', fun v => ?_⟩
    rw [← hfold v, ← hinsert v]
    rfl

/-- **The last member of its name** has a place among the sorted ones that does not depend on its value. -/
theorem exists_sortMembers_append {name : String} (before : List (String × Json)) {after : List (String × Json)}
    (h : name ∉ after.map Prod.fst) :
    ∃ before' after', ∀ v, sortMembers (before ++ (name, v) :: after) = before' ++ (name, v) :: after' := by
  obtain ⟨pre, post, hinsert⟩ := exists_insertMember_self name (sortMembers before)
  obtain ⟨before', after', hfold⟩ := exists_foldl_insertMember pre post h
  refine ⟨before', after', fun v => ?_⟩
  rw [← hfold v, ← hinsert v, sortMembers, List.foldl_append]
  rfl

end Json
end Backlog
