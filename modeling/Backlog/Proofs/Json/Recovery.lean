import Backlog.Json.Record
import Backlog.Proofs.Json.RoundTrip
/-!
# Recovery — records that are written and read again

A kind of data is recovered if it is read as what was written (`Recovers`).  What is recovered of the fields is recovered
of the record that they make up: looked up by their names, the members of an object are the values of the fields in
their order, and those left out at the end are absent (`record?_obj`).
-/
namespace Backlog
namespace Json

variable {α β : Type}

/-- **Whether reading undoes writing.**  What is written has natural numbers only, so that its text reads back, and is
read as that for which it was written. -/
structure Recovers (write : α → Json) (read : Json → Option α) : Prop where
  isNatural_write : ∀ a, (write a).isNatural = true
  read_write : ∀ a, read (write a) = some a

section

variable {write : α → Json} {read : Json → Option α}

theorem Recovers.needed (h : Recovers write read) (a : α) : needed read (some (write a)) = some a :=
  h.read_write a

theorem Recovers.defaulted (h : Recovers write read) (default a : α) :
    defaulted read default (some (write a)) = some a :=
  h.read_write a

end

/-! ## Lists and scalars -/

theorem mapM_eq_some {f : α → Option β} {g : α → β} :
    ∀ {as : List α}, (∀ a ∈ as, f a = some (g a)) → as.mapM f = some (as.map g)
  | [], _ => rfl
  | a :: as, h => by
    obtain ⟨ha, has⟩ := List.forall_mem_cons.1 h
    rw [List.mapM_cons, ha, mapM_eq_some has]
    rfl

theorem Recovers.list {write : α → Json} {read : Json → Option α} (h : Recovers write read) :
    Recovers (fun as => .arr (as.map write)) (list? read) where
  isNatural_write as := areNatural_map h.isNatural_write as
  read_write as := by
    have hread : read ∘ write = fun a => some (id a) := funext h.read_write
    rw [list?, List.mapM_map, hread, mapM_eq_some fun _ _ => rfl, List.map_id]

theorem recovers_text : Recovers .str text? :=
  ⟨fun _ => rfl, fun _ => rfl⟩

theorem recovers_texts : Recovers ofTexts texts? :=
  recovers_text.list

theorem recovers_variant {names : List (String × α)} {name : α → String}
    (h : ∀ a, names.lookup (name a) = some a) : Recovers (fun a => .str (name a)) (variant? names) :=
  ⟨fun _ => rfl, h⟩

theorem isNatural_ofNat {n : Nat} (h : n ≤ Text.maxWord) : (ofNat n).isNatural = true :=
  decide_eq_true h

theorem needed_ofNat {n : Nat} (h : n ≤ Text.maxWord) : needed word? (some (.ofNat n)) = some n := by
  have hrange : (decide (0 ≤ (n : Int)) && decide ((n : Int) ≤ Int.ofNat Text.maxWord)) = true := by
    simpa using h
  rw [needed, Option.bind_some, ofNat, word?, hrange, if_pos rfl, Int.toNat_natCast]

/-! ## Fields that may be unset -/

theorem isNatural_ofText? (s : Option String) : (ofText? s).isNatural = true := by
  cases s <;> rfl

theorem optional_ofText? (s : Option String) : optional text? (some (ofText? s)) = some s := by
  cases s <;> rfl

theorem isNatural_ofTexts? (ss : Option (List String)) : (ofTexts? ss).isNatural = true := by
  cases ss with
  | none => rfl
  | some ss => exact recovers_texts.isNatural_write ss

theorem optional_ofTexts? (ss : Option (List String)) : optional texts? (some (ofTexts? ss)) = some ss := by
  cases ss with
  | none => rfl
  | some ss => exact congrArg (Option.map some) (recovers_texts.read_write ss)

/-! ## Records -/

theorem uniqueMember?_of_mem {ms : List (String × Json)} (hd : (ms.map Prod.fst).Nodup) {m : String × Json}
    (hm : m ∈ ms) : uniqueMember? ms m.1 = some (some m.2) := by
  have hfilter : ms.filter (fun m' => m'.1 == m.1) = [m] := by
    induction ms with
    | nil => cases hm
    | cons n ms ih =>
      obtain ⟨hn, hd⟩ := List.nodup_cons.1 hd
      rw [List.filter_cons]
      rcases List.mem_cons.1 hm with rfl | hm
      · have hrest : ms.filter (fun m' => m'.1 == m.1) = [] :=
          List.filter_eq_nil_iff.2 fun m' hm' he => hn (List.mem_map.2 ⟨m', hm', eq_of_beq he⟩)
        rw [hrest, if_pos (beq_self_eq_true m.1)]
      · have hne : ¬(n.1 == m.1) = true := fun he => hn (List.mem_map.2 ⟨m, hm, (eq_of_beq he).symm⟩)
        rw [if_neg hne, ih hd hm]
  unfold uniqueMember?
  rw [hfilter]

theorem uniqueMember?_of_not_mem {ms : List (String × Json)} {name : String} (h : name ∉ ms.map Prod.fst) :
    uniqueMember? ms name = some none := by
  have hfilter : ms.filter (fun m => m.1 == name) = [] :=
    List.filter_eq_nil_iff.2 fun m hm he => h (List.mem_map.2 ⟨m, hm, eq_of_beq he⟩)
  unfold uniqueMember?
  rw [hfilter]

/-- **The fields of an object**, whose members stand in the order of the names; the last names may be absent. -/
theorem record?_obj (absent : List String) {names : List String} {ms : List (String × Json)}
    (h : names = ms.map Prod.fst ++ absent) (hd : names.Nodup) :
    record? names (.obj ms) = some (ms.map (fun m => some m.2) ++ absent.map fun _ => none) := by
  subst h
  obtain ⟨hms, -, habsent⟩ := List.nodup_append.1 hd
  have hpresent : (ms.map Prod.fst).mapM (uniqueMember? ms) = some (ms.map fun m => some m.2) := by
    rw [List.mapM_map]
    exact mapM_eq_some fun m hm => uniqueMember?_of_mem hms hm
  have hrest : absent.mapM (uniqueMember? ms) = some (absent.map fun _ => none) :=
    mapM_eq_some fun name hname => uniqueMember?_of_not_mem fun hmem => habsent name hmem name hname rfl
  rw [record?, List.mapM_append, hpresent, hrest]
  rfl

end Json
end Backlog
