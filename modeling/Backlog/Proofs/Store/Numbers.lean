import Backlog.Proofs.Store.Replay
import Backlog.Proofs.Word
import Mathlib.Data.List.Nodup
/-!
# Numbers — how the items of a space are counted

An item that is saved without a number gets the one after the largest of the other items of its space, so it has a number
that none of them has (`IsNumbered.saveItem`), whether it is new, takes the place of another, or comes from another
space.  A change of an item leaves its number and its space alone.  Hence the numbers in a space are different in every
store that was built from nothing by operations that leave the counting to the store (`numbers_run`), as long as there
is a next number: 64 bits hold one that has none.  One operation raises the largest number by one at most, so that one
is far away (`number_le_length_run`).

A dataset may hold it all the same.  An item that is saved beside it gets no number, and it is the only one that does
not get a larger one than all others of its space (`number_saveItem_exceeds_iff`).
-/
namespace Backlog
namespace Store

open Word (toNat_max toNat_le_maxWord)

variable {s s' : Store} {o : Operation} {item : WorkItem}

/-! ## The largest number -/

theorem toNat_foldl_max_le_iff {n : Nat} :
    ∀ (items : List WorkItem) (start : UInt64),
      (items.foldl (fun largest other => max largest other.number) start).toNat ≤ n ↔
        start.toNat ≤ n ∧ ∀ a ∈ items, a.number.toNat ≤ n
  | [], start => by simp
  | a :: items, start => by
    rw [List.foldl_cons, toNat_foldl_max_le_iff items, toNat_max, Nat.max_le, List.forall_mem_cons, and_assoc]

theorem toNat_largestNumber_le_iff {space except : String} {n : Nat} :
    (s.largestNumber space except).toNat ≤ n ↔
      ∀ a ∈ s.items.entries, a.space = space → a.id ≠ except → a.number.toNat ≤ n := by
  have hzero : (0 : UInt64).toNat ≤ n := Nat.zero_le n
  rw [largestNumber, toNat_foldl_max_le_iff, and_iff_right hzero]
  simp only [List.mem_filter, Bool.and_eq_true, beq_iff_eq, bne_iff_ne, and_imp]

theorem numbered_of_number_eq_zero (h : item.number = 0) :
    s.numbered item = { item with number := s.largestNumber item.space item.id + 1 } :=
  if_pos h

theorem largestNumber_saveItem (s : Store) (item : WorkItem) (space : String) :
    (s.saveItem item).largestNumber space item.id = s.largestNumber space item.id := by
  have hkey : (s.numbered item).id = item.id := by rw [numbered_eq]
  refine congrArg (List.foldl _ 0) (Registry.filter_insertEntry (fun b hb => ?_) s.items.entries)
  have hid : b.id = item.id := Eq.trans hb hkey
  simp [hid]

/-- **An item that is saved again** is stored as it was. -/
theorem saveItem_saveItem (s : Store) (item : WorkItem) : (s.saveItem item).saveItem item = s.saveItem item := by
  have hsame : (s.saveItem item).numbered item = s.numbered item := by
    rw [numbered, numbered, largestNumber_saveItem]
  show { s with items := (s.items.insert (s.numbered item)).insert ((s.saveItem item).numbered item) } = s.saveItem item
  rw [hsame, Registry.insert_insert]
  rfl

/-! ## The number after the largest -/

theorem toNat_next {n : UInt64} (h : n.toNat < Text.maxWord) : (n + 1).toNat = n.toNat + 1 := by
  rw [UInt64.toNat_add, UInt64.toNat_one]
  exact Nat.mod_eq_of_lt (Nat.succ_lt_succ h)

theorem next_eq_zero {n : UInt64} (h : ¬n.toNat < Text.maxWord) : n + 1 = 0 := by
  have hlast : n.toNat = Text.maxWord := Nat.le_antisymm (toNat_le_maxWord n) (Nat.not_lt.1 h)
  refine UInt64.toNat_inj.1 ?_
  rw [UInt64.toNat_add, hlast]
  rfl

/-- Whether a number is positive and larger than those of the other items of a space. -/
def Exceeds (s : Store) (space except : String) (n : UInt64) : Prop :=
  0 < n ∧ ∀ a ∈ s.items.entries, a.space = space → a.id ≠ except → a.number < n

theorem exceeds_iff {space except : String} {n : UInt64} :
    s.Exceeds space except n ↔ (s.largestNumber space except).toNat < n.toNat := by
  have hpred : ∀ {k : Nat}, 0 < n.toNat → (k ≤ n.toNat - 1 ↔ k < n.toNat) := by omega
  unfold Exceeds
  simp only [UInt64.lt_iff_toNat_lt, UInt64.toNat_zero]
  constructor
  · rintro ⟨hpos, hall⟩
    rw [← hpred hpos, toNat_largestNumber_le_iff]
    intro a ha hspace hid
    exact (hpred hpos).2 (hall a ha hspace hid)
  · intro hlt
    have hpos : 0 < n.toNat := Nat.zero_lt_of_lt hlt
    rw [← hpred hpos, toNat_largestNumber_le_iff] at hlt
    exact ⟨hpos, fun a ha hspace hid => (hpred hpos).1 (hlt a ha hspace hid)⟩

theorem toNat_largestNumber_lt_iff {space except : String} :
    (s.largestNumber space except).toNat < Text.maxWord ↔
      ∀ a ∈ s.items.entries, a.space = space → a.id ≠ except → a.number.toNat ≠ Text.maxWord := by
  have hle : ∀ k : Nat, k < Text.maxWord ↔ k ≤ Text.maxWord - 1 := by
    unfold Text.maxWord
    omega
  rw [hle, toNat_largestNumber_le_iff]
  constructor
  · intro h a ha hspace hid
    exact Nat.ne_of_lt ((hle _).2 (h a ha hspace hid))
  · intro h a ha hspace hid
    exact (hle _).1 (Nat.lt_of_le_of_ne (toNat_le_maxWord _) (h a ha hspace hid))

/-! ## One operation -/

/-- Whether every item has a number, which no other item of its space has. -/
structure IsNumbered (items : Registry WorkItem) : Prop where
  pos : ∀ a ∈ items.entries, 1 ≤ a.number.toNat
  inj : ∀ a ∈ items.entries, ∀ b ∈ items.entries, a.space = b.space → a.number = b.number → a = b

/-- Whether there is a number after every one that is in use. -/
def HasNextNumbers (s : Store) : Prop :=
  ∀ a ∈ s.items.entries, a.number.toNat < Text.maxWord

theorem isNumbered_empty : IsNumbered .empty :=
  ⟨fun _ h => (List.not_mem_nil h).elim, fun _ h => (List.not_mem_nil h).elim⟩

theorem IsNumbered.insert {items : Registry WorkItem} (h : IsNumbered items) {a : WorkItem} (hpos : 1 ≤ a.number.toNat)
    (hfree : ∀ b ∈ items.entries, b.id ≠ a.id → b.space = a.space → b.number ≠ a.number) :
    IsNumbered (items.insert a) := by
  constructor
  · intro b hb
    rcases Registry.mem_insert_iff.1 hb with rfl | ⟨hb, -⟩
    · exact hpos
    · exact h.pos b hb
  · intro b hb c hc hspace hnumber
    rcases Registry.mem_insert_iff.1 hb with rfl | ⟨hold, hid⟩ <;>
      rcases Registry.mem_insert_iff.1 hc with rfl | ⟨hold', hid'⟩
    · rfl
    · exact absurd hnumber.symm (hfree c hold' hid' hspace.symm)
    · exact absurd hnumber (hfree b hold hid hspace)
    · exact h.inj b hold c hold' hspace hnumber

/-- **An item that is saved without a number** gets one that no other item of its space has. -/
theorem IsNumbered.saveItem (h : IsNumbered s.items) (hnext : s.HasNextNumbers) (hitem : item.number = 0) :
    IsNumbered (s.saveItem item).items := by
  rw [Store.saveItem, numbered_of_number_eq_zero hitem]
  have hlargest : (s.largestNumber item.space item.id).toNat < Text.maxWord :=
    toNat_largestNumber_lt_iff.2 fun a ha _ _ => Nat.ne_of_lt (hnext a ha)
  have hnumber := toNat_next hlargest
  refine h.insert ?_ fun b hb hid hspace hsame => ?_
  · show 1 ≤ (s.largestNumber item.space item.id + 1).toNat
    omega
  · have hle : b.number.toNat ≤ (s.largestNumber item.space item.id).toNat :=
      toNat_largestNumber_le_iff.1 (Nat.le_refl _) b hb hspace hid
    rw [hsame, hnumber] at hle
    exact absurd hle (Nat.not_succ_le_self _)

theorem IsNumbered.update (h : IsNumbered s.items) {id : String} {change : WorkItemUpdate} {now : Timestamp}
    (hupdate : s.update id change now = .ok s') : IsNumbered s'.items := by
  obtain ⟨item, hload, rfl⟩ := Outcome.map_eq_ok.1 hupdate
  obtain ⟨hitem, -⟩ := load_eq_ok_iff.1 hload
  refine h.insert (h.pos item hitem) fun b hb hid hspace hnumber => hid ?_
  rw [h.inj b hb item hitem hspace hnumber]
  rfl

theorem IsNumbered.apply (h : IsNumbered s.items) (hnext : s.HasNextNumbers)
    (hnew : ∀ item, o = .saveItem item → item.number = 0) (happly : s.apply o = .ok s') : IsNumbered s'.items := by
  cases o with
  | saveItem item =>
    cases happly
    exact h.saveItem hnext (hnew item rfl)
  | update id change now => exact h.update happly
  | saveSpace | saveType | saveGroup | saveIteration | saveLabel | saveLinkType | saveLink =>
    rw [(sameBut_apply happly).items (by simp [Operation.kind])]
    exact h

/-! ## Sequences of operations -/

def numbersIn (s : Store) (space : String) : List UInt64 :=
  (s.items.entries.filter fun a => a.space == space).map WorkItem.number

theorem IsNumbered.nodup_numbersIn (h : IsNumbered s.items) (space : String) : (s.numbersIn space).Nodup := by
  have hitems : (s.items.entries.filter fun a => a.space == space).Nodup :=
    (List.Nodup.of_map _ s.items.nodup_keys).filter _
  refine hitems.map_on fun a ha b hb hnumber => ?_
  obtain ⟨ha, hspace⟩ := List.mem_filter.1 ha
  obtain ⟨hb, hspace'⟩ := List.mem_filter.1 hb
  exact h.inj a ha b hb ((beq_iff_eq.1 hspace).trans (beq_iff_eq.1 hspace').symm) hnumber

/-- **Numbers stay different** as long as there is a next one; the induction goes from state to state, so that there has
to be one in every state on the way. -/
theorem IsNumbered.run (os : List Operation) (s : Store) (h : IsNumbered s.items)
    (hnew : ∀ item, .saveItem item ∈ os → item.number = 0)
    (hnext : ∀ before, before <+: os → (s.run before).HasNextNumbers) : IsNumbered (s.run os).items := by
  induction os generalizing s with
  | nil => exact h
  | cons o os ih =>
    have hstep : IsNumbered (s.step o).1.items := by
      cases happly : s.apply o with
      | error e => exact (step_of_error happly).symm ▸ h
      | ok s' =>
        rw [step_of_ok happly]
        exact h.apply (hnext [] List.nil_prefix) (fun item ho => hnew item (ho ▸ List.mem_cons_self)) happly
    refine ih _ hstep (fun item hitem => hnew item (List.mem_cons_of_mem o hitem)) fun before hbefore => ?_
    exact hnext (o :: before) ((List.prefix_cons_inj o).2 hbefore)

/-- **One operation raises the largest number by one** at most. -/
theorem number_le_of_step {n : Nat} (h : ∀ a ∈ s.items.entries, a.number.toNat ≤ n)
    (hnew : ∀ item, o = .saveItem item → item.number = 0) :
    ∀ a ∈ (s.step o).1.items.entries, a.number.toNat ≤ n + 1 := by
  have hold : ∀ a ∈ s.items.entries, a.number.toNat ≤ n + 1 := fun a ha => Nat.le_succ_of_le (h a ha)
  cases happly : s.apply o with
  | error e => exact (step_of_error happly).symm ▸ hold
  | ok s' =>
    rw [step_of_ok happly]
    cases o with
    | saveItem item =>
      cases happly
      rw [Store.saveItem, numbered_of_number_eq_zero (hnew item rfl)]
      intro a ha
      rcases Registry.mem_insert_iff.1 ha with rfl | ⟨ha, -⟩
      · have hlargest : (s.largestNumber item.space item.id).toNat ≤ n :=
          toNat_largestNumber_le_iff.2 fun b hb _ _ => h b hb
        show (s.largestNumber item.space item.id + 1).toNat ≤ n + 1
        rw [UInt64.toNat_add, UInt64.toNat_one]
        omega
      · exact hold a ha
    | update id change now =>
      obtain ⟨item, hload, rfl⟩ := Outcome.map_eq_ok.1 happly
      intro a ha
      rcases Registry.mem_insert_iff.1 ha with rfl | ⟨ha, -⟩
      · exact hold item (load_eq_ok_iff.1 hload).1
      · exact hold a ha
    | saveSpace | saveType | saveGroup | saveIteration | saveLabel | saveLinkType | saveLink =>
      rw [(sameBut_apply happly).items (by simp [Operation.kind])]
      exact hold

theorem number_le_length_run (os : List Operation) (s : Store) {n : Nat}
    (h : ∀ a ∈ s.items.entries, a.number.toNat ≤ n) (hnew : ∀ item, .saveItem item ∈ os → item.number = 0) :
    ∀ a ∈ (s.run os).items.entries, a.number.toNat ≤ n + os.length := by
  induction os generalizing s n with
  | nil => exact h
  | cons o os ih =>
    have hstep := number_le_of_step h fun item ho => hnew item (ho ▸ List.mem_cons_self)
    rw [run_cons, List.length_cons, Nat.add_comm os.length, ← Nat.add_assoc]
    exact ih _ hstep fun item hitem => hnew item (List.mem_cons_of_mem o hitem)

/-- **There is a next number** in every store that was built by fewer operations than there are numbers. -/
theorem hasNextNumbers_run {os before : List Operation} (hnew : ∀ item, .saveItem item ∈ os → item.number = 0)
    (hfew : os.length < Text.maxWord) (h : before <+: os) : (Store.empty.run before).HasNextNumbers := by
  intro a ha
  have hle := number_le_length_run before .empty (n := 0) (fun _ h => (List.not_mem_nil h).elim)
    (fun item hitem => hnew item (h.subset hitem)) a ha
  have hlength := h.length_le
  omega

/-- **Numbers are unique in a space.**  In a store that is built from nothing by operations, of which every one that
saves an item leaves its number to the store, the numbers of a space are different from each other and from zero, as
long as no number that is stored on the way is the last one.  And saving an item twice is saving it once. -/
theorem numbers_run (os : List Operation) (hnew : ∀ item, .saveItem item ∈ os → item.number = 0)
    (hnext : ∀ before, before <+: os → (Store.empty.run before).HasNextNumbers) :
    (∀ space, ((Store.empty.run os).numbersIn space).Nodup ∧ ∀ n ∈ (Store.empty.run os).numbersIn space, 1 ≤ n) ∧
      ∀ item, Store.empty.run (os ++ [.saveItem item, .saveItem item]) = Store.empty.run (os ++ [.saveItem item]) := by
  have hnumbered : IsNumbered (Store.empty.run os).items := isNumbered_empty.run os _ hnew hnext
  refine ⟨fun space => ⟨hnumbered.nodup_numbersIn space, fun n hn => ?_⟩, fun item => ?_⟩
  · obtain ⟨a, ha, rfl⟩ := List.mem_map.1 hn
    exact UInt64.le_iff_toNat_le.2 (hnumbered.pos a (List.mem_filter.1 ha).1)
  · rw [run, run, List.foldl_append, List.foldl_append]
    exact saveItem_saveItem _ item

/-! ## A recount -/

def midnight : Timestamp :=
  ⟨⟨2024, 3, 1, 0, 0, 0, 0⟩, by decide⟩

/-- Three items in two spaces, of which the first takes its own place and the second goes to the other space; two changes,
of which one is refused; and one item more. -/
def recount : List Operation :=
  [.saveItem (.new "x" midnight "a" "bug" ""), .saveItem (.new "y" midnight "a" "bug" ""),
    .saveItem (.new "z" midnight "b" "bug" ""), .saveItem (.new "x" midnight "a" "bug" "again"),
    .saveItem (.new "y" midnight "b" "bug" "moved"), .update "v" ⟨some "", none, none, none, none, none⟩ midnight,
    .update "x" ⟨some "", none, none, none, none, none⟩ midnight, .saveItem (.new "w" midnight "a" "bug" "")]

theorem numbers_run_recount :
    (∀ item, .saveItem item ∈ recount → item.number = 0) ∧
      (∀ before, before <+: recount → (Store.empty.run before).HasNextNumbers) ∧
      (Store.empty.run recount).numbersIn "a" = [4, 3] ∧ (Store.empty.run recount).numbersIn "b" = [2, 1] ∧
      (∀ space, ((Store.empty.run recount).numbersIn space).Nodup ∧
        ∀ n ∈ (Store.empty.run recount).numbersIn space, 1 ≤ n) ∧
      ∀ item, Store.empty.run (recount ++ [.saveItem item, .saveItem item]) =
        Store.empty.run (recount ++ [.saveItem item]) := by
  have hnew : ∀ item, .saveItem item ∈ recount → item.number = 0 := by
    intro item hitem
    simp only [recount, List.mem_cons, Operation.saveItem.injEq, reduceCtorEq, List.not_mem_nil, or_false,
      false_or] at hitem
    rcases hitem with rfl | rfl | rfl | rfl | rfl | rfl <;> rfl
  have hnext : ∀ before, before <+: recount → (Store.empty.run before).HasNextNumbers := fun before =>
    hasNextNumbers_run hnew (by decide)
  exact ⟨hnew, hnext, by decide +kernel, by decide +kernel, numbers_run recount hnew hnext⟩

/-! ## The last number -/

/-- **The number that an item gets** when it is saved without one is positive and larger than those of the other items of
its space, and the least such number, unless one of them has the last number that there is.  In that case no number is
larger than theirs, and the item is stored without a number again. -/
theorem number_saveItem_exceeds_iff (s : Store) {item : WorkItem} (h : item.number = 0) :
    ∃ n, (s.saveItem item).load item.id = .ok { item with number := n } ∧
      ((s.saveItem item).Exceeds item.space item.id n ↔ ∀ a ∈ s.items.entries, a.space = item.space → a.id ≠ item.id →
        a.number.toNat ≠ Text.maxWord) ∧
      (∀ m, (s.saveItem item).Exceeds item.space item.id m → n ≤ m) ∧
      (¬(s.saveItem item).Exceeds item.space item.id n →
        n = 0 ∧ ∀ m, ¬(s.saveItem item).Exceeds item.space item.id m) := by
  let largest := s.largestNumber item.space item.id
  have hexceeds : ∀ m, (s.saveItem item).Exceeds item.space item.id m ↔ largest.toNat < m.toNat := by
    intro m
    rw [exceeds_iff, largestNumber_saveItem]
  have hsuccessor : largest.toNat < (largest + 1).toNat ↔ largest.toNat < Text.maxWord := by
    by_cases hlargest : largest.toNat < Text.maxWord
    · simp [toNat_next hlargest, hlargest]
    · simp [next_eq_zero hlargest, hlargest]
  refine ⟨largest + 1, ?_, ?_, fun m hm => ?_, fun hnot => ?_⟩
  · rw [load_saveItem, numbered_of_number_eq_zero h]
  · rw [hexceeds, hsuccessor, toNat_largestNumber_lt_iff]
  · -- a number above the largest leaves room for the next one, so the next one did not wrap around
    have hlt := (hexceeds m).1 hm
    have hnext := toNat_next (Nat.lt_of_lt_of_le hlt (toNat_le_maxWord m))
    rw [UInt64.le_iff_toNat_le, hnext]
    exact hlt
  · rw [hexceeds, hsuccessor] at hnot
    refine ⟨next_eq_zero hnot, fun m hm => hnot ?_⟩
    exact Nat.lt_of_lt_of_le ((hexceeds m).1 hm) (toNat_le_maxWord m)

def exhausted : Store :=
  .ofDataset ⟨[], [], [], [], [], [], [],
    [{ WorkItem.new "x" midnight "a" "bug" "" with number := 18446744073709551615 },
      { WorkItem.new "w" midnight "b" "bug" "" with number := 41 }]⟩

def latecomer (space : String) : WorkItem :=
  .new "y" midnight space "bug" ""

theorem number_saveItem_exceeds_iff_latecomer :
    (latecomer "b").number = 0 ∧ (exhausted.saveItem (latecomer "b")).load "y" =
      .ok { latecomer "b" with number := 42 } ∧ (exhausted.saveItem (latecomer "b")).Exceeds "b" "y" 42 := by
  have hload : (exhausted.saveItem (latecomer "b")).load "y" = .ok { latecomer "b" with number := 42 } := by
    decide +kernel
  obtain ⟨n, hn, hexceeds, -⟩ := @number_saveItem_exceeds_iff exhausted (latecomer "b") rfl
  have hsame : n = 42 := congrArg WorkItem.number (Except.ok.inj (hn.symm.trans hload))
  subst hsame
  exact ⟨rfl, hload, hexceeds.2 (by decide +kernel)⟩

/-- **After the last number there is none**: the next item of the space is stored with the number zero. -/
theorem not_exceeds_exhausted :
    (latecomer "a").number = 0 ∧ (exhausted.saveItem (latecomer "a")).load "y" = .ok (latecomer "a") ∧
      ¬(exhausted.saveItem (latecomer "a")).Exceeds "a" "y" (latecomer "a").number :=
  ⟨rfl, by decide +kernel, fun h => absurd h.1 (by decide)⟩

end Store
end Backlog
