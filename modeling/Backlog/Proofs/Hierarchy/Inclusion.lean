import Backlog.Proofs.Hierarchy.Trail
/-!
# Inclusion — which ancestors come with a page, and in which order

The ancestors of the items of a page are listed one chain after the other, each from its top downwards, and those that
are on the page or listed already are left out.  What is listed at any moment is closed and in order: every ancestor of
a listed item is on the page or stands before it (`IsListing`).  One item more keeps this so (`IsListing.concat`), hence
a chain does, and hence the whole page.
-/
namespace Backlog
namespace Hierarchy

abbrev ids (items : List WorkItem) : List String :=
  items.map WorkItem.id

/-- What ancestors look like that are listed beside a page: none twice, none from the page, each one below its own
ancestors, as it is stored but for its parent, and with the parent that the store answers. -/
structure IsListing (s : Store) (onPage : String → Bool) (listed : List WorkItem) : Prop where
  nodup : (ids listed).Nodup
  offPage : ∀ a ∈ listed, onPage a.id = false
  below : ∀ before a after, listed = before ++ a :: after →
    ∀ x, IsAncestor s a.id x → onPage x = false → x ∈ ids before
  stored : ∀ a ∈ listed, ∃ item, s.load a.id = .ok item ∧ a = { item with parent := a.parent }
  parent : ∀ a ∈ listed, s.parentOf? a.id = .ok a.parent

section

variable {s : Store} {onPage : String → Bool} {listed : List WorkItem}

theorem isListing_nil : IsListing s onPage [] where
  nodup := .nil
  offPage _ h := (List.not_mem_nil h).elim
  below before _ _ h := absurd h.symm (by simp)
  stored _ h := (List.not_mem_nil h).elim
  parent _ h := (List.not_mem_nil h).elim

theorem IsListing.exists_load (h : IsListing s onPage listed) {id : String} (hid : id ∈ ids listed) :
    ∃ item, s.load id = .ok item := by
  obtain ⟨a, ha, rfl⟩ := List.mem_map.1 hid
  obtain ⟨item, hload, -⟩ := h.stored a ha
  exact ⟨item, hload⟩

theorem id_of_load {id : String} {item : WorkItem} (h : s.load id = .ok item) : item.id = id :=
  (Store.load_eq_ok_iff.1 h).2

/-- **One item more.**  A listing goes on with an item that is neither listed nor on the page and whose ancestors
are. -/
theorem IsListing.concat (h : IsListing s onPage listed) {id : String} {item : WorkItem} {parent : Option String}
    (hpage : onPage id = false) (hfresh : id ∉ ids listed)
    (habove : ∀ x, IsAncestor s id x → onPage x = false → x ∈ ids listed) (hload : s.load id = .ok item)
    (hparent : s.parentOf? id = .ok parent) : IsListing s onPage (listed ++ [{ item with parent := parent }]) := by
  have hid : item.id = id := id_of_load hload
  have hmem : ∀ {p : WorkItem → Prop}, (∀ a ∈ listed, p a) → p { item with parent := parent } →
      ∀ a ∈ listed ++ [{ item with parent := parent }], p a := fun hl hn a ha => by
    rcases List.mem_append.1 ha with ha | ha
    · exact hl a ha
    · exact List.mem_singleton.1 ha ▸ hn
  refine ⟨?_, hmem h.offPage (hid ▸ hpage), ?_, hmem h.stored ⟨item, hid ▸ hload, rfl⟩, hmem h.parent (hid ▸ hparent)⟩
  · rw [ids, List.map_append, List.nodup_append]
    refine ⟨h.nodup, by simp, fun a ha b hb he => hfresh ?_⟩
    rw [← hid, ← List.mem_singleton.1 hb, ← he]
    exact ha
  · intro before a after hsplit x hx hoff
    rcases List.eq_nil_or_concat after with rfl | ⟨after, b, rfl⟩
    · obtain ⟨rfl, ha⟩ := List.append_inj' hsplit rfl
      cases ha
      exact habove x (hid ▸ hx) hoff
    · rw [List.concat_eq_append, ← List.cons_append, ← List.append_assoc] at hsplit
      exact h.below before a after (List.append_inj' hsplit rfl).1 x hx hoff

/-- **A chain more.**  What is listed of a chain is what is neither on the page nor listed before. -/
theorem IsListing.append {listed more : List WorkItem} {id : String} {chain : List String}
    (h : IsListing s onPage listed) (hchain : ParentChain s id chain) (hnodup : chain.Nodup)
    (hmore : ancestorsToList s (fun id => onPage id || listed.any (·.id == id)) chain = .ok more) :
    IsListing s onPage (listed ++ more) ∧
      ∀ x, x ∈ ids (listed ++ more) ↔ x ∈ ids listed ∨ x ∈ chain ∧ onPage x = false := by
  induction hchain generalizing more with
  | top _ =>
    cases hmore
    simpa using h
  | @up _ parent above hp hchain ih =>
    obtain ⟨hparent, hnodup⟩ := List.nodup_cons.1 hnodup
    rw [ancestorsToList] at hmore
    obtain ⟨above', habove, hmore⟩ := Outcome.bind_eq_ok.1 hmore
    obtain ⟨hlisting, hmem⟩ := ih hnodup habove
    -- what stands above `parent` is listed by now, so only `parent` itself is left to place
    split at hmore
    · next hskip =>
      cases hmore
      refine ⟨hlisting, fun x => ?_⟩
      rw [hmem, List.mem_cons]
      refine ⟨fun hx => hx.imp_right fun hx => ⟨.inr hx.1, hx.2⟩, ?_⟩
      rintro (hx | ⟨rfl | hx, hoff⟩)
      · exact .inl hx
      · rw [hoff, Bool.false_or, List.any_eq_true] at hskip
        obtain ⟨a, ha, he⟩ := hskip
        exact .inl (List.mem_map.2 ⟨a, ha, beq_iff_eq.1 he⟩)
      · exact .inr ⟨hx, hoff⟩
    · next hskip =>
      rw [Bool.or_eq_true, not_or, Bool.not_eq_true, List.any_eq_true] at hskip
      obtain ⟨hoff, hunlisted⟩ := hskip
      have hunlisted : parent ∉ ids listed := fun h => by
        obtain ⟨a, ha, rfl⟩ := List.mem_map.1 h
        exact hunlisted ⟨a, ha, beq_self_eq_true a.id⟩
      split at hmore
      · next item hload =>
        cases hmore
        have hfresh : parent ∉ ids (listed ++ above') := fun h =>
          ((hmem parent).1 h).elim hunlisted fun h => hparent h.1
        have hnext := hlisting.concat hoff hfresh
          (fun x hx hoff => (hmem x).2 (.inr ⟨(hchain.mem_iff x).2 hx, hoff⟩)) hload hchain.parentOf?_eq
        rw [List.append_assoc] at hnext
        refine ⟨hnext, fun x => ?_⟩
        rw [← List.append_assoc, ids, List.map_append, List.mem_append, hmem, List.map_singleton, List.mem_singleton,
          List.mem_cons, id_of_load hload]
        constructor
        · rintro ((hx | ⟨hx, hoff⟩) | rfl)
          · exact .inl hx
          · exact .inr ⟨.inr hx, hoff⟩
          · exact .inr ⟨.inl rfl, hoff⟩
        · rintro (hx | ⟨rfl | hx, hoff⟩)
          · exact .inl (.inl hx)
          · exact .inr rfl
          · exact .inl (.inr ⟨hx, hoff⟩)
      · cases hmore

/-- **A page more.**  The items come back with the parents that the store answers, and their ancestors are listed. -/
theorem IsListing.listAncestors {levels : Nat} {listed : List WorkItem} (h : IsListing s onPage listed) :
    ∀ {items out all : List WorkItem}, listAncestors s levels onPage listed items = .ok (out, all) →
      IsListing s onPage all ∧ withoutParents out = withoutParents items ∧
        (∀ a ∈ out, s.parentOf? a.id = .ok a.parent) ∧
        ∀ x, x ∈ ids all ↔ x ∈ ids listed ∨ (∃ item ∈ items, IsAncestor s item.id x) ∧ onPage x = false
  | [], out, all, hrun => by
    cases hrun
    exact ⟨h, rfl, fun _ h => (List.not_mem_nil h).elim, by simp⟩
  | item :: items, out, all, hrun => by
    rw [Hierarchy.listAncestors] at hrun
    obtain ⟨chain, hchain, hrun⟩ := Outcome.bind_eq_ok.1 hrun
    obtain ⟨more, hmore, hrun⟩ := Outcome.bind_eq_ok.1 hrun
    obtain ⟨⟨rest, all'⟩, hrest, hrun⟩ := Outcome.bind_eq_ok.1 hrun
    cases hrun
    obtain ⟨hchain, -⟩ := ancestors_eq_ok_iff.1 hchain
    obtain ⟨hlisting, hmem⟩ := h.append hchain (List.nodup_cons.1 hchain.nodup).2 hmore
    obtain ⟨hall, hitems, hparents, hmem'⟩ := hlisting.listAncestors hrest
    refine ⟨hall, ?_, ?_, fun x => ?_⟩
    · rw [withoutParents, List.map_cons]
      exact congrArg (_ :: ·) hitems
    · rw [List.forall_mem_cons]
      exact ⟨hchain.parentOf?_eq, hparents⟩
    · rw [hmem', hmem, hchain.mem_iff, or_assoc, ← or_and_right]
      simp only [List.mem_cons, exists_eq_or_imp]

/-! ## Success -/

theorem exists_ancestorsToList_iff {skip : String → Bool} :
    ∀ {chain : List String}, (∃ more, ancestorsToList s skip chain = .ok more) ↔
      ∀ x ∈ chain, skip x = false → ∃ item, s.load x = .ok item
  | [] => by simp [ancestorsToList]
  | id :: above => by
    rw [ancestorsToList, List.forall_mem_cons, ← exists_ancestorsToList_iff]
    constructor
    · rintro ⟨more, h⟩
      obtain ⟨listed, hlisted, h⟩ := Outcome.bind_eq_ok.1 h
      refine ⟨fun hskip => ?_, listed, hlisted⟩
      rw [hskip, if_neg Bool.false_ne_true] at h
      split at h
      · next item hload => exact ⟨item, hload⟩
      · cases h
    · rintro ⟨hload, listed, hlisted⟩
      cases hskip : skip id with
      | true => exact ⟨listed, Outcome.bind_eq_ok.2 ⟨listed, hlisted, rfl⟩⟩
      | false =>
        obtain ⟨item, hload⟩ := hload hskip
        refine ⟨listed ++ [{ item with parent := above.head? }], Outcome.bind_eq_ok.2 ⟨listed, hlisted, ?_⟩⟩
        rw [if_neg Bool.false_ne_true, hload]
        rfl

/-- **A page can be shown** exactly when the walk from every item reaches the top and every ancestor that is not on the
page is stored. -/
theorem exists_listAncestors_iff {levels : Nat} :
    ∀ {items listed : List WorkItem}, IsListing s onPage listed →
      ((∃ result, listAncestors s levels onPage listed items = .ok result) ↔
        ∀ item ∈ items, ∃ chain, ancestors s levels item.id = .ok chain ∧
          ∀ x ∈ chain, onPage x = false → ∃ stored, s.load x = .ok stored)
  | [], listed, _ => ⟨fun _ _ h => (List.not_mem_nil h).elim, fun _ => ⟨_, rfl⟩⟩
  | item :: items, listed, h => by
    rw [listAncestors, List.forall_mem_cons]
    constructor
    · rintro ⟨result, hrun⟩
      obtain ⟨chain, hchain, hrun⟩ := Outcome.bind_eq_ok.1 hrun
      obtain ⟨more, hmore, hrun⟩ := Outcome.bind_eq_ok.1 hrun
      obtain ⟨rest, hrest, hrun⟩ := Outcome.bind_eq_ok.1 hrun
      obtain ⟨hparents, -⟩ := ancestors_eq_ok_iff.1 hchain
      obtain ⟨hlisting, hmem⟩ := h.append hparents (List.nodup_cons.1 hparents.nodup).2 hmore
      refine ⟨⟨chain, hchain, fun x hx hoff => ?_⟩, (exists_listAncestors_iff hlisting).1 ⟨rest, hrest⟩⟩
      exact hlisting.exists_load ((hmem x).2 (.inr ⟨hx, hoff⟩))
    · rintro ⟨⟨chain, hchain, hload⟩, hitems⟩
      obtain ⟨hparents, -⟩ := ancestors_eq_ok_iff.1 hchain
      obtain ⟨more, hmore⟩ := exists_ancestorsToList_iff.2 fun x hx hskip =>
        hload x hx (Bool.or_eq_false_iff.1 hskip).1
      have hlisting := (h.append hparents (List.nodup_cons.1 hparents.nodup).2 hmore).1
      obtain ⟨rest, hrest⟩ := (exists_listAncestors_iff hlisting).2 hitems
      refine ⟨({ item with parent := chain.head? } :: rest.1, rest.2), ?_⟩
      exact Outcome.bind_eq_ok.2 ⟨chain, hchain, Outcome.bind_eq_ok.2 ⟨more, hmore,
        Outcome.bind_eq_ok.2 ⟨rest, hrest, rfl⟩⟩⟩

/-! ## Failure -/

theorem of_ancestorsToList_eq_error {skip : String → Bool} {fault : InternalFault} :
    ∀ {chain : List String}, ancestorsToList s skip chain = .error fault →
      ∃ x ∈ chain, skip x = false ∧ ∃ e, s.load x = .error e ∧ fault = .store e
  | [], h => by cases h
  | id :: above, h => by
    rw [ancestorsToList] at h
    rcases Outcome.bind_eq_error.1 h with h | ⟨listed, -, h⟩
    · obtain ⟨x, hx, hfault⟩ := of_ancestorsToList_eq_error h
      exact ⟨x, List.mem_cons_of_mem _ hx, hfault⟩
    · split at h
      · cases h
      · next hskip =>
        split at h
        · cases h
        · next e he =>
          cases h
          exact ⟨id, List.mem_cons_self, Bool.not_eq_true _ ▸ hskip, e, he, rfl⟩

/-- **A page that cannot be shown** fails with the failure of the walk from one of its items, or with that of loading an
ancestor that is not on the page. -/
theorem of_listAncestors_eq_error {levels : Nat} {fault : InternalFault} :
    ∀ {items listed : List WorkItem}, listAncestors s levels onPage listed items = .error fault →
      ∃ item ∈ items, ancestors s levels item.id = .error fault ∨
        ∃ chain, ancestors s levels item.id = .ok chain ∧
          ∃ x ∈ chain, onPage x = false ∧ ∃ e, s.load x = .error e ∧ fault = .store e
  | [], _, h => by cases h
  | item :: items, listed, h => by
    rw [listAncestors] at h
    rcases Outcome.bind_eq_error.1 h with h | ⟨chain, hchain, h⟩
    · exact ⟨item, List.mem_cons_self, .inl h⟩
    rcases Outcome.bind_eq_error.1 h with h | ⟨more, -, h⟩
    · obtain ⟨x, hx, hskip, hload⟩ := of_ancestorsToList_eq_error h
      exact ⟨item, List.mem_cons_self, .inr ⟨chain, hchain, x, hx, (Bool.or_eq_false_iff.1 hskip).1, hload⟩⟩
    rcases Outcome.bind_eq_error.1 h with h | ⟨rest, -, h⟩
    · obtain ⟨item', hitem, hfault⟩ := of_listAncestors_eq_error h
      exact ⟨item', List.mem_cons_of_mem _ hitem, hfault⟩
    · cases h

end

/-! ## The view of a page -/

/-- What a page with its ancestors looks like: the items `shown` of the page and the ancestors `included` beside
them. -/
structure IsTreeView (s : Store) (items shown included : List WorkItem) : Prop where
  /-- No ancestor is included twice. -/
  nodup : (ids included).Nodup
  /-- Included are the ancestors of the items of the page that are not on the page themselves. -/
  mem_iff : ∀ x, x ∈ ids included ↔ (∃ item ∈ items, IsAncestor s item.id x) ∧ x ∉ ids items
  /-- Every ancestor of an included item that is not on the page stands before it. -/
  below : ∀ before a after, included = before ++ a :: after → ∀ x, IsAncestor s a.id x → x ∉ ids items → x ∈ ids before
  /-- Every item carries the parent that the store answers. -/
  parent : ∀ a ∈ shown ++ included, s.parentOf? a.id = .ok a.parent
  /-- Every parent is there. -/
  closed : ∀ a ∈ shown ++ included, ∀ p ∈ a.parent, p ∈ ids (shown ++ included)
  /-- The items of the page are unchanged but for their parents. -/
  shown_eq : withoutParents shown = withoutParents items
  /-- The ancestors are as they are stored but for their parents. -/
  stored : ∀ a ∈ included, ∃ item, s.load a.id = .ok item ∧ a = { item with parent := a.parent }

variable {s : Store} {items : List WorkItem}

theorem isOnPage_eq_false_iff {x : String} : (items.any fun item => item.id == x) = false ↔ x ∉ ids items := by
  simp

theorem ids_withoutParents (items : List WorkItem) : ids (withoutParents items) = ids items := by
  simp [withoutParents]

/-- **A page can be shown** exactly when the walk from every item reaches the top and every ancestor that is not on the
page is stored. -/
theorem exists_withAncestors_iff {levels : Nat} :
    (∃ result, withAncestors s levels items = .ok result) ↔
      ∀ item ∈ items, ∃ chain, ancestors s levels item.id = .ok chain ∧
        ∀ x ∈ chain, x ∉ ids items → ∃ stored, s.load x = .ok stored := by
  rw [withAncestors, exists_listAncestors_iff isListing_nil]
  simp only [isOnPage_eq_false_iff]

/-- Why a page cannot be shown: the walk from one of its items fails, or an ancestor that is not on the page cannot be
loaded. -/
def IsObstacle (s : Store) (levels : Nat) (items : List WorkItem) (fault : InternalFault) : Prop :=
  ∃ item ∈ items, ancestors s levels item.id = .error fault ∨
    ∃ chain, ancestors s levels item.id = .ok chain ∧
      ∃ x ∈ chain, x ∉ ids items ∧ ∃ e, s.load x = .error e ∧ fault = .store e

theorem isObstacle_of_withAncestors {levels : Nat} {fault : InternalFault}
    (h : withAncestors s levels items = .error fault) : IsObstacle s levels items fault := by
  obtain ⟨item, hitem, hfault⟩ := of_listAncestors_eq_error h
  simp only [isOnPage_eq_false_iff] at hfault
  exact ⟨item, hitem, hfault⟩

theorem IsObstacle.exists_withAncestors {levels : Nat} {fault : InternalFault} (h : IsObstacle s levels items fault) :
    ∃ fault', withAncestors s levels items = .error fault' := by
  cases hrun : withAncestors s levels items with
  | error fault' => exact ⟨fault', rfl⟩
  | ok result =>
    obtain ⟨item, hitem, hfault⟩ := h
    obtain ⟨chain, hchain, hload⟩ := exists_withAncestors_iff.1 ⟨result, hrun⟩ item hitem
    rcases hfault with hwalk | ⟨chain', hchain', x, hx, hoff, e, he, -⟩
    · cases hchain.symm.trans hwalk
    · cases hchain.symm.trans hchain'
      obtain ⟨stored, hstored⟩ := hload x hx hoff
      cases hstored.symm.trans he

/-- **The ancestors that come with a page.**  Where a page can be shown, it is shown with exactly the ancestors of its
items that are not on it, in order and closed; and it can be shown exactly when the walk from every item reaches the top
and every ancestor that is not on the page is stored, so that a page is never shown with some of its ancestors only. -/
theorem withAncestors_spec (s : Store) (levels : Nat) (items : List WorkItem) :
    (∀ shown included, withAncestors s levels items = .ok (shown, included) → IsTreeView s items shown included) ∧
      ((∃ result, withAncestors s levels items = .ok result) ↔
        ∀ item ∈ items, ∃ chain, ancestors s levels item.id = .ok chain ∧
          ∀ x ∈ chain, x ∉ ids items → ∃ stored, s.load x = .ok stored) := by
  refine ⟨fun shown included h => ?_, exists_withAncestors_iff⟩
  · obtain ⟨hlisting, hshown, hparents, hmem⟩ := isListing_nil.listAncestors h
    have hmem : ∀ x, x ∈ ids included ↔ (∃ item ∈ items, IsAncestor s item.id x) ∧ x ∉ ids items := fun x => by
      rw [hmem, isOnPage_eq_false_iff]
      simp
    have hids : ids shown = ids items := by rw [← ids_withoutParents, hshown, ids_withoutParents]
    have hparent : ∀ a ∈ shown ++ included, s.parentOf? a.id = .ok a.parent := fun a ha =>
      (List.mem_append.1 ha).elim (hparents a) (hlisting.parent a)
    refine ⟨hlisting.nodup, hmem, fun before a after hsplit x hx hoff => ?_, hparent, fun a ha p hp => ?_, hshown,
      hlisting.stored⟩
    · exact hlisting.below before a after hsplit x hx (isOnPage_eq_false_iff.2 hoff)
    · have hstep : IsParent s a.id p := (hparent a ha).trans (congrArg _ hp)
      have hancestor : ∃ item ∈ items, IsAncestor s item.id p := by
        rcases List.mem_append.1 ha with ha | ha
        · have hid : a.id ∈ ids items := hids ▸ (List.mem_map_of_mem ha : a.id ∈ ids shown)
          obtain ⟨item, hitem, he⟩ := List.mem_map.1 hid
          exact ⟨item, hitem, .single (he ▸ hstep)⟩
        · obtain ⟨⟨item, hitem, hx⟩, -⟩ := (hmem a.id).1 (List.mem_map_of_mem ha)
          exact ⟨item, hitem, .tail hx hstep⟩
      have happend : ids (shown ++ included) = ids items ++ ids included := by
        rw [← hids]
        exact List.map_append
      rw [happend, List.mem_append]
      by_cases hpage : p ∈ ids items
      · exact .inl hpage
      · exact .inr ((hmem p).2 ⟨hancestor, hpage⟩)

/-! ## A page in the middle of a tree -/

def newYear : Timestamp :=
  ⟨⟨2024, 1, 1, 0, 0, 0, 0⟩, by decide⟩

/-- A tree: under `root` there is `area`, under `area` there are `story` and `spike`, and under `story` there is `task`,
which is stored with a parent that is not its own. -/
def tree : Store :=
  .ofDataset ⟨[], [], [], [], [], [.parenting "up"],
    [⟨"1", "root", "area", "up"⟩, ⟨"2", "area", "story", "up"⟩, ⟨"3", "area", "spike", "up"⟩,
      ⟨"4", "story", "task", "up"⟩],
    [.new "root" newYear "s" "t" "", .new "area" newYear "s" "t" "", .new "story" newYear "s" "t" "",
      .new "spike" newYear "s" "t" "", { WorkItem.new "task" newYear "s" "t" "" with parent := some "spike" }]⟩

def page : List WorkItem :=
  [{ WorkItem.new "task" newYear "s" "t" "" with parent := some "spike" }, .new "story" newYear "s" "t" "",
    .new "spike" newYear "s" "t" "", { WorkItem.new "task" newYear "s" "t" "" with parent := some "spike" }]

theorem withAncestors_spec_page :
    ∃ shown included, withAncestors tree 3 page = .ok (shown, included) ∧ IsTreeView tree page shown included ∧
      ids included = ["root", "area"] ∧ ids page = ["task", "story", "spike", "task"] :=
  ⟨_, _, rfl, (withAncestors_spec tree 3 page).1 _ _ rfl, rfl, rfl⟩

end Hierarchy
end Backlog
