import Backlog.Proofs.Store.History
import Backlog.Proofs.Store.Order
/-!
# Replay — what a store remembers of a work item

What is stored under an identifier is what the saves and the accepted changes of that identifier leave when they are
replayed, without the store and without everything else that happened to it (`get?_run`).  That is an item of which each
field is what was given of it last, by a save, which gives all fields, or by a change, which gives those that it sets
and the moment at which it happens (`ItemEvent.replay_eq_some_iff`).

One operation adds at most one event to the history of one item (`get?_step`); it leaves the other items and the other
kinds of entries alone (`load_step_of_item?_ne`, `sameBut_step`), and the store as a whole if it is refused, of which
there are four cases (`Refuses`).  So a store is a map from identifiers to items (`refinesMap_run`).
-/
namespace Backlog

/-! ## Events -/

/-- What can happen to a work item: it is saved and given a number, or it is changed at the moment `now`. -/
inductive ItemEvent
  | saved (item : WorkItem) (number : UInt64)
  | changed (change : WorkItemUpdate) (now : Timestamp)

namespace ItemEvent

/-- What there is of an item after an event.  A save takes the place of what was there; a change needs something that it
can change. -/
def after (before : Option WorkItem) : ItemEvent → Option WorkItem
  | saved item number => some { item with number }
  | changed change now => before.map (change.applyTo now)

/-- What there is of an item after a sequence of events, when there was nothing before. -/
def replay (events : List ItemEvent) : Option WorkItem :=
  events.foldl after none

theorem replay_append (events later : List ItemEvent) :
    replay (events ++ later) = later.foldl after (replay events) :=
  List.foldl_append

def savedAsIs (item : WorkItem) : ItemEvent :=
  saved item item.number

theorem replay_savedAsIs (items : List WorkItem) : replay (items.map savedAsIs) = items.getLast? := by
  have hfrom : ∀ (items : List WorkItem) (before : Option WorkItem),
      (items.map savedAsIs).foldl after before = items.getLast?.or before := by
    intro items
    induction items with
    | nil => exact fun _ => rfl
    | cons item items ih =>
      intro before
      rw [List.map_cons, List.foldl_cons, ih, List.getLast?_cons]
      cases items.getLast? <;> rfl
  rw [replay, hfrom, Option.or_none]

theorem isSome_foldl_after (events : List ItemEvent) (before : Option WorkItem) :
    (events.foldl after before).isSome = true ↔ before.isSome = true ∨ ∃ item number, .saved item number ∈ events := by
  induction events generalizing before with
  | nil => simp
  | cons event events ih =>
    rw [List.foldl_cons, ih]
    cases event with
    | saved item number => exact ⟨fun _ => .inr ⟨item, number, List.mem_cons_self⟩, fun _ => .inl rfl⟩
    | changed change now => simp [after]

/-! ### The fields of what is left -/

/-- What an event gives of a field.  A save gives every field, the number among them as it was assigned. -/
def gives {α : Type} (field : WorkItem → α) (sets : WorkItemUpdate → Timestamp → Option α) : ItemEvent → Option α
  | saved item number => some (field { item with number })
  | changed change now => sets change now

/-- Whether a field of an item is what some events gave last, when changes set it as told. -/
def GaveLast {α : Type} (events : List ItemEvent) (item : WorkItem) (field : WorkItem → α)
    (sets : WorkItemUpdate → Timestamp → Option α) : Prop :=
  (events.filterMap (gives field sets)).getLast? = some (field item)

/-- Whether an item is what some events leave.  A change sets six fields if it names them, and when the item was changed
in any case. -/
structure IsLeftBy (events : List ItemEvent) (item : WorkItem) : Prop where
  id : GaveLast events item WorkItem.id fun _ _ => none
  number : GaveLast events item WorkItem.number fun _ _ => none
  space : GaveLast events item WorkItem.space fun _ _ => none
  type : GaveLast events item WorkItem.type fun _ _ => none
  title : GaveLast events item WorkItem.title fun change _ => change.title
  description : GaveLast events item WorkItem.description fun change _ => change.description.map some
  state : GaveLast events item WorkItem.state fun change _ => change.state
  iteration : GaveLast events item WorkItem.iteration fun change _ => change.iteration.map some
  creator : GaveLast events item WorkItem.creator fun _ _ => none
  assignees : GaveLast events item WorkItem.assignees fun change _ => change.assignees.map some
  labels : GaveLast events item WorkItem.labels fun change _ => change.labels.map some
  createdAt : GaveLast events item WorkItem.createdAt fun _ _ => none
  updatedAt : GaveLast events item WorkItem.updatedAt fun _ now => some now
  parent : GaveLast events item WorkItem.parent fun _ _ => none

section

variable {α : Type} {field : WorkItem → α} {sets : WorkItemUpdate → Timestamp → Option α} {events : List ItemEvent}
  {item : WorkItem}

theorem getLast?_gives_cons (event : ItemEvent) (events : List ItemEvent) :
    ((event :: events).filterMap (gives field sets)).getLast? =
      (events.filterMap (gives field sets)).getLast?.or (gives field sets event) := by
  rw [List.filterMap_cons]
  cases gives field sets event with
  | none => exact (Option.or_none).symm
  | some given =>
    rw [List.getLast?_cons]
    cases (events.filterMap (gives field sets)).getLast? <;> rfl

variable (hsets : ∀ change now item, field (change.applyTo now item) = (sets change now).getD (field item))
include hsets

theorem gives_or_of_after {event : ItemEvent} {before : Option WorkItem} (h : after before event = some item) :
    (gives field sets event).or (before.map field) = some (field item) := by
  cases event with
  | saved saved number =>
    cases h
    rfl
  | changed change now =>
    obtain ⟨original, rfl, rfl⟩ := Option.map_eq_some_iff.1 h
    rw [hsets, gives]
    cases sets change now <;> rfl

theorem getLast?_gives_or_of_foldl :
    ∀ {events : List ItemEvent} {before : Option WorkItem}, events.foldl after before = some item →
      (events.filterMap (gives field sets)).getLast?.or (before.map field) = some (field item)
  | [], _, h => by
    cases h
    rfl
  | event :: events, before, h => by
    have hrest : events.foldl after (after before event) = some item := h
    have ih := getLast?_gives_or_of_foldl hrest
    rw [getLast?_gives_cons, Option.or_assoc]
    cases hlater : (events.filterMap (gives field sets)).getLast? with
    | some later => rwa [hlater] at ih
    | none =>
      rw [hlater] at ih
      obtain ⟨between, hbetween, hfield⟩ := Option.map_eq_some_iff.1 ih
      rw [← hfield]
      exact gives_or_of_after hsets hbetween

theorem gaveLast_of_replay (h : replay events = some item) : GaveLast events item field sets := by
  have hlast := getLast?_gives_or_of_foldl hsets h
  rwa [Option.map_none, Option.or_none] at hlast

omit hsets

theorem GaveLast.eq {a b : WorkItem} (ha : GaveLast events a field sets) (hb : GaveLast events b field sets) :
    field a = field b :=
  Option.some.inj (ha.symm.trans hb)

theorem IsLeftBy.eq {a b : WorkItem} (ha : IsLeftBy events a) (hb : IsLeftBy events b) : a = b := by
  cases a
  cases b
  rw [WorkItem.mk.injEq]
  exact ⟨ha.id.eq hb.id, ha.number.eq hb.number, ha.space.eq hb.space, ha.type.eq hb.type, ha.title.eq hb.title,
    ha.description.eq hb.description, ha.state.eq hb.state, ha.iteration.eq hb.iteration, ha.creator.eq hb.creator,
    ha.assignees.eq hb.assignees, ha.labels.eq hb.labels, ha.createdAt.eq hb.createdAt, ha.updatedAt.eq hb.updatedAt,
    ha.parent.eq hb.parent⟩

theorem isLeftBy_of_replay (h : replay events = some item) : IsLeftBy events item := by
  have hset : ∀ {β : Type} (given before : Option β), (given <|> before) = (given.map some).getD before := by
    intro β given before
    cases given <;> rfl
  constructor
  case description => exact gaveLast_of_replay (fun _ _ _ => hset _ _) h
  case iteration => exact gaveLast_of_replay (fun _ _ _ => hset _ _) h
  case assignees => exact gaveLast_of_replay (fun _ _ _ => hset _ _) h
  case labels => exact gaveLast_of_replay (fun _ _ _ => hset _ _) h
  all_goals exact gaveLast_of_replay (fun _ _ _ => rfl) h

theorem IsLeftBy.exists_saved (h : IsLeftBy events item) : ∃ saved number, .saved saved number ∈ events := by
  obtain ⟨event, hevent, hgives⟩ := List.mem_filterMap.1 (List.mem_of_getLast? h.id)
  cases event with
  | saved saved number => exact ⟨saved, number, hevent⟩
  | changed change now => cases hgives

/-- **What events leave** is the item of which they gave each field last. -/
theorem replay_eq_some_iff : replay events = some item ↔ IsLeftBy events item := by
  refine ⟨isLeftBy_of_replay, fun h => ?_⟩
  obtain ⟨left, hleft⟩ := Option.isSome_iff_exists.1 ((isSome_foldl_after events none).2 (.inr h.exists_saved))
  rw [h.eq (isLeftBy_of_replay hleft)]
  exact hleft

end

end ItemEvent

open ItemEvent (replay)

namespace Operation

/-- The kinds of entries. -/
inductive Kind
  | space
  | type
  | group
  | iteration
  | label
  | linkType
  | link
  | item

def kind : Operation → Kind
  | saveSpace _ => .space
  | saveType _ => .type
  | saveGroup _ => .group
  | saveIteration _ => .iteration
  | saveLabel _ => .label
  | saveLinkType _ => .linkType
  | saveLink _ => .link
  | saveItem _ | update _ _ _ => .item

def item? : Operation → Option String
  | saveItem item => some item.id
  | update id _ _ => some id
  | _ => none

end Operation

namespace Store

variable {s s' : Store} {o : Operation} {id : String} {e : StoreError}

theorem numbered_eq (s : Store) (item : WorkItem) :
    s.numbered item = { item with number := (s.numbered item).number } := by
  unfold numbered
  split <;> rfl

theorem load_saveItem (s : Store) (item : WorkItem) : (s.saveItem item).load item.id = .ok (s.numbered item) := by
  have hkey : Keyed.key (s.numbered item) = item.id := by rw [numbered_eq]; rfl
  rw [load_eq]
  show ((s.items.insert (s.numbered item)).get? item.id).elim _ _ = _
  rw [Registry.get?_insert, if_pos hkey]
  rfl

/-- What an operation does to the work item with an identifier: nothing if it is refused or about something else.  An
item is saved with the number that it is given. -/
def events (s : Store) (id : String) (o : Operation) : List ItemEvent :=
  match s.apply o, o with
  | .ok _, .saveItem item => if item.id = id then [.saved item (s.numbered item).number] else []
  | .ok _, .update changed change now => if changed = id then [.changed change now] else []
  | _, _ => []

/-- What a sequence of operations does to the work item with an identifier, in the order in which it happens. -/
def history (s : Store) (id : String) : List Operation → List ItemEvent
  | [] => []
  | o :: os => s.events id o ++ (s.step o).1.history id os

/-! ## Refusals -/

/-- When an operation is refused, and with which error.  A link needs its source, its target and its type, and the first
of them that is missing is reported; a change needs the item. -/
inductive Refuses (s : Store) : Operation → StoreError → Prop
  | source (link : Link) (h : s.items.contains link.source = false) :
    Refuses s (.saveLink link) (.missingItem link.source)
  | target (link : Link) (hsource : s.items.contains link.source = true)
    (h : s.items.contains link.target = false) : Refuses s (.saveLink link) (.missingItem link.target)
  | linkType (link : Link) (hsource : s.items.contains link.source = true)
    (htarget : s.items.contains link.target = true) (h : s.linkTypes.contains link.type = false) :
    Refuses s (.saveLink link) (.missingLinkType link.type)
  | item (id : String) (change : WorkItemUpdate) (now : Timestamp) (h : s.items.contains id = false) :
    Refuses s (.update id change now) (.missingItem id)

theorem apply_eq_error_iff : s.apply o = .error e ↔ s.Refuses o e := by
  constructor
  · intro h
    cases o with
    | saveLink link =>
      rw [apply, saveLink] at h
      split at h
      · next hsource =>
        cases h
        exact .source link (by simpa using hsource)
      split at h
      · next hsource htarget =>
        cases h
        exact .target link (by simpa using hsource) (by simpa using htarget)
      split at h
      · next hsource htarget htype =>
        cases h
        exact .linkType link (by simpa using hsource) (by simpa using htarget) (by simpa using htype)
      · cases h
    | update id change now =>
      obtain ⟨hmissing, rfl⟩ := load_eq_error_iff.1 (Outcome.map_eq_error.1 h)
      exact .item id change now hmissing
    | saveSpace | saveType | saveGroup | saveIteration | saveLabel | saveLinkType | saveItem => cases h
  · intro h
    cases h with
    | source link h => simp [apply, saveLink, h]
    | target link hsource h => simp [apply, saveLink, hsource, h]
    | linkType link hsource htarget h => simp [apply, saveLink, hsource, htarget, h]
    | item id change now h => exact Outcome.map_eq_error.2 (load_eq_error_iff.2 ⟨h, rfl⟩)

theorem step_of_ok (h : s.apply o = .ok s') : s.step o = (s', none) := by
  rw [step, h]

theorem step_of_error (h : s.apply o = .error e) : s.step o = (s, some e) := by
  rw [step, h]

/-- **A refused operation** is reported with its error and changes nothing. -/
theorem refused_step_iff : (s.step o).2 = some e ↔ s.Refuses o e := by
  rw [← apply_eq_error_iff]
  cases h : s.apply o with
  | ok s' => simp [step_of_ok h]
  | error e' => simp [step_of_error h]

theorem step_eq_self_of_refused (h : (s.step o).2 = some e) : (s.step o).1 = s := by
  rw [step_of_error (apply_eq_error_iff.2 (refused_step_iff.1 h))]

/-! ## One operation -/

/-- Whether two stores have the same entries of all kinds but one. -/
structure SameBut (kind : Operation.Kind) (s s' : Store) : Prop where
  spaces : kind ≠ .space → s'.spaces = s.spaces
  types : kind ≠ .type → s'.types = s.types
  groups : kind ≠ .group → s'.groups = s.groups
  iterations : kind ≠ .iteration → s'.iterations = s.iterations
  labels : kind ≠ .label → s'.labels = s.labels
  linkTypes : kind ≠ .linkType → s'.linkTypes = s.linkTypes
  links : kind ≠ .link → s'.links = s.links
  items : kind ≠ .item → s'.items = s.items

theorem sameBut_apply (h : s.apply o = .ok s') : SameBut o.kind s s' := by
  cases o with
  | saveLink link =>
    obtain ⟨-, rfl⟩ := connects_of_saveLink h
    constructor <;> simp [Operation.kind]
  | update id change now =>
    obtain ⟨item, -, rfl⟩ := Outcome.map_eq_ok.1 h
    constructor <;> simp [Operation.kind]
  | saveSpace | saveType | saveGroup | saveIteration | saveLabel | saveLinkType | saveItem =>
    cases h
    constructor <;>
      simp [Operation.kind, saveSpace, saveType, saveGroup, saveIteration, saveLabel, saveLinkType, saveItem]

/-- **An operation changes entries of its own kind only.** -/
theorem sameBut_step (s : Store) (o : Operation) : SameBut o.kind s (s.step o).1 := by
  cases h : s.apply o with
  | ok s' =>
    rw [step_of_ok h]
    exact sameBut_apply h
  | error e =>
    rw [step_of_error h]
    constructor <;> exact fun _ => rfl

/-- **An operation is one more event, or none**, in the history of each item. -/
theorem get?_step (s : Store) (o : Operation) (id : String) :
    (s.step o).1.items.get? id = (s.events id o).foldl ItemEvent.after (s.items.get? id) := by
  cases h : s.apply o with
  | error e =>
    unfold events
    rw [step_of_error h, h]
    rfl
  | ok s' =>
    unfold events
    rw [step_of_ok h, h]
    cases o with
    | saveItem item =>
      cases h
      refine (Registry.get?_insert _ _ _).trans ?_
      rw [numbered_eq]
      by_cases hid : item.id = id <;> simp [Keyed.key, hid, ItemEvent.after]
    | update changed change now =>
      obtain ⟨item, hload, rfl⟩ := Outcome.map_eq_ok.1 h
      obtain ⟨hmem, rfl⟩ := load_eq_ok_iff.1 hload
      refine (Registry.get?_insert _ _ _).trans ?_
      have hitem : s.items.get? item.id = some item := Registry.get?_key_of_mem hmem
      by_cases hid : item.id = id
      · subst hid
        simp [Keyed.key, WorkItemUpdate.applyTo, ItemEvent.after, hitem]
      · simp [Keyed.key, WorkItemUpdate.applyTo, hid]
    | saveLink link =>
      obtain ⟨-, rfl⟩ := connects_of_saveLink h
      rfl
    | saveSpace | saveType | saveGroup | saveIteration | saveLabel | saveLinkType =>
      cases h
      rfl

theorem events_eq_nil_of_item?_ne (h : o.item? ≠ some id) : s.events id o = [] := by
  unfold events
  split
  · exact if_neg fun hid => h (congrArg some hid)
  · exact if_neg fun hid => h (congrArg some hid)
  · rfl

/-- **An operation on one item leaves the others alone.** -/
theorem load_step_of_item?_ne (h : o.item? ≠ some id) : (s.step o).1.load id = s.load id := by
  rw [load_eq, load_eq, get?_step, events_eq_nil_of_item?_ne h, List.foldl_nil]

theorem exists_saved_mem_events (s : Store) (id : String) (o : Operation) :
    (∃ item number, .saved item number ∈ s.events id o) ↔ ∃ item, o = .saveItem item ∧ item.id = id := by
  unfold events
  split
  · next item _ =>
    by_cases hid : item.id = id <;> simp [hid]
  · next changed change now _ =>
    by_cases hid : changed = id <;> simp [hid]
  · next hsave _ =>
    simp only [List.not_mem_nil, exists_false, false_iff, not_exists, not_and]
    rintro item rfl
    exact (hsave _ item rfl rfl).elim

/-! ## Sequences of operations -/

/-- **What is stored under an identifier** is what was there, with all that happened to it since. -/
theorem get?_run (os : List Operation) (s : Store) (id : String) :
    (s.run os).items.get? id = (s.history id os).foldl ItemEvent.after (s.items.get? id) := by
  induction os generalizing s with
  | nil => rfl
  | cons o os ih => rw [run_cons, ih, get?_step, history, List.foldl_append]

theorem exists_saved_mem_history (os : List Operation) (s : Store) (id : String) :
    (∃ item number, .saved item number ∈ s.history id os) ↔ ∃ item, .saveItem item ∈ os ∧ item.id = id := by
  induction os generalizing s with
  | nil => simp [history]
  | cons o os ih =>
    simp only [history, List.mem_append, exists_or, exists_saved_mem_events, ih, List.mem_cons, or_and_right,
      eq_comm (a := Operation.saveItem _)]

/-! ## A map from identifiers to items -/

/-- What happens to the work item with an identifier in a store that starts with a dataset, whose items are saved as
they are. -/
def itemHistory (d : Dataset) (os : List Operation) (id : String) : List ItemEvent :=
  (d.items.filter fun item => item.id == id).map .savedAsIs ++ (ofDataset d).history id os

/-- Whether an item with an identifier is ever saved. -/
def EverSaved (d : Dataset) (os : List Operation) (id : String) : Prop :=
  (∃ item ∈ d.items, item.id = id) ∨ ∃ item, .saveItem item ∈ os ∧ item.id = id

/-- A store as a map from identifiers to items: what it answers after a sequence of operations on a dataset, and what
one more operation does to it. -/
structure RefinesMap (d : Dataset) (os : List Operation) (s : Store) : Prop where
  ownId : ∀ id item, s.load id = .ok item ↔ item ∈ s.items.entries ∧ item.id = id
  load_eq : ∀ id, s.load id = (replay (itemHistory d os id)).elim (.error (.missingItem id)) .ok
  latest : ∀ id item, s.load id = .ok item ↔ ItemEvent.IsLeftBy (itemHistory d os id) item
  loads : ∀ id, (∃ item, s.load id = .ok item) ↔ EverSaved d os id
  saved : ∀ item, item.number ≠ 0 → (s.step (.saveItem item)).1.load item.id = .ok item
  nodup : ∀ p offset limit, ((s.find p offset limit).1.map WorkItem.id).Nodup
  otherItems : ∀ o id, o.item? ≠ some id → (s.step o).1.load id = s.load id
  otherKinds : ∀ o, SameBut o.kind s (s.step o).1
  refused : ∀ o e, (s.step o).2 = some e ↔ s.Refuses o e
  unchanged : ∀ o e, (s.step o).2 = some e → (s.step o).1 = s

theorem get?_run_ofDataset (d : Dataset) (os : List Operation) (id : String) :
    ((ofDataset d).run os).items.get? id = replay (itemHistory d os id) := by
  have hitem : (ofDataset d).items.get? id = (d.items.filter fun item => item.id == id).getLast? :=
    Registry.get?_ofList d.items id
  rw [itemHistory, ItemEvent.replay_append, ItemEvent.replay_savedAsIs, get?_run, hitem]

theorem isSome_replay_itemHistory (d : Dataset) (os : List Operation) (id : String) :
    (replay (itemHistory d os id)).isSome = true ↔ EverSaved d os id := by
  have hstart : (d.items.filter fun item => item.id == id).getLast?.isSome = true ↔ ∃ item ∈ d.items, item.id = id := by
    simp
  rw [itemHistory, ItemEvent.replay_append, ItemEvent.isSome_foldl_after, ItemEvent.replay_savedAsIs, hstart,
    exists_saved_mem_history, EverSaved]

theorem nodup_ids_find (s : Store) (p : Predicate) (offset limit : Nat) :
    ((s.find p offset limit).1.map WorkItem.id).Nodup := by
  have hsorted := WorkItem.sort_spec (s.nodup_ids_filter p.isMatch)
  have hall : ((s.matchesOf p).map WorkItem.id).Nodup :=
    (hsorted.1.map WorkItem.id).nodup_iff.2 (s.nodup_ids_filter p.isMatch)
  exact hall.sublist (((List.take_sublist _ _).trans (List.drop_sublist _ _)).map WorkItem.id)

/-- **The store refines a map from identifiers to items**, whatever was done to it: it starts empty or with a dataset,
and operations follow, some of which are refused. -/
theorem refinesMap_run (os : List Operation) :
    (∀ d, RefinesMap d os ((ofDataset d).run os)) ∧ RefinesMap .empty os (Store.empty.run os) := by
  have hrun : ∀ d, RefinesMap d os ((ofDataset d).run os) := fun d =>
    { ownId := fun _ _ => load_eq_ok_iff
      load_eq := fun id => by rw [Store.load_eq, get?_run_ofDataset]
      latest := fun id item => by
        rw [← ItemEvent.replay_eq_some_iff, ← get?_run_ofDataset, Store.load_eq]
        cases ((ofDataset d).run os).items.get? id <;> simp
      loads := fun id => by
        rw [← isSome_replay_itemHistory, ← get?_run_ofDataset, Store.load_eq]
        cases ((ofDataset d).run os).items.get? id <;> simp
      saved := fun item hnumber => (load_saveItem _ item).trans (congrArg Except.ok (if_neg hnumber))
      nodup := nodup_ids_find _
      otherItems := fun _ _ => load_step_of_item?_ne
      otherKinds := sameBut_step _
      refused := fun _ _ => refused_step_iff
      unchanged := fun _ _ => step_eq_self_of_refused }
  exact ⟨hrun, hrun .empty⟩

end Store
end Backlog
