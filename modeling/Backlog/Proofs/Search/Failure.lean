import Backlog.Proofs.Filter.Acceptance
import Backlog.Proofs.Filter.Reading
import Backlog.Proofs.Hierarchy.Inclusion
import Backlog.Proofs.Search.Selection
/-!
# Failure — a search fails by the stage that failed

A search reads its filter, compiles it and arranges the page, and each stage has errors of its own: reading those of
ill-formed texts, compilation those of refused comparisons (`Comparison.Refused`), and arranging those of the walk to
the ancestors (`Hierarchy.IsObstacle`).  Nothing else fails: finding the matches always succeeds, compilation never
meets an operator without a meaning for its value, since reading lets none through, and without ancestors there is
nothing to walk.
-/
namespace Backlog

open Backlog.Filter (Document Compiled Comparison Resolver)

theorem Filter.Comparison.Refused.kind {m : Filter.World} {strict : Bool} {c : Comparison} {e : QueryError}
    (h : c.Refused m strict e) : (∃ key, e = .unknownKey key) ∨ ∃ fault, e = .invalidCombination fault := by
  cases h with
  | unknownKey => exact .inl ⟨_, rfl⟩
  | negatedNull => exact .inr ⟨_, rfl⟩
  | groupWithNull => exact .inr ⟨_, rfl⟩
  | groupOperator => exact .inr ⟨_, rfl⟩
  | groupNameWithNull => exact .inr ⟨_, rfl⟩
  | noParts => exact .inr ⟨_, rfl⟩
  | notANumber => exact .inr ⟨_, rfl⟩
  | notInList => exact .inr ⟨_, rfl⟩

theorem Filter.Document.of_ofText_eq_error {text : String} {e : QueryError} (h : Document.ofText text = .error e) :
    ∃ fault, e = .illFormed fault := by
  unfold Document.ofText at h
  split at h
  · obtain ⟨fault, -, rfl⟩ := Outcome.mapError_eq_error.1 h
    exact ⟨fault, rfl⟩
  · cases h
    exact ⟨_, rfl⟩

namespace Engine

variable {e : Engine} {r : Request} {d : Document} {k : Compiled} {error : QueryError}

def itemsOn (e : Engine) (k : Compiled) (page : Page) : List WorkItem :=
  (e.store.find k.predicate page.offset page.limit).1

theorem arrange_eq_error {treeView : Bool} {items : List WorkItem} :
    e.arrange treeView items = .error error ↔ treeView = true ∧
      ∃ fault, Hierarchy.withAncestors e.store e.settings.maxTreeDepth items = .error fault ∧
        error = .internal [] fault := by
  unfold arrange
  cases treeView with
  | false => simp
  | true =>
    rw [if_pos rfl, Outcome.mapError_eq_error]
    simp only [true_and, eq_comm]

theorem runCompiled_eq_error {page : Page} :
    e.runCompiled k page = .error error ↔ k.treeView = true ∧
      ∃ fault, Hierarchy.withAncestors e.store e.settings.maxTreeDepth (e.itemsOn k page) = .error fault ∧
        error = .internal [] fault := by
  rw [← arrange_eq_error]
  exact Outcome.bind_pure_eq_error

/-- **A search fails** where reading does, where compilation does, or where arranging the page does. -/
theorem search_eq_error_iff :
    e.search r = .error error ↔ Document.ofText r.expression = .error error ∨
      ∃ d, Document.ofText r.expression = .ok d ∧ (e.compile d r.space = .error error ∨
        ∃ k, e.compile d r.space = .ok k ∧
          e.runCompiled k (.ofRequest e.settings r.offset r.limit) = .error error) := by
  unfold search
  simp only [Outcome.bind_eq_error]

theorem search_of_ofText_eq_error (h : Document.ofText r.expression = .error error) : e.search r = .error error :=
  search_eq_error_iff.2 (.inl h)

theorem search_of_compile_eq_error (hd : Document.ofText r.expression = .ok d)
    (h : e.compile d r.space = .error error) : e.search r = .error error :=
  search_eq_error_iff.2 (.inr ⟨d, hd, .inl h⟩)

/-! ## The three stages -/

section

variable {s : Store} {c : Config}

theorem exists_refused_of_compile (hd : Document.ofText r.expression = .ok d)
    (h : (ofConfig s c).compile d r.space = .error error) :
    ∃ before b after, d.root.comparisons = before ++ b :: after ∧
      (∀ a ∈ before, ∀ error, ¬a.Refused (d.world r.space s c.allStates) c.settings.strictKeys error) ∧
      b.Refused (d.world r.space s c.allStates) c.settings.strictKeys error :=
  (ofConfig s c).resolver.of_compile_eq_error rfl (Document.isWellFormed_of_ofText hd) h

theorem kind_of_compile (hd : Document.ofText r.expression = .ok d)
    (h : (ofConfig s c).compile d r.space = .error error) :
    (∃ key, error = .unknownKey key) ∨ ∃ fault, error = .invalidCombination fault := by
  obtain ⟨-, b, -, -, -, hb⟩ := exists_refused_of_compile hd h
  exact hb.kind

/-- A syntax error is one of reading: compilation has errors of two other kinds, and arranging those of the search. -/
theorem ofText_of_search {fault : SyntaxFault} (h : (ofConfig s c).search r = .error (.illFormed fault)) :
    Document.ofText r.expression = .error (.illFormed fault) := by
  rcases search_eq_error_iff.1 h with hread | ⟨d, hd, hcompile | ⟨k, -, hrun⟩⟩
  · exact hread
  · rcases kind_of_compile hd hcompile with ⟨key, he⟩ | ⟨fault', he⟩
    · cases he
    · cases he
  · obtain ⟨-, fault', -, he⟩ := runCompiled_eq_error.1 hrun
    cases he

/-- A failure of the search itself is one of arranging, since neither reading nor compilation has any. -/
theorem isObstacle_of_search {contexts : List String} {fault : InternalFault}
    (h : (ofConfig s c).search r = .error (.internal contexts fault)) :
    contexts = [] ∧ ∃ d k, Document.ofText r.expression = .ok d ∧ (ofConfig s c).compile d r.space = .ok k ∧
      d.treeView = true ∧ Hierarchy.IsObstacle s c.settings.maxTreeDepth
        ((ofConfig s c).itemsOn k (.ofRequest c.settings r.offset r.limit)) fault := by
  rcases search_eq_error_iff.1 h with hread | ⟨d, hd, hcompile | ⟨k, hk, hrun⟩⟩
  · obtain ⟨fault', he⟩ := Document.of_ofText_eq_error hread
    cases he
  · rcases kind_of_compile hd hcompile with ⟨key, he⟩ | ⟨fault', he⟩
    · cases he
    · cases he
  · obtain ⟨htree, fault', hfault, he⟩ := runCompiled_eq_error.1 hrun
    cases he
    have hwanted : d.treeView = true := (Resolver.treeView_of_compile rfl hk).symm.trans htree
    exact ⟨rfl, d, k, hd, hk, hwanted, Hierarchy.isObstacle_of_withAncestors hfault⟩

theorem search_of_isObstacle {fault : InternalFault} (hd : Document.ofText r.expression = .ok d)
    (hk : (ofConfig s c).compile d r.space = .ok k) (htree : d.treeView = true)
    (h : Hierarchy.IsObstacle s c.settings.maxTreeDepth
      ((ofConfig s c).itemsOn k (.ofRequest c.settings r.offset r.limit)) fault) :
    ∃ fault', (ofConfig s c).search r = .error (.internal [] fault') := by
  obtain ⟨fault', hfault⟩ := h.exists_withAncestors
  have hwanted : k.treeView = true := (Resolver.treeView_of_compile rfl hk).trans htree
  have hrun : (ofConfig s c).runCompiled k (.ofRequest c.settings r.offset r.limit) = .error (.internal [] fault') :=
    runCompiled_eq_error.2 ⟨hwanted, fault', hfault, rfl⟩
  exact ⟨fault', search_eq_error_iff.2 (.inr ⟨d, hd, .inr ⟨k, hk, hrun⟩⟩)⟩

end

/-- What the failures of a search are: each comes from the stage it is named after. -/
structure FailsByStage (s : Store) (c : Config) (r : Request) : Prop where
  /-- A search has a syntax error exactly when its text is no filter. -/
  illFormed_iff : ∀ fault, (ofConfig s c).search r = .error (.illFormed fault) ↔
    Document.ofText r.expression = .error (.illFormed fault)
  /-- A text that is no filter has no other error. -/
  reading : ∀ error, Document.ofText r.expression = .error error →
    (ofConfig s c).search r = .error error ∧ ∃ fault, error = .illFormed fault
  /-- A filter that was read compiles exactly when each of its comparisons is acceptable on its own. -/
  compiles_iff : ∀ d, Document.ofText r.expression = .ok d →
    ((∃ k, (ofConfig s c).compile d r.space = .ok k) ↔
      ∀ b ∈ d.root.comparisons, ∀ error, ¬b.Refused (d.world r.space s c.allStates) c.settings.strictKeys error)
  /-- Otherwise the search fails with an error of the first comparison that is not, which is about the name of a key or
  about what does not go together. -/
  refused : ∀ d error, Document.ofText r.expression = .ok d → (ofConfig s c).compile d r.space = .error error →
    (ofConfig s c).search r = .error error ∧
      ((∃ key, error = .unknownKey key) ∨ ∃ fault, error = .invalidCombination fault) ∧
      ∃ before b after, d.root.comparisons = before ++ b :: after ∧
        (∀ a ∈ before, ∀ error, ¬a.Refused (d.world r.space s c.allStates) c.settings.strictKeys error) ∧
        b.Refused (d.world r.space s c.allStates) c.settings.strictKeys error
  /-- A search that fails itself was to show ancestors, and could not reach or load one of an item of the page. -/
  internal : ∀ contexts fault, (ofConfig s c).search r = .error (.internal contexts fault) → contexts = [] ∧
    ∃ d k, Document.ofText r.expression = .ok d ∧ (ofConfig s c).compile d r.space = .ok k ∧ d.treeView = true ∧
      Hierarchy.IsObstacle s c.settings.maxTreeDepth
        ((ofConfig s c).itemsOn k (.ofRequest c.settings r.offset r.limit)) fault
  /-- Such an obstacle always makes the search fail. -/
  obstacle : ∀ d k fault, Document.ofText r.expression = .ok d → (ofConfig s c).compile d r.space = .ok k →
    d.treeView = true → Hierarchy.IsObstacle s c.settings.maxTreeDepth
      ((ofConfig s c).itemsOn k (.ofRequest c.settings r.offset r.limit)) fault →
    ∃ fault', (ofConfig s c).search r = .error (.internal [] fault')

/-- **The failures of a search** come each from its own stage. -/
theorem search_failsByStage (s : Store) (c : Config) (r : Request) : FailsByStage s c r where
  illFormed_iff _ := ⟨ofText_of_search, search_of_ofText_eq_error⟩
  reading _ h := ⟨search_of_ofText_eq_error h, Document.of_ofText_eq_error h⟩
  compiles_iff _ hd := (ofConfig s c).resolver.exists_compile_iff rfl (Document.isWellFormed_of_ofText hd)
  refused _ _ hd h := ⟨search_of_compile_eq_error hd h, kind_of_compile hd h, exists_refused_of_compile hd h⟩
  internal _ _ := isObstacle_of_search
  obstacle _ _ _ := search_of_isObstacle

/-! ## One filter, asked of two spaces -/

/-- Two items in the group of the space `a`, each of which is the parent of the other. -/
def circle : Store :=
  .ofDataset ⟨[], [], [⟨"work", "a", .requirement, ["bug"]⟩], [], [], [.parenting "up"],
    [⟨"1", "left", "right", "up"⟩, ⟨"2", "right", "left", "up"⟩],
    [.new "left" Hierarchy.newYear "a" "bug" "Left", .new "right" Hierarchy.newYear "a" "bug" "Right"]⟩

def workWithAncestors : Document :=
  ⟨.combinator .and
    [.comparison ⟨"title", .substr, .text "ef", false⟩,
      .combinator .or [.comparison ⟨"work", .ne, .text "", false⟩] true] false, true⟩

def strictly : Config :=
  { Config.none with strictKeys := some true }

theorem search_failsByStage_workWithAncestors :
    (∃ before b after, workWithAncestors.root.comparisons = before ++ b :: after ∧
      b.Refused (workWithAncestors.world (some "b") circle strictly.allStates) true (.unknownKey "work") ∧
      (ofConfig circle strictly).search ⟨workWithAncestors.text .compact, some "b", none, none⟩ =
        .error (.unknownKey "work")) ∧
    ∃ fault, (ofConfig circle strictly).search ⟨workWithAncestors.text .compact, none, none, none⟩ =
      .error (.internal [] fault) := by
  have hread : Document.ofText (workWithAncestors.text .compact) = .ok workWithAncestors :=
    Document.ofText_text (by decide +kernel) (by decide +kernel) .compact
  constructor
  · obtain ⟨hsearch, -, before, b, after, hsplit, -, hb⟩ := (search_failsByStage circle strictly
      ⟨workWithAncestors.text .compact, some "b", none, none⟩).refused _ (.unknownKey "work") hread rfl
    exact ⟨before, b, after, hsplit, hb, hsearch⟩
  · obtain ⟨k, hk⟩ : ∃ k, (ofConfig circle strictly).compile workWithAncestors none = .ok k := ⟨_, rfl⟩
    have hitems : ((ofConfig circle strictly).compile workWithAncestors none).toOption.map (fun k =>
        Hierarchy.ids ((ofConfig circle strictly).itemsOn k (.ofRequest strictly.settings none none))) =
        some ["left"] := by decide +kernel
    rw [hk] at hitems
    have hitems :
        Hierarchy.ids ((ofConfig circle strictly).itemsOn k (.ofRequest strictly.settings none none)) = ["left"] :=
      Option.some.inj hitems
    obtain ⟨item, hitem, hid⟩ := List.mem_map.1 (hitems ▸ List.mem_cons_self)
    refine (search_failsByStage circle strictly _).obstacle _ k (.cycle "left") hread hk rfl ⟨item, hitem, .inl ?_⟩
    rw [hid]
    rfl

end Engine
end Backlog
