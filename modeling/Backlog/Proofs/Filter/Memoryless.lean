import Backlog.Filter.Compile
/-!
# Memoryless — compilation without a memory

A resolver remembers the groups it has looked up.  One filter is compiled in one scope, so what is remembered is always
what a fresh look-up would give, and the memory cannot be told from its absence: compilation is the plain recursion of
this module, which looks up every name afresh (`compile_eq_documentCompiled`).

A question and its plain form are tied by `Answers`: whatever is remembered, as long as it is right, the question has
the plain answer and leaves a memory that is right.
-/
namespace Backlog
namespace Filter
namespace Resolver

/-! ## The plain recursion -/

def resolution (r : Resolver) (scope : Scope) (name : String) : Except QueryError Resolution :=
  match Key.ofName? name with
  | some key => .ok (r.ofKey key)
  | none =>
    let types := membersIn r.store scope name
    if types.isNone && r.strict then .error (.unknownKey name) else .ok (.typeGroup name types)

def groupsPredicate (operator : Operator) (found : List (Option StringSet)) : Predicate :=
  let types := (found.filterMap id).foldl StringSet.union .empty
  if operator = .ne then .leaf ⟨.type, .notIn types⟩
  else if found.all Option.isNone then .const false
  else .leaf ⟨.type, .isIn types⟩

/-- The predicate of a comparison without regard to its negation, once its field is looked up. -/
def resolvedPredicate (r : Resolver) (scope : Scope) (c : Comparison) : Resolution → Except QueryError Predicate
  | .direct subject kind => return .leaf ⟨subject, ← r.directTest c kind⟩
  | .collection subject => return .leaf ⟨subject, ← r.directTest c .identifier⟩
  | .labelReference => return .leaf ⟨.labels, ← r.labelTest scope c⟩
  | .iterationName => return .leaf ⟨.iteration, ← r.iterationNameTest scope c⟩
  | .labelName => return .leaf ⟨.labels, ← r.labelNameTest scope c⟩
  | .typeGroupName => return groupsPredicate c.operator ((← groupNames c).map (membersIn r.store scope))
  | .typeGroup name types => compileGroup c name types

def comparisonPredicate (r : Resolver) (scope : Scope) (c : Comparison) : Except QueryError Predicate := do
  if c.negate && c.value = .null then throw (.invalidCombination (.negatedNull c.field))
  let resolution ← r.resolution scope c.field
  let predicate ← r.resolvedPredicate scope c resolution
  return predicate.negateIf c.negate

mutual

def nodePredicate (r : Resolver) (scope : Scope) : Node → Except QueryError Predicate
  | .comparison c => r.comparisonPredicate scope c
  | .combinator connective children negate => do
    return (joined connective (← nodePredicates r scope children)).negateIf negate

def nodePredicates (r : Resolver) (scope : Scope) : List Node → Except QueryError (List Predicate)
  | [] => return []
  | n :: ns => do return (← nodePredicate r scope n) :: (← nodePredicates r scope ns)

end

def documentCompiled (r : Resolver) (d : Document) (space : Option String) : Except QueryError Compiled := do
  match space with
  | none =>
    let scope ← r.collectScope d.root
    return ⟨← r.nodePredicate scope d.root, scope, d.treeView⟩
  | some raw =>
    let space ← r.convertSpace raw
    let scope := (← r.collectScope d.root).insert space
    return ⟨.and [.leaf ⟨.space, .eq space⟩, ← r.nodePredicate scope d.root], scope, d.treeView⟩

mutual

/-- **A condition is compiled alike** by two resolvers, in two scopes, if each of its comparisons is. -/
theorem nodePredicate_congr {r r' : Resolver} {scope scope' : Scope} :
    ∀ n : Node, (∀ c ∈ n.comparisons, r.comparisonPredicate scope c = r'.comparisonPredicate scope' c) →
      r.nodePredicate scope n = r'.nodePredicate scope' n
  | .comparison c, h => by
    rw [nodePredicate, nodePredicate]
    exact h c (List.mem_singleton_self c)
  | .combinator connective children negate, h => by
    rw [nodePredicate, nodePredicate, nodePredicates_congr children h]

theorem nodePredicates_congr {r r' : Resolver} {scope scope' : Scope} :
    ∀ ns : List Node, (∀ c ∈ Node.comparisonsOfAll ns, r.comparisonPredicate scope c = r'.comparisonPredicate scope' c) →
      r.nodePredicates scope ns = r'.nodePredicates scope' ns
  | [], _ => by
    rw [nodePredicates, nodePredicates]
  | n :: ns, h => by
    rw [Node.comparisonsOfAll, List.forall_mem_append] at h
    rw [nodePredicates, nodePredicates, nodePredicate_congr n h.1, nodePredicates_congr ns h.2]

end

/-! ## Questions and their plain forms -/

/-- A memory that holds nothing but what a look-up in the scope would give. -/
def IsRight (r : Resolver) (scope : Scope) (m : Memory) : Prop :=
  ∀ name types, m.lookup name = some types → types = membersIn r.store scope name

theorem isRight_nil (r : Resolver) (scope : Scope) : r.IsRight scope [] := fun _ _ h => by cases h

/-- A question with the same answer whatever is remembered, which leaves a right memory right. -/
def Answers {α : Type} (r : Resolver) (scope : Scope) (q : Resolving α) (a : Except QueryError α) : Prop :=
  ∀ m, r.IsRight scope m → (q.run.run m).1 = a ∧ r.IsRight scope (q.run.run m).2

section

variable {α β : Type} {r : Resolver} {scope : Scope}

theorem answers_pure (a : α) : r.Answers scope (pure a) (.ok a) := fun _ h => ⟨rfl, h⟩

theorem answers_throw (e : QueryError) : r.Answers scope (throw e : Resolving α) (.error e) := fun _ h => ⟨rfl, h⟩

theorem answers_lift (a : Except QueryError α) : r.Answers scope (liftM a) a := fun _ h => by
  cases a <;> exact ⟨rfl, h⟩

theorem run_bind (q : Resolving α) (f : α → Resolving β) (m : Memory) :
    (q >>= f).run.run m = match q.run.run m with
      | (.ok x, m') => (f x).run.run m'
      | (.error e, m') => (.error e, m') := by
  show (q >>= f) m = match q m with
      | (.ok x, m') => f x m'
      | (.error e, m') => (.error e, m')
  simp only [bind, ExceptT.bind, ExceptT.mk, StateT.bind, ExceptT.bindCont]
  rcases q m with ⟨a, m'⟩
  cases a <;> rfl

theorem answers_bind {q : Resolving α} {a : Except QueryError α} {f : α → Resolving β} {g : α → Except QueryError β}
    (hq : r.Answers scope q a) (hf : ∀ x, r.Answers scope (f x) (g x)) : r.Answers scope (q >>= f) (a >>= g) := by
  intro m hm
  obtain ⟨ha, hm'⟩ := hq m hm
  rw [run_bind]
  rcases hrun : q.run.run m with ⟨a', m'⟩
  rw [hrun] at ha hm'
  subst ha
  cases a' with
  | error e => exact ⟨rfl, hm'⟩
  | ok x => exact hf x m' hm'

theorem answers_bind_ok {q : Resolving α} {x : α} {f : α → Resolving β} {b : Except QueryError β}
    (hq : r.Answers scope q (.ok x)) (hf : r.Answers scope (f x) b) : r.Answers scope (q >>= f) b := by
  intro m hm
  obtain ⟨hx, hm'⟩ := hq m hm
  rw [run_bind]
  rcases hrun : q.run.run m with ⟨a, m'⟩
  rw [hrun] at hx hm'
  subst hx
  exact hf m' hm'

theorem answers_mapM {f : α → Resolving β} {g : α → β} (h : ∀ x, r.Answers scope (f x) (.ok (g x))) :
    ∀ xs : List α, r.Answers scope (xs.mapM f) (.ok (xs.map g))
  | [] => answers_pure []
  | x :: xs => by
    rw [List.mapM_cons]
    exact answers_bind_ok (h x) (answers_bind_ok (answers_mapM h xs) (answers_pure _))

theorem answers_ite {c : Prop} [Decidable c] {q q' : Resolving α} {a a' : Except QueryError α}
    (h : r.Answers scope q a) (h' : r.Answers scope q' a') :
    r.Answers scope (if c then q else q') (if c then a else a') := by
  split
  · exact h
  · exact h'

end

theorem run_groupTypes (r : Resolver) (scope : Scope) (name : String) (m : Memory) :
    (r.groupTypes scope name).run m = match m.lookup name with
      | some types => (types, m)
      | none => (membersIn r.store scope name, (name, membersIn r.store scope name) :: m) := by
  simp only [groupTypes, StateT.run_bind, StateT.run_get, pure_bind]
  cases m.lookup name <;> rfl

/-- **Looking up a group** gives its members, whether they are remembered or not. -/
theorem answers_groupTypes (r : Resolver) (scope : Scope) (name : String) :
    r.Answers scope (liftM (r.groupTypes scope name)) (.ok (membersIn r.store scope name)) := by
  intro m hm
  have hrun : (liftM (r.groupTypes scope name) : Resolving (Option StringSet)).run.run m =
      (.ok ((r.groupTypes scope name).run m).1, ((r.groupTypes scope name).run m).2) := rfl
  rw [hrun, run_groupTypes]
  cases h : m.lookup name with
  | some types => exact ⟨by rw [hm name types h], hm⟩
  | none =>
    refine ⟨rfl, fun name' types' h' => ?_⟩
    rw [List.lookup_cons] at h'
    by_cases he : name' = name
    · subst he
      simpa using h'.symm
    · simp only [beq_eq_false_iff_ne.2 he] at h'
      exact hm name' types' h'

/-! ## Compilation -/

variable (r : Resolver) (scope : Scope)

theorem answers_resolve (name : String) : r.Answers scope (r.resolve scope name) (r.resolution scope name) := by
  unfold resolve resolution
  cases Key.ofName? name with
  | some key => exact answers_pure (r.ofKey key)
  | none =>
    exact answers_bind_ok (answers_groupTypes r scope name) (answers_ite (answers_throw _) (answers_pure _))

theorem answers_compileGroupName (c : Comparison) :
    r.Answers scope (r.compileGroupName scope c)
      (return groupsPredicate c.operator ((← groupNames c).map (membersIn r.store scope))) := by
  refine answers_bind (answers_lift (groupNames c)) fun names => ?_
  refine answers_bind_ok (answers_mapM (fun name => answers_groupTypes r scope name) names) ?_
  show r.Answers scope _ (.ok (groupsPredicate _ _))
  unfold groupsPredicate
  split
  · exact answers_pure _
  · split <;> exact answers_pure _

theorem answers_compileResolved (c : Comparison) :
    ∀ s : Resolution, r.Answers scope (r.compileResolved scope c s) (r.resolvedPredicate scope c s)
  | .direct _ kind => answers_bind (answers_lift (r.directTest c kind)) fun _ => answers_pure _
  | .collection _ => answers_bind (answers_lift (r.directTest c .identifier)) fun _ => answers_pure _
  | .labelReference => answers_bind (answers_lift (r.labelTest scope c)) fun _ => answers_pure _
  | .iterationName => answers_bind (answers_lift (r.iterationNameTest scope c)) fun _ => answers_pure _
  | .labelName => answers_bind (answers_lift (r.labelNameTest scope c)) fun _ => answers_pure _
  | .typeGroupName => answers_compileGroupName r scope c
  | .typeGroup name types => answers_lift (compileGroup c name types)

theorem answers_compileComparison (c : Comparison) :
    r.Answers scope (r.compileComparison scope c) (r.comparisonPredicate scope c) := by
  unfold compileComparison comparisonPredicate
  refine answers_ite (answers_throw _) ?_
  refine answers_bind (answers_resolve r scope c.field) fun s => ?_
  exact answers_bind (answers_compileResolved r scope c s) fun p => answers_pure _

mutual

theorem answers_compileNode : ∀ n : Node, r.Answers scope (r.compileNode scope n) (r.nodePredicate scope n)
  | .comparison c => by
    rw [compileNode, nodePredicate]
    exact answers_compileComparison r scope c
  | .combinator connective children negate => by
    rw [compileNode, nodePredicate]
    exact answers_bind (answers_compileNodes children) fun ps => answers_pure _

theorem answers_compileNodes :
    ∀ ns : List Node, r.Answers scope (r.compileNodes scope ns) (r.nodePredicates scope ns)
  | [] => by
    rw [compileNodes, nodePredicates]
    exact answers_pure []
  | n :: ns => by
    rw [compileNodes, nodePredicates]
    exact answers_bind (answers_compileNode n) fun p => answers_bind (answers_compileNodes ns) fun ps => answers_pure _

end

/-- **Compilation is the plain recursion**: no answer depends on what is remembered. -/
theorem compile_eq_documentCompiled (d : Document) (space : Option String) :
    r.compile d space = r.documentCompiled d space := by
  -- the scope is what every look-up of the compilation is made in, so it has to be known before `Answers` applies
  unfold compile compileDocument documentCompiled
  cases space with
  | none =>
    dsimp only
    cases r.collectScope d.root with
    | error e => rfl
    | ok scope =>
      have hq := answers_bind (answers_compileNode r scope d.root) fun p =>
        answers_pure (⟨p, scope, d.treeView⟩ : Compiled)
      exact (hq [] (isRight_nil r scope)).1
  | some raw =>
    dsimp only
    cases r.convertSpace raw with
    | error e => rfl
    | ok space =>
      cases r.collectScope d.root with
      | error e => rfl
      | ok named =>
        have hq := answers_bind (answers_compileNode r (named.insert space) d.root) fun p =>
          answers_pure (⟨.and [.leaf ⟨.space, .eq space⟩, p], named.insert space, d.treeView⟩ : Compiled)
        exact (hq [] (isRight_nil r (named.insert space))).1

end Resolver
end Filter
end Backlog
