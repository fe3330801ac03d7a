import Backlog.Filter.Inquiry
import Backlog.Proofs.Filter.Memoryless
/-!
# Inquiry — what a resolver that remembers answers

What a resolver remembers after some questions is determined by them (`Recalls`): iterations and labels as they are
stored, and of each group the members in the scope in which its name was looked up first.  So each question about a group
is answered as if it were asked in that scope, and every other one as if it were the first (`askAll_eq`).  A resolver
that is asked several questions answers as several fresh ones exactly if no name of a group has other members in the
scope of a later question than in that of the first.
-/
namespace Backlog
namespace Filter

def Question.groupName? : Question → Option String
  | .resolve name => if (Key.ofName? name).isNone then some name else none
  | .groupTypes name => some name
  | .iterationsWhere _ => none
  | .labelsWhere _ => none

def firstScope (asked : List Inquiry) (name : String) : Option Scope :=
  (asked.find? fun q => q.question.groupName? == some name).map Inquiry.scope

def Inquiry.asFirstAsked (q : Inquiry) (asked : List Inquiry) : Inquiry :=
  { q with scope := (q.question.groupName?.bind (firstScope asked)).getD q.scope }

theorem firstScope_concat (asked : List Inquiry) (q : Inquiry) (name : String) :
    firstScope (asked ++ [q]) name =
      (firstScope asked name).or (if q.question.groupName? = some name then some q.scope else none) := by
  unfold firstScope
  rw [List.find?_append]
  cases asked.find? fun q => q.question.groupName? == some name with
  | some first => rfl
  | none =>
    rw [Option.none_or, List.find?_singleton]
    by_cases h : q.question.groupName? = some name
    · simp [h]
    · simp [h]

namespace Resolver

def plainReply (r : Resolver) (q : Inquiry) : Reply :=
  match q.question with
  | .resolve name => .resolution (r.resolution q.scope name)
  | .groupTypes name => .members (membersIn r.store q.scope name)
  | .iterationsWhere accept => .identifiers (r.iterationsWhere q.scope accept)
  | .labelsWhere accept => .identifiers (r.labelsWhere q.scope accept)

/-- What is remembered of groups after some questions. -/
def RecallsGroups (r : Resolver) (asked : List Inquiry) (groups : Memory) : Prop :=
  ∀ name, groups.lookup name = (firstScope asked name).map fun scope => membersIn r.store scope name

/-- What is remembered after some questions. -/
structure Recalls (r : Resolver) (asked : List Inquiry) (m : Recollection) : Prop where
  groups : r.RecallsGroups asked m.groups
  iterations : ∀ entries ∈ m.iterations, entries = r.store.iterations.entries
  labels : ∀ entries ∈ m.labels, entries = r.store.labels.entries

theorem recalls_empty (r : Resolver) : r.Recalls [] .empty where
  groups _ := rfl
  iterations _ h := by cases h
  labels _ h := by cases h

variable {r : Resolver} {asked : List Inquiry}

/-! ## One question -/

theorem RecallsGroups.concat_of_none {groups : Memory} (h : r.RecallsGroups asked groups) {q : Inquiry}
    (hname : q.question.groupName? = none) : r.RecallsGroups (asked ++ [q]) groups := fun name => by
  rw [firstScope_concat, hname, if_neg nofun, Option.or_none, h name]

/-- **Looking up a group** gives its members in the scope of the first question about it. -/
theorem RecallsGroups.run_groupTypes {groups : Memory} (h : r.RecallsGroups asked groups) {q : Inquiry} {name : String}
    (hname : q.question.groupName? = some name) :
    ((r.groupTypes q.scope name).run groups).1 = membersIn r.store (q.asFirstAsked (asked ++ [q])).scope name ∧
      r.RecallsGroups (asked ++ [q]) ((r.groupTypes q.scope name).run groups).2 := by
  have hscope : (q.asFirstAsked (asked ++ [q])).scope = (firstScope asked name).getD q.scope := by
    rw [Inquiry.asFirstAsked, hname, Option.bind_some, firstScope_concat, hname, if_pos rfl]
    cases firstScope asked name <;> rfl
  rw [hscope, Resolver.run_groupTypes, h name]
  cases hfirst : firstScope asked name with
  | some first =>
    -- the name is remembered, and the first question about it stays the first
    refine ⟨rfl, fun other => ?_⟩
    show groups.lookup other = _
    rw [h other, firstScope_concat, hname]
    by_cases he : name = other
    · subst he
      rw [hfirst]
      rfl
    · rw [if_neg (fun heq => he (Option.some.inj heq)), Option.or_none]
  | none =>
    -- this question is the first about the name, and what it finds is remembered
    refine ⟨rfl, fun other => ?_⟩
    rw [Option.map_none]
    show List.lookup other ((name, membersIn r.store q.scope name) :: groups) = _
    rw [List.lookup_cons, firstScope_concat, hname]
    by_cases he : name = other
    · subst he
      rw [hfirst, beq_self_eq_true, if_pos rfl]
      rfl
    · rw [if_neg (fun heq => he (Option.some.inj heq)), Option.or_none, beq_eq_false_iff_ne.2 (Ne.symm he), h other]

theorem run_resolve_of_key {key : Key} {name : String} (hkey : Key.ofName? name = some key) (scope : Scope)
    (groups : Memory) : (r.resolve scope name).run.run groups = (r.resolution scope name, groups) := by
  unfold resolve resolution
  rw [hkey]
  rfl

theorem run_resolve_of_not_key {name : String} (hkey : Key.ofName? name = none) (scope : Scope) (groups : Memory) :
    (r.resolve scope name).run.run groups =
      (if ((r.groupTypes scope name).run groups).1.isNone && r.strict then Except.error (.unknownKey name)
        else .ok (.typeGroup name ((r.groupTypes scope name).run groups).1), ((r.groupTypes scope name).run groups).2) := by
  unfold resolve
  rw [hkey]
  have hlift : (liftM (r.groupTypes scope name) : Resolving (Option StringSet)).run.run groups =
      (.ok ((r.groupTypes scope name).run groups).1, ((r.groupTypes scope name).run groups).2) := rfl
  dsimp only
  rw [run_bind, hlift]
  dsimp only
  split <;> rfl

/-- **A name is resolved** as in the scope of the first question about it. -/
theorem RecallsGroups.run_resolve {groups : Memory} (h : r.RecallsGroups asked groups) {q : Inquiry} {name : String}
    (hq : q.question = .resolve name) :
    ((r.resolve q.scope name).run.run groups).1 = r.resolution (q.asFirstAsked (asked ++ [q])).scope name ∧
      r.RecallsGroups (asked ++ [q]) ((r.resolve q.scope name).run.run groups).2 := by
  cases hkey : Key.ofName? name with
  | some key =>
    rw [run_resolve_of_key hkey]
    refine ⟨?_, h.concat_of_none (by rw [hq, Question.groupName?, hkey]; rfl)⟩
    unfold resolution
    rw [hkey]
  | none =>
    have hname : q.question.groupName? = some name := by
      rw [hq, Question.groupName?, hkey]
      rfl
    obtain ⟨htypes, hgroups⟩ := h.run_groupTypes hname
    rw [run_resolve_of_not_key hkey]
    refine ⟨?_, hgroups⟩
    unfold resolution
    rw [hkey, htypes]

theorem run_remembered {α β : Type} {kept : Recollection → Option (List α)}
    (keep : List α → Recollection → Recollection) {stored : List α} {m : Recollection}
    (h : ∀ entries ∈ kept m, entries = stored) (f : List α → β) :
    ∃ m', (remembered kept keep stored >>= fun entries => pure (f entries)).run m = (f stored, m') ∧
      (m' = m ∨ m' = keep stored m) := by
  simp only [remembered, StateT.run_bind, StateT.run_get, pure_bind]
  cases hkept : kept m with
  | some entries => exact ⟨m, congrArg (f ·, m) (h entries hkept), .inl rfl⟩
  | none => exact ⟨_, rfl, .inr rfl⟩

/-- **One question** is answered as if it were asked in the scope in which the name of its group is first looked up. -/
theorem Recalls.step {m : Recollection} (h : r.Recalls asked m) (q : Inquiry) :
    ((r.ask q).run m).1 = r.plainReply (q.asFirstAsked (asked ++ [q])) ∧
      r.Recalls (asked ++ [q]) ((r.ask q).run m).2 := by
  obtain ⟨question, scope⟩ := q
  cases question with
  | resolve name =>
    obtain ⟨hreply, hgroups⟩ := h.groups.run_resolve (q := ⟨.resolve name, scope⟩) rfl
    exact ⟨congrArg Reply.resolution hreply, hgroups, h.iterations, h.labels⟩
  | groupTypes name =>
    obtain ⟨hreply, hgroups⟩ := h.groups.run_groupTypes (q := ⟨.groupTypes name, scope⟩) rfl
    exact ⟨congrArg Reply.members hreply, hgroups, h.iterations, h.labels⟩
  | iterationsWhere accept =>
    have hgroups := h.groups.concat_of_none (q := ⟨.iterationsWhere accept, scope⟩) rfl
    obtain ⟨m', hrun, hm'⟩ := run_remembered (fun entries m => { m with iterations := some entries }) h.iterations
      fun iterations => Reply.identifiers (pick Iteration.id Iteration.space Iteration.name scope accept iterations)
    have hask : (r.ask ⟨.iterationsWhere accept, scope⟩).run m = (.identifiers (r.iterationsWhere scope accept), m') := hrun
    rw [hask]
    refine ⟨rfl, ?_⟩
    obtain rfl | rfl := hm'
    · exact ⟨hgroups, h.iterations, h.labels⟩
    · exact ⟨hgroups, fun _ hentries => (Option.some.inj hentries).symm, h.labels⟩
  | labelsWhere accept =>
    have hgroups := h.groups.concat_of_none (q := ⟨.labelsWhere accept, scope⟩) rfl
    obtain ⟨m', hrun, hm'⟩ := run_remembered (fun entries m => { m with labels := some entries }) h.labels
      fun labels => Reply.identifiers (pick Label.id Label.space Label.name scope accept labels)
    have hask : (r.ask ⟨.labelsWhere accept, scope⟩).run m = (.identifiers (r.labelsWhere scope accept), m') := hrun
    rw [hask]
    refine ⟨rfl, ?_⟩
    obtain rfl | rfl := hm'
    · exact ⟨hgroups, h.iterations, h.labels⟩
    · exact ⟨hgroups, h.iterations, fun _ hentries => (Option.some.inj hentries).symm⟩

/-! ## Several questions -/

theorem asFirstAsked_append (before : List Inquiry) (q : Inquiry) (after : List Inquiry) :
    q.asFirstAsked (before ++ [q] ++ after) = q.asFirstAsked (before ++ [q]) := by
  unfold Inquiry.asFirstAsked
  cases hname : q.question.groupName? with
  | none => rfl
  | some name =>
    have hfirst : ∃ first, firstScope (before ++ [q]) name = some first := by
      rw [firstScope_concat, hname, if_pos rfl]
      cases firstScope before name with
      | some first => exact ⟨first, rfl⟩
      | none => exact ⟨q.scope, rfl⟩
    obtain ⟨first, hfirst⟩ := hfirst
    have hsame : firstScope (before ++ [q] ++ after) name = some first := by
      unfold firstScope at hfirst ⊢
      rw [List.find?_append, Option.map_or, hfirst, Option.some_or]
    rw [Option.bind_some, Option.bind_some, hfirst, hsame]

/-- **The rest of several questions** is answered as if each were asked in the scope in which the name of its group is
first looked up. -/
theorem Recalls.run : ∀ (rest : List Inquiry) {asked : List Inquiry} {m : Recollection}, r.Recalls asked m →
    ((rest.mapM r.ask).run m).1 = rest.map fun q => r.plainReply (q.asFirstAsked (asked ++ rest))
  | [], _, _, _ => rfl
  | q :: rest, asked, m, h => by
    obtain ⟨hreply, hrecalls⟩ := h.step q
    -- a later question does not change which one was the first, so the answer may refer to all of them
    have hrest := Recalls.run rest hrecalls
    have hrun : (((q :: rest).mapM r.ask).run m).1 =
        ((r.ask q).run m).1 :: ((rest.mapM r.ask).run ((r.ask q).run m).2).1 := by
      rw [List.mapM_cons]
      rfl
    rw [hrun, hreply, hrest, List.map_cons, ← asFirstAsked_append asked q rest, List.append_assoc,
      List.singleton_append]

theorem askFresh_eq_plainReply (r : Resolver) (q : Inquiry) : r.askFresh q = r.plainReply q := by
  obtain ⟨hreply, -⟩ := r.recalls_empty.step q
  have hfirst : q.asFirstAsked ([] ++ [q]) = q := by
    unfold Inquiry.asFirstAsked
    cases hname : q.question.groupName? with
    | none => rfl
    | some name => rw [Option.bind_some, firstScope_concat, hname, if_pos rfl]; rfl
  rw [askFresh, hreply, hfirst]

theorem plainReply_eq_iff {q : Inquiry} {name : String} (hname : q.question.groupName? = some name) (scope : Scope) :
    r.plainReply { q with scope } = r.plainReply q ↔
      membersIn r.store scope name = membersIn r.store q.scope name := by
  obtain ⟨question, own⟩ := q
  cases question with
  | resolve asked =>
    have hkey : Key.ofName? asked = none ∧ asked = name := by
      simpa [Question.groupName?, Option.isNone_iff_eq_none] using hname
    obtain ⟨hkey, rfl⟩ := hkey
    simp only [plainReply, resolution, hkey, Reply.resolution.injEq]
    cases membersIn r.store scope asked <;> cases membersIn r.store own asked <;> cases r.strict <;> simp
  | groupTypes asked =>
    cases hname
    exact Reply.members.injEq _ _ ▸ Iff.rfl
  | iterationsWhere accept => cases hname
  | labelsWhere accept => cases hname

/-- **What a resolver that remembers answers.**  Each question is answered as a fresh resolver would answer it in the
scope in which the name of its group is first looked up; a question about no group is answered as a fresh resolver would
answer it.  So what is remembered shows in no answer exactly if each group has the same members in the scope of every
question about it as in that of the first. -/
theorem askAll_eq_map_askFresh_iff (r : Resolver) (qs : List Inquiry) :
    r.askAll qs = qs.map (fun q => r.askFresh (q.asFirstAsked qs)) ∧
      (r.askAll qs = qs.map r.askFresh ↔
        ∀ q ∈ qs, ∀ name first, q.question.groupName? = some name → firstScope qs name = some first →
          membersIn r.store first name = membersIn r.store q.scope name) := by
  have hall : r.askAll qs = qs.map fun q => r.askFresh (q.asFirstAsked qs) := by
    simp only [askFresh_eq_plainReply]
    exact r.recalls_empty.run qs
  refine ⟨hall, ?_⟩
  rw [hall, List.map_inj_left]
  refine forall₂_congr fun q _ => ?_
  rw [askFresh_eq_plainReply, askFresh_eq_plainReply]
  unfold Inquiry.asFirstAsked
  cases hname : q.question.groupName? with
  | none => exact iff_of_true rfl nofun
  | some name =>
    rw [Option.bind_some]
    cases hfirst : firstScope qs name with
    | none =>
      refine iff_of_true rfl ?_
      rintro _ _ ⟨⟩ h
      cases hfirst.symm.trans h
    | some first =>
      rw [Option.getD_some, plainReply_eq_iff hname]
      constructor
      · rintro h _ _ ⟨⟩ hasked
        cases hfirst.symm.trans hasked
        exact h
      · intro h
        exact h name first rfl hfirst

/-- A resolver for two spaces that have a group of the same name, with other members. -/
def ofNamesakes : Resolver :=
  ⟨{ Store.empty with groups := [⟨"work", "a", .requirement, ["bug"]⟩, ⟨"work", "b", .requirement, ["task"]⟩] },
    Conversion.standard, [], false⟩

def aboutNamesakes : List Inquiry :=
  [⟨.groupTypes "work", .ofList ["a"]⟩, ⟨.groupTypes "work", .ofList ["b"]⟩]

/-- **What is remembered of a group can show**: here the second answer has the members that are in the first space. -/
theorem askAll_aboutNamesakes_ne :
    ofNamesakes.askAll aboutNamesakes =
        [.members (some (.ofList ["bug"])), .members (some (.ofList ["bug"]))] ∧
      aboutNamesakes.map ofNamesakes.askFresh =
        [.members (some (.ofList ["bug"])), .members (some (.ofList ["task"]))] ∧
      ofNamesakes.askAll aboutNamesakes ≠ aboutNamesakes.map ofNamesakes.askFresh := by
  have hall : ofNamesakes.askAll aboutNamesakes =
      [.members (some (.ofList ["bug"])), .members (some (.ofList ["bug"]))] := rfl
  have hfresh : aboutNamesakes.map ofNamesakes.askFresh =
      [.members (some (.ofList ["bug"])), .members (some (.ofList ["task"]))] := rfl
  refine ⟨hall, hfresh, ?_⟩
  rw [hall, hfresh]
  intro h
  simp only [List.cons.injEq, Reply.members.injEq, Option.some.injEq] at h
  exact absurd h.2.1 (by decide)

end Resolver
end Filter
end Backlog
