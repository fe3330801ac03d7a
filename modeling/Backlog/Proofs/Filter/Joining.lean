import Backlog.Proofs.Filter.Surrounding
/-!
# Joining — the members of an object are joined by "and"

An object with several members, none of them `negate`, is read as the list of `$AND` with one object for each member, in
ascending order of the names: as the same condition or with the same fault (`membersReading_asList_sortMembers`), and so
wherever it stands in a filter (`ofText_congr`).  The order in which its members were written does not show.  A further
member `negate` changes nothing if it is false, and is a fault if it is true.

This does not hold of a name that is kept for embedded texts (`Json.embeddingName`).  An object with that name is always
refused, while the list may be read, as its objects have one member each.
-/
namespace Backlog
namespace Filter

open Json (meaning? memberMeanings? memberMeaning sortMembers embeddingName isEmbedding)

def asList (ms : List (String × Json)) : List (String × Json) :=
  [(Connective.and.memberName, .arr (ms.map fun m => .obj [m]))]

/-! ## Members of an object that is read -/

section

variable {ms : List (String × Json)}

theorem readNegate_of_not_mem (h : negateName ∉ ms.map Prod.fst) : readNegate ms = .ok false := by
  rw [readNegate, Json.lookup_of_not_mem h]

theorem readObject_congr {ms' : List (String × Json)} (hnegate : readNegate ms = readNegate ms')
    (hrest : ms.filter (fun m => m.1 != negateName) = ms'.filter fun m => m.1 != negateName) :
    readObject ms = readObject ms' := by
  rw [readObject, readObject, hnegate, readMembers_eq, readMembers_eq, hrest]

theorem readMembers_of_not_mem (h : negateName ∉ ms.map Prod.fst) :
    readMembers ms = ms.mapM fun m => readMember m.1 m.2 := by
  rw [readMembers_eq, Json.filter_of_not_mem h]

theorem readObject_singleton {m : String × Json} (h : m.1 ≠ negateName) : readObject [m] = readMember m.1 m.2 := by
  have hnot : negateName ∉ [m].map Prod.fst := fun hm => h (List.mem_singleton.1 hm).symm
  rw [readObject, readNegate_of_not_mem hnot, readMembers_of_not_mem hnot, List.mapM_cons]
  cases readMember m.1 m.2 <;> rfl

theorem assemble_of_two {negate : Bool} {ns : List Node} (h : 2 ≤ ns.length) :
    assemble negate ns = if negate then .error .ambiguousNegate else .ok (.combinator .and ns false) := by
  match ns, h with
  | _ :: _ :: _, _ => rfl

theorem readObject_of_two (h : negateName ∉ ms.map Prod.fst) (htwo : 2 ≤ ms.length) :
    readObject ms = (ms.mapM fun m => readMember m.1 m.2).map fun ns => .combinator .and ns false := by
  rw [readObject, readNegate_of_not_mem h, readMembers_of_not_mem h]
  cases hms : ms.mapM fun m => readMember m.1 m.2 with
  | error e => rfl
  | ok ns =>
    have hns : 2 ≤ ns.length := Outcome.length_of_mapM_eq_ok hms ▸ htwo
    exact assemble_of_two hns

theorem readItems_singletons (connective : Connective) :
    ∀ {ms : List (String × Json)}, negateName ∉ ms.map Prod.fst →
      readItems connective (ms.map fun m => .obj [m]) = ms.mapM fun m => readMember m.1 m.2
  | [], _ => by
    rw [List.map_nil, readItems]
    rfl
  | m :: ms, h => by
    obtain ⟨hm, hms⟩ := not_or.1 fun he => h (List.mem_cons.2 he)
    rw [List.map_cons, readItems, readItem_obj, readObject_singleton (Ne.symm hm), readItems_singletons connective hms,
      List.mapM_cons]

theorem readObject_asList (h : negateName ∉ ms.map Prod.fst) (hne : ms ≠ []) :
    readObject (asList ms) = (ms.mapM fun m => readMember m.1 m.2).map fun ns => .combinator .and ns false := by
  have hname : Connective.and.memberName ≠ negateName := by decide
  rw [asList, readObject_singleton hname, readMember_memberName, readList_eq (mt List.map_eq_nil_iff.1 hne),
    readItems_singletons .and h]

theorem exists_readObject_error {m : String × Json} (hm : m ∈ ms) (hne : m.1 ≠ negateName)
    (h : ∀ n, readMember m.1 m.2 ≠ .ok n) : ∃ e, readObject ms = .error e := by
  cases hread : readObject ms with
  | error e => exact ⟨e, rfl⟩
  | ok root =>
    obtain ⟨negate, -, hread⟩ := Outcome.bind_eq_ok.1 hread
    obtain ⟨ns, hns, -⟩ := Outcome.bind_eq_ok.1 hread
    rw [readMembers_eq] at hns
    obtain ⟨n, hn⟩ := Outcome.mapM_eq_ok.1 ⟨ns, hns⟩ m (List.mem_filter.2 ⟨hm, bne_iff_ne.2 hne⟩)
    exact absurd hn (h n)

theorem exists_readObject_error_of_negate (hnegate : readNegate ms = .ok true)
    (htwo : 2 ≤ (ms.filter fun m => m.1 != negateName).length) : ∃ e, readObject ms = .error e := by
  rw [readObject, hnegate, readMembers_eq]
  cases hms : (ms.filter fun m => m.1 != negateName).mapM fun m => readMember m.1 m.2 with
  | error e => exact ⟨e, rfl⟩
  | ok ns =>
    have hns : 2 ≤ ns.length := Outcome.length_of_mapM_eq_ok hms ▸ htwo
    exact ⟨.ambiguousNegate, assemble_of_two hns⟩

theorem ofJson_of_not_mem (h : optionsName ∉ ms.map Prod.fst) (hne : ms ≠ []) :
    Document.ofJson (.obj ms) = (readObject ms).map fun root => ⟨root, false⟩ := by
  have hsome : ¬ms.isEmpty = true := mt List.isEmpty_iff.1 hne
  rw [Document.ofJson, Json.lookup_of_not_mem h, Json.filter_of_not_mem h]
  show (if _ then throw SyntaxFault.noCondition else _) = _
  rw [if_neg hsome]
  cases readObject ms <;> rfl

end

/-! ## Members of an object as written -/

theorem ne_nil_of_two {ms : List (String × Json)} (h : 2 ≤ ms.length) : ms ≠ [] :=
  List.ne_nil_of_length_pos (Nat.lt_of_lt_of_le Nat.zero_lt_two h)

theorem ne_singleton_of_two {ms : List (String × Json)} (h : 2 ≤ ms.length) (name s : String) :
    ms ≠ [(name, .str s)] :=
  fun he => Nat.not_succ_le_self 1 (he ▸ h : 2 ≤ [(name, Json.str s)].length)

def membersReading (ms : List (String × Json)) : Option (Reading Node) :=
  (memberMeanings? ms).map fun ns => readObject (sortMembers ns)

section

variable {ms : List (String × Json)}

theorem itemReading_obj (h : isEmbedding ms = false) :
    itemReading (.obj ms) = (membersReading ms).map fun r _ => r := by
  rw [itemReading, Json.meaning?_obj h, membersReading, Option.map_map, Option.map_map]
  exact congrArg (Option.map · _) (funext fun ns => funext fun connective => readItem_obj connective _)

theorem filterReading_obj (h : isEmbedding ms = false) (hoptions : optionsName ∉ ms.map Prod.fst) (hne : ms ≠ []) :
    filterReading (.obj ms) = (membersReading ms).map fun r => r.map fun root => ⟨root, false⟩ := by
  rw [filterReading, Json.meaning?_obj h, membersReading, Option.map_map, Option.map_map]
  refine Option.map_congr fun ns hns => ?_
  have hnot : optionsName ∉ (sortMembers ns).map Prod.fst := by
    rwa [Json.mem_map_fst_sortMembers_iff, Json.map_fst_of_memberMeanings? hns]
  have hsome : sortMembers ns ≠ [] := fun hnil => by
    have hfirst : (ms.head hne).1 ∈ (sortMembers ns).map Prod.fst := by
      rw [Json.mem_map_fst_sortMembers_iff, Json.map_fst_of_memberMeanings? hns]
      exact List.mem_map_of_mem (List.head_mem hne)
    rw [hnil] at hfirst
    cases hfirst
  exact ofJson_of_not_mem hnot hsome

theorem membersReading_eq (hlost : ∀ m ∈ ms, m ∉ sortMembers ms → meaning? m.2 ≠ none) :
    membersReading ms = (memberMeanings? (sortMembers ms)).map readObject := by
  rw [membersReading, Json.memberMeanings?_sortMembers hlost, Option.map_map]
  rfl

/-- **The order in which members were written** does not show. -/
theorem membersReading_of_perm {ms' : List (String × Json)} (hp : ms'.Perm ms) (hd : (ms.map Prod.fst).Nodup) :
    membersReading ms' = membersReading ms := by
  have hd' : (ms'.map Prod.fst).Nodup := (hp.map Prod.fst).nodup_iff.2 hd
  have hkept : ∀ {ms : List (String × Json)}, (ms.map Prod.fst).Nodup →
      ∀ m ∈ ms, m ∉ sortMembers ms → meaning? m.2 ≠ none :=
    fun hd m hm hlost => absurd ((Json.perm_sortMembers hd).mem_iff.2 hm) hlost
  rw [membersReading_eq (hkept hd), membersReading_eq (hkept hd'), Json.sortMembers_eq_of_perm hp hd']

/-! ### The list -/

theorem mapM_meaning?_singletons :
    ∀ {ms : List (String × Json)}, embeddingName ∉ ms.map Prod.fst →
      (ms.map fun m => Json.obj [m]).mapM meaning? = (memberMeanings? ms).map (List.map fun m => .obj [m])
  | [], _ => rfl
  | m :: ms, h => by
    obtain ⟨hm, hms⟩ := not_or.1 fun he => h (List.mem_cons.2 he)
    have hplain : isEmbedding [m] = false := beq_eq_false_iff_ne.2 (Ne.symm hm)
    rw [List.map_cons, List.mapM_cons, mapM_meaning?_singletons hms, Json.meaning?_obj hplain,
      Json.memberMeanings?_cons, Json.memberMeanings?_cons]
    cases meaning? m.2 with
    | none => rfl
    | some v => cases memberMeanings? ms <;> rfl

theorem membersReading_asList (h : embeddingName ∉ ms.map Prod.fst) :
    membersReading (asList ms) = (memberMeanings? ms).map fun ns => readObject (asList ns) := by
  rw [membersReading, asList, Json.memberMeanings?_cons, Json.meaning?_arr, mapM_meaning?_singletons h]
  cases memberMeanings? ms <;> rfl

/-- **An object is read as the list** of its members in order of their names. -/
theorem membersReading_asList_sortMembers (hnegate : negateName ∉ ms.map Prod.fst)
    (htwo : 2 ≤ (sortMembers ms).length) (h : embeddingName ∉ ms.map Prod.fst)
    (hlost : ∀ m ∈ ms, m ∉ sortMembers ms → meaning? m.2 ≠ none) :
    membersReading (asList (sortMembers ms)) = membersReading ms := by
  rw [membersReading_asList (mt Json.mem_map_fst_sortMembers_iff.1 h), membersReading_eq hlost]
  refine Option.map_congr fun ns hns => ?_
  have hnames := Json.map_fst_of_memberMeanings? hns
  have hnot : negateName ∉ ns.map Prod.fst := by rwa [hnames, Json.mem_map_fst_sortMembers_iff]
  have hlength : 2 ≤ ns.length := by
    rwa [← List.length_map Prod.fst, hnames, List.length_map]
  rw [readObject_asList hnot (ne_nil_of_two hlength), readObject_of_two hnot hlength]

end

/-! ### A member more -/

section

variable {before after : List (String × Json)} {flag : Bool} (h : negateName ∉ (before ++ after).map Prod.fst)
include h

theorem filter_negate_insert (v : Json) :
    (before ++ (negateName, v) :: after).filter (fun m => m.1 != negateName) = before ++ after := by
  have hkept := Json.filter_of_not_mem h
  rw [List.filter_append] at hkept ⊢
  rw [List.filter_cons_of_neg (by simp), hkept]

theorem readNegate_insert :
    readNegate (sortMembers (before ++ (negateName, .bool flag) :: after)) = .ok flag := by
  have hafter : negateName ∉ after.map Prod.fst := fun hm => h (by
    rw [List.map_append]
    exact List.mem_append_right _ hm)
  have hmem : (negateName, .bool flag) ∈ sortMembers (before ++ (negateName, .bool flag) :: after) :=
    Json.mem_sortMembers_append before hafter
  rw [readNegate, Json.lookup_of_mem (Json.nodup_sortMembers _) hmem]

theorem filter_sortMembers_insert (v : Json) :
    (sortMembers (before ++ (negateName, v) :: after)).filter (fun m => m.1 != negateName) =
      sortMembers (before ++ after) := by
  rw [← Json.sortMembers_filter (· != negateName), filter_negate_insert h]

omit h in
theorem memberMeanings?_insert : memberMeanings? (before ++ (negateName, .bool flag) :: after) = do
    let before ← memberMeanings? before
    let after ← memberMeanings? after
    return before ++ (negateName, .bool flag) :: after := by
  have hflag : meaning? (.bool flag) = some (.bool flag) := rfl
  rw [Json.memberMeanings?_append, Json.memberMeanings?_cons, hflag]
  cases memberMeanings? before with
  | none => rfl
  | some ns => cases memberMeanings? after <;> rfl

theorem membersReading_insert_false :
    membersReading (before ++ (negateName, .bool false) :: after) = membersReading (before ++ after) := by
  rw [membersReading, membersReading, memberMeanings?_insert, Json.memberMeanings?_append]
  cases hbefore : memberMeanings? before with
  | none => rfl
  | some ns =>
    cases hafter : memberMeanings? after with
    | none => rfl
    | some ns' =>
      have hnot : negateName ∉ (ns ++ ns').map Prod.fst := by
        rwa [List.map_append, Json.map_fst_of_memberMeanings? hbefore, Json.map_fst_of_memberMeanings? hafter,
          ← List.map_append]
      have hsorted : negateName ∉ (sortMembers (ns ++ ns')).map Prod.fst :=
        mt Json.mem_map_fst_sortMembers_iff.1 hnot
      refine congrArg some (readObject_congr ?_ ?_)
      · rw [readNegate_insert hnot, readNegate_of_not_mem hsorted]
      · rw [filter_sortMembers_insert hnot, Json.filter_of_not_mem hsorted]

theorem membersReading_insert_true (htwo : 2 ≤ (sortMembers (before ++ after)).length) :
    ∀ r ∈ membersReading (before ++ (negateName, .bool true) :: after), ∃ e, r = .error e := by
  rw [membersReading, memberMeanings?_insert]
  intro r hr
  obtain ⟨ms, hms, rfl⟩ := Option.map_eq_some_iff.1 hr
  obtain ⟨ns, hbefore, hms⟩ := Option.bind_eq_some_iff.1 hms
  obtain ⟨ns', hafter, hms⟩ := Option.bind_eq_some_iff.1 hms
  cases hms
  have hboth : memberMeanings? (before ++ after) = some (ns ++ ns') := by
    rw [Json.memberMeanings?_append, hbefore, hafter]
    rfl
  have hnot : negateName ∉ (ns ++ ns').map Prod.fst := by
    rwa [Json.map_fst_of_memberMeanings? hboth]
  refine exists_readObject_error_of_negate (readNegate_insert hnot) ?_
  rwa [filter_sortMembers_insert hnot, Json.sortMembers_of_memberMeanings? hboth, List.length_map]

end

theorem readMember_embeddingName (v : Json) :
    readMember embeddingName v = .error (.unknownOperator embeddingName) := by
  have hleaf : ∀ v, readLeaf embeddingName v = .error (.unknownOperator embeddingName) := fun v => by
    rw [readLeaf, if_neg (by decide), if_pos (by decide)]
  unfold readMember
  split
  · rw [if_neg (by decide), if_neg (by decide), hleaf]
  · rw [if_neg (by decide), hleaf]

/-- **A name that is kept for embedded texts** is a fault in any place but the first. -/
theorem membersReading_embeddingName {ms : List (String × Json)} (h : embeddingName ∈ ms.map Prod.fst) :
    ∀ r ∈ membersReading ms, ∃ e, r = .error e := by
  intro r hr
  obtain ⟨ns, hns, rfl⟩ := Option.map_eq_some_iff.1 hr
  rw [← Json.map_fst_of_memberMeanings? hns, ← Json.mem_map_fst_sortMembers_iff] at h
  obtain ⟨m, hm, hname⟩ := List.mem_map.1 h
  refine exists_readObject_error hm (by rw [hname]; decide) fun n hn => ?_
  rw [hname, readMember_embeddingName] at hn
  cases hn

/-! ## Texts -/

theorem not_mem_insert {name : String} {v : Json} {before after : List (String × Json)} (hne : name ≠ negateName)
    (h : name ∉ (before ++ after).map Prod.fst) : name ∉ (before ++ (negateName, v) :: after).map Prod.fst := by
  rw [List.map_append, List.mem_append, not_or] at h
  rw [List.map_append, List.mem_append, List.map_cons, List.mem_cons, not_or, not_or]
  exact ⟨h.1, hne, h.2⟩

section

variable {fs : List Surrounding} {ms : List (String × Json)} {s : String} (hcounts : ∀ f ∈ fs, f.Counts)
  (hoptions : fs = [] → optionsName ∉ ms.map Prod.fst) (hs : Json.read? s = some (within fs (.obj ms)))
include hcounts hoptions hs

theorem ofText_congr {ms' : List (String × Json)} {s' : String} (hplain : isEmbedding ms = false)
    (hplain' : isEmbedding ms' = false) (hne : ms ≠ []) (hne' : ms' ≠ [])
    (hoptions' : fs = [] → optionsName ∉ ms'.map Prod.fst) (hs' : Json.read? s' = some (within fs (.obj ms')))
    (h : membersReading ms = membersReading ms') : Document.ofText s = Document.ofText s' := by
  have hfilter : filterReading (within fs (.obj ms)) = filterReading (within fs (.obj ms')) := by
    refine filterReading_within_congr hcounts (fun hroot => ?_) fun _ => ?_
    · rw [filterReading_obj hplain (hoptions hroot) hne, filterReading_obj hplain' (hoptions' hroot) hne', h]
    · rw [itemReading_obj hplain, itemReading_obj hplain', h]
  rw [Document.ofText_eq hs, Document.ofText_eq hs', hfilter]

theorem ofText_refused_of_two (htwo : 2 ≤ ms.length) (h : ∀ r ∈ membersReading ms, ∃ e, r = .error e) :
    ∃ fault, Document.ofText s = .error (.illFormed fault) := by
  cases hembedding : isEmbedding ms with
  | true =>
    -- there is nothing that could be accepted
    have hnone := Json.meaning?_embedding hembedding (ne_singleton_of_two htwo)
    refine Document.ofText_refused hs (filterReading_within_refused hcounts (fun _ r hr => ?_) fun _ r hr => ?_)
    · rw [filterReading, hnone] at hr
      cases hr
    · rw [itemReading, hnone] at hr
      cases hr
  | false =>
    refine Document.ofText_refused hs (filterReading_within_refused hcounts (fun hroot r hr => ?_) fun _ r hr => ?_)
    · rw [filterReading_obj hembedding (hoptions hroot) (ne_nil_of_two htwo)] at hr
      obtain ⟨r', hr', rfl⟩ := Option.map_eq_some_iff.1 hr
      obtain ⟨e, rfl⟩ := h r' hr'
      exact ⟨e, rfl⟩
    · rw [itemReading_obj hembedding] at hr
      obtain ⟨r', hr', rfl⟩ := Option.map_eq_some_iff.1 hr
      exact fun _ => h r' hr'

end

/-- What is said of the members of an object, and of the texts of filters in which it is a condition. -/
structure JoinsMembers (fs : List Surrounding) (ms : List (String × Json)) : Prop where
  /-- The members that count are the last of their names, and stand in ascending order. -/
  sorted : (sortMembers ms).Pairwise (fun m n => m.1 < n.1) ∧
    ∀ m, m ∈ sortMembers ms ↔ (ms.filter fun n => n.1 == m.1).getLast? = some m
  /-- Without a name that is kept for embedded texts, the object is read as the list of these members. -/
  as_list : embeddingName ∉ ms.map Prod.fst → (∀ m ∈ ms, m ∉ sortMembers ms → meaning? m.2 ≠ none) → ∀ s s',
    Json.read? s = some (within fs (.obj ms)) → Json.read? s' = some (within fs (.obj (asList (sortMembers ms)))) →
      Document.ofText s = Document.ofText s'
  /-- And in whatever order its members are written, if no name occurs twice. -/
  any_order : embeddingName ∉ ms.map Prod.fst → (ms.map Prod.fst).Nodup → ∀ ms', ms'.Perm ms → ∀ s s',
    Json.read? s = some (within fs (.obj ms)) → Json.read? s' = some (within fs (.obj ms')) →
      Document.ofText s = Document.ofText s'
  /-- A further member that negates nothing changes nothing. -/
  negate_false : embeddingName ∉ ms.map Prod.fst → ∀ before after, before ++ after = ms → ∀ s s',
    Json.read? s = some (within fs (.obj ms)) →
      Json.read? s' = some (within fs (.obj (before ++ (negateName, .bool false) :: after))) →
        Document.ofText s = Document.ofText s'
  /-- A further member that negates is always refused. -/
  negate_true : ∀ before after, before ++ after = ms → ∀ s,
    Json.read? s = some (within fs (.obj (before ++ (negateName, .bool true) :: after))) →
      ∃ fault, Document.ofText s = .error (.illFormed fault)
  /-- An object with a name that is kept for embedded texts is always refused, too. -/
  embedding : embeddingName ∈ ms.map Prod.fst → ∀ s, Json.read? s = some (within fs (.obj ms)) →
    ∃ fault, Document.ofText s = .error (.illFormed fault)

/-- **Several members of an object are joined by "and"**, wherever the object stands in a filter, unless one of them has
the name that is kept for embedded texts. -/
theorem joinsMembers {fs : List Surrounding} (hcounts : ∀ f ∈ fs, f.Counts) {ms : List (String × Json)}
    (htwo : 2 ≤ (sortMembers ms).length) (hnegate : negateName ∉ ms.map Prod.fst)
    (hoptions : fs = [] → optionsName ∉ ms.map Prod.fst) : JoinsMembers fs ms where
  sorted := ⟨Json.pairwise_sortMembers ms, fun m => Json.mem_sortMembers_iff⟩
  as_list hname hlost s s' hs hs' := by
    have hne : ms ≠ [] := ne_nil_of_two (Nat.le_trans htwo (Json.length_sortMembers_le ms))
    have hne' : asList (sortMembers ms) ≠ [] := List.cons_ne_nil _ _
    have hread := membersReading_asList_sortMembers hnegate htwo hname hlost
    exact ofText_congr hcounts hoptions hs (Json.isEmbedding_of_not_mem hname) rfl hne hne'
      (fun _ => (by decide : optionsName ∉ [Connective.and.memberName])) hs' hread.symm
  any_order hname hd ms' hp s s' hs hs' := by
    have hnames : ∀ name, name ∉ ms.map Prod.fst → name ∉ ms'.map Prod.fst := fun name =>
      mt (hp.map Prod.fst).mem_iff.1
    have hne : ms ≠ [] := ne_nil_of_two (Nat.le_trans htwo (Json.length_sortMembers_le ms))
    have hne' : ms' ≠ [] := mt (fun hnil : ms' = [] => (hnil ▸ hp).nil_eq.symm) hne
    exact ofText_congr hcounts hoptions hs (Json.isEmbedding_of_not_mem hname)
      (Json.isEmbedding_of_not_mem (hnames _ hname)) hne hne' (fun hroot => hnames _ (hoptions hroot)) hs'
      (membersReading_of_perm hp hd).symm
  negate_false := by
    rintro hname before after rfl s s' hs hs'
    have hne : before ++ after ≠ [] := ne_nil_of_two (Nat.le_trans htwo (Json.length_sortMembers_le _))
    have hne' : before ++ (negateName, Json.bool false) :: after ≠ [] :=
      List.append_ne_nil_of_right_ne_nil _ (List.cons_ne_nil _ _)
    exact ofText_congr hcounts hoptions hs (Json.isEmbedding_of_not_mem hname)
      (Json.isEmbedding_of_not_mem (not_mem_insert (by decide) hname)) hne hne'
      (fun hroot => not_mem_insert (by decide) (hoptions hroot)) hs' (membersReading_insert_false hnegate).symm
  negate_true := by
    rintro before after rfl s hs
    have hlength := Nat.le_trans htwo (Json.length_sortMembers_le _)
    have hmore : 2 ≤ (before ++ (negateName, Json.bool true) :: after).length := by
      rw [List.length_append] at hlength
      rw [List.length_append, List.length_cons]
      omega
    exact ofText_refused_of_two hcounts (fun hroot => not_mem_insert (by decide) (hoptions hroot)) hs hmore
      (membersReading_insert_true hnegate htwo)
  embedding hname s hs :=
    ofText_refused_of_two hcounts hoptions hs (Nat.le_trans htwo (Json.length_sortMembers_le ms))
      (membersReading_embeddingName hname)

def titleAndState : List (String × Json) :=
  [("title", .str "x"), ("state", .obj [("$NE", .null)])]

def beside : Surrounding :=
  ⟨[], .or, [.obj [("state", .str "new")]], [], []⟩

theorem read?_compact {v : Json} (h : v.isNatural = true) (hdepth : v.depth ≤ Json.maxDepth) :
    Json.read? v.compact = some v :=
  Json.read?_render .compact h hdepth

theorem joinsMembers_titleAndState :
    (∀ f ∈ [beside], f.Counts) ∧ 2 ≤ (sortMembers titleAndState).length ∧ negateName ∉ titleAndState.map Prod.fst ∧
      embeddingName ∉ titleAndState.map Prod.fst ∧
      Document.ofText (within [beside] (.obj titleAndState)).compact =
        Document.ofText (within [beside] (.obj (asList (sortMembers titleAndState)))).compact := by
  have hcounts : ∀ f ∈ [beside], f.Counts := by
    rw [List.forall_mem_singleton]
    exact List.not_mem_nil
  have htwo : 2 ≤ (sortMembers titleAndState).length := by decide +kernel
  have hnegate : negateName ∉ titleAndState.map Prod.fst := by decide
  have hname : embeddingName ∉ titleAndState.map Prod.fst := by decide
  have hjoins := joinsMembers hcounts htwo hnegate nofun
  have hkept : ∀ m ∈ titleAndState, m ∉ sortMembers titleAndState → meaning? m.2 ≠ none := fun m hm hlost =>
    absurd ((Json.perm_sortMembers (by decide)).mem_iff.2 hm) hlost
  exact ⟨hcounts, htwo, hnegate, hname, hjoins.as_list hname hkept _ _
    (read?_compact (by decide +kernel) (by decide +kernel)) (read?_compact (by decide +kernel) (by decide +kernel))⟩

def textAndTitle : List (String × Json) :=
  [(embeddingName, .str "\x7b\"state\": \"open\"\x7d"), ("title", .str "x")]

/-- **Members that are not read as the list** of them: the object is refused, and the list is read. -/
theorem not_joins_textAndTitle :
    2 ≤ (sortMembers textAndTitle).length ∧ negateName ∉ textAndTitle.map Prod.fst ∧
      optionsName ∉ textAndTitle.map Prod.fst ∧
      Json.read? (Json.obj textAndTitle).compact = some (.obj textAndTitle) ∧
      Json.read? (Json.obj (asList (sortMembers textAndTitle))).compact =
        some (.obj (asList (sortMembers textAndTitle))) ∧
      Document.ofText (Json.obj textAndTitle).compact ≠
        Document.ofText (Json.obj (asList (sortMembers textAndTitle))).compact := by
  have hrefused : (Document.ofText (Json.obj textAndTitle).compact).toOption.isSome = false := by decide +kernel
  have hread : (Document.ofText (Json.obj (asList (sortMembers textAndTitle))).compact).toOption.isSome = true := by
    decide +kernel
  refine ⟨by decide +kernel, by decide, by decide, read?_compact (by decide +kernel) (by decide +kernel),
    read?_compact (by decide +kernel) (by decide +kernel), fun h => ?_⟩
  rw [h, hread] at hrefused
  cases hrefused

end Filter
end Backlog
