import Backlog.CommandLine
/-!
# Arguments — a command as the arguments that ask for it

Every command can be asked for.  Its options are written one after the other, each with its value in the next argument
(`CommandLine.written`), and the reader takes them back in one pass, by induction on the options
(`takeOptions_written`).  So the arguments of an invocation ask for that invocation (`read_arguments`), as long as no
value starts with a hyphen, the files have names and the numbers have 64 bits.
-/
namespace Backlog

def Command.name : Command → String
  | query .. => "query"
  | check .. => "check"
  | schema => "schema"

/-- The options of a command by their names, those that are left out without a value. -/
def Command.fields : Command → List (String × Option String)
  | query data filter space offset limit =>
    [("data", some data), ("filter", some filter), ("space", space), ("offset", offset.map Text.decimal),
      ("limit", limit.map Text.decimal)]
  | check filter data space => [("filter", some filter), ("data", data), ("space", space)]
  | schema => []

namespace CommandLine

/-- Options as arguments, each with its value in the argument after it. -/
def written : List (String × Option String) → List String
  | [] => []
  | (_, none) :: fields => written fields
  | (name, some value) :: fields => ("--" ++ name) :: value :: written fields

/-- A text that is not taken for an option. -/
def StandsAlone (s : String) : Prop :=
  s.toList.head? ≠ some '-'

instance (s : String) : Decidable (StandsAlone s) :=
  inferInstanceAs (Decidable (_ ≠ _))

/-- A name of an option with a value. -/
def IsOptionName (name : String) : Prop :=
  Argument.of ("--" ++ name) = .long name none ∧ name ≠ "quiet" ∧ name ≠ "help"

instance (name : String) : Decidable (IsOptionName name) :=
  inferInstanceAs (Decidable (_ ∧ _ ∧ _))

/-- Whether options can be given: each is one that is allowed, and has no value or one of its kind. -/
def AreAllowed (options : Options) (fields : List (String × Option String)) : Prop :=
  ∀ field ∈ fields, IsOptionName field.1 ∧ ∃ kind, options.lookup field.1 = some kind ∧
    ∀ value ∈ field.2, StandsAlone value ∧ kind.accepts value = true

end CommandLine

def Invocation.arguments (i : Invocation) : List String :=
  (if i.quiet then ["--quiet"] else []) ++ CommandLine.written [("config", some i.config)] ++
    i.command.name :: CommandLine.written i.command.fields

namespace CommandLine

theorem of_eq_plain {s : String} (h : StandsAlone s) : Argument.of s = .plain := by
  unfold StandsAlone at h
  unfold Argument.of
  split <;> simp_all

theorem standsAlone_decimal (n : Nat) : StandsAlone (Text.decimal n) := by
  intro h
  rw [Text.decimal, String.toList_ofList] at h
  have hdigit : '-'.isDigit = true :=
    List.all_eq_true.1 (Text.all_isDigit_digits n) '-' (List.mem_of_mem_head? h)
  exact absurd hdigit (by decide)

/-! ## Options -/

variable {options : Options} (rest : List String)

/-- **One option** with its value in the next argument, or one without a value, which is left out. -/
theorem takeOptions_field (g : Given) {field : String × Option String} (hallowed : AreAllowed options [field])
    (hnew : g.value? field.1 = none) :
    ∃ values, takeOptions options g (written [field] ++ rest) = takeOptions options { g with values } rest ∧
      ∀ name, values.lookup name = (if name = field.1 then field.2 else none).or (g.value? name) := by
  obtain ⟨name, value⟩ := field
  obtain ⟨⟨hof, hquiet, hhelp⟩, kind, hkind, hvalue⟩ := hallowed _ List.mem_cons_self
  cases value with
  | none => exact ⟨g.values, rfl, fun name => by simp [Given.value?]⟩
  | some value =>
    obtain ⟨hplain, haccepts⟩ := hvalue value rfl
    have hset : g.set kind name value = .ok { g with values := (name, value) :: g.values } := by
      rw [Given.value?] at hnew
      simp [Given.set, hnew, haccepts]
    refine ⟨(name, value) :: g.values, ?_, fun other => ?_⟩
    · rw [written, List.cons_append, List.cons_append, takeOptions, hof]
      simp only [hkind, of_eq_plain hplain, hset]
      rfl
    · rw [List.lookup_cons]
      by_cases h : other = name
      · simp [h]
      · simp [h, beq_eq_false_iff_ne.2 h, Given.value?]

theorem written_cons (field : String × Option String) (fields : List (String × Option String)) :
    written (field :: fields) = written [field] ++ written fields := by
  obtain ⟨name, value⟩ := field
  cases value <;> rfl

/-- **Options that are written are taken back**, each with its value. -/
theorem takeOptions_written : ∀ (fields : List (String × Option String)) (g : Given), AreAllowed options fields →
    (fields.map Prod.fst).Nodup → (∀ field ∈ fields, g.value? field.1 = none) →
    ∃ values, takeOptions options g (written fields ++ rest) = takeOptions options { g with values } rest ∧
      ∀ name, values.lookup name = (fields.lookup name).join.or (g.value? name)
  | [], g, _, _, _ => ⟨g.values, rfl, fun _ => rfl⟩
  | field :: fields, g, hallowed, hnodup, hnew => by
    rw [List.map_cons, List.nodup_cons] at hnodup
    obtain ⟨hfirst, hothers⟩ := List.forall_mem_cons.1 hallowed
    obtain ⟨hnewFirst, hnewOthers⟩ := List.forall_mem_cons.1 hnew
    obtain ⟨values, hvalues, hlookup⟩ := takeOptions_field (written fields ++ rest) g
      (List.forall_mem_singleton.2 hfirst) hnewFirst
    have hkept : ∀ other ∈ fields, (⟨g.quiet, values, g.wrong⟩ : Given).value? other.1 = none := by
      intro other hother
      have hne : other.1 ≠ field.1 := fun h => hnodup.1 (h ▸ List.mem_map_of_mem hother)
      rw [Given.value?, hlookup, if_neg hne, hnewOthers other hother]
      rfl
    obtain ⟨values', hvalues', hlookup'⟩ := takeOptions_written fields ⟨g.quiet, values, g.wrong⟩ hothers hnodup.2 hkept
    refine ⟨values', ?_, fun name => ?_⟩
    · rw [written_cons, List.append_assoc, hvalues, hvalues']
    · rw [hlookup', Given.value?, hlookup, List.lookup_cons]
      by_cases h : name = field.1
      · subst h
        have hlast : fields.lookup field.1 = none := by
          rw [List.lookup_eq_none_iff]
          intro other hother
          have hne : field.1 ≠ other.1 := fun h => hnodup.1 (h ▸ List.mem_map_of_mem hother)
          exact bne_iff_ne.2 hne
        simp [hlast]
      · simp [h, beq_eq_false_iff_ne.2 h]

/-! ## Invocations -/

/-- A path that can be given as the value of an option. -/
def IsPath (s : String) : Prop :=
  StandsAlone s ∧ s ≠ ""

instance (s : String) : Decidable (IsPath s) :=
  inferInstanceAs (Decidable (_ ∧ _))

end CommandLine

open CommandLine (StandsAlone IsPath)

/-- Whether a command can be asked for with every value in an argument of its own. -/
def Command.CanBeGiven : Command → Prop
  | query data filter space offset limit => IsPath data ∧ StandsAlone filter ∧ (∀ s ∈ space, StandsAlone s) ∧
    (∀ n ∈ offset, n ≤ Text.maxWord) ∧ ∀ n ∈ limit, n ≤ Text.maxWord
  | check filter data space => StandsAlone filter ∧ (∀ path ∈ data, IsPath path) ∧ ∀ s ∈ space, StandsAlone s
  | schema => True

instance : (c : Command) → Decidable c.CanBeGiven
  | .query data filter space offset limit => inferInstanceAs (Decidable (IsPath data ∧ StandsAlone filter ∧
      (∀ s ∈ space, StandsAlone s) ∧ (∀ n ∈ offset, n ≤ Text.maxWord) ∧ ∀ n ∈ limit, n ≤ Text.maxWord))
  | .check filter data space => inferInstanceAs (Decidable (StandsAlone filter ∧ (∀ path ∈ data, IsPath path) ∧
      ∀ s ∈ space, StandsAlone s))
  | .schema => .isTrue trivial

/-- Whether an invocation can be asked for with every value in an argument of its own. -/
def Invocation.CanBeGiven (i : Invocation) : Prop :=
  IsPath i.config ∧ i.command.CanBeGiven

instance (i : Invocation) : Decidable i.CanBeGiven :=
  inferInstanceAs (Decidable (_ ∧ _))

namespace CommandLine

variable {c : Command}

theorem accepts_decimal {n : Nat} (h : n ≤ Text.maxWord) : ValueKind.number.accepts (Text.decimal n) = true := by
  rw [ValueKind.accepts, Text.decimal, String.toList_ofList, Text.readWord?_digits h]
  rfl

theorem isAllowed_of_path {path : String} (h : IsPath path) :
    StandsAlone path ∧ ValueKind.path.accepts path = true :=
  ⟨h.1, bne_iff_ne.2 h.2⟩

theorem isAllowed_of_number {number : Option Nat} (h : ∀ n ∈ number, n ≤ Text.maxWord) :
    ∀ value ∈ number.map Text.decimal, StandsAlone value ∧ ValueKind.number.accepts value = true := by
  intro value hvalue
  obtain ⟨n, hn, rfl⟩ := Option.map_eq_some_iff.1 hvalue
  exact ⟨standsAlone_decimal n, accepts_decimal (h n hn)⟩

theorem areAllowed_fields (h : c.CanBeGiven) :
    ∃ options, commands.lookup c.name = some options ∧ AreAllowed (commonOptions ++ options) c.fields := by
  cases c with
  | query data filter space offset limit =>
    obtain ⟨hdata, hfilter, hspace, hoffset, hlimit⟩ := h
    refine ⟨_, rfl, ?_⟩
    simp only [AreAllowed, Command.fields, List.forall_mem_cons]
    refine ⟨⟨by decide, .path, rfl, ?_⟩, ⟨by decide, .text, rfl, ?_⟩, ⟨by decide, .text, rfl, ?_⟩,
      ⟨by decide, .number, rfl, ?_⟩, ⟨by decide, .number, rfl, ?_⟩, List.forall_mem_nil _⟩
    · rintro _ ⟨⟩
      exact isAllowed_of_path hdata
    · rintro _ ⟨⟩
      exact ⟨hfilter, rfl⟩
    · exact fun s hs => ⟨hspace s hs, rfl⟩
    · exact isAllowed_of_number hoffset
    · exact isAllowed_of_number hlimit
  | check filter data space =>
    obtain ⟨hfilter, hdata, hspace⟩ := h
    refine ⟨_, rfl, ?_⟩
    simp only [AreAllowed, Command.fields, List.forall_mem_cons]
    refine ⟨⟨by decide, .text, rfl, ?_⟩, ⟨by decide, .path, rfl, ?_⟩, ⟨by decide, .text, rfl, ?_⟩,
      List.forall_mem_nil _⟩
    · rintro _ ⟨⟩
      exact ⟨hfilter, rfl⟩
    · exact fun path hpath => isAllowed_of_path (hdata path hpath)
    · exact fun s hs => ⟨hspace s hs, rfl⟩
  | schema => exact ⟨_, rfl, List.forall_mem_nil _⟩

theorem number_map_decimal {number : Option Nat} (h : ∀ n ∈ number, n ≤ Text.maxWord) :
    (number.map Text.decimal).bind (fun s => Text.readWord? s.toList) = number := by
  cases number with
  | none => rfl
  | some n =>
    rw [Option.map_some, Option.bind_some, Text.decimal, String.toList_ofList]
    exact Text.readWord?_digits (h n rfl)

theorem command_fields {taken : Given} (h : c.CanBeGiven)
    (hvalues : ∀ name, taken.value? name = (c.fields.lookup name).join) : command c.name taken = .ok c := by
  cases c with
  | query data filter space offset limit =>
    obtain ⟨-, -, -, hoffset, hlimit⟩ := h
    have hdata : taken.needed "data" = .ok data := by
      rw [Given.needed, hvalues]
      rfl
    have hfilter : taken.needed "filter" = .ok filter := by
      rw [Given.needed, hvalues]
      rfl
    have hspace : taken.value? "space" = space := hvalues "space"
    have hoffset : taken.number? "offset" = offset := by
      rw [Given.number?, hvalues]
      exact number_map_decimal hoffset
    have hlimit : taken.number? "limit" = limit := by
      rw [Given.number?, hvalues]
      exact number_map_decimal hlimit
    show (taken.needed "data" >>= fun data => taken.needed "filter" >>= fun filter => _) = _
    rw [hdata, hfilter, hspace, hoffset, hlimit]
    rfl
  | check filter data space =>
    have hfilter : taken.needed "filter" = .ok filter := by
      rw [Given.needed, hvalues]
      rfl
    have hdata : taken.value? "data" = data := hvalues "data"
    have hspace : taken.value? "space" = space := hvalues "space"
    show (taken.needed "filter" >>= fun filter => _) = _
    rw [hfilter, hdata, hspace]
    rfl
  | schema => rfl

theorem nodup_fields (c : Command) : (c.fields.map Prod.fst).Nodup := by
  cases c with
  | query =>
    show ["data", "filter", "space", "offset", "limit"].Nodup
    decide
  | check =>
    show ["filter", "data", "space"].Nodup
    decide
  | schema => exact List.nodup_nil

theorem takeOptions_fields {options : Options} (h : AreAllowed options c.fields) :
    ∃ taken : Given, takeOptions options .nothing (written c.fields) = .ok (taken, []) ∧ taken.quiet = false ∧
      ∀ name, taken.value? name = (c.fields.lookup name).join := by
  obtain ⟨values, htaken, hvalues⟩ := takeOptions_written [] c.fields .nothing h (nodup_fields c) fun _ _ => rfl
  rw [List.append_nil] at htaken
  refine ⟨⟨false, values, false⟩, htaken.trans rfl, rfl, fun name => ?_⟩
  rw [Given.value?, hvalues]
  exact Option.or_none

theorem takeOptions_quiet (options : Options) (quiet : Bool) (rest : List String) :
    takeOptions options .nothing ((if quiet then ["--quiet"] else []) ++ rest) =
      takeOptions options { Given.nothing with quiet } rest := by
  cases quiet <;> rfl

theorem takeOptions_arguments {i : Invocation} (h : IsPath i.config) :
    ∃ common : Given, takeOptions commonOptions .nothing i.arguments =
        .ok (common, i.command.name :: written i.command.fields) ∧
      common.quiet = i.quiet ∧ common.value? "config" = some i.config ∧ common.wrong = false := by
  have hallowed : AreAllowed commonOptions [("config", some i.config)] := by
    have hname : IsOptionName "config" := by decide
    refine List.forall_mem_singleton.2 ⟨hname, .path, rfl, ?_⟩
    rintro _ ⟨⟩
    exact isAllowed_of_path h
  have hname : StandsAlone i.command.name := by
    cases i.command <;> simp [Command.name, StandsAlone]
  obtain ⟨values, htaken, hvalues⟩ := takeOptions_field (i.command.name :: written i.command.fields)
    { Given.nothing with quiet := i.quiet } hallowed rfl
  refine ⟨⟨i.quiet, values, false⟩, ?_, rfl, (hvalues "config").trans rfl, rfl⟩
  rw [Invocation.arguments, List.append_assoc, takeOptions_quiet, htaken, takeOptions, of_eq_plain hname]
  rfl

/-- **The arguments of an invocation ask for it.** -/
theorem read_arguments {i : Invocation} (h : i.CanBeGiven) : read i.arguments = .ok i := by
  obtain ⟨common, hcommon, hquiet, hconfig, hwrong⟩ := takeOptions_arguments h.1
  obtain ⟨options, hoptions, hallowed⟩ := areAllowed_fields h.2
  obtain ⟨own, hown, hownQuiet, hvalues⟩ := takeOptions_fields hallowed
  have hownConfig : own.value? "config" = none := by
    rw [hvalues]
    cases i.command <;> rfl
  -- `help` would be taken for a wish, whatever follows it
  have hhelp : i.command.name ≠ "help" := by
    cases i.command <;> simp [Command.name]
  have hcommand : command i.command.name own = .ok i.command := command_fields h.2 hvalues
  simp only [read, hcommon, bind, Except.bind, hoptions, hown, hwrong, hquiet, hownQuiet, hownConfig, hconfig, hcommand,
    Bool.or_false]
  rfl

end CommandLine
end Backlog
