import Backlog.Proofs.Filter.Meaning
import Backlog.Search
import Mathlib.Data.List.Basic
/-!
# Spelling — a check goes by the spelling of a reference, a query by its stored form

A query converts the spaces and types that it names, so that each spelling of a UUID stands for the same one.  The
warnings of a check compare them with the catalog as they are written.  So a reference that the query resolves
(`Reference.IsResolved`) gives no warning as long as it is written in its stored form, and the space of the request with
it (`WarnsBySpelling.silent`); in any other spelling it gives one unless the catalog has it in that spelling, too
(`WarnsBySpelling.warned_iff`), though the query finds what is there.
-/
namespace Backlog
namespace Filter

namespace Reference

/-- Whether a query finds what is referred to in the catalog: its stored form is declared, and for a type that is so in
the space of the request, if there is one, in the stored form of that. -/
def IsResolved (s : Store) (request : Option String) : Reference → Prop
  | space id => s.spaces.contains (Conversion.identifier id) = true
  | type id => ∃ t ∈ s.types.entries, SameIdentifier id t.id ∧ ∀ raw ∈ request, SameIdentifier raw t.space

/-- Whether the catalog has what is referred to as it is written. -/
def IsWritten (s : Store) (request : Option String) : Reference → Prop
  | space id => s.spaces.contains id = true
  | type id => ∃ t ∈ s.types.entries, t.id = id ∧ ∀ raw ∈ request, raw = t.space

/-- Whether a reference is in its stored form, and for a type also the space of the request. -/
def IsStored (request : Option String) : Reference → Prop
  | space id => Conversion.identifier id = id
  | type id => Conversion.identifier id = id ∧ ∀ raw ∈ request, Conversion.identifier raw = raw

def whereMissing (request : Option String) : String :=
  request.elim "' is not declared in the dataset" fun space => "' is not declared in space '" ++ space ++ "'"

theorem warning_space (request : Option String) (id : String) :
    (space id).warning request = "Space '" ++ id ++ "' is not declared in the dataset" := rfl

theorem warning_type (request : Option String) (id : String) :
    (type id).warning request = "Work item type '" ++ id ++ whereMissing request := by
  cases request with
  | none => rfl
  | some space =>
    show "Work item type '" ++ id ++ "' is not declared in space '" ++ space ++ "'" = _
    rw [whereMissing, Option.elim_some, ← String.append_assoc, ← String.append_assoc]

theorem warning_space_ne_type (request : Option String) (a b : String) :
    (space a).warning request ≠ (type b).warning request := by
  intro h
  have hhead := congrArg (fun text => text.toList.head?) h
  simp only [warning_space, warning_type, String.append_assoc, String.toList_append] at hhead
  cases hhead

/-- **Warnings about different references are different.** -/
theorem warning_injective (request : Option String) : Function.Injective (warning request) := by
  intro a b h
  cases a with
  | space a =>
    cases b with
    | space b =>
      rw [warning_space, warning_space, String.append_left_inj, String.append_right_inj] at h
      exact congrArg space h
    | type b => exact absurd h (warning_space_ne_type request a b)
  | type a =>
    cases b with
    | space b => exact absurd h.symm (warning_space_ne_type request b a)
    | type b =>
      rw [warning_type, warning_type, String.append_left_inj, String.append_right_inj] at h
      exact congrArg type h

variable {s : Store} {request : Option String} {ref : Reference}

theorem allows_iff_of_isResolved (h : ref.IsResolved s request) :
    (Catalog.ofStore s).allows request ref = true ↔ ref.IsWritten s request := by
  cases ref with
  | space id =>
    -- a catalog that declares nothing has nothing against a reference, but then nothing is resolved
    obtain ⟨declared, hdeclared, -⟩ := List.any_eq_true.1 h
    have hsome : s.spaces.entries.isEmpty = false := List.isEmpty_eq_false_iff_exists_mem.2 ⟨declared, hdeclared⟩
    rw [Catalog.allows, Catalog.ofStore, hsome, Bool.false_or]
    rfl
  | type id =>
    obtain ⟨declared, hdeclared, -⟩ := h
    have hsome : s.types.entries.isEmpty = false := List.isEmpty_eq_false_iff_exists_mem.2 ⟨declared, hdeclared⟩
    rw [Catalog.allows, Catalog.ofStore, hsome, Bool.false_or, List.any_eq_true]
    refine exists_congr fun t => and_congr_right fun _ => ?_
    cases request <;> simp

theorem isWritten_of_isStored (h : ref.IsResolved s request) (hstored : ref.IsStored request) :
    ref.IsWritten s request := by
  cases ref with
  | space id =>
    have hid : Conversion.identifier id = id := hstored
    rwa [IsResolved, hid] at h
  | type id =>
    obtain ⟨hid, hrequest⟩ := hstored
    obtain ⟨t, ht, hsame, hspace⟩ := h
    refine ⟨t, ht, hsame.symm.trans hid, ?_⟩
    intro raw hraw
    exact (hrequest raw hraw).symm.trans (hspace raw hraw)

end Reference

variable {s : Store} {d : Document} {request : Option String} {ref : Reference}

/-- **A reference is warned about** exactly if the catalog does not know it as it is written. -/
theorem warning_mem_warnings_iff (hmem : ref ∈ d.references request) :
    ref.warning request ∈ warnings s d request ↔ (Catalog.ofStore s).allows request ref = false := by
  rw [warnings, Catalog.warnings, List.mem_eraseDups, List.mem_map_of_injective (Reference.warning_injective request),
    Catalog.undeclared, List.mem_filter, and_iff_right hmem, Bool.not_eq_true']

/-- What warnings say of the references of a request that the query resolves. -/
structure WarnsBySpelling (s : Store) (d : Document) (request : Option String) (warnings : List String) : Prop where
  /-- There is one about such a reference exactly if the catalog has it in another spelling only. -/
  warned_iff : ∀ ref ∈ d.references request, ref.IsResolved s request →
    (ref.warning request ∈ warnings ↔ ¬ref.IsWritten s request)
  /-- So there is none if the reference is in its stored form. -/
  silent : ∀ ref ∈ d.references request, ref.IsResolved s request → ref.IsStored request →
    ref.warning request ∉ warnings

theorem warnsBySpelling (s : Store) (d : Document) (request : Option String) :
    WarnsBySpelling s d request (warnings s d request) := by
  have hwarned : ∀ ref ∈ d.references request, ref.IsResolved s request →
      (ref.warning request ∈ warnings s d request ↔ ¬ref.IsWritten s request) := by
    intro ref hmem hresolved
    rw [warning_mem_warnings_iff hmem, ← Reference.allows_iff_of_isResolved hresolved, Bool.not_eq_true]
  refine ⟨hwarned, ?_⟩
  intro ref hmem hresolved hstored hwarning
  exact (hwarned ref hmem hresolved).1 hwarning (Reference.isWritten_of_isStored hresolved hstored)

end Filter

namespace Engine

open Backlog.Filter (Document Compiled Reference WarnsBySpelling)

/-- **A check of a filter that compiles** has warnings, which go by the spelling of the references. -/
theorem check_warnsBySpelling {s : Store} {c : Config} {d : Document} {request : Option String} {k : Compiled}
    (h : (ofConfig s c).compile d request = .ok k) :
    ∃ warnings, (ofConfig s c).check d request = .ok warnings ∧ WarnsBySpelling s d request warnings := by
  refine ⟨Filter.warnings s d request, ?_, Filter.warnsBySpelling s d request⟩
  rw [check, h]
  rfl

/-! ## A space in capitals -/

def crash : WorkItem :=
  .new "1" ⟨⟨2024, 2, 29, 16, 45, 0, 0⟩, by decide⟩ "6a1b2c3d-4e5f-4071-8293-a4b5c6d7e8f9" "bug" "Crash"

def platform : Store :=
  .ofDataset ⟨[⟨crash.space, "Platform"⟩], [⟨crash.type, crash.space, "Bug"⟩], [], [], [], [], [], [crash]⟩

def bugsOfPlatform : Document :=
  ⟨.combinator .and [.comparison ⟨"space", .eq, .text "6A1B2C3D4E5F40718293A4B5C6D7E8F9", false⟩,
    .comparison ⟨"type", .eq, .text "bug", false⟩] false, false⟩

theorem check_warnsBySpelling_bugsOfPlatform :
    (∃ k, (ofConfig platform .none).compile bugsOfPlatform none = .ok k) ∧
      ∃ warnings, (ofConfig platform .none).check bugsOfPlatform none = .ok warnings ∧
        (Reference.space "6A1B2C3D4E5F40718293A4B5C6D7E8F9").warning none ∈ warnings ∧
        (Reference.type "bug").warning none ∉ warnings := by
  obtain ⟨k, hk⟩ : ∃ k, (ofConfig platform .none).compile bugsOfPlatform none = .ok k := ⟨_, rfl⟩
  obtain ⟨warnings, hcheck, hwarns⟩ := check_warnsBySpelling hk
  refine ⟨⟨k, hk⟩, warnings, hcheck, ?_, ?_⟩
  · refine (hwarns.warned_iff _ (by decide) ?_).2 ?_
    · show platform.spaces.contains (Filter.Conversion.identifier _) = true
      decide +kernel
    · show ¬platform.spaces.contains _ = true
      decide +kernel
  · exact hwarns.silent _ (by decide) ⟨_, List.mem_cons_self, rfl, nofun⟩ ⟨rfl, nofun⟩

/-- **A check may warn about a space that the query resolves**, and in which it finds something. -/
theorem check_warns_about_platform :
    (∃ k, (ofConfig platform .none).compile bugsOfPlatform none = .ok k ∧ crash ∈ platform.matchesOf k.predicate) ∧
      Reference.space "6A1B2C3D4E5F40718293A4B5C6D7E8F9" ∈ bugsOfPlatform.references none ∧
      platform.spaces.contains (Filter.Conversion.identifier "6A1B2C3D4E5F40718293A4B5C6D7E8F9") = true ∧
      (ofConfig platform .none).check bugsOfPlatform none =
        .ok ["Space '6A1B2C3D4E5F40718293A4B5C6D7E8F9' is not declared in the dataset"] :=
  ⟨⟨_, rfl, by decide +kernel⟩, by decide, by decide +kernel, by decide +kernel⟩

end Engine
end Backlog
