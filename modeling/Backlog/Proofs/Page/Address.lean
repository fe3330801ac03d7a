import Backlog.Proofs.Service.Concord
import Backlog.Proofs.Text.Percent
/-!
# Address — the address of a page asks for the page

Somebody who turns a page follows an address, so the address has to ask for the same as the request it came from.  The
query string of an address is read as the parameters of a request (`splitQuery_query`), whatever characters stand in the
expression and in the space, so the service makes of it that request with the offset and the limit of the page.  And the
query string can be told from what stands before it, since there is no slash in it.  So different requests never share
an address (`link_reproduces`), and an address of one request leads to one page (`link_inj`).
-/
namespace Backlog
namespace LinkTarget

def request (t : LinkTarget) (p : Page) : Request :=
  ⟨t.expression, t.space, some p.offset, some p.limit⟩

/-! ## What stands in an address -/

theorem query_eq_fields (t : LinkTarget) (p : Page) :
    (t.query p).toList = Text.field "filter[expression]" (Text.percentEncode t.expression) ++
      (t.space.toList.flatMap fun space => '&' :: Text.field "spaceID" (Text.percentEncode space)) ++
      '&' :: (Text.field "page[offset]" (Text.decimal p.offset) ++
        '&' :: Text.field "page[limit]" (Text.decimal p.limit)) := by
  have hexpression : "filter[expression]=".toList = "filter[expression]".toList ++ ['='] := by decide
  have hspace : "&spaceID=".toList = '&' :: "spaceID".toList ++ ['='] := by decide
  have hoffset : "&page[offset]=".toList = '&' :: "page[offset]".toList ++ ['='] := by decide
  have hlimit : "&page[limit]=".toList = '&' :: "page[limit]".toList ++ ['='] := by decide
  unfold query
  cases t.space with
  | none =>
    simp only [String.toList_append, String.toList_empty, hexpression, hoffset, hlimit, Text.field, Option.toList_none,
      List.flatMap_nil, List.append_assoc, List.cons_append, List.nil_append]
  | some space =>
    simp only [String.toList_append, hexpression, hspace, hoffset, hlimit, Text.field, Option.toList_some,
      List.flatMap_singleton, List.append_assoc, List.cons_append, List.nil_append]

/-- **A query string is read** as the parameters of the request that it is for. -/
theorem splitQuery_query (t : LinkTarget) (p : Page) :
    Text.splitQuery (t.query p).toList = (t.request p).parameters := by
  have hexpression := Text.splitQuery_percentEncode "filter[expression]" t.expression (by decide)
  have hspace := fun space => Text.splitQuery_percentEncode "spaceID" space (by decide)
  have hoffset := Text.splitQuery_decimal "page[offset]" p.offset (by decide)
  have hlimit := Text.splitQuery_decimal "page[limit]" p.limit (by decide)
  rw [query_eq_fields, Request.parameters, request]
  cases t.space with
  | none =>
    rw [Option.toList_none, List.flatMap_nil, List.append_nil, Text.splitQuery_append, Text.splitQuery_append,
      hexpression, hoffset, hlimit]
    rfl
  | some space =>
    rw [Option.toList_some, List.flatMap_singleton, List.append_assoc, List.cons_append, Text.splitQuery_append,
      Text.splitQuery_append, Text.splitQuery_append, hexpression, hspace, hoffset, hlimit]
    rfl

theorem ne_slash_of_mem_query (t : LinkTarget) (p : Page) : ∀ c ∈ (t.query p).toList, c ≠ '/' := by
  have hfield : ∀ name value : String, '/' ∉ name.toList → (∀ c ∈ value.toList, Text.isPlain c = true) →
      '/' ∉ Text.field name value := by
    intro name value hname hvalue hslash
    rcases Text.mem_field hslash with h | h | h
    · exact hname h
    · cases h
    · cases hvalue _ h
  have hexpression := hfield "filter[expression]" (Text.percentEncode t.expression) (by decide)
    fun _ => Text.isPlain_percentEncode
  have hspace := fun space => hfield "spaceID" (Text.percentEncode space) (by decide) fun _ => Text.isPlain_percentEncode
  have hoffset := hfield "page[offset]" (Text.decimal p.offset) (by decide) fun _ => Text.isPlain_decimal
  have hlimit := hfield "page[limit]" (Text.decimal p.limit) (by decide) fun _ => Text.isPlain_decimal
  rintro c hc rfl
  rw [query_eq_fields] at hc
  simp [hexpression, hspace, hoffset, hlimit] at hc

theorem request_eq_of_link_eq {t t' : LinkTarget} {p p' : Page} (h : t.link p = t'.link p') :
    dropTrailingSlashes t.base = dropTrailingSlashes t'.base ∧ t.request p = t'.request p' := by
  have hslash : "/search?".toList = '/' :: "search?".toList := by decide
  have hlist := congrArg String.toList h
  simp only [link, String.toList_append, hslash, List.append_assoc, List.cons_append] at hlist
  -- the last slash of an address is the one before the name of the resource
  have hquery : ∀ (t : LinkTarget) (p : Page), ∀ c ∈ "search?".toList ++ (t.query p).toList, c ≠ '/' := by
    intro t p c hc
    rcases List.mem_append.1 hc with hc | hc
    · exact fun he => absurd (he ▸ hc) (by decide)
    · exact t.ne_slash_of_mem_query p c hc
  obtain ⟨hbase, hrest⟩ := Text.append_mark_inj (hquery t p) (hquery t' p') hlist
  refine ⟨String.toList_injective hbase, SearchParameters.parameters_injective ?_⟩
  rw [← splitQuery_query, ← splitQuery_query, List.append_cancel_left hrest]

theorem link_inj {t : LinkTarget} {p q : Page} (h : t.link p = t.link q) : p = q := by
  obtain ⟨-, hrequest⟩ := request_eq_of_link_eq h
  cases p
  cases q
  simpa [request] using hrequest

/-- **The address of a page asks for the page.**  What follows the path in an address is read as the parameters of the
request for that page: the expression and the space as they are, and the two numbers.  So whoever follows the address
asks for that request, if it has something in its expression and a name for its space.  And addresses that are the same
lead to the same base, apart from slashes at its end, and are for the same request. -/
theorem link_reproduces (t : LinkTarget) (p : Page) :
    (∃ query, t.link p = dropTrailingSlashes t.base ++ "/search?" ++ query ∧
      Text.splitQuery query.toList = (t.request p).parameters ∧
      (Text.isAllBlank t.expression = false → t.space ≠ some "" → p.offset ≤ Text.maxWord → p.limit ≤ Text.maxWord →
        SearchParameters.AskFor (Text.splitQuery query.toList) (t.request p))) ∧
      ∀ (t' : LinkTarget) (p' : Page), t.link p = t'.link p' →
        dropTrailingSlashes t.base = dropTrailingSlashes t'.base ∧ t.request p = t'.request p' := by
  refine ⟨⟨t.query p, rfl, t.splitQuery_query p, fun hexpression hspace hoffset hlimit => ?_⟩, fun _ _ =>
    request_eq_of_link_eq⟩
  rw [splitQuery_query]
  refine SearchParameters.askFor_parameters hexpression (fun space hgiven he => ?_) (fun _ hn => ?_) fun _ hn => ?_
  · exact hspace (he ▸ hgiven)
  · exact Option.some.inj hn ▸ hoffset
  · exact Option.some.inj hn ▸ hlimit

/-! ## An address full of marks -/

/-- An expression and a space in which every mark of a query string occurs, and characters of one to four bytes. -/
def marked : LinkTarget :=
  ⟨"http://host/api//", "a&b=c+d%20#[e] é語😀", some "x/y z?"⟩

theorem link_reproduces_marked :
    marked.link ⟨40, 20⟩ = "http://host/api/search?" ++
        "filter[expression]=a%26b%3Dc%2Bd%2520%23%5Be%5D%20%C3%A9%E8%AA%9E%F0%9F%98%80&spaceID=x%2Fy%20z%3F" ++
        "&page[offset]=40&page[limit]=20" ∧
      (∃ query, marked.link ⟨40, 20⟩ = dropTrailingSlashes marked.base ++ "/search?" ++ query ∧
        SearchParameters.AskFor (Text.splitQuery query.toList)
          ⟨"a&b=c+d%20#[e] é語😀", some "x/y z?", some 40, some 20⟩) ∧
      marked.link ⟨40, 20⟩ ≠ { marked with expression := "a&b=c d%20#[e] é語😀" }.link ⟨40, 20⟩ := by
  obtain ⟨⟨query, hlink, -, hask⟩, hunique⟩ := link_reproduces marked ⟨40, 20⟩
  refine ⟨by decide +kernel, ⟨query, hlink, ?_⟩, fun hsame => ?_⟩
  · exact hask (by decide +kernel) (by decide) (by decide) (by decide)
  · exact absurd (hunique _ _ hsame).2 (by decide +kernel)

end LinkTarget
end Backlog
