import Backlog.Proofs.Page.Address
import Backlog.Proofs.Page.Turning
import Backlog.Proofs.Word
/-!
# Retreat — from any page back to the first

A page may start anywhere, not only at a multiple of the limit, and also past the last match.  The page before it starts
earlier, has matches on it if there are any, and leaves no match out between itself and the page (`LeadsUpTo`).  So
whoever goes back from page to page comes to the first one, and has seen every match before the place where he started
(`leads_back`).

Offsets have 64 bits.  Computed in words of that size, with every step refused whose result is no such word, the links
are the same as those computed with numbers without a bound (`exists_links_eq_linksTo`).
-/
namespace Backlog
namespace Page

variable {p : Page} {total : Nat}

theorem lastOffset_lt (p : Page) (h : 0 < total) : p.lastOffset total < total := by
  have hmul := Nat.div_mul_le_self (total - 1) p.limit
  rw [lastOffset, if_neg (Nat.ne_of_gt h)]
  omega

theorem le_lastOffset_add_limit (h : 1 ≤ p.limit) (total : Nat) : total ≤ p.lastOffset total + p.limit := by
  unfold lastOffset
  split
  · omega
  · have hdiv := Nat.div_add_mod (total - 1) p.limit
    have hmod := Nat.mod_lt (total - 1) h
    rw [Nat.mul_comm] at hdiv
    omega

/-- What a page is from which one gets to another by going on: it starts earlier, with a match on it if there are any,
and reaches at least to where the other starts or where the matches end. -/
structure LeadsUpTo (q p : Page) (total : Nat) : Prop where
  limit : q.limit = p.limit
  earlier : q.offset < p.offset
  inside : 0 < total → q.offset < total
  reaches : min p.offset total ≤ q.offset + q.limit

theorem previous?_eq_none_iff : p.previous? total = none ↔ p.offset = 0 := by
  unfold previous?
  by_cases h : p.offset = 0 <;> simp [h]

theorem leadsUpTo_of_previous? {q : Page} (hlimit : 1 ≤ p.limit) (h : p.previous? total = some q) :
    q.LeadsUpTo p total := by
  unfold previous? at h
  split at h
  · cases h
  next hoffset =>
  cases h
  have hlast : 0 < total → p.lastOffset total < total := p.lastOffset_lt
  have hend := le_lastOffset_add_limit hlimit total
  refine ⟨rfl, ?_, ?_, ?_⟩
  · show min (p.offset - p.limit) (p.lastOffset total) < p.offset
    omega
  · intro htotal
    exact Nat.lt_of_le_of_lt (Nat.min_le_right _ _) (hlast htotal)
  · show min p.offset total ≤ min (p.offset - p.limit) (p.lastOffset total) + p.limit
    omega

end Page

namespace LinkTarget

variable {t : LinkTarget} {p : Page} {total : Nat}

theorem links_previous (t : LinkTarget) (hlimit : 1 ≤ p.limit) (total : Nat) :
    (t.links p total).previous = (p.previous? total).map t.link := by
  rw [links, Page.nonempty_eq_self hlimit]

/-! ## Going back -/

/-- **The pages on the way back** from a page: each is the one that the link to the previous page leads to from the page
before it in the list, and from the last there is no such link. -/
inductive Retreat (t : LinkTarget) (total : Nat) : Page → List Page → Prop
  | stop {p : Page} (h : (t.links p total).previous = none) : Retreat t total p []
  | back {p q : Page} {pages : List Page} (h : (t.links p total).previous = some (t.link q))
    (rest : Retreat t total q pages) : Retreat t total p (q :: pages)

theorem Retreat.unique {pages pages' : List Page} (h : t.Retreat total p pages) (h' : t.Retreat total p pages') :
    pages = pages' := by
  induction h generalizing pages' with
  | stop hnone =>
    cases h' with
    | stop _ => rfl
    | back hsome _ => cases hnone.symm.trans hsome
  | back hsome _ ih =>
    cases h' with
    | stop hnone => cases hnone.symm.trans hsome
    | back hsome' rest' =>
      cases link_inj (Option.some.inj (hsome.symm.trans hsome'))
      rw [ih rest']

theorem exists_retreat (t : LinkTarget) (total : Nat) (p : Page) (hlimit : 1 ≤ p.limit) :
    ∃ pages, t.Retreat total p pages := by
  cases hprevious : p.previous? total with
  | none => exact ⟨[], .stop (by rw [links_previous t hlimit, hprevious]; rfl)⟩
  | some q =>
    have hq := Page.leadsUpTo_of_previous? hlimit hprevious
    have hearlier := hq.earlier
    obtain ⟨pages, hpages⟩ := exists_retreat t total q (hq.limit ▸ hlimit)
    exact ⟨q :: pages, .back (by rw [links_previous t hlimit, hprevious]; rfl) hpages⟩
termination_by p.offset

theorem previous?_of_links_previous {q : Page} (hlimit : 1 ≤ p.limit) (h : (t.links p total).previous = some (t.link q)) :
    p.previous? total = some q := by
  rw [links_previous t hlimit] at h
  obtain ⟨q', hq', hlink⟩ := Option.map_eq_some_iff.1 h
  rw [hq', link_inj hlink]

theorem Retreat.ends_at_first {pages : List Page} (h : t.Retreat total p pages) (hlimit : 1 ≤ p.limit) :
    ∃ first ∈ (p :: pages).getLast?, first.offset = 0 := by
  induction h with
  | @stop p hnone =>
    rw [links_previous t hlimit, Option.map_eq_none_iff, Page.previous?_eq_none_iff] at hnone
    exact ⟨p, rfl, hnone⟩
  | @back p q pages hsome _ ih =>
    have hq := Page.leadsUpTo_of_previous? hlimit (previous?_of_links_previous hlimit hsome)
    obtain ⟨first, hfirst, hzero⟩ := ih (hq.limit ▸ hlimit)
    refine ⟨first, ?_, hzero⟩
    rw [List.getLast?_cons_cons]
    exact hfirst

/-- **No match before the start is left out** on the way back. -/
theorem Retreat.covers {pages : List Page} (h : t.Retreat total p pages) (hlimit : 1 ≤ p.limit) {i : Nat}
    (hi : i < p.offset) (htotal : i < total) : ∃ q ∈ pages, q.offset ≤ i ∧ i < q.offset + q.limit := by
  induction h with
  | stop hnone =>
    rw [links_previous t hlimit, Option.map_eq_none_iff, Page.previous?_eq_none_iff] at hnone
    omega
  | @back p q pages hsome _ ih =>
    have hq := Page.leadsUpTo_of_previous? hlimit (previous?_of_links_previous hlimit hsome)
    have hreaches := hq.reaches
    -- the page before has the match itself, or the match is before that page too
    by_cases hbefore : i < q.offset
    · obtain ⟨q', hq', hcovers⟩ := ih (hq.limit ▸ hlimit) hbefore
      exact ⟨q', List.mem_cons_of_mem q hq', hcovers⟩
    · exact ⟨q, List.mem_cons_self, Nat.not_lt.1 hbefore, by omega⟩

end LinkTarget

/-! ## In words of 64 bits -/

namespace Page

def ofWords (offset limit : UInt64) : Page :=
  ⟨offset.toNat, limit.toNat⟩

/-- The offset of the last page of `total` matches, if every step on the way to it has a result. -/
def lastOffset? (limit total : UInt64) : Option UInt64 :=
  if total = 0 then some 0 else do Word.mul? (← Word.div? (← Word.sub? total 1) limit) limit

theorem exists_lastOffset? {limit : UInt64} (h : limit.toNat ≠ 0) (offset total : UInt64) :
    ∃ last, lastOffset? limit total = some last ∧ last.toNat = (ofWords offset limit).lastOffset total.toNat := by
  unfold lastOffset? lastOffset
  by_cases htotal : total = 0
  · refine ⟨0, if_pos htotal, ?_⟩
    rw [htotal]
    rfl
  · have hpos : total.toNat ≠ 0 := mt Word.toNat_eq_zero_iff.1 htotal
    obtain ⟨below, hsub, hbelow⟩ := Word.exists_sub? (a := total) (b := 1) (Nat.one_le_iff_ne_zero.2 hpos)
    obtain ⟨quotient, hdiv, hquotient⟩ := Word.exists_div? h below
    rw [UInt64.toNat_one] at hbelow
    -- the product is less than the number of matches, which is a word
    have hfits : quotient.toNat * limit.toNat ≤ Text.maxWord := by
      have hle := Nat.div_mul_le_self below.toNat limit.toNat
      have hmax := Word.toNat_le_maxWord total
      rw [hquotient]
      omega
    obtain ⟨last, hmul, hlast⟩ := Word.exists_mul? hfits
    refine ⟨last, ?_, ?_⟩
    · rw [if_neg htotal, hsub]
      show (Word.div? below limit >>= fun quotient => Word.mul? quotient limit) = some last
      rw [hdiv]
      exact hmul
    · rw [if_neg hpos, hlast, hquotient, hbelow]
      rfl

structure Offsets where
  last : UInt64
  previous : Option UInt64
  next : Option UInt64

/-- The offsets of the pages around a page, if every step on the way to them has a result. -/
def offsets? (offset limit total : UInt64) : Option Offsets := do
  let last ← lastOffset? limit total
  let stop := Word.addUpToMax offset limit
  return {
    last
    previous := if offset = 0 then none else some (min (Word.subDownToZero offset limit) last)
    next := if stop < total then some stop else none }

end Page

namespace LinkTarget

def linksTo (t : LinkTarget) (limit : UInt64) (o : Page.Offsets) : PageLinks where
  first := t.link (.ofWords 0 limit)
  last := t.link (.ofWords o.last limit)
  previous := o.previous.map fun offset => t.link (.ofWords offset limit)
  next := o.next.map fun offset => t.link (.ofWords offset limit)

/-- **The links can be computed in words**: no step is without a result. -/
theorem exists_links_eq_linksTo (t : LinkTarget) {limit : UInt64} (h : 1 ≤ limit) (offset total : UInt64) :
    ∃ o, Page.offsets? offset limit total = some o ∧
      t.links (.ofWords offset limit) total.toNat = t.linksTo limit o := by
  have hlimit : 1 ≤ (Page.ofWords offset limit).limit := UInt64.le_iff_toNat_le.1 h
  obtain ⟨last, hsome, hlast⟩ := Page.exists_lastOffset? (Nat.one_le_iff_ne_zero.1 hlimit) offset total
  refine ⟨_, by rw [Page.offsets?, hsome]; rfl, ?_⟩
  have hprevious : (Page.ofWords offset limit).previous? total.toNat =
      (if offset = 0 then none else some (min (Word.subDownToZero offset limit) last)).map fun offset =>
        .ofWords offset limit := by
    unfold Page.previous?
    by_cases hoffset : offset = 0
    · subst hoffset
      rfl
    · have hpos : (Page.ofWords offset limit).offset ≠ 0 := mt Word.toNat_eq_zero_iff.1 hoffset
      rw [if_neg hoffset, if_neg hpos, ← hlast, Option.map_some, Page.ofWords, Page.ofWords, Word.toNat_min,
        Word.toNat_subDownToZero]
  have hnext : (Page.ofWords offset limit).next? total.toNat =
      (if Word.addUpToMax offset limit < total then some (Word.addUpToMax offset limit) else none).map fun offset =>
        .ofWords offset limit := by
    have hstop : (Page.ofWords offset limit).stop = (Word.addUpToMax offset limit).toNat :=
      (Word.toNat_addUpToMax offset limit).symm
    unfold Page.next?
    by_cases hmore : Word.addUpToMax offset limit < total
    · rw [if_pos hmore, hstop, if_pos (UInt64.lt_iff_toNat_lt.1 hmore)]
      rfl
    · rw [if_neg hmore, hstop, if_neg (mt UInt64.lt_iff_toNat_lt.2 hmore)]
      rfl
  rw [links, linksTo, Page.nonempty_eq_self hlimit, hprevious, hnext, Option.map_map, Option.map_map, Page.last, ← hlast]
  rfl

/-! ## Back to the first page -/

/-- What the links around a page are good for to somebody who wants the matches before it. -/
structure LeadsBack (t : LinkTarget) (offset limit total : UInt64) : Prop where
  -- computed in words they are the same, and no step is without a result
  computed : ∃ o, Page.offsets? offset limit total = some o ∧
    t.links (.ofWords offset limit) total.toNat = t.linksTo limit o
  previous_isSome : (t.links (.ofWords offset limit) total.toNat).previous.isSome = true ↔ 0 < offset
  previous : ∀ href ∈ (t.links (.ofWords offset limit) total.toNat).previous, ∃ q, href = t.link q ∧
    q.LeadsUpTo (.ofWords offset limit) total.toNat
  -- going back ends with the first page, and together the pages have every match before the start
  retreat : ∃ pages, t.Retreat total.toNat (.ofWords offset limit) pages ∧
    (∀ others, t.Retreat total.toNat (.ofWords offset limit) others → others = pages) ∧
    (∃ first ∈ (.ofWords offset limit :: pages).getLast?, first.offset = 0) ∧
    ∀ i, i < offset.toNat → i < total.toNat → ∃ q ∈ pages, q.offset ≤ i ∧ i < q.offset + q.limit
  next : ∀ href ∈ (t.links (.ofWords offset limit) total.toNat).next,
    href = t.link ⟨offset.toNat + limit.toNat, limit.toNat⟩ ∧ offset.toNat + limit.toNat < total.toNat

/-- **Going back leads to the first page without gaps**, from every page that has room for a match. -/
theorem leads_back (t : LinkTarget) (offset limit total : UInt64) (h : 1 ≤ limit) : t.LeadsBack offset limit total := by
  have hlimit : 1 ≤ (Page.ofWords offset limit).limit := UInt64.le_iff_toNat_le.1 h
  have htotal := Word.toNat_le_maxWord total
  have hprevious := t.links_previous hlimit total.toNat
  refine ⟨t.exists_links_eq_linksTo h offset total, ?_, ?_, ?_, ?_⟩
  · rw [hprevious, Option.isSome_map, ← Option.ne_none_iff_isSome, ne_eq, Page.previous?_eq_none_iff,
      UInt64.lt_iff_toNat_lt]
    exact Nat.pos_iff_ne_zero.symm
  · intro href hhref
    rw [hprevious] at hhref
    obtain ⟨q, hq, hlink⟩ := Option.map_eq_some_iff.1 hhref
    exact ⟨q, hlink.symm, Page.leadsUpTo_of_previous? hlimit hq⟩
  · obtain ⟨pages, hpages⟩ := t.exists_retreat total.toNat (.ofWords offset limit) hlimit
    refine ⟨pages, hpages, fun others hothers => hothers.unique hpages, hpages.ends_at_first hlimit, ?_⟩
    intro i hi htotal
    exact hpages.covers hlimit hi htotal
  · intro href hhref
    rw [Option.mem_def, t.links_next hlimit htotal] at hhref
    split at hhref
    · next hmore => exact ⟨(Option.some.inj hhref).symm, hmore⟩
    · cases hhref

/-- From the eighth match of five on, three to a page. -/
theorem leads_back_pastEnd :
    marked.LeadsBack 7 3 5 ∧ marked.Retreat 5 (.ofWords 7 3) [⟨3, 3⟩, ⟨0, 3⟩] ∧
      ∀ others, marked.Retreat 5 (.ofWords 7 3) others → others = [⟨3, 3⟩, ⟨0, 3⟩] := by
  have hleads : marked.LeadsBack 7 3 5 := leads_back marked 7 3 5 (by decide)
  have hretreat : marked.Retreat 5 (.ofWords 7 3) [⟨3, 3⟩, ⟨0, 3⟩] := .back rfl (.back rfl (.stop rfl))
  obtain ⟨pages, -, hunique, -, -⟩ := hleads.retreat
  refine ⟨hleads, hretreat, fun others hothers => ?_⟩
  rw [hunique others hothers, hunique _ hretreat]

end LinkTarget
end Backlog
