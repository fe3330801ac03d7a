import Backlog.Page.Link
/-!
# Turning — from one page to the next

The limit of a page of a request lies between one and the largest that is allowed, so asking for that limit again
changes nothing (`ofRequest_offset_limit`), and a page has room for one match whether links are made of it or not.  As
long as there are no more matches than offsets, the next page starts where the page ends (`next?_eq`), and the pages
that are reached in this way from the first one stop at the last one (`lastOffset_eq_offset`).
-/
namespace Backlog

theorem clamp_eq_self {lo hi n : Nat} (hlo : lo ≤ n) (hhi : n ≤ hi) : clamp lo hi n = n := by
  rw [clamp, if_neg (Nat.not_lt.2 hlo), if_neg (Nat.not_lt.2 hhi)]

theorem clamp_le {lo hi n : Nat} (h : lo ≤ hi) : clamp lo hi n ≤ hi := by
  unfold clamp
  split
  · exact h
  · split <;> omega

namespace Page

theorem limit_le_ofRequest (s : Settings) (offset limit : Option Nat) :
    (ofRequest s offset limit).limit ≤ max s.maxLimit 1 :=
  clamp_le (Nat.le_max_right s.maxLimit 1)

/-- **A limit that was allowed is allowed again.** -/
theorem ofRequest_offset_limit (s : Settings) (offset limit : Option Nat) (start : Nat) :
    ofRequest s (some start) (some (ofRequest s offset limit).limit) = ⟨start, (ofRequest s offset limit).limit⟩ :=
  congrArg (Page.mk start)
    (clamp_eq_self (limit_pos_ofRequest s offset limit) (limit_le_ofRequest s offset limit))

theorem nonempty_eq_self {p : Page} (h : 1 ≤ p.limit) : p.nonempty = p := by
  rw [nonempty, Nat.max_eq_left h]

theorem next?_eq (p : Page) {total : Nat} (h : total ≤ Text.maxWord) :
    p.next? total = if p.offset + p.limit < total then some ⟨p.offset + p.limit, p.limit⟩ else none := by
  unfold next? stop
  by_cases hend : p.offset + p.limit < total
  · have hstop : min (p.offset + p.limit) Text.maxWord = p.offset + p.limit := by omega
    rw [hstop]
  · rw [if_neg hend, if_neg (by omega)]

/-- **A page with nothing beyond it is the last one**, if it starts at a multiple of the limit and has matches on it or
is the first. -/
theorem lastOffset_eq_offset {p : Page} {total : Nat} (hlimit : 1 ≤ p.limit) (hstart : p.limit ∣ p.offset)
    (hmatch : p.offset = 0 ∨ p.offset < total) (hend : total ≤ p.offset + p.limit) :
    p.lastOffset total = p.offset := by
  unfold lastOffset
  split
  · omega
  · obtain ⟨n, hn⟩ := hstart
    rw [Nat.mul_comm] at hn
    have hdiv : (total - 1) / p.limit = n := by
      refine Nat.div_eq_of_lt_le ?_ ?_
      · omega
      · rw [Nat.succ_mul]
        omega
    rw [hdiv, hn]

end Page

namespace LinkTarget

theorem links_next (t : LinkTarget) {p : Page} {total : Nat} (hlimit : 1 ≤ p.limit) (htotal : total ≤ Text.maxWord) :
    (t.links p total).next =
      if p.offset + p.limit < total then some (t.link ⟨p.offset + p.limit, p.limit⟩) else none := by
  rw [links, Page.nonempty_eq_self hlimit, Page.next?_eq p htotal, apply_ite (Option.map t.link)]
  rfl

theorem links_last (t : LinkTarget) {p : Page} {total : Nat} (hlimit : 1 ≤ p.limit) :
    (t.links p total).last = t.link ⟨p.lastOffset total, p.limit⟩ := by
  rw [links, Page.nonempty_eq_self hlimit]
  rfl

end LinkTarget
end Backlog
