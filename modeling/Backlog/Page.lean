import Backlog.Config
/-!
# Page — a stretch of a list of matches, and the pages around it

A page says how many matches to skip and how many to show at most.  What a request leaves open comes from the settings,
which also bound the size of a page, so that every page has room for one match at least (`Page.ofRequest`).

From a page and the number of all matches follow the four pages one can go to: the first, the last that starts at a
multiple of the size, the one before and the one after.  Offsets have 64 bits; the end of a page that would lie beyond
is the largest offset there is.
-/
namespace Backlog

/-- A page: the number of matches before it and the number of matches that it has room for. -/
structure Page where
  offset : Nat
  limit : Nat
deriving DecidableEq, Repr

namespace Page

def ofRequest (s : Settings) (offset limit : Option Nat) : Page :=
  ⟨offset.getD 0, clamp 1 (max s.maxLimit 1) (limit.getD s.defaultLimit)⟩

def stop (p : Page) : Nat :=
  min (p.offset + p.limit) Text.maxWord

def nonempty (p : Page) : Page :=
  ⟨p.offset, max p.limit 1⟩

/-! ## The pages around a page -/

def first (p : Page) : Page :=
  ⟨0, p.limit⟩

def lastOffset (p : Page) (total : Nat) : Nat :=
  if total = 0 then 0 else (total - 1) / p.limit * p.limit

def last (p : Page) (total : Nat) : Page :=
  ⟨p.lastOffset total, p.limit⟩

/-- The page before.  From a page past the end it is the last one. -/
def previous? (p : Page) (total : Nat) : Option Page :=
  if p.offset = 0 then none else some ⟨min (p.offset - p.limit) (p.lastOffset total), p.limit⟩

def next? (p : Page) (total : Nat) : Option Page :=
  if p.stop < total then some ⟨p.stop, p.limit⟩ else none

theorem limit_pos_ofRequest (s : Settings) (offset limit : Option Nat) : 1 ≤ (ofRequest s offset limit).limit := by
  unfold ofRequest clamp
  simp only
  split
  · exact Nat.le_refl 1
  · split
    · exact Nat.le_max_right _ _
    · omega

end Page
end Backlog
