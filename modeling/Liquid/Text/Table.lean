/-!
# Tables of code points

A character property is kept as an ascending list of closed ranges, a letter-case map as an
ascending list of strides. Both are searched from the front and the search stops at the first
entry that begins above the code point, which is sound because the entries ascend.
-/

namespace Liquid.Text

/-- Whether a code point lies in one of the ascending closed ranges. -/
def inRanges : List (Nat × Nat) → Nat → Bool
  | [], _ => false
  | (lo, hi) :: rest, n => if n < lo then false else n ≤ hi || inRanges rest n

/-- Every `step`-th code point from `first` to `last`. -/
structure Stride where
  first : Nat
  last : Nat
  step : Nat
deriving Repr, DecidableEq

def Stride.covers (s : Stride) (n : Nat) : Bool :=
  s.first ≤ n && n ≤ s.last && (n - s.first) % s.step == 0

/-- Whether a code point lies on one of the strides, which ascend by their first code point. -/
def inStrides : List Stride → Nat → Bool
  | [], _ => false
  | s :: rest, n => if n < s.first then false else s.covers n || inStrides rest n

/-- The image of a code point under a map given stride by stride: each stride is moved as a
whole, its first code point to the number beside it. -/
def shifted? : List (Stride × Nat) → Nat → Option Nat
  | [], _ => none
  | (s, target) :: rest, n =>
    if n < s.first then none
    else if s.covers n then some (target + (n - s.first))
    else shifted? rest n

theorem inRanges_of_mem {ranges : List (Nat × Nat)} {n : Nat} (h : inRanges ranges n = true) :
    ∃ r ∈ ranges, r.1 ≤ n ∧ n ≤ r.2 := by
  induction ranges with
  | nil => simp [inRanges] at h
  | cons r rest ih =>
    obtain ⟨lo, hi⟩ := r
    simp only [inRanges] at h
    split at h
    · simp at h
    · rename_i above
      rcases Bool.or_eq_true_iff.1 h with inside | later
      · exact ⟨(lo, hi), by simp, by omega, by simpa using inside⟩
      · obtain ⟨r, member, bounds⟩ := ih later
        exact ⟨r, by simp [member], bounds⟩

end Liquid.Text
