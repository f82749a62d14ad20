import Liquid.Filter.Basic
import Liquid.Proofs.MarkupScanning
import Mathlib.Data.List.Chain
import Mathlib.Tactic.SplitIfs

/-!
# Names of filters

Filters are registered in snake case. Whether a capital begins a new word is told by the character
before it in the name as it is given, so a row of capitals is one word. Some capitals have no small
letter and stay as they are; behind a capital that became a small letter, such a one looks like the
beginning of a word once the name is put into snake case again.

## Main result

`Filter.snakeCase_again`: a name in snake case is left alone just if no capital without a small
letter stands behind one with a small letter, and so the name and its snake case register the same
filter. After a second time every name is left alone. A name in ASCII loses all its capitals.

## Proof strategy

Characters that are no capitals pass through as they are (`snakeFrom_append`), and so does the image
of a capital (`lowerChar_cases`, for which the tables are compared stride by stride). So a second
run takes the same way as the first one, and differs only in what it knows of the character before:
the induction on the name is for both at once.
-/

namespace Liquid

namespace Text

/-! ### Strides -/

private theorem exists_of_inStrides {strides : List Stride} {n : Nat}
    (inside : inStrides strides n = true) : ∃ u ∈ strides, u.covers n = true := by
  induction strides with
  | nil => cases inside
  | cons u rest ih =>
    rw [inStrides] at inside
    split_ifs at inside
    rcases Bool.or_eq_true_iff.mp inside with here | later
    · exact ⟨u, List.mem_cons_self, here⟩
    · obtain ⟨v, member, covers⟩ := ih later
      exact ⟨v, List.mem_cons_of_mem _ member, covers⟩

private theorem exists_of_shifted? {strides : List (Stride × Nat)} {n m : Nat}
    (moved : shifted? strides n = some m) :
    ∃ entry ∈ strides, entry.1.covers n = true ∧ m = entry.2 + (n - entry.1.first) := by
  induction strides with
  | nil => cases moved
  | cons entry rest ih =>
    rw [shifted?] at moved
    split_ifs at moved with above here
    · exact ⟨entry, List.mem_cons_self, here, (Option.some.inj moved).symm⟩
    · obtain ⟨other, member, covers⟩ := ih moved
      exact ⟨other, List.mem_cons_of_mem _ member, covers⟩

/-- The image of a stride that is moved to a number does not meet another stride: it lies beside it,
or in the gaps between its code points. -/
def Stride.movesOff (s : Stride) (target : Nat) (u : Stride) : Bool :=
  u.last < target || target + (s.last - s.first) < u.first ||
    ((s.first == s.last || s.step == 2) && u.step == 2 && (target + u.first) % 2 == 1)

private theorem Stride.not_covers_of_movesOff {s u : Stride} {target n : Nat}
    (off : s.movesOff target u = true) (inside : s.covers n = true) :
    u.covers (target + (n - s.first)) = false := by
  simp only [Stride.covers, Bool.and_eq_true, decide_eq_true_eq, beq_iff_eq] at inside
  obtain ⟨⟨low, high⟩, onStep⟩ := inside
  simp only [Stride.movesOff, Bool.or_eq_true, Bool.and_eq_true, decide_eq_true_eq,
    beq_iff_eq] at off
  rw [Bool.eq_false_iff]
  intro met
  simp only [Stride.covers, Bool.and_eq_true, decide_eq_true_eq, beq_iff_eq] at met
  obtain ⟨⟨above, below⟩, gap⟩ := met
  rcases off with (before | behind) | ⟨⟨single | even, two⟩, odd⟩
  · omega
  · omega
  · rw [two] at gap
    omega
  · rw [two] at gap
    rw [even] at onStep
    omega

/-- The image of a stride that is moved to a number consists of characters that are no digits. -/
def Stride.movesToLetters (s : Stride) (target : Nat) : Bool :=
  0x61 ≤ target && (target + (s.last - s.first) < 0xD800 ||
    (0xE000 ≤ target && target + (s.last - s.first) < 0x110000))

private theorem lowerMap_movesOff : (lowerMap.all fun entry => entry.1.movesToLetters entry.2 &&
    upperStrides.all fun u => entry.1.movesOff entry.2 u) = true := by decide +kernel

/-! ### Capitals and their images -/

/-- Neither a capital nor a digit. -/
def isSmall (c : Char) : Bool := !isUpper c && !isDigit c

theorem toNat_ofNat {n : Nat} (valid : n.isValidChar) : (Char.ofNat n).toNat = n := by
  rw [Char.ofNat, dif_pos valid]
  rfl

private theorem isSmall_of_lowerMap {n m : Nat} (moved : shifted? lowerMap n = some m) :
    isSmall (Char.ofNat m) = true := by
  obtain ⟨⟨s, target⟩, member, inside, rfl⟩ := exists_of_shifted? moved
  have tables := List.all_eq_true.mp lowerMap_movesOff _ member
  simp only [Bool.and_eq_true, List.all_eq_true] at tables
  obtain ⟨letters, off⟩ := tables
  have bounds := inside
  simp only [Stride.covers, Stride.movesToLetters, Bool.and_eq_true, Bool.or_eq_true,
    decide_eq_true_eq, beq_iff_eq] at bounds letters
  have code : (Char.ofNat (target + (n - s.first))).toNat = target + (n - s.first) :=
    toNat_ofNat (by unfold Nat.isValidChar; omega)
  rw [isSmall, Bool.and_eq_true, Bool.not_eq_true', Bool.not_eq_true', Bool.eq_false_iff,
    Bool.eq_false_iff]
  constructor
  · intro upper
    rw [isUpper, code] at upper
    obtain ⟨u, stride, met⟩ := exists_of_inStrides upper
    rw [Stride.not_covers_of_movesOff (off u stride) inside] at met
    cases met
  · intro digit
    have low := (Markup.toNat_of_isDigit digit).2
    rw [code] at low
    omega

private theorem isSmall_of_lowerExpansions {n : Nat} {image : List Nat}
    (expands : expansion? lowerExpansions n = some image) :
    image ≠ [] ∧ ∀ m ∈ image, isSmall (Char.ofNat m) = true := by
  simp only [lowerExpansions, expansion?] at expands
  split_ifs at expands
  cases expands
  decide +kernel

/-- A capital has no small letter, or what it becomes is small. -/
theorem lowerChar_cases (c : Char) :
    lowerChar c = [c] ∨ lowerChar c ≠ [] ∧ ∀ d ∈ lowerChar c, isSmall d = true := by
  unfold lowerChar mapped
  split
  next n moved => exact .inr ⟨List.cons_ne_nil _ _, by simpa using isSmall_of_lowerMap moved⟩
  next =>
    split
    next image expands =>
      obtain ⟨some, small⟩ := isSmall_of_lowerExpansions expands
      exact .inr ⟨by simpa using some, by simpa using small⟩
    next => exact .inl rfl

/-- No capital in ASCII is without a small letter. -/
theorem lowerChar_ne_self {c : Char} (ascii : c.toNat < 128) (upper : isUpper c = true) :
    lowerChar c ≠ [c] := by
  have table : ∀ n < 128, isUpper (Char.ofNat n) = true →
      lowerChar (Char.ofNat n) ≠ [Char.ofNat n] := by decide +kernel
  have here := table c.toNat ascii
  rw [Char.ofNat_toNat] at here
  exact here upper

end Text

namespace Filter

open Text

/-! ### Snake case twice -/

/-- A capital without a small letter. -/
def staysCapital (c : Char) : Bool := isUpper c && lowerChar c == [c]

/-- A capital that becomes a small letter, or several characters with one at the end. -/
def turnsSmall (c : Char) : Bool :=
  isUpper c && lowerChar c != [c] && (lowerChar c).getLast?.any isLower

/-- No capital without a small letter stands behind one with a small letter. -/
def Steady (name : String) : Prop :=
  name.toList.IsChain fun c d => turnsSmall c = true → staysCapital d = false

/-- Whether the character before is in lower case or a digit, behind some more characters. -/
def lowerBehind (lower : Bool) (piece : List Char) : Bool :=
  (piece.getLast?.map fun c => isLower c || isDigit c).getD lower

private theorem isUpper_of_isSmall {c : Char} (small : isSmall c = true) : isUpper c = false := by
  rw [isSmall, Bool.and_eq_true, Bool.not_eq_true'] at small
  exact small.1

theorem isUpper_underscore : isUpper '_' = false := by decide

/-- What is small passes through as it is. -/
theorem snakeFrom_append {piece : List Char} (small : ∀ c ∈ piece, isUpper c = false)
    (lower : Bool) (rest : List Char) :
    snakeFrom lower (piece ++ rest) = piece ++ snakeFrom (lowerBehind lower piece) rest := by
  induction piece generalizing lower with
  | nil => rfl
  | cons c piece ih =>
    obtain ⟨first, later⟩ := List.forall_mem_cons.mp small
    rw [List.cons_append, snakeFrom, if_neg (by simp [first]), ih later]
    cases piece <;> rfl

/-- The underscore between two words, if there is one, and the image of a capital. -/
theorem snakeFrom_cons_upper {c : Char} (upper : isUpper c = true) (lower : Bool)
    (rest : List Char) :
    snakeFrom lower (c :: rest) =
      ((if lower then ['_'] else []) ++ lowerChar c) ++ snakeFrom false rest := by
  rw [snakeFrom, if_pos upper]

/-- What a capital with a small letter becomes is known to be in lower case if that letter is. -/
theorem lowerBehind_lowerChar {c : Char} (upper : isUpper c = true) (other : lowerChar c ≠ [c])
    (lower : Bool) (front : List Char) :
    lowerBehind lower (front ++ lowerChar c) = turnsSmall c := by
  obtain ⟨some, small⟩ := (lowerChar_cases c).resolve_left other
  obtain ⟨before, d, parts⟩ := (List.eq_nil_or_concat (lowerChar c)).resolve_left some
  have noDigit : isDigit d = false := by
    have last := small d (by simp [parts])
    rw [isSmall, Bool.and_eq_true, Bool.not_eq_true', Bool.not_eq_true'] at last
    exact last.2
  rw [turnsSmall, upper, bne_iff_ne.mpr other, parts]
  simp [lowerBehind, noDigit]

/-- Two runs over a name, of which the second may know more of the character before: they differ at
a capital without a small letter, if only the second knows that it stands behind a small one. -/
theorem snakeFrom_again (first second : Bool) (known : first = true → second = true)
    (s : List Char) :
    snakeFrom second (snakeFrom first s) = snakeFrom first s ↔
      ((second && !first) = true → ∀ c ∈ s.head?, staysCapital c = false) ∧
      s.IsChain fun c d => turnsSmall c = true → staysCapital d = false := by
  induction s generalizing first second with
  | nil => simp [snakeFrom]
  | cons c rest ih =>
    rw [List.isChain_cons]
    by_cases upper : isUpper c = true
    · have mark : ∀ d ∈ (if first then ['_'] else []), isUpper d = false := by
        cases first <;> simp [isUpper_underscore]
      rw [snakeFrom_cons_upper upper]
      rcases eq_or_ne (lowerChar c) [c] with alone | other
      · -- The second run meets the capital again, behind the underscore if there is one.
        have turns : turnsSmall c = false := by simp [turnsSmall, alone]
        have stays : staysCapital c = true := by simp [staysCapital, upper, alone]
        have before : lowerBehind second (if first then ['_'] else []) = (second && !first) := by
          cases first <;> cases second <;> decide
        have apart : '_' ≠ c := fun same => by simp [← same, isUpper_underscore] at upper
        rw [alone, List.append_assoc, snakeFrom_append mark, List.append_cancel_left_eq,
          List.singleton_append, snakeFrom_cons_upper upper, alone, before]
        cases second && !first with
        | false => simp [turns, ih false false]
        | true => simp [apart, stays]
      · -- The second run meets nothing but small characters.
        have stays : staysCapital c = false := by simp [staysCapital, other]
        have small := ((lowerChar_cases c).resolve_left other).2
        have image : ∀ d ∈ (if first then ['_'] else []) ++ lowerChar c, isUpper d = false :=
          List.forall_mem_append.mpr ⟨mark, fun d member => isUpper_of_isSmall (small d member)⟩
        rw [snakeFrom_append image, List.append_cancel_left_eq, lowerBehind_lowerChar upper other,
          ih _ _ fun no => absurd no Bool.false_ne_true]
        grind
    · -- A small character tells both runs the same.
      have turns : turnsSmall c = false := by simp [turnsSmall, upper]
      have stays : staysCapital c = false := by simp [staysCapital, upper]
      rw [snakeFrom, if_neg upper, snakeFrom, if_neg upper, List.cons.injEq,
        ih _ _ fun same => same]
      grind

/-- The capitals of a name in snake case are capitals of the name that have no small letter. -/
theorem mem_of_isUpper {lower : Bool} {s : List Char} {c : Char}
    (member : c ∈ snakeFrom lower s) (upper : isUpper c = true) :
    c ∈ s ∧ staysCapital c = true := by
  induction s generalizing lower with
  | nil => cases member
  | cons d rest ih =>
    have later {known : Bool} (member : c ∈ snakeFrom known rest) :
        c ∈ d :: rest ∧ staysCapital c = true :=
      ⟨List.mem_cons_of_mem _ (ih member).1, (ih member).2⟩
    by_cases capital : isUpper d = true
    · rw [snakeFrom_cons_upper capital, List.mem_append, List.mem_append] at member
      rcases member with (mark | image) | member
      · have underscore : c = '_' := by
          cases lower <;> simp at mark
          exact mark
        rw [underscore, isUpper_underscore] at upper
        cases upper
      · rcases lowerChar_cases d with alone | ⟨-, small⟩
        · rw [alone, List.mem_singleton] at image
          subst image
          exact ⟨List.mem_cons_self, by simp [staysCapital, upper, alone]⟩
        · rw [isUpper_of_isSmall (small c image)] at upper
          cases upper
      · exact later member
    · rw [snakeFrom, if_neg capital] at member
      rcases List.mem_cons.mp member with rfl | member
      · exact absurd upper capital
      · exact later member

/-! ### Main result -/

theorem toList_snakeCase (name : String) :
    (snakeCase name).toList = snakeFrom false name.toList := String.toList_ofList

private theorem snakeCase_snakeCase (name : String) :
    snakeCase (snakeCase name) = snakeCase name ↔ Steady name := by
  rw [snakeCase, toList_snakeCase, snakeCase, String.ofList_inj, snakeFrom_again _ _ id]
  simp [Steady]

/-- No capital of a name in snake case turns small. -/
theorem steady_snakeCase (name : String) : Steady (snakeCase name) := by
  refine List.isChain_iff_forall_rel_of_append_cons_cons.mpr fun c d before after parts turns => ?_
  have member : c ∈ (snakeCase name).toList := by simp [parts]
  rw [turnsSmall, Bool.and_eq_true, Bool.and_eq_true, bne_iff_ne] at turns
  have stays := (mem_of_isUpper (toList_snakeCase name ▸ member) turns.1.1).2
  rw [staysCapital, Bool.and_eq_true, beq_iff_eq] at stays
  exact absurd stays.2 turns.1.2

/-- Snake case leaves nothing to do but behind a capital that has become small, and twice leaves
nothing to do at all. -/
theorem snakeCase_again (name : String) :
    (snakeCase (snakeCase name) = snakeCase name ↔ Steady name) ∧
    (Steady name → ∀ (filters : Bindings Filter) (f : Filter),
      register filters (snakeCase name) f = register filters name f) ∧
    snakeCase (snakeCase (snakeCase name)) = snakeCase (snakeCase name) ∧
    ((∀ c ∈ name.toList, c.toNat < 128) → ∀ c ∈ (snakeCase name).toList, isUpper c = false) := by
  refine ⟨snakeCase_snakeCase name, fun steady filters f => ?_,
    (snakeCase_snakeCase _).mpr (steady_snakeCase name), fun ascii c member => ?_⟩
  · rw [register, (snakeCase_snakeCase name).mpr steady]
    rfl
  · rw [toList_snakeCase] at member
    refine Bool.eq_false_iff.mpr fun upper => ?_
    obtain ⟨inside, stays⟩ := mem_of_isUpper member upper
    rw [staysCapital, Bool.and_eq_true, beq_iff_eq] at stays
    exact lowerChar_ne_self (ascii c inside) upper stays.2

/-- The second of these two capitals has no small letter. Put into snake case again, their name
changes, and a filter under it is another one. -/
theorem two_capitals_split_later :
    snakeCase (snakeCase "Aϒ") ≠ snakeCase "Aϒ" ∧
    (register (register Bindings.empty "Aϒ" fun v _ => return v) (snakeCase "Aϒ")
      fun v _ => return v).names = ["aϒ", "a_ϒ"] := by decide +kernel

end Filter

end Liquid
