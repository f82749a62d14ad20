import Liquid.Proofs.FilterRuns

/-!
# Exact ranges

A range is counted out between two 64-bit whole numbers, which may lie further apart than a 64-bit
word can say. Its length is therefore checked step by step before anything is built.

## Main result

`range_exact`: a range is the array of all whole numbers from the first bound to the last, if
these are no more than `maxRangeLength`, and an error otherwise. What is built is never longer, and
no step on the way leaves its word.

## Proof strategy

The length is exact in whole numbers without a limit. Counted in words (`checkedLength?`), each step
that could leave its word does so only where the length is beyond the limit anyway. The items lie
between the bounds, so they are words as well.
-/

namespace Liquid

/-! ### Lengths in words -/

/-- The length of a range in steps of 64 bits, each of which is checked: the difference as a signed
word, the same number as an unsigned one, one more, and the limit. -/
def checkedLength? (first last : Int64) : Option Nat :=
  match int64? (last.toInt - first.toInt) with
  | none => none
  | some difference =>
    if difference.toInt < 0 then none
    else
      let length := difference.toInt.toNat + 1
      if UInt64.size ≤ length then none
      else if maxRangeLength < length then none
      else some length

private theorem int64?_eq_none_iff {i : Int} :
    int64? i = none ↔ i < Int64.minValue.toInt ∨ Int64.maxValue.toInt < i := by
  simp only [int64?, ite_eq_right_iff, reduceCtorEq, imp_false]
  omega

/-- The steps fail only where the length is too great in any case. -/
theorem checkedLength?_eq {first last : Int64} (ascending : first.toInt ≤ last.toInt) :
    checkedLength? first last =
      if last.toInt - first.toInt + 1 ≤ maxRangeLength then
        some (last.toInt - first.toInt + 1).toNat
      else none := by
  have least : Int64.minValue.toInt = -9223372036854775808 := rfl
  have most : Int64.maxValue.toInt = 9223372036854775807 := rfl
  unfold checkedLength?
  cases difference : int64? (last.toInt - first.toInt) with
  | none =>
    have far := int64?_eq_none_iff.mp difference
    rw [if_neg (by simp only [maxRangeLength]; omega)]
  | some n =>
    have exact := toInt_of_int64? difference
    have bound := n.toInt_le
    have word : ¬ UInt64.size ≤ n.toInt.toNat + 1 := by
      simp only [UInt64.size]
      omega
    have length : n.toInt.toNat + 1 = (last.toInt - first.toInt + 1).toNat := by omega
    dsimp only
    rw [if_neg (by omega), if_neg word, length]
    by_cases short : last.toInt - first.toInt + 1 ≤ maxRangeLength
    · rw [if_pos short, if_neg (by omega)]
    · rw [if_neg short, if_pos (by omega)]

/-! ### Items -/

/-- All whole numbers between the bounds, one after the other. -/
structure CountsOut (first last : Int64) (items : List Value) : Prop where
  length : (items.length : Int) = last.toInt - first.toInt + 1
  items : ∀ k (inside : k < items.length), ∃ i : Int64,
    items[k] = .int i ∧ i.toInt = first.toInt + k

theorem length_consecutive (first : Int) (count : Nat) :
    (consecutive first count).length = count := by
  simp [consecutive]

private theorem countsOut_consecutive {first last : Int64} (ascending : first.toInt ≤ last.toInt) :
    CountsOut first last
      (consecutive first.toInt (last.toInt - first.toInt + 1).toNat) where
  length := by
    rw [length_consecutive]
    omega
  items k inside := by
    rw [length_consecutive] at inside
    refine ⟨Int64.ofInt (first.toInt + k), by simp [consecutive], ?_⟩
    -- The item lies between the bounds, which are words.
    have low : -9223372036854775808 ≤ first.toInt := first.minValue_le_toInt
    have high : last.toInt ≤ 9223372036854775807 := last.toInt_le
    exact Int64.toInt_ofInt_of_le (by omega) (by omega)

private theorem length_le_of_range {first last : Int64} {v : Value}
    (built : range first last = .ok v) :
    ∃ items, v = .array items ∧ items.length ≤ maxRangeLength := by
  unfold range at built
  dsimp only at built
  split at built
  next =>
    cases built
    exact ⟨[], rfl, Nat.zero_le _⟩
  next =>
    split at built
    next short =>
      cases built
      refine ⟨_, rfl, ?_⟩
      rw [length_consecutive]
      omega
    next => cases built

theorem range_of_descending {first last : Int64} (descending : last.toInt < first.toInt) :
    range first last = .ok (.array []) := by
  unfold range
  dsimp only
  rw [if_pos (by omega)]

private theorem range_of_short {first last : Int64} (ascending : first.toInt ≤ last.toInt)
    (short : last.toInt - first.toInt + 1 ≤ maxRangeLength) :
    range first last =
      .ok (.array (consecutive first.toInt (last.toInt - first.toInt + 1).toNat)) := by
  unfold range
  dsimp only
  rw [if_neg (by omega), if_pos short]

theorem range_of_long {first last : Int64}
    (long : maxRangeLength < last.toInt - first.toInt + 1) :
    ∃ message, range first last = .error (.render message) := by
  unfold range
  dsimp only
  rw [if_neg (by omega), if_neg (by omega)]
  exact ⟨_, rfl⟩

/-! ### Main result -/

/-- Both bounds are read as whole numbers, and the range is counted out between them. -/
theorem resolve_range_of_int {env : Environment} {names : String → Value} {first last : Expr}
    {heap heap' heap'' : Heap} {v w : Value} {a b : Int64}
    (runFirst : first.resolve env names heap = (.ok v, heap'))
    (runLast : last.resolve env names heap' = (.ok w, heap''))
    (lower : v.int? = some a) (upper : w.int? = some b) :
    ((Expr.range first last).resolve env names heap).1 = range a b := by
  rw [Expr.resolve, Eval.bind_ok runFirst, Eval.bind_ok runLast, Eval.lift_bind,
    Value.readInt?_fst, lower, Eval.lift_bind, Value.readInt?_fst, upper]
  rfl

/-- Nothing but a range of two whole numbers comes out. -/
theorem exists_range_of_resolve {env : Environment} {names : String → Value} {first last : Expr}
    {heap heap' : Heap} {v : Value}
    (run : (Expr.range first last).resolve env names heap = (.ok v, heap')) :
    ∃ a b, range a b = .ok v := by
  rw [Expr.resolve] at run
  rcases runFirst : first.resolve env names heap with ⟨e | u, later⟩
  · rw [Eval.bind_error runFirst] at run
    cases run
  rw [Eval.bind_ok runFirst] at run
  rcases runLast : last.resolve env names later with ⟨e | w, later'⟩
  · rw [Eval.bind_error runLast] at run
    cases run
  rw [Eval.bind_ok runLast, Eval.lift_bind, Eval.lift_bind] at run
  cases lower : (u.readInt? later').1 with
  | none =>
    rw [lower] at run
    cases run
  | some a =>
    cases upper : (w.readInt? (u.readInt? later').2).1 with
    | none =>
      rw [lower, upper] at run
      cases run
    | some b =>
      rw [lower, upper] at run
      exact ⟨a, b, congrArg Prod.fst run⟩

/-- A range is exact up to the limit, and nothing longer is ever built. -/
theorem range_exact (env : Environment) (names : String → Value) (first last : Expr)
    (heap : Heap) :
    let outcome := ((Expr.range first last).resolve env names heap).1
    (∀ v, outcome = .ok v → ∃ items, v = .array items ∧ items.length ≤ maxRangeLength) ∧
    ∀ v heap', first.resolve env names heap = (.ok v, heap') →
    ∀ w heap'', last.resolve env names heap' = (.ok w, heap'') →
    ∀ a b, v.int? = some a → w.int? = some b →
      (b.toInt < a.toInt → outcome = .ok (.array [])) ∧
      (a.toInt ≤ b.toInt → b.toInt - a.toInt + 1 ≤ maxRangeLength →
        ∃ items, outcome = .ok (.array items) ∧ CountsOut a b items ∧
          checkedLength? a b = some items.length) ∧
      (maxRangeLength < b.toInt - a.toInt + 1 →
        (∃ message, outcome = .error (.render message)) ∧ checkedLength? a b = none) := by
  intro outcome
  refine ⟨fun v built => ?_, fun v heap' runFirst w heap'' runLast a b lower upper => ?_⟩
  · rcases run : (Expr.range first last).resolve env names heap with ⟨r, later⟩
    obtain rfl : r = .ok v := by rw [← built]; exact (congrArg Prod.fst run).symm
    obtain ⟨a, b, built⟩ := exists_range_of_resolve run
    exact length_le_of_range built
  · have counted : outcome = range a b := resolve_range_of_int runFirst runLast lower upper
    rw [counted]
    refine ⟨range_of_descending, fun ascending short => ?_, fun long => ?_⟩
    · refine ⟨_, range_of_short ascending short, countsOut_consecutive ascending, ?_⟩
      rw [checkedLength?_eq ascending, if_pos short, length_consecutive]
    · refine ⟨range_of_long long, ?_⟩
      rw [checkedLength?_eq (by omega), if_neg (by omega)]

/-- `(x..y)`, where `x` is a text and `y` a double that is computed lazily; and all of the whole
numbers of 64 bits. -/
theorem range_exact_textToDouble :
    let half : Value := .float 1.5
    let names : String → Value := fun name =>
      if name = "x" then .str " -1 " else if name = "y" then .lazy ⟨0, ""⟩ half else .nil
    let env := Template.bareEngine.env
    let x : Expr := .lookup "x" []
    let least : Expr := .literal (.int Int64.minValue)
    let most : Expr := .literal (.int Int64.maxValue)
    (∃ items, ((Expr.range x (.lookup "y" [])).resolve env names Heap.new).1 = .ok (.array items) ∧
      CountsOut (-1) 1 items ∧ items.length = 3) ∧
    ((Expr.range most x).resolve env names Heap.new).1 = .ok (.array []) ∧
    (∃ message, ((Expr.range least most).resolve env names Heap.new).1 =
      .error (.render message)) := by
  intro half names env x least most
  have whole : half.int? = some 1 := by decide +kernel
  refine ⟨?_, ?_, ?_⟩
  · obtain ⟨items, built, counts, _⟩ := ((range_exact env names x (.lookup "y" []) Heap.new).2
      _ _ rfl _ _ rfl (-1) 1 (by decide +kernel) (by decide +kernel)).2.1 (by decide) (by decide)
    have length : (items.length : Int) = 3 := counts.length.trans (by decide)
    exact ⟨items, built, counts, by omega⟩
  · exact ((range_exact env names most x Heap.new).2 _ _ rfl _ _ rfl Int64.maxValue (-1) rfl
      (by decide +kernel)).1 (by decide)
  · exact (((range_exact env names least most Heap.new).2 _ _ rfl _ _ rfl Int64.minValue
      Int64.maxValue rfl rfl).2.2 (by decide)).1

end Liquid
