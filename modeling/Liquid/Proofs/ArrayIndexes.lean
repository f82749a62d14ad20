import Liquid.Proofs.FilterRuns

/-!
# Indexes of arrays

The items of an array are counted from zero, and from `-1` backwards from its end. An index is a
64-bit whole number or what is taken for one.

## Main result

`Registry.index_consistent`: an index finds the item at its place, from either end, and nothing
where there is none. No step of the way to the place leaves its word, not even for the least index.
Counting a reversed array from the other end finds the same items. An index that is a double or a
text finds what the whole number in it finds.

## Proof strategy

All laws are about `Value.item?`, which counts without a limit. That the count in words
(`checkedPlace?`) agrees with it needs only that the magnitude of a negative index is exact as an
unsigned word (`toNat_magnitude`).
-/

namespace Liquid

/-! ### Places in words -/

/-- The magnitude as an unsigned word, in which that of the least whole number fits as well. -/
def magnitude (i : Int64) : UInt64 := i.abs.toUInt64

theorem toNat_magnitude (i : Int64) : (magnitude i).toNat = i.toInt.natAbs := by
  change i.abs.toBitVec.toNat = i.toBitVec.toInt.natAbs
  have bound := i.toBitVec.isLt
  rw [Int64.toBitVec_abs, BitVec.toNat_abs, BitVec.toInt_eq_msb_cond]
  split <;> omega

private theorem toNat_toUInt64 {i : Int64} (nonnegative : 0 ≤ i.toInt) :
    i.toUInt64.toNat = i.toInt.toNat := by
  change i.toBitVec.toNat = i.toBitVec.toInt.toNat
  change 0 ≤ i.toBitVec.toInt at nonnegative
  rw [BitVec.toInt_eq_msb_cond] at nonnegative ⊢
  have bound := i.toBitVec.isLt
  cases negative : i.toBitVec.msb with
  | true =>
    simp only [negative, if_true] at nonnegative
    omega
  | false => simp

/-- The place of an item from the front, in words: a negative index is taken from the length, if its
magnitude is not greater. -/
def checkedPlace? (length : Nat) (i : Int64) : Option Nat :=
  if i < 0 then
    let back := (magnitude i).toNat
    if length < back then none else some (length - back)
  else some i.toUInt64.toNat

namespace Value

variable {items : List Value}

private theorem item?_eq_checked (items : List Value) (i : Int64) :
    item? items i.toInt = (checkedPlace? items.length i).bind fun place => items[place]? := by
  have negative : i < 0 ↔ i.toInt < 0 := Int64.lt_iff_toInt_lt
  unfold item? checkedPlace?
  by_cases sign : i.toInt < 0
  · rw [if_neg (by omega), if_pos (negative.mpr sign), toNat_magnitude]
    by_cases far : items.length < i.toInt.natAbs
    · rw [if_neg (by omega), if_pos far, Option.bind_none]
    · rw [if_pos (by omega), if_neg far, Option.bind_some]
  · have nonnegative : 0 ≤ i.toInt := by omega
    rw [if_pos nonnegative, if_neg (mt negative.mp sign), Option.bind_some,
      toNat_toUInt64 nonnegative]

/-! ### Items from either end -/

theorem item?_of_place {k : Nat} (inside : k < items.length) {i : Int}
    (place : i = k ∨ i = k - items.length) : item? items i = some items[k] := by
  unfold item?
  rcases place with rfl | rfl
  · rw [if_pos (by omega), Int.toNat_natCast, List.getElem?_eq_getElem inside]
  · rw [if_neg (by omega), if_pos (by omega),
      show items.length - ((k : Int) - items.length).natAbs = k by omega,
      List.getElem?_eq_getElem inside]

theorem item?_outside {i : Int} (outside : i < -items.length ∨ items.length ≤ i) :
    item? items i = none := by
  unfold item?
  rcases outside with low | high
  · rw [if_neg (by omega), if_neg (by omega)]
  · rw [if_pos (by omega), List.getElem?_eq_none (by omega)]

/-- Counting from the other end is counting in the reversed array. -/
theorem item?_reverse (items : List Value) (i : Int) :
    item? items.reverse i = item? items (-1 - i) := by
  by_cases inside : -items.length ≤ i ∧ i < items.length
  · obtain ⟨k, within, place⟩ : ∃ k < items.length, i = k ∨ i = k - items.length := by
      by_cases sign : 0 ≤ i
      · exact ⟨i.toNat, by omega, .inl (by omega)⟩
      · exact ⟨(items.length + i).toNat, by omega, .inr (by omega)⟩
    rw [item?_of_place (k := k) (by rwa [List.length_reverse]) (by rwa [List.length_reverse]),
      item?_of_place (k := items.length - 1 - k) (by omega) (by omega), List.getElem_reverse]
  · rw [item?_outside (by rw [List.length_reverse]; omega), item?_outside (by omega)]

end Value

/-- The least and the greatest whole number are each other's mirror image. -/
theorem toInt_mirrored (i : Int64) : (-1 - i).toInt = -1 - i.toInt := by
  have low : -2 ^ 63 ≤ i.toInt := i.minValue_le_toInt
  have high : i.toInt ≤ 2 ^ 63 - 1 := i.toInt_le
  rw [Int64.toInt_sub, show (-1 : Int64).toInt = -1 from rfl]
  exact Int.bmod_eq_of_le (by omega) (by omega)

namespace Registry

/-! ### Main result -/

variable {r : Registry} {v : Value} {items : List Value}

private theorem index?_array (array : v.resolved = .array items) (index : Value) (heap : Heap) :
    (r.index? v index heap).1 = index.int?.bind fun i => Value.item? items i.toInt := by
  have whole : index.resolved.int? = index.int? := by
    rw [Value.int?, Value.number?_resolved, Value.int?]
  have held : (v.read heap).1 = .array items := array
  rw [index?, Live.bind_apply, held, Live.bind_apply, ← whole]
  rfl

private theorem index?_int (array : v.resolved = .array items) (i : Int64) (heap : Heap) :
    (r.index? v (.int i) heap).1 = Value.item? items i.toInt := index?_array array (.int i) heap

/-- Indexes of an array, from both of its ends and out of its bounds. -/
theorem index_consistent (r : Registry) {v : Value} {items : List Value}
    (array : v.resolved = .array items) (heap : Heap) :
    let found (i : Int64) : Option Value := (r.index? v (.int i) heap).1
    let n : Int := items.length
    (∀ i : Int64,
      (∀ k (inside : k < items.length), i.toInt = k ∨ i.toInt = k - n →
        found i = some items[k]) ∧
      (i.toInt < -n ∨ n ≤ i.toInt → found i = none) ∧
      found i = (checkedPlace? items.length i).bind fun place => items[place]?) ∧
    (∃ mirrored, (Filter.apply Filter.standard "reverse" v.resolved [] heap).1 = .ok mirrored ∧
      ∀ i : Int64, (r.index? mirrored (.int i) heap).1 = found (-1 - i) ∧
        (-1 - i).toInt = -1 - i.toInt) ∧
    ∀ index : Value, (r.index? v index heap).1 = index.int?.bind found := by
  intro found n
  have counted (i : Int64) : found i = Value.item? items i.toInt := index?_int array i heap
  refine ⟨fun i => ⟨fun k inside place => ?_, fun outside => ?_, ?_⟩, ?_, fun index => ?_⟩
  · rw [counted, Value.item?_of_place inside place]
  · rw [counted, Value.item?_outside outside]
  · rw [counted, Value.item?_eq_checked]
  · refine ⟨.array items.reverse, ?_, fun i => ⟨?_, toInt_mirrored i⟩⟩
    · rw [array, Filter.apply_ok (f := Filter.reverse) rfl]
      rfl
    · rw [index?_int rfl, counted, toInt_mirrored, Value.item?_reverse]
  · rw [index?_array array, show found = fun i => Value.item? items i.toInt from funext counted]

/-- A lazy array, with the least index, a text and a double. -/
theorem index_consistent_ofTwo :
    let r := Template.bareEngine.env.registry
    let v : Value := .lazy ⟨0, ""⟩ (.array [.nil, .str "b"])
    let found (i : Int64) : Option Value := (r.index? v (.int i) Heap.new).1
    found (-1) = some (.str "b") ∧ found (-2) = some .nil ∧ found Int64.minValue = none ∧
    (∃ mirrored, (Filter.apply Filter.standard "reverse" v.resolved [] Heap.new).1 = .ok mirrored ∧
      (r.index? mirrored (.int 0) Heap.new).1 = some (.str "b")) ∧
    (r.index? v (.str " -1 ") Heap.new).1 = some (.str "b") ∧
    (r.index? v (.float 1.75) Heap.new).1 = some (.str "b") := by
  intro r v found
  have array : v.resolved = .array [.nil, .str "b"] := rfl
  obtain ⟨places, ⟨mirrored, reversed, mirrors⟩, converted⟩ := index_consistent r array Heap.new
  have last : found (-1) = some (.str "b") := (places (-1)).1 1 (by decide) (by decide)
  have text : (Value.str " -1 ").int? = some (-1) := by rfl
  have double : (Value.float 1.75).int? = some 1 := by decide +kernel
  refine ⟨last, (places (-2)).1 0 (by decide) (by decide), (places Int64.minValue).2.1 (by decide),
    ⟨mirrored, reversed, (mirrors 0).1.trans last⟩, ?_, ?_⟩
  · rw [converted, text]
    exact last
  · rw [converted, double]
    exact (places 1).1 1 (by decide) (by decide)

end Registry

end Liquid
