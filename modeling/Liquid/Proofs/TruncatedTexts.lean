import Liquid.Proofs.FilterRuns

/-!
# Truncated texts

A text is truncated to a number of characters, of which an ellipsis takes its part. An ellipsis that
is longer than that is not cut itself, so the result may be longer than asked for.

## Main result

`Filter.truncate_keeps_front`: a text that is short enough is kept, and of any other the front stays
that leaves room for the ellipsis. The result is as long as asked for, or as the ellipsis if that is
longer, and truncating it once more changes nothing.

## Proof strategy

What a truncation has to be determines it (`Truncated.unique`), so a text that is one of itself is
what truncating it gives. The result of a truncation is one of itself: either it is short enough, or
it consists of the ellipsis alone.
-/

namespace Liquid

/-- The text if it is short enough, else a front of it and the ellipsis. Limits below zero count as
zero. -/
structure Truncated (limit : Int) (ellipsis s out : String) : Prop where
  short : (s.length : Int) ≤ max limit 0 → out = s
  long : max limit 0 < (s.length : Int) → ∃ front rest, s = front ++ rest ∧
    (front.length : Int) = max (limit - ellipsis.length) 0 ∧ out = front ++ ellipsis

section

variable {limit : Int} {ellipsis s out : String}

theorem Truncated.unique {out' : String} (truncated : Truncated limit ellipsis s out)
    (truncated' : Truncated limit ellipsis s out') : out = out' := by
  by_cases fits : (s.length : Int) ≤ max limit 0
  · rw [truncated.short fits, truncated'.short fits]
  · obtain ⟨front, rest, parts, length, rfl⟩ := truncated.long (by omega)
    obtain ⟨front', rest', parts', length', rfl⟩ := truncated'.long (by omega)
    have whole : front.toList ++ rest.toList = front'.toList ++ rest'.toList := by
      rw [← String.toList_append, ← String.toList_append, ← parts, parts']
    have lengths : front.toList.length = front'.toList.length := by
      rw [String.length_toList, String.length_toList]
      omega
    rw [String.toList_inj.mp (List.append_inj whole lengths).1]

theorem Truncated.length (truncated : Truncated limit ellipsis s out)
    (long : max limit 0 < (s.length : Int)) :
    (out.length : Int) = max (max limit 0) ellipsis.length := by
  obtain ⟨front, rest, -, length, rfl⟩ := truncated.long long
  rw [String.length_append]
  omega

/-- Nothing is left to truncate. -/
theorem Truncated.again (truncated : Truncated limit ellipsis s out) :
    Truncated limit ellipsis out out := by
  refine ⟨fun _ => rfl, fun long => ?_⟩
  by_cases fits : (s.length : Int) ≤ max limit 0
  · rw [truncated.short fits] at long
    omega
  · obtain ⟨front, rest, -, length, rfl⟩ := truncated.long (by omega)
    rw [String.length_append] at long
    -- Only an ellipsis beyond the limit makes the result longer, and it leaves no room for a front.
    obtain rfl : front = "" := String.length_eq_zero_iff.mp (by omega)
    exact ⟨"", ellipsis, rfl, length, rfl⟩

private theorem truncated_truncateText (limit : Int) (ellipsis s : String) :
    Truncated limit ellipsis s (truncateText limit.toNat ellipsis s) := by
  unfold truncateText
  constructor
  · intro short
    rw [if_pos (by omega)]
  · intro long
    rw [if_neg (by omega)]
    refine ⟨_, String.ofList (s.toList.drop (limit.toNat - ellipsis.length)), ?_, ?_, rfl⟩
    · rw [← String.ofList_append, List.take_append_drop, String.ofList_toList]
    · rw [String.length_ofList, List.length_take, String.length_toList]
      omega

end

/-! ### Main result -/

namespace Filter

/-- The length that the arguments ask for, if it is a number. -/
def askedLength? (args : List Value) : Option Int64 :=
  match args[0]? with
  | some n => n.int?
  | none => some 50

def askedEllipsis (args : List Value) : String :=
  match args[1]? with
  | some e => e.plain
  | none => "..."

variable {args : List Value} {n : Int64}

private theorem truncateLength_ok (asked : askedLength? args = some n) (heap : Heap) :
    (truncateLength args heap).1 = .ok n.toInt.toNat := by
  unfold askedLength? at asked
  unfold truncateLength
  cases given : args[0]? with
  | none =>
    rw [given] at asked
    cases asked
    rfl
  | some w =>
    rw [given] at asked
    dsimp only at asked ⊢
    rw [Eval.lift_bind, Value.readInt?_fst, asked]
    rfl

theorem apply_truncate (asked : askedLength? args = some n) (v : Value) (heap : Heap) :
    (apply standard "truncate" v args heap).1 =
      .ok (.str (truncateText n.toInt.toNat (askedEllipsis args) v.plain)) := by
  rw [apply_ok (f := truncate) rfl, truncate,
    Eval.bind_ok (Prod.ext (truncateLength_ok asked heap) rfl), askedEllipsis]
  cases args[1]? <;> rfl

/-- Truncating keeps the front of a text that fits, and is done at once. -/
theorem truncate_keeps_front (asked : askedLength? args = some n) (v : Value) (heap : Heap) :
    let t := v.plain
    let limit := max n.toInt 0
    let ellipsis := askedEllipsis args
    ∃ out : String, (apply standard "truncate" v args heap).1 = .ok (.str out) ∧
      ((t.length : Int) ≤ limit → out = t) ∧
      (limit < (t.length : Int) →
        (∃ front rest, t = front ++ rest ∧
          (front.length : Int) = max (n.toInt - ellipsis.length) 0 ∧ out = front ++ ellipsis) ∧
        (out.length : Int) = max limit ellipsis.length) ∧
      ∀ heap', (apply standard "truncate" (.str out) args heap').1 = .ok (.str out) := by
  intro t limit ellipsis
  have truncated := truncated_truncateText n.toInt ellipsis t
  refine ⟨_, apply_truncate asked v heap, truncated.short,
    fun long => ⟨truncated.long long, truncated.length long⟩, fun heap' => ?_⟩
  rw [apply_truncate asked, Value.plain_str]
  have same := (truncated_truncateText n.toInt ellipsis _).unique truncated.again
  exact congrArg (fun s => Except.ok (Value.str s)) same

/-- To five characters, to fewer than the ellipsis has, and to fewer than none. -/
theorem truncate_keeps_front_accents :
    let accents : Value := .str "éééééé"
    (∃ out : String, (apply standard "truncate" accents [.str "5"] Heap.new).1 = .ok (.str out) ∧
      out = "éé..." ∧
      (apply standard "truncate" (.str out) [.str "5"] Heap.new).1 = .ok (.str out)) ∧
    (∃ out : String, (apply standard "truncate" accents [.int (-1), .str "--"] Heap.new).1 =
      .ok (.str out) ∧ out.length = 2) := by
  intro accents
  have five : askedLength? [.str "5"] = some 5 := by rfl
  have negative : askedLength? [.int (-1), .str "--"] = some (-1) := by rfl
  obtain ⟨out, truncates, -, -, again⟩ := truncate_keeps_front five accents Heap.new
  obtain ⟨out', truncates', -, long, -⟩ := truncate_keeps_front negative accents Heap.new
  refine ⟨⟨out, truncates, ?_, again Heap.new⟩, out', truncates', ?_⟩
  · have run := apply_truncate five accents Heap.new
    rw [Value.str.inj (Except.ok.inj (truncates.symm.trans run))]
    decide
  · have length := (long (by decide)).2
    have bound : max (max (-1 : Int64).toInt 0)
      ((askedEllipsis [.int (-1), .str "--"]).length : Int) = 2 := by decide
    omega

end Filter

end Liquid
