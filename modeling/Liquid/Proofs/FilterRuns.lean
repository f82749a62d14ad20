import Liquid.Proofs.Steps

/-!
# Runs of filters

What filters do with their input and their arguments, as outcomes of a run: an argument that is
there or missing, a value that is taken for a number or not, and a calculation.
-/

namespace Liquid

theorem Value.number?_resolved (v : Value) : v.resolved.number? = v.number? := by
  simp only [number?, resolved_resolved]

theorem Value.plain_str (s : String) : (Value.str s).plain = s := String.empty_append

/-- Reading a whole number computes cells and nothing else. -/
theorem Value.readInt?_fst (v : Value) (heap : Heap) : (v.readInt? heap).1 = v.int? := by
  rw [int?, ← number?_resolved]
  rfl

namespace Filter

variable {v w : Value} {m n : Number} {args : List Value} {index : Nat}

theorem apply_ok {name : String} {f : Filter} {filters : Bindings Filter}
    (held : filters.get? name = some f) (v : Value) (args : List Value) :
    apply filters name v args = f v args := by
  rw [apply, held]

/-! ### Arguments -/

theorem arg_ok (filter : String) (given : args[index]? = some v) (heap : Heap) :
    arg filter args index heap = (.ok v, heap) := by
  unfold arg
  rw [given]
  rfl

theorem arg_missing (filter : String) (missing : args.length ≤ index) (heap : Heap) :
    arg filter args index heap =
      (.error (.argument s!"filter '{filter}' expects at least {index + 1} argument(s)"),
        heap) := by
  unfold arg
  rw [List.getElem?_eq_none missing]
  rfl

/-! ### Numbers -/

theorem number_ok (filter : String) (held : v.number? = some n) (heap : Heap) :
    number filter v heap = (.ok n, (v.readNumber? heap).2) := by
  have read : (v.readNumber? heap).1 = some n := (Value.number?_resolved v).trans held
  rw [number, Eval.lift_bind, read]
  rfl

/-- What is no number is the fault of the template. -/
theorem number_refused (filter : String) (other : v.number? = none) (heap : Heap) :
    (number filter v heap).1 =
      .error (.render s!"{filter}: '{v.plain}' is not a number") := by
  have read : (v.readNumber? heap).1 = none := (Value.number?_resolved v).trans other
  rw [number, Eval.lift_bind, read]
  rfl

/-! ### Calculations -/

theorem calculate_ok (filter : String) (op : Number.Operation) (left : v.number? = some m)
    (right : w.number? = some n) (rest : List Value) (heap : Heap) :
    (calculate filter op v (w :: rest) heap).1 = .ok (.ofNumber (Number.combine op m n)) := by
  rw [calculate, Eval.bind_ok (number_ok filter left heap), Eval.bind_ok (arg_ok filter rfl _),
    Eval.bind_ok (number_ok filter right _)]
  rfl

theorem calculateNonzero_ok (filter : String) (op : Number.Operation) (left : v.number? = some m)
    (right : w.number? = some n) (nonzero : n.isZero = false) (rest : List Value) (heap : Heap) :
    (calculateNonzero filter op v (w :: rest) heap).1 =
      .ok (.ofNumber (Number.combine op m n)) := by
  rw [calculateNonzero, Eval.bind_ok (arg_ok filter rfl heap),
    Eval.bind_ok (number_ok filter right heap), nonzero]
  exact calculate_ok filter op left right rest _

theorem calculateNonzero_zero (filter : String) (op : Number.Operation) (v : Value)
    (right : w.number? = some n) (zero : n.isZero = true) (rest : List Value) (heap : Heap) :
    (calculateNonzero filter op v (w :: rest) heap).1 = .error (.render "divided by 0") := by
  rw [calculateNonzero, Eval.bind_ok (arg_ok filter rfl heap),
    Eval.bind_ok (number_ok filter right heap), zero]
  rfl

end Filter

end Liquid
