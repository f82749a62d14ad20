import Liquid.Evaluate
import Liquid.Proofs.PairedFilters

/-!
# Evaluation in paired runs

When each name stands for counterparts, expressions evaluate to counterparts, conditions to the
same answer, and values are written alike. The environment is the same on both sides; what it holds
of the host has to be impartial.

## Main results

`Variable.evaluate_attempts`, `Condition.evaluate_attempts`, `Environment.output_matches`.
-/

namespace Liquid

open Pairing Value

/-- Writes counterparts alike. -/
def Transformer.Impartial (l : Ledger) (base : Nat) (f : Transformer) : Prop :=
  ∀ σ : Shift, base ≤ σ.start → ∀ n {v w : Value}, Counterpart l.nature σ n v w →
    (heaps l σ).Matches n (fun _ => Eq) (f v) (f w)

/-- Everything that the host brought along is impartial, and the globals were made before. -/
structure Environment.Impartial (l : Ledger) (base : Nat) (env : Environment) : Prop where
  filters : ∀ name f, env.filters.get? name = some f → Filter.Impartial l base f
  registry : env.registry.Impartial l base
  transformers : ∀ kind f, env.transformers kind = some f → Transformer.Impartial l base f
  globals : ∀ entry ∈ env.globals.entries, entry.2.Sound l.nature base

/-- Each name stands for counterparts. -/
def Counterparts (nature : String → Bool) (σ : Shift) (n : Nat) (names names' : String → Value) :
    Prop :=
  ∀ name, Counterpart nature σ n (names name) (names' name)

theorem Counterparts.later {nature : String → Bool} {σ : Shift} {n k : Nat}
    {names names' : String → Value} (related : Counterparts nature σ n names names')
    (later : n ≤ k) : Counterparts nature σ k names names' :=
  fun name => (related name).later later

variable {l : Ledger} {base : Nat} {σ : Shift} {n : Nat} {env : Environment}
  {names names' : String → Value}

/-! ### Expressions -/

private theorem sound_range {nature : String → Bool} {i j : Int64} {v : Value}
    (made : range i j = .ok v) :
    v.Sound nature n := by
  unfold range at made
  simp only at made
  split at made
  next =>
    cases made
    trivial
  next =>
    split at made
    next =>
      cases made
      refine soundItems_iff.mpr fun v member => ?_
      obtain ⟨k, -, rfl⟩ := List.mem_map.mp member
      trivial
    next => cases made

private theorem range_attempts (i j : Int64) :
    (heaps l σ).Attempts n (Counterpart l.nature σ) (ExceptT.mk (pure (range i j)))
      (ExceptT.mk (pure (range i j))) := by
  refine Matches.pure fun k _ => ?_
  cases made : range i j with
  | ok v => exact .ok (.plain (sound_range made))
  | error e => exact .error e

private theorem sound_literal {nature : String → Bool} (literal : Literal) :
    literal.value.Sound nature n := by
  cases literal <;> trivial

mutual

theorem resolve_attempts (fair : env.Impartial l base) (begun : base ≤ σ.start) :
    (e : Expr) → {n : Nat} → Counterparts l.nature σ n names names' →
    (heaps l σ).Attempts n (Counterpart l.nature σ) (e.resolve env names) (e.resolve env names')
  | .literal literal, _, _ => Filter.plain_result (sound_literal literal)
  | .range first last, n, related => by
    -- What is found first stays a counterpart while the second end and the texts are computed.
    refine (resolve_attempts fair begun first related).bind fun k late v v' left => ?_
    refine (resolve_attempts fair begun last (related.later late)).bind fun k later w w' right => ?_
    have left := left.later later
    refine (Attempts.lift (readInt?_matches left)).next fun k later i => ?_
    have left := left.later later
    have right := right.later later
    refine (Attempts.lift (readInt?_matches right)).next fun k later j => ?_
    -- A refusal writes both ends, and counterparts are written alike.
    have failed := (Filter.plain_attempts (left.later later)).next fun k' later' first =>
      (Filter.plain_attempts (right.later (Nat.le_trans later later'))).next fun _ _ last =>
        Attempts.throw (R := Counterpart l.nature σ) (.render s!"invalid range ({first}..{last})")
    cases i <;> cases j <;> first | exact range_attempts _ _ | exact failed
  | .lookup name path, _, related =>
    (walk_attempts fair begun path related (related name)).bind fun _ _ _ _ found =>
      .lift (read_matches found)

private theorem walk_attempts (fair : env.Impartial l base) (begun : base ≤ σ.start) :
    (path : List Segment) → {n : Nat} → {v w : Value} →
    Counterparts l.nature σ n names names' → Counterpart l.nature σ n v w →
    (heaps l σ).Attempts n (Counterpart l.nature σ) (walk env names v path)
      (walk env names' w path)
  | [], _, _, _, _, held => .pure fun _ later => held.later later
  | segment :: rest, n, v, w, related, held => by
    unfold walk
    refine (Attempts.lift (read_matches held)).bind fun k late u u' read => ?_
    rw [read.reading isNil (isNil_renumbered σ)]
    split
    next => exact Filter.plain_result trivial
    next =>
      refine (step_attempts fair begun segment (related.later late) (held.later late)).bind
        fun k' later a b found => ?_
      have related := related.later (Nat.le_trans late later)
      exact walk_attempts fair begun rest related (Counterpart.getD found)

private theorem step_attempts (fair : env.Impartial l base) (begun : base ≤ σ.start) :
    (segment : Segment) → {n : Nat} → {v w : Value} →
    Counterparts l.nature σ n names names' → Counterpart l.nature σ n v w →
    (heaps l σ).Attempts n (fun k => Option.Rel (Counterpart l.nature σ k))
      (segment.step env names v) (segment.step env names' w)
  | .field name, _, _, _, _, held => .lift (Registry.member?_matches fair.registry begun name held)
  | .index e, _, _, _, related, held =>
    (resolve_attempts fair begun e related).bind fun _ late _ _ index =>
      (Attempts.lift (Registry.expose_matches fair.registry begun index)).bind
        fun _ later _ _ index =>
          .lift (Registry.index?_matches fair.registry begun
            (held.later (Nat.le_trans late later)) index)

end

variable (fair : env.Impartial l base) (begun : base ≤ σ.start)

include fair begun

theorem exposed_attempts (e : Expr) (related : Counterparts l.nature σ n names names') :
    (heaps l σ).Attempts n (Counterpart l.nature σ) (e.exposed env names)
      (e.exposed env names') :=
  (resolve_attempts fair begun e related).bind fun _ _ _ _ found =>
    .lift (Registry.expose_matches fair.registry begun found)

theorem exposedInt_attempts (e : Expr) (related : Counterparts l.nature σ n names names') :
    (heaps l σ).Attempts n (fun _ => Eq) (do (← e.exposed env names).readInt?)
      (do (← e.exposed env names').readInt?) :=
  (exposed_attempts fair begun e related).bind fun _ _ _ _ found =>
    .lift (readInt?_matches found)

theorem exposedAll_attempts (es : List Expr) (related : Counterparts l.nature σ n names names') :
    (heaps l σ).Attempts n (fun k => List.Forall₂ (Counterpart l.nature σ k))
      (exposedAll env names es) (exposedAll env names' es) := by
  induction es generalizing n with
  | nil => exact .pure fun _ _ => .nil
  | cons e rest ih =>
    refine (exposed_attempts fair begun e related).bind fun k late v w first => ?_
    refine (ih (related.later late)).bind fun k later vs ws others => ?_
    exact .pure fun _ later' =>
      .cons (first.later (Nat.le_trans later later')) (Filter.laterAll others later')

theorem apply_attempts (name : String) {v w : Value} {args args' : List Value}
    (input : Counterpart l.nature σ n v w)
    (given : List.Forall₂ (Counterpart l.nature σ n) args args') :
    (heaps l σ).Attempts n (Counterpart l.nature σ) (Filter.apply env.filters name v args)
      (Filter.apply env.filters name w args') := by
  unfold Filter.apply
  split
  next f held => exact fair.filters name f held σ begun n input given
  next => exact .throw _

theorem pipe_attempts (calls : List FilterCall) (related : Counterparts l.nature σ n names names')
    {v w : Value} (held : Counterpart l.nature σ n v w) :
    (heaps l σ).Attempts n (Counterpart l.nature σ) (pipe env names v calls)
      (pipe env names' w calls) := by
  induction calls generalizing n v w with
  | nil => exact .pure fun _ later => held.later later
  | cons call rest ih =>
    refine (Attempts.lift (Registry.expose_matches fair.registry begun held)).bind
      fun k late _ _ input => ?_
    refine (exposedAll_attempts fair begun call.args (related.later late)).bind
      fun k' later _ _ args => ?_
    refine (apply_attempts fair begun call.name (input.later later) args).bind
      fun k'' last _ _ result => ?_
    exact ih (related.later (Nat.le_trans late (Nat.le_trans later last))) result

theorem Variable.evaluate_attempts (v : Variable)
    (related : Counterparts l.nature σ n names names') :
    (heaps l σ).Attempts n (Counterpart l.nature σ) (v.evaluate env names)
      (v.evaluate env names') :=
  (resolve_attempts fair begun v.expr related).bind fun _ late _ _ found =>
    pipe_attempts fair begun v.filters (related.later late) found

theorem Variable.exposed_attempts (v : Variable)
    (related : Counterparts l.nature σ n names names') :
    (heaps l σ).Attempts n (Counterpart l.nature σ) (v.exposed env names)
      (v.exposed env names') :=
  (v.evaluate_attempts fair begun related).bind fun _ _ _ _ found =>
    .lift (Registry.expose_matches fair.registry begun found)

/-! ### Conditions -/

omit fair begun in
private theorem emptiness_attempts (e : Emptiness) (op : Operator) {v w : Value}
    (held : Counterpart l.nature σ n v w) :
    (heaps l σ).Attempts n (fun _ => Eq) (e.test op v) (e.test op w) := by
  refine (Attempts.lift (read_matches held)).bind fun k late u u' read => ?_
  rw [read.reading isEmpty (isEmpty_renumbered σ), read.reading isBlank (isBlank_renumbered σ)]
  cases op <;> first | exact .same _ | exact .throw _

omit fair begun in
private theorem compareOrdered_attempts (op : Operator) {v v' w w' : Value}
    (left : Counterpart l.nature σ n v v') (right : Counterpart l.nature σ n w w') :
    (heaps l σ).Attempts n (fun _ => Eq) (compareOrdered op v w) (compareOrdered op v' w') := by
  refine (Attempts.lift (read_matches left)).bind fun k late a a' read => ?_
  rw [read.reading isNil (isNil_renumbered σ)]
  split
  next => exact .same _
  -- Neither side is nil, so both are compared, and the refusal names only their types.
  refine (Attempts.lift (read_matches (right.later late))).bind fun k' later b b' read => ?_
  rw [read.reading isNil (isNil_renumbered σ)]
  split
  next => exact .same _
  have late := Nat.le_trans late later
  refine (Attempts.lift (readCompare?_matches (left.later late) (right.later late))).next
    fun _ _ ordering => ?_
  cases ordering with
  | some ordering => exact .same _
  | none =>
    rw [left.reading typeName (typeName_renumbered σ),
      right.reading typeName (typeName_renumbered σ)]
    exact .throw _

omit fair begun in
private theorem compareValues_attempts (op : Operator) {v v' w w' : Value}
    (left : Counterpart l.nature σ n v v') (right : Counterpart l.nature σ n w w') :
    (heaps l σ).Attempts n (fun _ => Eq) (compareValues op v w) (compareValues op v' w') := by
  have ordered := compareOrdered_attempts op left right
  cases op
  case eq => exact .lift (readLooseEq_matches left right)
  case ne => exact (Attempts.lift (readLooseEq_matches left right)).next fun _ _ _ => .same _
  case contains => exact .lift (readContains_matches left right)
  all_goals exact ordered

theorem Test.evaluate_attempts (t : Test) (related : Counterparts l.nature σ n names names') :
    (heaps l σ).Attempts n (fun _ => Eq) (t.evaluate env names) (t.evaluate env names') := by
  cases t with
  | always => exact .same _
  | truthy v =>
    refine (v.evaluate_attempts fair begun related).bind fun _ _ _ _ found => ?_
    refine (Attempts.lift (read_matches found)).bind fun _ _ _ _ read => ?_
    exact .pure fun _ _ => (read.reading isTruthy (isTruthy_renumbered σ)).symm
  | compare left op right =>
    cases asked : right.emptiness? with
    | some e =>
      simp only [Test.evaluate, asked]
      exact (left.exposed_attempts fair begun related).bind fun _ _ _ _ held =>
        emptiness_attempts e op held
    | none =>
      cases asked' : left.emptiness? with
      | some e =>
        simp only [Test.evaluate, asked, asked']
        exact (right.exposed_attempts fair begun related).bind fun _ _ _ _ held =>
          emptiness_attempts e op held
      | none =>
        simp only [Test.evaluate, asked, asked']
        refine (left.exposed_attempts fair begun related).bind fun _ late _ _ first => ?_
        refine (right.exposed_attempts fair begun (related.later late)).bind
          fun _ later _ _ second => ?_
        exact compareValues_attempts op (first.later later) second

theorem Condition.evaluate_attempts (c : Condition)
    (related : Counterparts l.nature σ n names names') :
    (heaps l σ).Attempts n (fun _ => Eq) (c.evaluate env names) (c.evaluate env names') := by
  induction c generalizing n with
  | last t => exact t.evaluate_attempts fair begun related
  | link t c rest ih =>
    refine (t.evaluate_attempts fair begun related).next fun _ late holds => ?_
    -- The answer is the same on both sides, so the rest is asked on both or on neither.
    cases c <;> cases holds <;> first | exact ih (related.later late) | exact .same _

/-! ### Output -/

theorem Environment.output_matches (format : Format) {v w : Value}
    (held : Counterpart l.nature σ n v w) :
    (heaps l σ).Matches n (fun _ => Eq) (env.output format v) (env.output format w) := by
  refine (Registry.expose_matches fair.registry begun held).bind fun k late v v' held => ?_
  refine (read_matches held).bind fun k' later u u' read => ?_
  rw [read.reading kind (kind_renumbered σ)]
  split
  next f given => exact fair.transformers u.kind f given σ begun k' (held.later later)
  next => exact readText_matches format (held.later later)

end Liquid
