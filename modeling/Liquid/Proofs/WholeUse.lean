import Liquid.Proofs.Parts
import Liquid.Proofs.SplitEvaluation

/-!
# Names that are used whole

A name is used whole where no step follows it in a path. An object that is used whole gives way to
what its adapter's transform makes of it, so a template that uses a name only whole should not
tell the object from that value. Here stands what it means to use names only whole, and how far
evaluation keeps to the rule.

## Main result

`StandIn.exposed_same`, `StandIn.evaluate_gives`, `StandIn.condition_same`: under names that differ
only in the object and its stand-in, what is exposed or tested is the same.

## Proof strategy

An expression that is no more than such a name gives the object on one side and the stand-in on
the other; every other expression gives the same on both. The induction over expressions carries
this as one disjunction (`Gives`), and each place that exposes the value closes the gap.
-/

namespace Liquid

/-! ### Templates that use names whole -/

section

variable (names : List String)

/-- One of the names and nothing else. -/
def Expr.isName : Expr → Bool
  | .lookup name [] => names.contains name
  | _ => false

/-- No step follows one of the names. -/
def Expr.endsWhole : Expr → Bool
  | .lookup name (_ :: _) => !names.contains name
  | _ => true

/-- A range with one of the names as a bound. -/
def Expr.bounds : Expr → Bool
  | .range first last => first.isName names || last.isName names
  | _ => false

def Variable.isName (v : Variable) : Bool := v.filters.isEmpty && v.expr.isName names

/-- Asks whether one of the names is truthy. -/
def Test.asks : Test → Bool
  | .truthy v => v.isName names
  | _ => false

def Part.asks : Part → Bool
  | .condition c => c.tests.any (Test.asks names)
  | _ => false

/-- What is assigned from one of the names is one of them. -/
def Part.keepsNames : Part → Bool
  | .assign name v => !v.isName names || names.contains name
  | _ => true

/-- The names, among them all that are assigned from them, are used only whole. -/
def usesWhole (nodes : List Node) : Bool :=
  (allParts nodes).all fun part =>
    part.keepsNames names && part.within.all (Expr.endsWhole names)

/-- Some condition asks whether one of the names is truthy. -/
def asksName (nodes : List Node) : Bool := (allParts nodes).any (Part.asks names)

/-- Some range has one of the names as a bound. -/
def boundsName (nodes : List Node) : Bool :=
  (allParts nodes).any fun part => part.within.any (Expr.bounds names)

end

/-! ### Stand-ins -/

/-- An object with what its adapter's transform gives in its stead: a value that is neither an
object nor lazy. -/
structure StandIn (r : Registry) where
  object : HostObject Value
  value : Value
  transform : HostObject Value → Fresh Value
  adapted : r.transform? object.type = some transform
  yields : transform object = pure value
  computed : value.isResolved = true
  plain : ∀ o, value ≠ .object o

namespace StandIn

variable {r : Registry} (s : StandIn r) (names : List String)

/-- Equal, unless one of the names stands for the object, and on the other side for its
stand-in. -/
inductive Stands : String → Value → Value → Prop where
  | same (name : String) (v : Value) : Stands name v v
  | swapped {name : String} : name ∈ names → Stands name (.object s.object) s.value

/-- As the bound of a range, the stand-in is as good as the object: no number, and no text in the
message that says so. -/
structure Silent : Prop where
  number : s.value.int? = none
  text : s.value.plain = ""
  cells : s.value.cells = []

/-- What an expression within the template may be. -/
def Fits (e : Expr) : Prop :=
  e.endsWhole names = true ∧ (e.bounds names = true → s.Silent)

/-- The outcome of what may be no more than one of the names. -/
def Gives (bare : Bool) (x y : Eval Value) : Prop :=
  x = y ∨ (bare = true ∧ x = pure (.object s.object) ∧ y = pure s.value)

@[simp] theorem outerCells_value : s.value.outerCells = [] :=
  Value.outerCells_of_isResolved s.computed

@[simp] theorem resolved_value : s.value.resolved = s.value :=
  Value.resolved_of_isResolved s.computed

@[simp] theorem read_value : s.value.read = pure s.value := Value.read_of_isResolved s.computed

private theorem liftM_read_value : (liftM s.value.read : Eval Value) = pure s.value := by
  rw [read_value]
  rfl

theorem expose_value : r.expose s.value = pure s.value := by
  simp only [Registry.expose, read_value, pure_bind]
  split
  next o held => exact absurd held (s.plain o)
  next => rfl

theorem expose_object : r.expose (.object s.object) = pure s.value := by
  rw [r.expose_adapted s.adapted, s.yields]
  rfl

/-! ### Ranges -/

/-- The array of a range with these bounds. -/
def spanned (first last : Value) : Eval Value := do
  match ← first.readInt?, ← last.readInt? with
  | some i, some j => ExceptT.mk (pure (range i j))
  | _, _ =>
    let first ← first.readPlain
    let last ← last.readPlain
    throw (.render s!"invalid range ({first}..{last})")

private theorem resolve_range (env : Environment) (held : String → Value) (first last : Expr) :
    (Expr.range first last).resolve env held = (do
      let first ← first.resolve env held
      let last ← last.resolve env held
      spanned first last) := by
  rw [Expr.resolve]
  rfl

variable {s names}

theorem Silent.readInt? (silent : s.Silent) :
    (Value.object s.object).readInt? = s.value.readInt? := by
  simp only [Value.readInt?, read_value, pure_bind, silent.number]
  rfl

theorem Silent.readPlain (silent : s.Silent) :
    (Value.object s.object).readPlain = s.value.readPlain := by
  have text : s.value.text Format.plain = "" := silent.text
  simp only [Value.readPlain, Value.readText, silent.cells, text]
  rfl

theorem Silent.spanned_first (silent : s.Silent) (last : Value) :
    spanned (.object s.object) last = spanned s.value last := by
  simp only [spanned, silent.readInt?, silent.readPlain]

private theorem Silent.spanned_last (silent : s.Silent) (first : Value) :
    spanned first (.object s.object) = spanned first s.value := by
  simp only [spanned, silent.readInt?, silent.readPlain]

private theorem foldl_compute_ne_nil (cells : List Cell) {done : List Cell} (some : done ≠ []) :
    cells.foldl (fun done cell => if done.contains cell then done else cell :: done) done ≠ [] := by
  induction cells generalizing done with
  | nil => exact some
  | cons cell rest ih =>
    rw [List.foldl_cons]
    split
    next => exact ih some
    next => exact ih (List.cons_ne_nil _ _)

private theorem readInt?_value : s.value.readInt? = pure s.value.int? := by
  simp only [Value.readInt?, read_value, pure_bind]

/-- Of what cannot be a bound the message tells no more than the text. -/
theorem spanned_nil (v : Value) (none : v.readInt? = pure none) (heap : Heap) :
    spanned v .nil heap =
      (.error (.render s!"invalid range ({v.plain}..{Value.nil.plain})"),
        (v.readPlain heap).2) := by
  have read : (liftM v.readInt? : Eval (Option Int64)) = pure .none := by
    rw [none]
    rfl
  simp only [spanned, read, pure_bind]
  rfl

/-- A number on both sides spans a range of one item. -/
theorem spanned_int (i : Int64) (number : s.value.int? = some i) (heap : Heap) :
    (spanned s.value (.int i) heap).1 = .ok (.array [.int i]) := by
  have read : (liftM s.value.readInt? : Eval (Option Int64)) = pure (some i) := by
    rw [readInt?_value, number]
    rfl
  have one : range i i = .ok (.array [.int i]) := by
    simp [range, consecutive, maxRangeLength, Int64.ofInt_toInt]
  simp only [spanned, read, pure_bind]
  change (range i i : Except Error Value) = _
  exact one

/-- No other stand-in would do as the bound of a range. -/
theorem silent_iff :
    s.Silent ↔ ∀ last, spanned (.object s.object) last = spanned s.value last := by
  refine ⟨fun silent last => silent.spanned_first last, fun same => ?_⟩
  -- A stand-in with a number spans a range up to this number, and the object none.
  have number : s.value.int? = none := by
    cases found : s.value.int? with
    | none => rfl
    | some i =>
      have outcome := congrArg Prod.fst (congrFun (same (.int i)) Heap.new)
      rw [spanned_int i found] at outcome
      cases outcome
  -- Without a number both fail, and the messages and the heaps tell the rest.
  have outcome := congrFun (same .nil) Heap.new
  rw [spanned_nil _ rfl, spanned_nil _ (by rw [readInt?_value, number])] at outcome
  obtain ⟨text, heap⟩ := Prod.mk.inj outcome
  refine ⟨number, ?_, ?_⟩
  · have message := Error.render.inj (Except.error.inj text)
    simp only [String.append_assoc, String.append_right_inj, String.append_left_inj] at message
    exact message.symm
  · cases cells : s.value.cells with
    | nil => rfl
    | cons cell more =>
      have after : (s.value.readPlain Heap.new).2 = Heap.new.compute (cell :: more) := by
        unfold Value.readPlain Value.readText
        rw [cells]
        rfl
      rw [after] at heap
      exact absurd (congrArg Heap.computed heap).symm
        (foldl_compute_ne_nil more (List.cons_ne_nil cell []))

theorem Gives.spanned {bare bare' : Bool} {x x' y y' : Eval Value} (first : s.Gives bare x x')
    (last : s.Gives bare' y y') (quiet : (bare || bare') = true → s.Silent) :
    (do let v ← x; let w ← y; spanned v w) = (do let v ← x'; let w ← y'; spanned v w) := by
  -- Either bound may be one of the names, and then the stand-in has to be silent.
  rcases last with rfl | ⟨rfl, rfl, rfl⟩
  · rcases first with rfl | ⟨rfl, rfl, rfl⟩
    · rfl
    · simp only [pure_bind, (quiet rfl).spanned_first]
  · have silent : s.Silent := quiet (by simp)
    rcases first with rfl | ⟨rfl, rfl, rfl⟩
    · simp only [pure_bind, silent.spanned_last]
    · simp only [pure_bind, silent.spanned_first, silent.spanned_last]

theorem Gives.exposed {α : Type} {bare : Bool} {x y : Eval Value} (given : s.Gives bare x y)
    (f : Value → Eval α) :
    (do let v ← x; let w ← r.expose v; f w) = (do let v ← y; let w ← r.expose v; f w) := by
  rcases given with rfl | ⟨_, rfl, rfl⟩
  · rfl
  · simp only [pure_bind, expose_object, expose_value]

/-! ### Evaluation -/

/-- What names stand for on both sides. -/
def Agree (s : StandIn r) (names : List String) (held held' : String → Value) : Prop :=
  ∀ name, s.Stands names name (held name) (held' name)

variable {env : Environment} {s : StandIn env.registry} {held held' : String → Value}
  (globals : Bindings Value)

mutual

theorem resolve_gives (agree : s.Agree names held held') : (e : Expr) →
    (∀ e' ∈ e.within, s.Fits names e') →
    s.Gives (e.isName names) (e.resolve env held) (e.resolve { env with globals } held')
  | .literal _, _ => .inl rfl
  | .range first last, fits => by
    have silent := (fits (.range first last) (by simp [Expr.within])).2
    have left := resolve_gives agree first fun e' member =>
      fits e' (by simp [Expr.within, member])
    have right := resolve_gives agree last fun e' member =>
      fits e' (by simp [Expr.within, member])
    rw [resolve_range, resolve_range]
    exact .inl (left.spanned right silent)
  | .lookup name [], _ => by
    -- The one case in which the two sides may differ.
    have found := agree name
    unfold Expr.resolve walk
    generalize held name = v at found
    generalize held' name = v' at found
    cases found with
    | same => exact .inl rfl
    | swapped member =>
      refine .inr ⟨by simpa [Expr.isName] using member, rfl, ?_⟩
      simp only [pure_bind, read_value]
      rfl
  | .lookup name (segment :: rest), fits => by
    have whole := (fits (.lookup name (segment :: rest)) (by simp [Expr.within])).1
    have found := agree name
    have follows (v : Value) := walk_same agree (segment :: rest)
      (fun e' member => fits e' (by simp [Expr.within, member])) v
    unfold Expr.resolve
    generalize held name = v at found
    generalize held' name = v' at found
    -- A step follows, so the name is none of the names.
    cases found with
    | same => exact .inl (by simp only [follows])
    | swapped member => simp [Expr.endsWhole, member] at whole

private theorem walk_same (agree : s.Agree names held held') : (path : List Segment) →
    (∀ e' ∈ pathWithin path, s.Fits names e') →
    (v : Value) → walk env held v path = walk { env with globals } held' v path
  | [], _, _ => by simp [walk]
  | segment :: rest, fits, v => by
    have first := step_same agree segment fun e' member =>
      fits e' (by simp [pathWithin, member])
    have more := walk_same agree rest fun e' member => fits e' (by simp [pathWithin, member])
    simp only [walk, first, more]

private theorem step_same (agree : s.Agree names held held') : (segment : Segment) →
    (∀ e' ∈ segment.within, s.Fits names e') →
    (v : Value) → segment.step env held v = segment.step { env with globals } held' v
  | .field _, _, v => by simp [Segment.step]
  | .index e, fits, v => by
    have index := (resolve_gives agree e fits).exposed fun index => env.registry.index? v index
    simpa only [Segment.step, bind_assoc] using index

end

theorem exposed_same (agree : s.Agree names held held') {e : Expr}
    (fits : ∀ e' ∈ e.within, s.Fits names e') :
    e.exposed env held = e.exposed { env with globals } held' := by
  have given := (resolve_gives globals agree e fits).exposed pure
  simpa only [Expr.exposed, bind_pure] using given

private theorem exposedAll_same (agree : s.Agree names held held') (es : List Expr)
    (fits : ∀ e' ∈ es.flatMap Expr.within, s.Fits names e') :
    exposedAll env held es = exposedAll { env with globals } held' es := by
  induction es with
  | nil => rfl
  | cons e rest ih =>
    have first := exposed_same globals agree (e := e) fun e' member =>
      fits e' (by simp [member])
    have others := ih fun e' member => fits e' (List.mem_append_right _ member)
    simp only [exposedAll, first, others]

private theorem pipe_same (agree : s.Agree names held held') {calls : List FilterCall}
    (fits : ∀ e' ∈ callsWithin calls, s.Fits names e') (v : Value) :
    pipe env held v calls = pipe { env with globals } held' v calls := by
  induction calls generalizing v with
  | nil => rfl
  | cons call rest ih =>
    have args := exposedAll_same globals agree call.args fun e' member =>
      fits e' (List.mem_append_left _ member)
    have others := ih fun e' member => fits e' (List.mem_append_right _ member)
    simp only [pipe, args, others]

/-- A filter exposes its input, so from the first filter on nothing is left of the difference. -/
theorem evaluate_gives (agree : s.Agree names held held') {v : Variable}
    (fits : ∀ e' ∈ v.within, s.Fits names e') :
    s.Gives (v.isName names) (v.evaluate env held) (v.evaluate { env with globals } held') := by
  have resolved := resolve_gives globals agree v.expr fun e' member =>
    fits e' (List.mem_append_left _ member)
  have calls : ∀ e' ∈ callsWithin v.filters, s.Fits names e' := fun e' member =>
    fits e' (List.mem_append_right _ member)
  obtain ⟨e, filters⟩ := v
  cases filters with
  | nil =>
    simpa [Variable.isName, Variable.evaluate, pipe] using resolved
  | cons call rest =>
    refine .inl ?_
    simp only [Variable.evaluate]
    -- The rest of the pipe is the same, and its first filter exposes what it is given.
    rcases resolved with same | ⟨_, object, value⟩
    · simp only [same, pipe_same globals agree calls]
    · simp only [object, value, pure_bind, pipe_same globals agree calls]
      simp only [pipe, expose_object, expose_value]

private theorem variable_exposed_same (agree : s.Agree names held held') {v : Variable}
    (fits : ∀ e' ∈ v.within, s.Fits names e') :
    v.exposed env held = v.exposed { env with globals } held' := by
  have given := (evaluate_gives globals agree fits).exposed pure
  simpa only [Variable.exposed, bind_pure] using given

/-! ### Conditions -/

/-- The truth of an object that is not exposed is its own, and an object is always truthy. -/
theorem truthy_same_iff {name : String} (object : held name = .object s.object)
    (value : held' name = s.value) :
    (Test.truthy ⟨.lookup name [], []⟩).evaluate env held =
      (Test.truthy ⟨.lookup name [], []⟩).evaluate env held' ↔ s.value.isTruthy = true := by
  have left : (Test.truthy ⟨.lookup name [], []⟩).evaluate env held = pure true := by
    simp only [Test.evaluate, Variable.evaluate, Expr.resolve, walk, object, pipe, pure_bind]
    rfl
  have right : (Test.truthy ⟨.lookup name [], []⟩).evaluate env held' =
      pure s.value.isTruthy := by
    simp only [Test.evaluate, Variable.evaluate, Expr.resolve, walk, value, pipe, pure_bind,
      liftM_read_value]
  rw [left, right]
  constructor
  · intro same
    have outcome := congrArg Prod.fst (congrFun same Heap.new)
    exact (Except.ok.inj outcome).symm
  · intro holds
    rw [holds]

private theorem test_same (agree : s.Agree names held held') {t : Test}
    (fits : ∀ e' ∈ t.within, s.Fits names e')
    (truthy : t.asks names = true → s.value.isTruthy = true) :
    t.evaluate env held = t.evaluate { env with globals } held' := by
  cases t with
  | always => rfl
  | truthy v =>
    simp only [Test.evaluate]
    rcases evaluate_gives globals agree fits with same | ⟨bare, object, value⟩
    · simp only [same]
    · have holds : s.value.isTruthy = true := truthy bare
      simp only [object, value, pure_bind, liftM_read_value, holds]
      rfl
  | compare left op right =>
    have first := variable_exposed_same globals agree (v := left) fun e' member =>
      fits e' (List.mem_append_left _ member)
    have second := variable_exposed_same globals agree (v := right) fun e' member =>
      fits e' (List.mem_append_right _ member)
    simp only [Test.evaluate, first, second]

theorem condition_same (agree : s.Agree names held held') {c : Condition}
    (fits : ∀ e' ∈ c.tests.flatMap Test.within, s.Fits names e')
    (truthy : ∀ t ∈ c.tests, t.asks names = true → s.value.isTruthy = true) :
    c.evaluate env held = c.evaluate { env with globals } held' := by
  induction c with
  | last t =>
    have test := test_same globals agree (t := t) (fun e' member => fits e' (by
      simpa [Condition.tests] using member)) (truthy t (by simp [Condition.tests]))
    simp only [Condition.evaluate, test]
  | link t combinator rest ih =>
    have test := test_same globals agree (t := t)
      (fun e' member => fits e' (List.mem_append_left _ member))
      (truthy t (by simp [Condition.tests]))
    have others := ih (fun e' member => fits e' (List.mem_append_right _ member))
      fun t member => truthy t (by simp [Condition.tests, member])
    simp only [Condition.evaluate, test, others]

end StandIn

end Liquid
