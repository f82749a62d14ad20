import Liquid.Proofs.FatalVisits
import Liquid.Proofs.FilterRuns

/-!
# Missing arguments

A standard filter that needs arguments fails without them with an error of the caller. This is the
one thing about which standard filters blame the caller.

## Main result

`Filter.missing_arguments`: a standard filter with fewer arguments than it needs fails with an
error of the caller, which names the filter and the first argument that is missing; sums,
differences and products do so for numbers only, because they look at their input first. With
enough arguments no standard filter fails in this way. A render that comes to such an application
ends with its error, in both error modes.

## Proof strategy

Looking up an argument is the only step of the filters that blames the caller (`Blameless`), so a
filter does with enough arguments whatever its other steps do (`Filter.Demands.enough`). Without
them, that step is the first one that can fail (`Filter.Demands.short`).
-/

namespace Liquid

/-! ### Steps that blame nobody -/

/-- The step never fails with an error about arguments. -/
def Blameless {α : Type} (x : Eval α) : Prop :=
  ∀ heap message, (x heap).1 ≠ .error (.argument message)

namespace Blameless

variable {α β : Type} {x : Eval α} {f : α → Eval β}

theorem pure (a : α) : Blameless (Pure.pure a : Eval α) := nofun

theorem refusal (message : String) : Blameless (throw (.render message) : Eval α) := nofun

theorem lift (x : Live α) : Blameless (liftM x : Eval α) := nofun

theorem bind (first : Blameless x) (rest : ∀ a, Blameless (f a)) : Blameless (x >>= f) := by
  intro heap message
  rcases run : x heap with ⟨r, after⟩
  cases r with
  | ok a =>
    rw [Eval.bind_ok run]
    exact rest a after message
  | error e =>
    rw [Eval.bind_error run]
    have blameless := first heap message
    rw [run] at blameless
    intro blames
    cases blames
    exact blameless rfl

end Blameless

namespace Filter

/-! ### The standard filters -/

variable {v : Value} {args : List Value} {index : Nat}

theorem plain_blameless (v : Value) : Blameless (liftM v.readPlain : Eval String) := .lift _

theorem arg_blameless (filter : String) (given : index < args.length) :
    Blameless (arg filter args index) := by
  unfold arg
  rw [List.getElem?_eq_getElem given]
  exact .pure _

theorem number_blameless (filter : String) (v : Value) : Blameless (number filter v) := by
  refine (Blameless.lift _).bind fun n => ?_
  cases n with
  | some n => exact .pure n
  | none => exact (plain_blameless v).bind fun _ => .refusal _

private theorem calculate_blameless (filter : String) (op : Number.Operation) (v : Value)
    (given : 0 < args.length) : Blameless (calculate filter op v args) := by
  refine (number_blameless filter v).bind fun _ => ?_
  refine (arg_blameless filter given).bind fun w => ?_
  exact (number_blameless filter w).bind fun _ => .pure _

private theorem calculateNonzero_blameless (filter : String) (op : Number.Operation) (v : Value)
    (given : 0 < args.length) : Blameless (calculateNonzero filter op v args) := by
  refine (arg_blameless filter given).bind fun w => ?_
  refine (number_blameless filter w).bind fun divisor => ?_
  cases divisor.isZero with
  | true => exact .refusal _
  | false => exact calculate_blameless filter op v given

private theorem onText_blameless (f : String → String) (v : Value) (args : List Value) :
    Blameless (onText f v args) := (plain_blameless v).bind fun _ => .pure _

private theorem append_blameless (v : Value) (given : 0 < args.length) :
    Blameless (append v args) := by
  refine (arg_blameless "append" given).bind fun w => ?_
  exact (plain_blameless v).bind fun _ => (plain_blameless w).bind fun _ => .pure _

/-- The text of the first argument, then that of the input. -/
theorem texts_blameless (filter : String) (f : String → String → Value) (v : Value)
    (given : 0 < args.length) :
    Blameless (do
      let first ← (← arg filter args 0).readPlain
      return f first (← v.readPlain)) := by
  refine (arg_blameless filter given).bind fun w => ?_
  exact (plain_blameless w).bind fun _ => (plain_blameless v).bind fun _ => .pure _

private theorem replace_blameless (v : Value) (given : 1 < args.length) :
    Blameless (replace v args) := by
  refine (arg_blameless "replace" (Nat.zero_lt_of_lt given)).bind fun w => ?_
  refine (plain_blameless w).bind fun _ => ?_
  refine (arg_blameless "replace" given).bind fun w => ?_
  exact (plain_blameless w).bind fun _ => (plain_blameless v).bind fun _ => .pure _

private theorem default_blameless (v : Value) (given : 0 < args.length) :
    Blameless (default v args) :=
  (arg_blameless "default" given).bind fun _ => (Blameless.lift _).bind fun _ => .pure _

private theorem reverse_blameless (v : Value) (args : List Value) : Blameless (reverse v args) := by
  have refused : Blameless (do
      throw (.render s!"reverse: expected array, got {(← v.read).typeName}") : Eval Value) :=
    (Blameless.lift _).bind fun _ => .refusal _
  cases v
  case array items => exact .pure _
  all_goals exact refused

/-- An argument that may be left out. -/
theorem optional_blameless {f : String → Eval Value} (rest : ∀ s, Blameless (f s))
    (absent : String) (args : List Value) (index : Nat) :
    Blameless (match args[index]? with
      | some v => do f (← v.readPlain)
      | none => do f (← pure absent)) := by
  cases args[index]? with
  | some v => exact (plain_blameless v).bind rest
  | none => exact (Blameless.pure absent).bind rest

private theorem join_blameless (v : Value) (args : List Value) : Blameless (join v args) := by
  refine optional_blameless (fun glue => ?_) " " args 0
  have whole : Blameless (do return .str (← v.readPlain) : Eval Value) :=
    (plain_blameless v).bind fun _ => .pure _
  cases v
  case array items => exact (Blameless.lift _).bind fun _ => .pure _
  all_goals exact whole

private theorem truncateLength_blameless (args : List Value) : Blameless (truncateLength args) := by
  unfold truncateLength
  cases args[0]? with
  | none => exact .pure _
  | some w =>
    refine (Blameless.lift _).bind fun i => ?_
    cases i with
    | some i => exact .pure _
    | none => exact (plain_blameless w).bind fun _ => .refusal _

private theorem truncate_blameless (v : Value) (args : List Value) :
    Blameless (truncate v args) := by
  refine (truncateLength_blameless args).bind fun length => ?_
  refine optional_blameless (fun ellipsis => ?_) "..." args 1
  exact (plain_blameless v).bind fun _ => .pure _

/-! ### What they need -/

/-- How many arguments a standard filter needs. -/
def required (name : String) : Nat :=
  if name = "replace" then 2
  else if name ∈ ["plus", "minus", "times", "divided_by", "modulo", "append", "prepend", "split",
    "remove", "default"] then 1
  else 0

/-- The filters that look at their input before they look for their argument. -/
def inputFirst : List String := ["plus", "minus", "times"]

/-- The error for an application to fewer arguments than needed. -/
def shortage (name : String) (given : Nat) : Error :=
  .argument s!"filter '{name}' expects at least {given + 1} argument(s)"

/-- The filter asks for the arguments that it needs under this name, and for nothing else. -/
structure Demands (name : String) (f : Filter) : Prop where
  short : ∀ (v : Value) (args : List Value) (heap : Heap), args.length < required name →
    (name ∈ inputFirst → v.number?.isSome = true) →
    (f v args heap).1 = .error (shortage name args.length)
  refused : name ∈ inputFirst → ∀ (v : Value) (args : List Value) (heap : Heap),
    v.number? = none → ∃ message, (f v args heap).1 = .error (.render message)
  enough : ∀ (v : Value) (args : List Value), required name ≤ args.length → Blameless (f v args)

section One

variable {name : String}

private theorem eq_nil_of_short (needed : required name = 1)
    (missing : args.length < required name) :
    args = [] := by
  rw [needed] at missing
  exact List.length_eq_zero_iff.mp (Nat.lt_one_iff.mp missing)

private theorem length_pos_of_enough (needed : required name = 1)
    (given : required name ≤ args.length) :
    0 < args.length := by
  rwa [needed] at given

end One

private theorem calculate_demands {name : String} (first : name ∈ inputFirst)
    (op : Number.Operation) :
    Demands name (calculate name op) := by
  have needed : required name = 1 := by
    simp only [inputFirst, List.mem_cons, List.not_mem_nil, or_false] at first
    rcases first with rfl | rfl | rfl <;> decide
  constructor
  · intro v args heap missing number
    -- Only behind the input is there a step that misses the argument.
    obtain ⟨n, number⟩ := Option.isSome_iff_exists.mp (number first)
    obtain rfl := eq_nil_of_short needed missing
    rw [calculate, Eval.bind_ok (number_ok name number heap),
      Eval.bind_error (arg_missing name (Nat.le_refl 0) _)]
    rfl
  · intro _ v args heap other
    have fails := number_refused name other heap
    rw [calculate, Eval.bind_error (Prod.ext fails rfl)]
    exact ⟨_, rfl⟩
  · intro v args given
    exact calculate_blameless name op v (length_pos_of_enough needed given)

/-- A filter without arguments that it needs. -/
theorem demands_of_blameless {name : String} {f : Filter} (needed : required name = 0)
    (first : name ∉ inputFirst) (blameless : ∀ v args, Blameless (f v args)) : Demands name f where
  short v args heap missing _ := by simp [needed] at missing
  refused asked := absurd asked first
  enough v args _ := blameless v args

theorem demands_of_arg {name : String} {f : Filter} (needed : required name = 1)
    (first : name ∉ inputFirst)
    (blames : ∀ v heap, (f v [] heap).1 = .error (shortage name 0))
    (blameless : ∀ v args, 0 < args.length → Blameless (f v args)) : Demands name f where
  short v args heap missing _ := by
    obtain rfl := eq_nil_of_short needed missing
    exact blames v heap
  refused asked := absurd asked first
  enough v args given := blameless v args (length_pos_of_enough needed given)

private theorem replace_demands : Demands "replace" replace where
  short v args heap missing _ := by
    -- The text of the first argument is read before the second one is missed.
    match args with
    | [] => rfl
    | [w] => rfl
    | _ :: _ :: rest =>
      rw [show required "replace" = 2 from rfl, List.length_cons, List.length_cons] at missing
      omega
  refused asked := absurd asked (by decide)
  enough v _ given := replace_blameless v given

theorem onText_demands {name : String} (f : String → String) (needed : required name = 0)
    (first : name ∉ inputFirst) : Demands name (onText f) :=
  demands_of_blameless needed first (onText_blameless f)

private theorem calculateNonzero_demands {name : String} (op : Number.Operation)
    (needed : required name = 1) (first : name ∉ inputFirst) :
    Demands name (calculateNonzero name op) :=
  demands_of_arg needed first (fun _ _ => rfl) fun v _ => calculateNonzero_blameless name op v

private theorem standardFilters_demands : ∀ entry ∈ standardFilters, Demands entry.1 entry.2 := by
  simp only [standardFilters, List.forall_mem_cons]
  -- In the order of the table. What stays open is how many arguments each name needs.
  refine ⟨calculate_demands ?_ _, calculate_demands ?_ _, calculate_demands ?_ _,
    calculateNonzero_demands _ ?_ ?_, calculateNonzero_demands _ ?_ ?_,
    demands_of_blameless ?_ ?_ fun _ _ => .pure _, onText_demands _ ?_ ?_, onText_demands _ ?_ ?_,
    onText_demands _ ?_ ?_, demands_of_arg ?_ ?_ (fun _ _ => rfl) fun v _ => append_blameless v,
    demands_of_arg ?_ ?_ (fun _ _ => rfl) fun v _ => texts_blameless "prepend" _ v,
    onText_demands _ ?_ ?_, onText_demands _ ?_ ?_, onText_demands _ ?_ ?_,
    demands_of_arg ?_ ?_ (fun _ _ => rfl) fun v _ => texts_blameless "split" _ v,
    demands_of_blameless ?_ ?_ join_blameless, demands_of_blameless ?_ ?_ fun _ _ => .pure _,
    demands_of_blameless ?_ ?_ fun _ _ => .pure _, demands_of_blameless ?_ ?_ reverse_blameless,
    replace_demands, demands_of_arg ?_ ?_ (fun _ _ => rfl) fun v _ => texts_blameless "remove" _ v,
    demands_of_blameless ?_ ?_ truncate_blameless,
    demands_of_arg ?_ ?_ (fun _ _ => rfl) fun v _ => default_blameless v,
    onText_demands _ ?_ ?_, fun _ member => absurd member List.not_mem_nil⟩
  all_goals decide

private theorem mem_of_getFrom? {name : String} {f : Filter} {entries : List (String × Filter)}
    (held : Bindings.getFrom? name entries = some f) : (name, f) ∈ entries := by
  induction entries with
  | nil => cases held
  | cons entry rest ih =>
    rw [Bindings.getFrom?] at held
    split at held
    next same =>
      cases held
      exact same ▸ List.mem_cons_self
    next => exact List.mem_cons_of_mem entry (ih held)

theorem demands_of_get? {name : String} {f : Filter} (held : standard.get? name = some f) :
    Demands name f :=
  standardFilters_demands (name, f) (mem_of_getFrom? held)

/-- Only standard filters need arguments. -/
theorem required_of_unknown {name : String} (unknown : standard.get? name = none) :
    required name = 0 := by
  unfold required
  split
  next same =>
    subst same
    cases unknown
  next =>
    split
    next known =>
      simp only [List.mem_cons, List.not_mem_nil, or_false] at known
      rcases known with rfl | rfl | rfl | rfl | rfl | rfl | rfl | rfl | rfl | rfl
      all_goals cases unknown
    next => rfl

/-! ### Main result -/

variable {name : String}

private theorem apply_short (v : Value) (heap : Heap) (missing : args.length < required name)
    (number : name ∈ inputFirst → v.number?.isSome = true) :
    (apply standard name v args heap).1 = .error (shortage name args.length) := by
  cases held : standard.get? name with
  | some f =>
    rw [apply_ok held]
    exact (demands_of_get? held).short v args heap missing number
  | none =>
    rw [required_of_unknown held] at missing
    cases missing

private theorem apply_refused (first : name ∈ inputFirst) (args : List Value) (heap : Heap)
    (other : v.number? = none) :
    ∃ message, (apply standard name v args heap).1 = .error (.render message) := by
  cases held : standard.get? name with
  | some f =>
    rw [apply_ok held]
    exact (demands_of_get? held).refused first v args heap other
  | none =>
    refine ⟨s!"unknown filter '{name}'", ?_⟩
    rw [apply, held]
    rfl

private theorem apply_blameless (v : Value) (enough : required name ≤ args.length) :
    Blameless (apply standard name v args) := by
  cases held : standard.get? name with
  | some f =>
    rw [apply_ok held]
    exact (demands_of_get? held).enough v args enough
  | none =>
    rw [apply, held]
    exact .refusal _

/-- Standard filters blame the caller for missing arguments, and for nothing else, and an
application without its arguments ends the render that comes to it. -/
theorem missing_arguments (name : String) (v : Value) (args : List Value) (heap : Heap) :
    (args.length < required name → (name ∈ inputFirst → v.number?.isSome = true) →
      (apply standard name v args heap).1 = .error (shortage name args.length) ∧
      ∀ (t : Template) (data : Value) (o : Options) (clock : Clock) (store : Bindings Value)
        (heap begun : Heap) (s : Setting), t.setting data o clock heap = (.ok s, begun) →
        s.env.filters.get? name = standard.get? name →
        ∀ visit ∈ allVisits s (Template.start store begun) t.document.nodes,
          ⟨name, v, args⟩ ∈ visit.applications s →
          (t.render data o clock store heap).1 = .error (shortage name args.length)) ∧
    (required name ≤ args.length → ∀ message,
      (apply standard name v args heap).1 ≠ .error (.argument message)) ∧
    (name ∈ inputFirst → v.number? = none → ∃ message,
      (apply standard name v args heap).1 = .error (.render message)) := by
  refine ⟨fun missing number => ⟨apply_short v heap missing number, ?_⟩,
    fun enough => apply_blameless v enough heap, fun first => apply_refused first args heap⟩
  intro t data o clock store heap begun s set held visit visited member
  -- The shortage does not depend on the heap, so it is the same whenever the render gets there.
  have fails : Application.Fails s.env (shortage name args.length) ⟨name, v, args⟩ := by
    intro heap
    have short := apply_short v heap missing number
    rwa [apply, ← held] at short
  have ends := renderAll_fails rfl t.document.nodes (Template.start store begun) visit visited
    (visit.failsWith_of_application fails member)
  rw [Render.FailsFrom] at ends
  rw [Template.render_of_setting store set, Template.result, ends]
  rfl

/-- `{% if name | append: '!' %}{{ 1 | plus }}{% endif %}`. -/
def addingNothing : List Node :=
  [.tag ⟨0, 0⟩ "if" "name | append: '!'" (.branches
    [(.last (.truthy ⟨.lookup "name" [], [⟨"append", [.literal (.str "!")]⟩]⟩),
      [.output ⟨0, 0⟩ "1 | plus" ⟨.literal (.int 1), [⟨"plus", []⟩]⟩])])]

theorem missing_arguments_addingNothing :
    let t : Template := ⟨Template.bareEngine, "adding", "", ⟨addingNothing, ⟨0, 0⟩⟩, false⟩
    (apply standard "replace" (.str "a") [.str "b"] Heap.new).1 =
      .error (.argument "filter 'replace' expects at least 2 argument(s)") ∧
    (∃ message, (apply standard "plus" .nil [] Heap.new).1 = .error (.render message)) ∧
    (apply standard "append" .nil [.nil] Heap.new).1 ≠ .error (.argument "") ∧
    (t.render .nil Options.plain (.stopped 0) Bindings.empty Heap.new).1 =
      .error (.argument "filter 'plus' expects at least 1 argument(s)") := by
  intro t
  have replacing := (missing_arguments "replace" (.str "a") [.str "b"] Heap.new).1
  have adding := (missing_arguments "plus" .nil [] Heap.new).2.2
  have appending := (missing_arguments "append" .nil [.nil] Heap.new).2.1
  have ends := (missing_arguments "plus" (.int 1) [] Heap.new).1 (by decide) fun _ => rfl
  refine ⟨(replacing (by decide) nofun).1, adding (by decide) rfl, appending (by decide) _, ?_⟩
  exact ends.2 t .nil Options.plain (.stopped 0) Bindings.empty Heap.new Heap.new _ rfl rfl _
    (.tail _ (.head _)) (.head _)

/-- With an input that is no number, the missing argument is not noticed, and the render goes
on. -/
theorem missing_argument_unnoticed :
    let nodes : List Node :=
      [.output ⟨0, 0⟩ "" ⟨.literal (.str "abc"), [⟨"plus", []⟩]⟩, .text ⟨0, 0⟩ "!"]
    let t : Template := ⟨Template.bareEngine, "adding", "", ⟨nodes, ⟨0, 0⟩⟩, false⟩
    required "plus" = 1 ∧
    (∀ heap, (apply standard "plus" (.str "abc") [] heap).1 =
      .error (.render "plus: 'abc' is not a number")) ∧
    (t.render .nil Options.plain (.stopped 0) Bindings.empty Heap.new).1 =
      .ok ⟨"Liquid error: plus: 'abc' is not a number!",
        #[.render "plus: 'abc' is not a number"]⟩ := by
  refine ⟨by decide, fun _ => rfl, ?_⟩
  decide +kernel

end Filter

end Liquid
