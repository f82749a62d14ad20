import Liquid.Proofs.ImpartialSamples
import Liquid.Proofs.SplitEvaluation

/-!
# Exposing twice

A value is exposed whenever it is used whole, so on its way through a pipeline it may be exposed
many times. A transform is applied only once, though, and what it gives may be an object with a
transform of its own, or lazy. Then the next exposure makes something else of it.

## Main result

`Render.exposure`: exposing twice is the same as once, and what is exposed is not lazy, for just the
registries in which every transform gives what is left alone by exposure (`Registry.Settled`). Under
these, a filter that gives back its input can be put anywhere in a pipeline, and what is written
stays the same.

## Proof strategy

The filter hands on what its input was exposed to, and the rest of the pipeline may take that for
the input itself. If its arguments leave nothing behind, both runs are the same from here on. If
they draw numbers or compute schemas, the rest runs later than it would have run without the
filter, which makes no difference to a text when the host is impartial
(`Environment.Serves.later_written`).
-/

namespace Liquid

open Pairing Value

namespace Registry

variable (r : Registry) {v w : Value} {h : Heap}

/-- Neither lazy nor an object with a transform. -/
def isExposed : Value → Bool
  | .lazy .. => false
  | .object o => (r.transform? o.type).isNone
  | _ => true

/-- Exposure leaves this value alone, if so many numbers were drawn: nothing is left to expose, or
the transform of the object gives back the object. -/
def Rests (w : Value) (supply : Nat) : Prop :=
  r.isExposed w = true ∨ ∃ o transform, w = .object o ∧ r.transform? o.type = some transform ∧
    (transform o).run supply = (.object o, supply)

/-- Exposure leaves alone what transforms give. -/
def Settled : Prop :=
  ∀ o transform, r.transform? o.type = some transform → ∀ supply,
    let (w, supply) := (transform o).run supply
    r.Rests w supply

private theorem expose_of_isExposed (exposed : r.isExposed w = true) : r.expose w = pure w := by
  cases w with
  | lazy => cases exposed
  | object o =>
    have read : (Value.object o).read = pure (.object o) := rfl
    have none : r.transform? o.type = none := Option.isNone_iff_eq_none.mp exposed
    simp only [expose, read, pure_bind, none]
  | nil | bool | int | float | str | array | hash => rfl

/-- What rests is just what exposure leaves alone, as far as it comes out resolved. -/
theorem expose_eq_self_iff :
    (r.expose w h = (w, h) ∧ w.isResolved = true) ↔ r.Rests w h.supply := by
  constructor
  · rintro ⟨same, resolved⟩
    cases w with
    | lazy => cases resolved
    | object o =>
      cases adapted : r.transform? o.type with
      | none => exact .inl (by rw [isExposed, adapted]; rfl)
      | some transform =>
        refine .inr ⟨o, transform, rfl, adapted, ?_⟩
        rw [r.expose_adapted adapted] at same
        obtain ⟨value, heap⟩ := Prod.mk.inj same
        exact Prod.ext value (congrArg Heap.supply heap)
    | nil | bool | int | float | str | array | hash => exact .inl rfl
  · rintro (exposed | ⟨o, transform, rfl, adapted, back⟩)
    · refine ⟨by rw [r.expose_of_isExposed exposed]; rfl, ?_⟩
      cases w with
      | lazy => cases exposed
      | nil | bool | int | float | str | array | hash | object => rfl
    · rw [r.expose_adapted adapted]
      refine ⟨?_, rfl⟩
      change ((transform o h.supply).1, { h with supply := (transform o h.supply).2 }) = _
      rw [show transform o h.supply = (.object o, h.supply) from back]

theorem Settled.rests {r : Registry} (settled : r.Settled) (v : Value) (h : Heap) :
    r.Rests (r.expose v h).1 (r.expose v h).2.supply := by
  rw [← r.read_expose v, Live.bind_apply, Value.read_apply]
  have resolved := v.isResolved_resolved
  generalize v.resolved = w at resolved
  cases w with
  | lazy => cases resolved
  | object o =>
    cases adapted : r.transform? o.type with
    | none =>
      have exposed : r.isExposed (.object o) = true := by rw [isExposed, adapted]; rfl
      rw [r.expose_of_isExposed exposed]
      exact .inl exposed
    | some transform =>
      rw [r.expose_adapted adapted]
      exact settled o transform adapted _
  | nil | bool | int | float | str | array | hash => exact .inl rfl

private theorem settled_iff : r.Settled ↔ ∀ v h,
    (do let w ← r.expose v; r.expose w) h = r.expose v h ∧
      (r.expose v h).1.isResolved = true := by
  constructor
  · intro settled v h
    exact r.expose_eq_self_iff.mpr (settled.rests v h)
  · intro law o transform adapted supply
    -- The transform runs where the object is exposed, with any number as the next to draw.
    have twice := law (.object o) { Heap.new with supply }
    rw [r.expose_adapted adapted] at twice
    exact r.expose_eq_self_iff.mp twice

end Registry

/-! ### Pipelines -/

/-- Gives back its input; neither the filter nor its arguments leave a trace in the heap. -/
def FilterCall.Returns (env : Environment) (names : String → Value) (call : FilterCall)
    (input : Value) (h : Heap) : Prop :=
  ∃ args, exposedAll env names call.args h = (.ok args, h) ∧
    Filter.apply env.filters call.name input args h = (.ok input, h)

/-- Gives back its input, whatever its arguments and the filter leave in the heap. -/
def FilterCall.GivesBack (env : Environment) (names : String → Value) (call : FilterCall)
    (input : Value) (h : Heap) : Prop :=
  ∃ h', (do
    let args ← exposedAll env names call.args
    Filter.apply env.filters call.name input args : Eval Value) h = (.ok input, h')

section

variable {env : Environment} (names : String → Value)

/-- Every pipeline may be given what its input is exposed to, if what comes out is exposed too. -/
theorem pipe_exposed (settled : env.registry.Settled) (v : Value) (calls : List FilterCall) :
    (do
      let w ← env.registry.expose v
      let x ← pipe env names w calls
      env.registry.expose x : Eval Value) =
    (do let x ← pipe env names v calls; env.registry.expose x) := by
  have twice (h : Heap) : env.registry.expose (env.registry.expose v h).1
      (env.registry.expose v h).2 = env.registry.expose v h :=
    (env.registry.settled_iff.mp settled v h).1
  cases calls with
  | nil =>
    simp only [pipe, pure_bind]
    funext h
    exact congrArg (fun o => (Except.ok o.1, o.2)) (twice h)
  | cons call rest =>
    simp only [pipe, bind_assoc]
    funext h
    rw [Eval.lift_bind, Eval.lift_bind, Eval.lift_bind, twice]

private theorem pipe_returning (settled : env.registry.Settled) {call : FilterCall} {v : Value}
    {h : Heap}
    (returns : call.Returns env names (env.registry.expose v h).1 (env.registry.expose v h).2)
    (after : List FilterCall) :
    (do let x ← pipe env names v (call :: after); env.registry.expose x : Eval Value) h =
      (do let x ← pipe env names v after; env.registry.expose x : Eval Value) h := by
  obtain ⟨args, given, back⟩ := returns
  -- The filter hands on its exposed input, which the rest may take for the input itself.
  rw [← pipe_exposed names settled v after, pipe]
  simp only [bind_assoc]
  rw [Eval.lift_bind, Eval.lift_bind, Eval.bind_ok given, Eval.bind_ok back]

end

/-- What is written for a value that was exposed. -/
def Environment.shown (env : Environment) (format : Format) (w : Value) : Live String := do
  match env.transformers (← w.read).kind with
  | some transform => transform w
  | none => w.readText format

/-- What comes out of a step is exposed and then written. -/
private theorem Environment.output_behind (env : Environment) (format : Format) (x : Eval Value) :
    (do env.output format (← x) : Eval String) =
      (do
        let w ← (do let v ← x; env.registry.expose v : Eval Value)
        env.shown format w) := by
  rw [bind_assoc]
  rfl

/-- What is written for what comes out of a pipeline. -/
def Environment.written (env : Environment) (format : Format) (names : String → Value) (v : Value)
    (calls : List FilterCall) : Eval String := do
  env.output format (← pipe env names v calls)

/-! ### Arguments that leave something behind -/

section

variable {l : Ledger} {base : Nat} {env : Environment} {names : String → Value} {v : Value}
  {h : Heap}

/-- What `v` is exposed to may be written in its place. -/
theorem Environment.written_exposed (settled : env.registry.Settled) (format : Format)
    (calls : List FilterCall) :
    env.written format names v calls h =
      env.written format names (env.registry.expose v h).1 calls (env.registry.expose v h).2 := by
  rw [Environment.written, Environment.written, output_behind, output_behind,
    ← pipe_exposed names settled v calls]
  rfl

/-- The host is impartial, and the values that names stand for were made before. -/
structure Environment.Serves (env : Environment) (l : Ledger) (base : Nat)
    (names : String → Value) (h : Heap) : Prop where
  fair : env.Impartial l base
  begun : base ≤ h.supply
  faithful : l.Faithful h
  names : ∀ name, (names name).Sound l.nature h.supply

/-- What a step gives is as sound as what it was given. -/
theorem Pairing.Attempts.sound {x : Eval Value} (faithful : l.Faithful h)
    (run : (heaps l ⟨h.supply, 0⟩).Attempts h.supply (Counterpart l.nature ⟨h.supply, 0⟩) x x) :
    h.supply ≤ (x h).2.supply ∧ l.Faithful (x h).2 ∧
      ∀ w, (x h).1 = .ok w → w.Sound l.nature (x h).2.supply := by
  obtain ⟨later, outcome, paired⟩ :=
    run h h ⟨Nat.le_refl _, rfl, faithful, faithful⟩ (Nat.le_refl _)
  refine ⟨later, paired.left, fun w given => ?_⟩
  change Outcome _ (x h).1 (x h).1 at outcome
  rw [given] at outcome
  cases outcome with
  | ok related => exact related.1

namespace Environment.Serves

variable (serves : env.Serves l base names h)

include serves

theorem counterparts {σ : Shift} (start : σ.start = h.supply) :
    Counterparts l.nature σ h.supply names names := fun name =>
  .kept (start ▸ serves.names name) (Nat.le_of_eq start)

theorem onHeap {h' : Heap} (later : h.supply ≤ h'.supply) (faithful : l.Faithful h') :
    env.Serves l base names h' :=
  ⟨serves.fair, Nat.le_trans serves.begun later, faithful,
    fun name => (serves.names name).later later _⟩

/-- The same text or the same error, on a heap where more was drawn or remembered. -/
theorem later_written (sound : v.Sound l.nature h.supply) {h' : Heap}
    (later : h.supply ≤ h'.supply) (faithful : l.Faithful h') (format : Format)
    (calls : List FilterCall) :
    (env.written format names v calls h').1 = (env.written format names v calls h).1 := by
  let σ : Shift := ⟨h.supply, h'.supply - h.supply⟩
  have heaps : PairedHeaps l σ h h' :=
    ⟨Nat.le_refl _, (Nat.add_sub_of_le later).symm, serves.faithful, faithful⟩
  have run : (Pairing.heaps l σ).Attempts h.supply (fun _ => Eq)
      (env.written format names v calls) (env.written format names v calls) :=
    (pipe_attempts serves.fair serves.begun calls (serves.counterparts rfl)
      (.kept sound (Nat.le_refl _))).bind fun _ _ _ _ found =>
        .lift (Environment.output_matches serves.fair serves.begun format found)
  exact (run h h' heaps (Nat.le_refl _)).result.eq

theorem exposed (sound : v.Sound l.nature h.supply) :
    env.Serves l base names (env.registry.expose v h).2 ∧
      (env.registry.expose v h).1.Sound l.nature (env.registry.expose v h).2.supply := by
  have input : Counterpart l.nature ⟨h.supply, 0⟩ h.supply v v := .kept sound (Nat.le_refl _)
  obtain ⟨later, faithful, sound⟩ := (Attempts.lift (Registry.expose_matches serves.fair.registry
    serves.begun input)).sound serves.faithful
  exact ⟨serves.onHeap later faithful, sound _ rfl⟩

/-- A filter that gives back its input does not show in the text. -/
theorem written_givesBack (settled : env.registry.Settled) (sound : v.Sound l.nature h.supply)
    {call : FilterCall}
    (back : call.GivesBack env names (env.registry.expose v h).1 (env.registry.expose v h).2)
    (format : Format) (after : List FilterCall) :
    (env.written format names v (call :: after) h).1 = (env.written format names v after h).1 := by
  obtain ⟨serves, sound⟩ := serves.exposed sound
  have filtered : env.written format names v (call :: after) h =
      (do
        let w ← (do
          let args ← exposedAll env names call.args
          Filter.apply env.filters call.name (env.registry.expose v h).1 args : Eval Value)
        env.written format names w after) (env.registry.expose v h).2 := by
    simp only [Environment.written, pipe, bind_assoc]
    rfl
  rw [filtered, env.written_exposed settled format after]
  generalize (env.registry.expose v h).1 = w at back sound ⊢
  generalize (env.registry.expose v h).2 = k at back sound serves ⊢
  obtain ⟨h', back⟩ := back
  -- Without the filter, the rest of the pipeline takes the same input earlier.
  have input : Counterpart l.nature ⟨k.supply, 0⟩ k.supply w w := .kept sound (Nat.le_refl _)
  have step := (exposedAll_attempts serves.fair serves.begun call.args
    (serves.counterparts rfl)).bind fun _ later _ _ args =>
      apply_attempts serves.fair serves.begun call.name (input.later later) args
  obtain ⟨later, faithful, -⟩ := step.sound serves.faithful
  rw [back] at later faithful
  rw [Eval.bind_ok back]
  exact serves.later_written sound later faithful format after

end Environment.Serves

end

namespace Render

variable {s : Setting} {p : Progress}

/-- A variable is evaluated, exposed and written. -/
theorem output_apply (span : Span) (text : String) (v : Variable) :
    (Node.output span text v).render s p =
      match (do let x ← v.evaluate s.env (valueOf s p); s.env.registry.expose x : Eval Value)
        p.heap with
      | (.error e, heap) => (.error e, { p with heap })
      | (.ok w, heap) => (.ok .normal, { p with
          out := p.out ++ (s.env.shown s.format w heap).1
          heap := (s.env.shown s.format w heap).2 }) := by
  rw [Node.render]
  rcases run : v.evaluate s.env (valueOf s p) p.heap with ⟨e | x, heap⟩
  · rw [Eval.bind_error run, bind_error (eval_of_run run)]
  · rw [Eval.bind_ok run, bind_ok (eval_of_run run), bind_ok (writeValue_apply x s _)]
    rfl

/-- Where the same text is made, or the same error, a variable is as good as the other. -/
theorem output_congr {span span' : Span} {text text' : String} {v v' : Variable}
    (same : ((do s.env.output s.format (← v.evaluate s.env (valueOf s p)) : Eval String) p.heap).1 =
      ((do s.env.output s.format (← v'.evaluate s.env (valueOf s p)) : Eval String) p.heap).1) :
    ((Node.output span text v).render s p).1 = ((Node.output span' text' v').render s p).1 ∧
      ((Node.output span text v).render s p).2.out =
        ((Node.output span' text' v').render s p).2.out := by
  rw [Environment.output_behind, Environment.output_behind] at same
  rw [output_apply, output_apply]
  rcases run : (do let x ← v.evaluate s.env (valueOf s p); s.env.registry.expose x : Eval Value)
    p.heap with ⟨e | w, heap⟩ <;>
  rcases run' : (do let x ← v'.evaluate s.env (valueOf s p); s.env.registry.expose x : Eval Value)
    p.heap with ⟨e' | w', heap'⟩
  case error.error =>
    rw [Eval.bind_error run, Eval.bind_error run'] at same
    cases same
    exact ⟨rfl, rfl⟩
  case ok.ok =>
    rw [Eval.bind_ok run, Eval.bind_ok run'] at same
    have text : (s.env.shown s.format w heap).1 = (s.env.shown s.format w' heap').1 :=
      Except.ok.inj same
    exact ⟨rfl, congrArg (p.out ++ ·) text⟩
  case error.ok =>
    rw [Eval.bind_error run, Eval.bind_ok run'] at same
    cases same
  case ok.error =>
    rw [Eval.bind_ok run, Eval.bind_error run'] at same
    cases same

/-- What is exposed stays as it is, for just the settled registries. Under these, a filter that
gives back its input does not show in what is written, and not at all if nothing else is left of
it. -/
theorem exposure (s : Setting) :
    let r := s.env.registry
    (r.Settled ↔ ∀ v heap,
      (do let w ← r.expose v; r.expose w) heap = r.expose v heap ∧
        (r.expose v heap).1.isResolved = true) ∧
    (r.Settled → ∀ (span span' : Span) (text text' : String) (e : Expr)
      (before after : List FilterCall) (call : FilterCall) (p : Progress),
      let one := (Node.output span text ⟨e, before ++ call :: after⟩).render s p
      let other := (Node.output span' text' ⟨e, before ++ after⟩).render s p
      ((∀ u heap, Variable.evaluate s.env (valueOf s p) ⟨e, before⟩ p.heap = (.ok u, heap) →
        call.Returns s.env (valueOf s p) (r.expose u heap).1 (r.expose u heap).2) →
        one = other) ∧
      (∀ (l : Ledger) (base : Nat), s.env.Serves l base (valueOf s p) p.heap →
        (∀ u heap, Variable.evaluate s.env (valueOf s p) ⟨e, before⟩ p.heap = (.ok u, heap) →
          call.GivesBack s.env (valueOf s p) (r.expose u heap).1 (r.expose u heap).2) →
        one.1 = other.1 ∧ one.2.out = other.2.out)) := by
  intro r
  refine ⟨r.settled_iff, fun settled span span' text text' e before after call p => ?_⟩
  refine ⟨fun returns => ?traceless, fun l base serves givesBack => ?written⟩
  case traceless =>
    rw [output_apply, output_apply, evaluate_append, evaluate_append, bind_assoc, bind_assoc]
    rcases run : Variable.evaluate s.env (valueOf s p) ⟨e, before⟩ p.heap with ⟨e | u, heap⟩
    · rw [Eval.bind_error run, Eval.bind_error run]
    · rw [Eval.bind_ok run, Eval.bind_ok run,
        pipe_returning (valueOf s p) settled (returns u heap run) after]
  case written =>
    apply output_congr
    rw [evaluate_append, evaluate_append, bind_assoc, bind_assoc]
    rcases run : Variable.evaluate s.env (valueOf s p) ⟨e, before⟩ p.heap with ⟨e | u, heap⟩
    · rw [Eval.bind_error run, Eval.bind_error run]
    · rw [Eval.bind_ok run, Eval.bind_ok run]
      obtain ⟨later, faithful, sound⟩ := (Variable.evaluate_attempts serves.fair serves.begun
        ⟨e, before⟩ (serves.counterparts rfl)).sound serves.faithful
      rw [run] at later faithful sound
      exact (serves.onHeap later faithful).written_givesBack settled (sound u rfl)
        (givesBack u heap run) s.format after

/-- The data `x`, an object of the type `Foo`. -/
def givenFoo (registry : Registry) : Setting :=
  ⟨{ Template.bareEngine.env with registry }, ⟨[("x", .object ⟨0, "Foo", false, []⟩)]⟩, .inline,
    Format.plain, none, false⟩

def defaultZ : FilterCall := ⟨"default", [.literal (.str "z")]⟩

/-- Where one type has a transform, it is that transform that has to give what is left alone. -/
theorem settled_of_single {r : Registry} {type : String} {a : Adapter}
    (single : r.adapters = ⟨[(type, a)]⟩)
    (rests : ∀ transform, a.transform = some transform → ∀ o supply,
      let (w, supply) := (transform o).run supply
      r.Rests w supply) : r.Settled := by
  intro o transform given
  obtain ⟨adapter, found, given⟩ := Option.bind_eq_some_iff.mp given
  rw [single] at found
  by_cases same : type = o.type
  · simp only [Bindings.get?, Bindings.getFrom?, same, if_true, Option.some.injEq] at found
    exact rests transform (found ▸ given) o
  · simp [Bindings.get?, Bindings.getFrom?, same] at found

theorem exposure_defaultInBetween :
    let adapter : Adapter := ⟨[], .all, some fun _ => pure (.str "foo"), none⟩
    let r : Registry := ⟨0, fun _ => none, 1, ⟨[("Foo", adapter)]⟩⟩
    let p := Template.start Bindings.empty Heap.new
    let written (calls : List FilterCall) :=
      (Node.output ⟨0, 0⟩ "" ⟨.lookup "x" [], calls⟩).render (givenFoo r) p
    r.Settled ∧ written [defaultZ, ⟨"upcase", []⟩] = written [⟨"upcase", []⟩] ∧
    (written [⟨"upcase", []⟩]).2.out = "FOO" ∧
    -- An argument that is replaced by a new object leaves its number behind.
    let q := Template.start Bindings.empty { Heap.new with supply := 1, registries := 1 }
    let written (calls : List FilterCall) :=
      (Node.output ⟨0, 0⟩ "" ⟨.literal (.str "a"), calls⟩).render (givenFoo Sample.registry) q
    let defaultX : FilterCall := ⟨"default", [.lookup "x" []]⟩
    Sample.registry.Settled ∧
    (written [defaultX, ⟨"upcase", []⟩]).2.out = (written [⟨"upcase", []⟩]).2.out ∧
    (written [⟨"upcase", []⟩]).2.out = "A" ∧
    (written [defaultX, ⟨"upcase", []⟩]).2.heap.supply = 2 := by
  intro adapter r p written
  have settled : r.Settled := settled_of_single rfl fun transform given o supply => by
    cases given
    exact .inl rfl
  have unseen := ((exposure (givenFoo r)).2 settled ⟨0, 0⟩ ⟨0, 0⟩ "" "" (.lookup "x" []) []
    [⟨"upcase", []⟩] defaultZ p).1 fun u heap run => by
      cases run
      exact ⟨[.str "z"], rfl, rfl⟩
  refine ⟨settled, unseen, by decide +kernel, ?_⟩
  intro q written defaultX
  have settled : Sample.registry.Settled := settled_of_single rfl fun transform given o supply => by
    cases given
    exact .inl rfl
  have serves : (givenFoo Sample.registry).env.Serves Sample.ledger 0
      (valueOf (givenFoo Sample.registry) q) q.heap := by
    refine ⟨Sample.engine_impartial.env, Nat.zero_le _, ⟨rfl, SchemaTable.holds_new _ _⟩, ?_⟩
    intro name
    by_cases asked : "x" = name
    · subst asked
      exact ⟨Nat.one_pos, rfl, trivial⟩
    · have missing : (givenFoo Sample.registry).data.get? name = none := if_neg asked
      have found : valueOf (givenFoo Sample.registry) q name = .nil := by
        rw [valueOf, missing]
        rfl
      rw [found]
      trivial
  have unseen := ((exposure (givenFoo Sample.registry)).2 settled ⟨0, 0⟩ ⟨0, 0⟩ "" ""
    (.literal (.str "a")) [] [⟨"upcase", []⟩] defaultX q).2 Sample.ledger 0 serves
      fun u heap run => by
        cases run
        exact ⟨_, rfl⟩
  exact ⟨settled, unseen.2, by decide +kernel, by decide +kernel⟩

/-- A transform that gives an object with a transform, and one that gives a lazy value. The next
exposure makes something else of either, and `default` shows it. -/
theorem exposure_of_transformed :
    let outer : Adapter := ⟨[], .all, some fun _ => Fresh.object "Bar" false [], none⟩
    let inner : Adapter := ⟨[], .all, some fun _ => pure (.str "bar"), none⟩
    let r : Registry := ⟨0, fun _ => none, 1, ⟨[("Foo", outer), ("Bar", inner)]⟩⟩
    let lazily : Adapter := ⟨[], .all, some fun _ => Fresh.lazy "" (.str "foo"), none⟩
    let p := Template.start Bindings.empty Heap.new
    let x : Value := .object ⟨0, "Foo", false, []⟩
    let written (calls : List FilterCall) :=
      ((Node.output ⟨0, 0⟩ "" ⟨.lookup "x" [], calls⟩).render (givenFoo r) p).2.out
    ((r.expose x Heap.new).1.plain = "" ∧
      ((do let w ← r.expose x; r.expose w) Heap.new).1.plain = "bar") ∧
    ((⟨0, fun _ => none, 1, ⟨[("Foo", lazily)]⟩⟩ : Registry).expose x Heap.new).1.isResolved =
      false ∧
    defaultZ.Returns (givenFoo r).env (valueOf (givenFoo r) p) (r.expose x Heap.new).1
      (r.expose x Heap.new).2 ∧
    written [] = "" ∧ written [defaultZ] = "bar" := by
  intro outer inner r lazily p x written
  refine ⟨by decide +kernel, by decide +kernel, ⟨[.str "z"], rfl, rfl⟩, ?_⟩
  decide +kernel

end Render

end Liquid
