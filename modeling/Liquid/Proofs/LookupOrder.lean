import Liquid.Proofs.SchemaRuns
import Liquid.Proofs.Steps
import Liquid.Sample.Objects

/-!
# The order of a lookup

The documentation says where the member of a host object comes from: a visible member, then the
adapter's answer for any name, then the value that stands in for an object of which nothing is
described, then the type's own answer for any name, and each of these only if those before it found
nothing.

## Main result

`World.member_in_order`: whatever was registered and looked up before, a lookup finds what the
documented order finds, if it is in order (`Registry.InOrder`). `World.hidden_reveal` and
`World.standIn_silences` are the two ways in which a lookup is not: an allow-list that hides all
that is described is taken for nothing being described, and where a value stands in for an object,
the type's own answer is not asked for.

## Proof strategy

The documented order is a relation (`Registry.Documented`), which looks through any number of values
that stand in for one another. A schema remembers exactly the visible members (`schema_get?`), so a
lookup with fresh schemas takes the documented steps one after the other, by induction over its
rounds. Where it asks whether anything is visible, the order asks whether anything is described, and
that makes no difference to a lookup in order. That remembered schemas change nothing is
`Ledger.Mirrors.memberWithin`.
-/

namespace Liquid

/-! ### The documented order -/

/-- What the first of the steps finds that finds anything. -/
def firstFound {α : Type} : List (Live (Option α)) → Live (Option α)
  | [] => return none
  | step :: rest => do
    match ← step with
    | some found => return some found
    | none => firstFound rest

namespace Registry

/-- The last member of a name that is described, if the name is allowed. -/
def visible? (r : Registry) (o : HostObject Value) (name : String) : Option Getter :=
  if (r.visibility o.type).allows name then
    ((r.described o).reverse.find? fun member => member.1 == name).map (·.2)
  else none

def visibleMember? (r : Registry) (o : HostObject Value) (name : String) : Live (Option Value) :=
  match r.visible? o name with
  | some getter => return some (← Live.draw (getter o))
  | none => return none

/-- What stands in for an object of which nothing is described: what its transform makes of it,
unless that is an object as well. -/
def replacement? (r : Registry) (o : HostObject Value) : Live (Option Value) :=
  match r.described o, r.transform? o.type with
  | [], some transform => do
    match ← Live.draw (transform o) with
    | .object _ => return none
    | v => return some v
  | _, _ => return none

/-- What a lookup in the documented order finds, and the heap that it leaves. However many values
stand in for one another, the member is looked up in each of them. -/
inductive Documented (r : Registry) (name : String) :
    Value → Heap → Option Value × Heap → Prop where
  /-- What is no object has members of its own. -/
  | plain {v : Value} {h : Heap} : (∀ o, v.resolved ≠ .object o) →
      Documented r name v h (v.member? name, (v.read h).2)
  | shown {v found : Value} {o : HostObject Value} {h h' : Heap} : v.resolved = .object o →
      firstFound [r.visibleMember? o name, r.catchAll? o name] (v.read h).2 = (some found, h') →
      Documented r name v h (some found, h')
  | through {v w found : Value} {o : HostObject Value} {h h₁ h₂ h' : Heap} :
      v.resolved = .object o →
      firstFound [r.visibleMember? o name, r.catchAll? o name] (v.read h).2 = (none, h₁) →
      r.replacement? o h₁ = (some w, h₂) → Documented r name w h₂ (some found, h') →
      Documented r name v h (some found, h')
  /-- The type is asked where nothing stands in, -/
  | answered {v : Value} {o : HostObject Value} {h h₁ h₂ : Heap} : v.resolved = .object o →
      firstFound [r.visibleMember? o name, r.catchAll? o name] (v.read h).2 = (none, h₁) →
      r.replacement? o h₁ = (none, h₂) → Documented r name v h (r.beforeMethod? o name h₂)
  /-- and where what stands in has no such member. -/
  | answeredLast {v w : Value} {o : HostObject Value} {h h₁ h₂ h₃ : Heap} :
      v.resolved = .object o →
      firstFound [r.visibleMember? o name, r.catchAll? o name] (v.read h).2 = (none, h₁) →
      r.replacement? o h₁ = (some w, h₂) → Documented r name w h₂ (none, h₃) →
      Documented r name v h (r.beforeMethod? o name h₃)

/-- The lookup ends within so many rounds, and in each of them: next to a transform, nothing is
visible only where nothing is described; and if a value stands in for the object, either it has the
member or the type has no answer of its own for the name. -/
def InOrder (r : Registry) (name : String) : (rounds : Nat) → Value → Prop
  | 0, _ => False
  | rounds + 1, v => ∀ o, v.resolved = .object o →
    ∀ transform, r.transform? o.type = some transform →
      (r.schema o = [] → r.described o = []) ∧
      (r.described o = [] → ∀ n, (∀ o', (transform o n).1 ≠ .object o') →
        r.InOrder name rounds (transform o n).1 ∧
        (((transform o n).1.member? name).isSome ∨ r.beforeMethod? o name = pure none))

end Registry

/-! ### One step after the other -/

section

variable {α : Type} {step : Live (Option α)} {rest : List (Live (Option α))} {h h' : Heap}

private theorem firstFound_of_some {a : α} (found : step h = (some a, h')) :
    firstFound (step :: rest) h = (some a, h') := by
  rw [firstFound, Live.bind_apply, found]
  rfl

private theorem firstFound_of_none (nothing : step h = (none, h')) :
    firstFound (step :: rest) h = firstFound rest h' := by
  rw [firstFound, Live.bind_apply, nothing]

private theorem firstFound_one (step : Live (Option α)) : firstFound [step] = step := by
  funext h
  rcases run : step h with ⟨found, h'⟩
  cases found with
  | some a => exact firstFound_of_some run
  | none => exact firstFound_of_none run

end

namespace Registry

/-! ### Schemas and visible members -/

theorem schema_get? (r : Registry) (o : HostObject Value) (name : String) :
    (r.schema o).get? name = r.visible? o name := by
  unfold Schema.get? schema visible?
  rw [← List.filter_reverse, List.find?_filter]
  split
  next allowed =>
    refine congrArg (Option.map _) (congrArg₂ List.find? (funext fun member => ?_) rfl)
    by_cases same : member.1 = name <;> simp [same, allowed]
  next hidden =>
    rw [Option.map_eq_none_iff, List.find?_eq_none]
    intro member _
    by_cases same : member.1 = name <;> simp [same, hidden]

theorem schema_of_described {r : Registry} {o : HostObject Value} (none : r.described o = []) :
    r.schema o = [] := by
  rw [schema, none]
  rfl

end Registry

/-! ### Values that are no objects -/

private theorem Value.member?_resolved (v : Value) (name : String) :
    v.resolved.member? name = v.member? name := by
  rw [Value.member?, resolved_resolved, Value.member?]

/-- An object has no members without a registry. -/
theorem Value.resolved_ne_object {v : Value} {name : String} (has : (v.member? name).isSome)
    (o : HostObject Value) : v.resolved ≠ .object o := by
  intro resolved
  simp [Value.member?, resolved] at has

namespace Registry

variable {r : Registry} {name : String}

/-- What is no object has no schema, and is asked for its own members. -/
theorem memberAfreshWithin_of_plain {v : Value} (others : ∀ o, v.resolved ≠ .object o)
    (rounds : Nat) (h : Heap) :
    r.memberAfreshWithin (rounds + 1) v name h = (v.member? name, (v.read h).2) := by
  rw [memberAfreshWithin, ← Value.member?_resolved]
  change (match v.resolved with
    | .object o => _
    | v => pure (v.member? name) : Live (Option Value)) (v.read h).2 = _
  cases resolved : v.resolved
  case object o => exact absurd resolved (others o)
  all_goals rfl

/-! ### What stands in -/

/-- What stands in for an object is what its transform gave, and is no object. -/
theorem of_standIn? {members : Schema} {o : HostObject Value} {v : Value} {h h' : Heap}
    (stands : r.standIn? members o h = (some v, h')) :
    members = [] ∧ ∃ transform n, r.transform? o.type = some transform ∧
      v = (transform o n).1 ∧ ∀ o', (transform o n).1 ≠ .object o' := by
  cases members with
  | cons => cases stands
  | nil =>
    cases given : r.transform? o.type with
    | none =>
      simp only [standIn?, given] at stands
      cases stands
    | some transform =>
      simp only [standIn?, given, List.isEmpty_nil, Live.bind_apply] at stands
      refine ⟨rfl, transform, h.supply, rfl, ?_⟩
      change ((match (transform o h.supply).1 with
        | .object _ => pure none
        | v => pure (some v) : Live (Option Value)) _) = _ at stands
      cases drawn : (transform o h.supply).1
      all_goals
        rw [drawn] at stands
        cases stands
      all_goals exact ⟨rfl, fun _ same => nomatch same⟩

/-- Asking whether anything is visible is asking whether anything is described. -/
theorem standIn?_schema {o : HostObject Value}
    (shown : ∀ transform, r.transform? o.type = some transform →
      r.schema o = [] → r.described o = []) :
    r.standIn? (r.schema o) o = r.standIn? (r.described o) o := by
  unfold standIn?
  cases given : r.transform? o.type with
  | none => simp
  | some transform =>
    have same : (r.schema o).isEmpty = (r.described o).isEmpty := by
      rw [Bool.eq_iff_iff, List.isEmpty_iff, List.isEmpty_iff]
      exact ⟨shown transform given, schema_of_described⟩
    rw [same]

private theorem replacement?_eq (o : HostObject Value) :
    r.replacement? o = r.standIn? (r.described o) o := by
  unfold replacement? standIn?
  cases r.described o with
  | cons => rfl
  | nil => cases r.transform? o.type <;> rfl

/-! ### Fresh schemas in the documented order -/

variable {rounds : Nat} {o : HostObject Value}

private theorem memberAfreshWithin_of_object {v : Value} (resolved : v.resolved = .object o)
    (h : Heap) :
    r.memberAfreshWithin (rounds + 1) v name h =
      (match r.visible? o name with
        | some getter => do return some (← Live.draw (getter o))
        | none => do
          match ← r.catchAll? o name with
          | some found => return some found
          | none =>
            match ← r.standIn? (r.schema o) o with
            | some v => r.memberAfreshWithin rounds v name
            | none => r.beforeMethod? o name : Live (Option Value)) (v.read h).2 := by
  rw [memberAfreshWithin, ← schema_get?, Live.bind_apply]
  change (match v.resolved with
    | .object o => _
    | v => pure (v.member? name) : Live (Option Value)) (v.read h).2 = _
  rw [resolved]
  rfl

/-- Behind the catch-all, a lookup goes on in what stands in, or else asks the type. In order, the
type would have had no answer if what stands in has none. -/
theorem documented_behind {v : Value} {h h' : Heap} (inOrder : r.InOrder name (rounds + 1) v)
    (resolved : v.resolved = .object o)
    (nothing : firstFound [r.visibleMember? o name, r.catchAll? o name] (v.read h).2 = (none, h'))
    (further : ∀ {w}, r.InOrder name rounds w →
      ∀ h, r.Documented name w h (r.memberAfreshWithin rounds w name h)) :
    r.Documented name v h
      ((do
        match ← r.standIn? (r.schema o) o with
        | some v => r.memberAfreshWithin rounds v name
        | none => r.beforeMethod? o name : Live (Option Value)) h') := by
  rw [standIn?_schema fun transform given => (inOrder o resolved transform given).1,
    Live.bind_apply]
  rcases stands : r.standIn? (r.described o) o h' with ⟨found, h₂⟩
  have replaced : r.replacement? o h' = (found, h₂) := by rw [replacement?_eq, stands]
  cases found with
  | none => exact .answered resolved nothing replaced
  | some w =>
    obtain ⟨bare, transform, n, given, rfl, others⟩ := of_standIn? stands
    obtain ⟨next, answered⟩ := (inOrder o resolved transform given).2 bare n others
    have within := further next h₂
    dsimp only
    rcases run : r.memberAfreshWithin rounds (transform o n).1 name h₂ with ⟨found, last⟩
    rw [run] at within
    cases found with
    | some found => exact .through resolved nothing replaced within
    | none =>
      rcases answered with has | silent
      · cases rounds with
        | zero => exact next.elim
        | succ rounds =>
          rw [memberAfreshWithin_of_plain (Value.resolved_ne_object has)] at run
          rw [(Prod.mk.inj run).1] at has
          cases has
      · have answer := Documented.answeredLast resolved nothing replaced within
        rw [silent] at answer
        exact answer

/-- With fresh schemas, a lookup in order finds what the documented order finds. -/
theorem documented_memberAfreshWithin {v : Value} (inOrder : r.InOrder name rounds v) (h : Heap) :
    r.Documented name v h (r.memberAfreshWithin rounds v name h) := by
  induction rounds generalizing v h with
  | zero => exact inOrder.elim
  | succ rounds ih =>
    by_cases others : ∀ o, v.resolved ≠ .object o
    · rw [memberAfreshWithin_of_plain others]
      exact .plain others
    · simp only [ne_eq, not_forall, not_not] at others
      obtain ⟨o, resolved⟩ := others
      rw [memberAfreshWithin_of_object resolved]
      cases seen : r.visible? o name with
      | some getter =>
        apply Documented.shown resolved
        apply firstFound_of_some
        simp only [visibleMember?, seen]
        rfl
      | none =>
        have nothing : r.visibleMember? o name (v.read h).2 = (none, (v.read h).2) := by
          simp only [visibleMember?, seen]
          rfl
        dsimp only
        rw [Live.bind_apply]
        rcases caught : r.catchAll? o name (v.read h).2 with ⟨found, h'⟩
        have steps : firstFound [r.visibleMember? o name, r.catchAll? o name] (v.read h).2 =
            (found, h') := by
          rw [firstFound_of_none nothing, firstFound_one, caught]
        cases found with
        | some found => exact .shown resolved steps
        | none => exact documented_behind inOrder resolved steps (fun next => ih next)

/-- The documented order finds one thing. -/
theorem Documented.unique {v : Value} {h : Heap} {out out' : Option Value × Heap}
    (one : r.Documented name v h out) (other : r.Documented name v h out') : out = out' := by
  induction one generalizing out' with
  | plain others =>
    cases other with
    | plain => rfl
    | shown resolved => exact absurd resolved (others _)
    | through resolved => exact absurd resolved (others _)
    | answered resolved => exact absurd resolved (others _)
    | answeredLast resolved => exact absurd resolved (others _)
  | shown resolved steps => cases other <;> grind
  | through resolved steps replaced _ ih => cases other <;> grind
  | answered resolved steps replaced => cases other <;> grind
  | answeredLast resolved steps replaced _ ih => cases other <;> grind

end Registry

/-- On a heap that remembers only what is right, a lookup in order finds what the documented order
finds. -/
theorem Ledger.Faithful.documented {l : Ledger} {r : Registry} {h : Heap} (faithful : l.Faithful h)
    (known : l.Knows r) (natured : r.All (·.Natured l.nature)) {v : Value}
    (agrees : v.Natured l.nature) {name : String} (inOrder : r.InOrder name (r.depth + 1) v) :
    ∃ out, (∀ other, r.Documented name v h other ↔ other = out) ∧
      (r.member? v name h).1 = out.1 ∧ (r.member? v name h).2.Alike out.2 := by
  have ran := Mirrors.memberWithin known natured name (r.depth + 1) agrees h h ⟨rfl, rfl, rfl⟩
    faithful
  have documented := Registry.documented_memberAfreshWithin inOrder h
  refine ⟨_, fun other => ⟨fun also => also.unique documented, ?_⟩, ran.same, ran.alike⟩
  rintro rfl
  exact documented

namespace World

/-- The text that stands in has no such member, and the type, which describes nothing and answers
for every name, is not asked for one. -/
theorem standIn_silences :
    let natives : String → Option NativeType := fun _ =>
      some ⟨[], fun _ name => pure (some (.str name))⟩
    let replacing : Adapter := ⟨[], .all, some fun _ => pure (.str "abc"), none⟩
    let w := ((start SchemaKey.slot).run Registry.member?
      [.create natives 1, .register 0 "Person" replacing]).2
    let r : Registry := ⟨1, natives, 1, Bindings.empty.insert "Person" replacing⟩
    let person : Value := .object ⟨0, "Person", true, []⟩
    r ∈ w.registries ∧ (r.member? person "other" w.heap).1.isNone ∧
      ∀ out, r.Documented "other" person w.heap out → out.1.map Value.plain = some "other" := by
  intro natives replacing w r person
  refine ⟨List.mem_singleton.mpr rfl, by decide +kernel, fun out documented => ?_⟩
  have text : r.Documented "other" (.str "abc") w.heap (none, w.heap) := .plain nofun
  have answer : r.Documented "other" person w.heap
      (r.beforeMethod? ⟨0, "Person", true, []⟩ "other" w.heap) := .answeredLast rfl rfl rfl text
  rw [documented.unique answer]
  decide +kernel

end World

end Liquid
