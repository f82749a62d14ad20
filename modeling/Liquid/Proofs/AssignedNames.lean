import Liquid.Proofs.CutExpressions
import Liquid.Proofs.Isolation
import Liquid.Proofs.MarkupReading
import Liquid.Tag.Standard

/-!
# Assigned names

What an assign binds is read through markup again, so the reader of assigns and the reader of
variables have to agree on names. They do: whatever an assign accepts as its name is a variable by
itself, unless it is one of the keywords, which stand for literals wherever they are alone.

## Main result

`Tag.assigned_name_reads_back`: a name that is no keyword reads back what it was assigned. It does
right behind the assign, behind every block that the assign stands in, and in the renders to come.

## Proof strategy

An assign is never popped, so behind a list of nodes the outermost frame holds what its last
executed assign of the name gave, and so does the store if assigns last.
-/

namespace Liquid

open Markup

/-! ### Names alone -/

private theorem Tag.isName_of_assignment? {markup name : String} {source : Variable}
    (accepted : assignment? markup = some (name, source)) : IsName name.toList := by
  unfold assignment? at accepted
  split at accepted
  next => cases accepted
  next found rest read =>
    -- Whatever follows the name, the name is the one that was read.
    have same : found = name := by grind
    exact same ▸ (isName_of_name? read).1

private theorem Variable.parse_name {name : String} (isName : IsName name.toList)
    (free : keyword? name = none) : Variable.parse name = .ok ⟨.lookup name [], []⟩ := by
  have alone := IsVariable.given blank_nil (.lookup isName (fun _ => free) .done) .done blank_nil
  simp only [List.append_nil, List.nil_append] at alone
  exact parse_eq_ok_iff.mpr alone

private theorem Variable.parse_keyword {word : String} {l : Literal}
    (keyword : keyword? word = some l) :
    Variable.parse word = .ok ⟨.literal l, []⟩ := by
  have alone := IsVariable.given blank_nil (.keyword keyword) .done blank_nil
  simp only [List.append_nil, List.nil_append] at alone
  exact parse_eq_ok_iff.mpr alone

/-! ### Values of names -/

/-- The markup that consists of the name alone has this value. -/
def ReadsBack (s : Setting) (p : Progress) (name : String) (v : Value) : Prop :=
  ∃ alone, Variable.parse name = .ok alone ∧
    (Render.eval (fun env names => alone.evaluate env names) s p).1 = .ok v.resolved

/-- No frame above the outermost binds the name. -/
def Scopes.Unhidden (s : Scopes) (name : String) : Prop :=
  ∀ frame ∈ s.inner, frame.get? name = none

/-- The last of the bindings of the name is this one. -/
def LastBound (bindings : List (String × Value)) (name : String) (v : Value) : Prop :=
  ∃ before later, bindings = before ++ (name, v) :: later ∧ ∀ w, (name, w) ∉ later

section

variable {name : String} {v : Value} {s : Setting} {p : Progress}
  {bindings : List (String × Value)}

theorem readsBack_of_valueOf (isName : IsName name.toList) (free : keyword? name = none)
    (value : Render.valueOf s p name = v) : ReadsBack s p name v := by
  refine ⟨_, Variable.parse_name isName free, ?_⟩
  change Except.ok (Render.valueOf s p name).resolved = _
  rw [value]

theorem Scopes.Unhidden.get? {scopes : Scopes} (unhidden : scopes.Unhidden name) :
    scopes.get? name = scopes.outermost.get? name := by
  obtain ⟨outermost, inner⟩ := scopes
  rw [Scopes.get?]
  induction inner with
  | nil => rfl
  | cons frame rest ih =>
    rw [getFrom?, unhidden frame List.mem_cons_self]
    exact ih fun frame member => unhidden frame (List.mem_cons_of_mem _ member)

theorem LastBound.get?_overlay (last : LastBound bindings name v) (b : Bindings Value) :
    (b.overlay ⟨bindings⟩).get? name = some v := by
  obtain ⟨before, later, rfl, untouched⟩ := last
  have split : before ++ (name, v) :: later = (before ++ [(name, v)]) ++ later := by simp
  rw [split, Bindings.overlay_append, Bindings.get?_overlay_of_not_mem _ untouched,
    Bindings.overlay_append]
  change ((b.overlay ⟨before⟩).insert name v).get? name = some v
  rw [Bindings.get?_insert, if_pos rfl]

/-- Behind nodes that assigned the name, it stands for what it was assigned last. -/
theorem valueOf_of_lastBound {nodes : List Node} (standard : isStandard nodes = true)
    (unhidden : p.scopes.Unhidden name)
    (last : LastBound (assigned s (allVisits s p nodes)) name v) :
    Render.valueOf s (renderAll nodes s p).2 name = v := by
  have leaves := renderAll_leaves s nodes (not_host_of_isStandard standard) p
  have unhidden : (renderAll nodes s p).2.scopes.Unhidden name := by
    rw [Scopes.Unhidden, show (renderAll nodes s p).2.scopes.inner = _ from leaves.inner]
    exact unhidden
  simp only [Render.valueOf, unhidden.get?, leaves.outermost, last.get?_overlay]

/-- Nodes that do not assign the name leave what it stands for. -/
theorem valueOf_of_unassigned {nodes : List Node} (standard : isStandard nodes = true)
    (unassigned : ∀ w, (name, w) ∉ assigned s (allVisits s p nodes)) :
    Render.valueOf s (renderAll nodes s p).2 name = Render.valueOf s p name := by
  have leaves := renderAll_leaves s nodes (not_host_of_isStandard standard) p
  have scopes : (renderAll nodes s p).2.scopes.get? name = p.scopes.get? name := by
    refine Scopes.get?_congr leaves.inner ?_
    rw [leaves.outermost, Bindings.get?_overlay_of_not_mem _ unassigned]
  have store : (renderAll nodes s p).2.store.get? name = p.store.get? name := by
    rw [leaves.store]
    split
    next => exact Bindings.get?_overlay_of_not_mem _ unassigned
    next => rfl
  rw [Render.valueOf, Render.valueOf, scopes, store]

end

/-- What the executed assigns gave is in the store behind a render, unless it is isolated. -/
theorem Template.store_of_lastBound {t : Template} (standard : isStandard t.document.nodes = true)
    (shared : t.isolated = false) {data : Value} {o : Options} {clock : Clock}
    {store : Bindings Value} {heap : Heap} {name : String} {v : Value}
    (last : LastBound (t.assigned data o clock store heap) name v) :
    (t.render data o clock store heap).2.1.get? name = some v := by
  rcases set : t.setting data o clock heap with ⟨r, begun⟩
  rw [assigned] at last
  simp only [ExceptT.run, set] at last
  cases r with
  | error e =>
    obtain ⟨before, later, none, _⟩ := last
    simp at none
  | ok s =>
    have persists : s.persists = true := by
      cases data <;> cases set <;> simp [shared]
    have leaves := renderAll_leaves s t.document.nodes (not_host_of_isStandard standard)
      (start store begun)
    rw [render_of_setting store set]
    change (renderAll t.document.nodes s (start store begun)).2.store.get? name = some v
    rw [leaves.store, if_pos persists]
    exact last.get?_overlay store

/-! ### Main result -/

/-- A name that an assign accepts is a variable by itself, or it is a keyword and then a literal.
As a variable it reads back what was assigned, right away, behind blocks, and later. -/
theorem Tag.assigned_name_reads_back {markup name : String} {source : Variable}
    (accepted : assignment? markup = some (name, source)) :
    (∀ l, keyword? name = some l → Variable.parse name = .ok ⟨.literal l, []⟩) ∧
    (keyword? name = none →
      (∀ (s : Setting) (p q : Progress) (v : Value),
        Render.eval (fun env names => source.evaluate env names) s p = (.ok v, q) →
        p.scopes.Unhidden name →
        ∃ after, (Tag.assign name source).render s p = (.ok .normal, after) ∧
          ReadsBack s after name v) ∧
      (∀ (s : Setting) (p : Progress) (nodes : List Node), isStandard nodes = true →
        p.scopes.Unhidden name →
        ∀ v, LastBound (assigned s (allVisits s p nodes)) name v →
          ReadsBack s (renderAll nodes s p).2 name v) ∧
      (∀ t : Template, isStandard t.document.nodes = true → t.isolated = false →
        ∀ data o clock store heap v, LastBound (t.assigned data o clock store heap) name v →
        ∀ data' o' clock' heap' s' begun,
          (t.setting data' o' clock').run heap' = (.ok s', begun) → s'.data.get? name = none →
          let p' := Template.start (t.render data o clock store heap).2.1 begun
          ∀ nodes, isStandard nodes = true →
            (∀ w, (name, w) ∉ assigned s' (allVisits s' p' nodes)) →
            ReadsBack s' (renderAll nodes s' p').2 name v)) := by
  have isName := isName_of_assignment? accepted
  refine ⟨fun l => Variable.parse_keyword, fun free => ⟨?_, ?_, ?_⟩⟩
  · intro s p q v run unhidden
    obtain ⟨heap, evaluated, rfl⟩ := Render.run_of_eval run
    obtain ⟨after, rendered, _, value, _⟩ := Render.assign_apply name source evaluated unhidden
    exact ⟨after, rendered, readsBack_of_valueOf isName free value⟩
  · intro s p nodes standard unhidden v last
    exact readsBack_of_valueOf isName free (valueOf_of_lastBound standard unhidden last)
  · intro t standard shared data o clock store heap v last data' o' clock' heap' s' begun _ unbound
      p'
      nodes standard' unassigned
    have kept := t.store_of_lastBound standard shared last
    refine readsBack_of_valueOf isName free ?_
    rw [valueOf_of_unassigned standard' unassigned]
    have unscoped : p'.scopes.get? name = none := rfl
    have stored : p'.store.get? name = some v := kept
    simp only [Render.valueOf, unscoped, unbound, stored]

/-- `{% if true %}{% tablerow i in (1..2) %}{% assign ä-1? = i %}{% endtablerow %}{% endif %}`. -/
def assignsWithin : List Node :=
  let i : Variable := ⟨.lookup "i" [], []⟩
  [.tag ⟨0, 0⟩ "if" "true" (.branches [(.last (.truthy ⟨.literal (.bool true), []⟩),
    [.tag ⟨0, 0⟩ "tablerow" "i in (1..2)" (.tablerow
      ⟨"i", .range (.literal (.int 1)) (.literal (.int 2)), []⟩
      [.tag ⟨0, 0⟩ "assign" "ä-1? = i" (.assign "ä-1?" i)])])])]

theorem Tag.assigned_name_reads_back_within :
    let i : Variable := ⟨.lookup "i" [], []⟩
    let t : Template := ⟨Template.bareEngine, "assigns", "", ⟨assignsWithin, ⟨0, 0⟩⟩, false⟩
    let s : Setting :=
      ⟨Template.bareEngine.env, Bindings.empty, .inline, Format.plain, none, true⟩
    let p := Template.start Bindings.empty Heap.new
    let left := (t.render .nil Options.plain (.stopped 0) Bindings.empty Heap.new).2.1
    assignment? "ä-1? = i" = some ("ä-1?", i) ∧
    ReadsBack s (renderAll assignsWithin s p).2 "ä-1?" (.int 2) ∧
    ReadsBack s (Template.start left Heap.new) "ä-1?" (.int 2) := by
  intro i t s p left
  have accepted : assignment? "ä-1? = i" = some ("ä-1?", i) := by rfl
  obtain ⟨-, free⟩ := assigned_name_reads_back accepted
  obtain ⟨-, blocks, renders⟩ := free (by decide)
  have twice : assigned s (allVisits s p assignsWithin) =
      [("ä-1?", .int 1), ("ä-1?", .int 2)] := by rfl
  have last : LastBound (assigned s (allVisits s p assignsWithin)) "ä-1?" (.int 2) :=
    ⟨[("ä-1?", .int 1)], [], twice, nofun⟩
  exact ⟨accepted, blocks s p assignsWithin rfl nofun _ last,
    renders t rfl rfl .nil Options.plain (.stopped 0) Bindings.empty Heap.new _ last .nil
      Options.plain (.stopped 0)
      Heap.new s Heap.new rfl rfl [] rfl nofun⟩

/-- A keyword is accepted as well, and stays the literal. -/
theorem Tag.assigned_keyword :
    let five : Variable := ⟨.literal (.int 5), []⟩
    let s : Setting :=
      ⟨Template.bareEngine.env, Bindings.empty, .inline, Format.plain, none, true⟩
    let p := Template.start Bindings.empty Heap.new
    assignment? "nil = 5" = some ("nil", five) ∧
    (Render.eval (fun env names => five.evaluate env names) s p).1 = .ok (.int 5) ∧
    ∃ after, (Tag.assign "nil" five).render s p = (.ok .normal, after) ∧
      ¬ ReadsBack s after "nil" (.int 5) := by
  intro five s p
  refine ⟨by rfl, rfl, _, rfl, fun reads => ?_⟩
  obtain ⟨alone, parsed, value⟩ := reads
  rw [Variable.parse_keyword rfl] at parsed
  cases parsed
  cases value

end Liquid
