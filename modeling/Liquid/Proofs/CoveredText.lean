import Liquid.Proofs.SplitEvaluation
import Liquid.Sample.Filters
import Mathlib.Control.Monad.Basic

/-!
# Transformers and nested values

A transformer stands in for the text of every value of one kind. What is written for a value is
looked up by the kind of this value alone, and the values inside arrays and hashes are written by
default, whatever their kinds.

## Main result

`Environment.output_covered`: every value of a kind with a transformer is written by it
(`Value.covered`) as long as no such value stands inside an array or a hash without a transformer.
There it is written by default, and if transformers only lengthen texts, this is seen as soon as
one of the texts is longer.

## Proof strategy

The text is written into an accumulator, so the induction shows that what is written follows what
was there (`write_covered`). Lengths add up along the text (`covered_longer`).
-/

namespace Liquid

/-- The texts that stand in for those of whole kinds of values. -/
abbrev Covering := ValueKind → Option (Value → String)

/-- The text of a value, unless another stands in for it. -/
def Covering.textOf (f : Covering) (v : Value) (byDefault : String) : String :=
  match f v.kind with
  | some g => g v
  | none => byDefault

namespace Value

mutual

/-- The text in which every value of a covered kind, at any depth, has the text that stands in for
its own. -/
def covered (format : Format) (f : Covering) : Value → String
  | .array items => f.textOf (.array items) (coveredItems format f items)
  | .hash entries =>
    f.textOf (.hash entries) ("\x7b" ++ coveredEntries format f entries ++ "\x7d")
  | .lazy cell content => f.textOf (.lazy cell content) (content.covered format f)
  | v => f.textOf v (v.text format)

def coveredItems (format : Format) (f : Covering) : List Value → String
  | [] => ""
  | v :: rest => v.covered format f ++ coveredItems format f rest

def coveredEntries (format : Format) (f : Covering) : List (String × Value) → String
  | [] => ""
  | [(key, v)] => key ++ ": " ++ v.covered format f
  | (key, v) :: rest => key ++ ": " ++ v.covered format f ++ ", " ++ coveredEntries format f rest

end

mutual

/-- The values that stand inside arrays and hashes, at any depth. -/
def inside : Value → List Value
  | .array items => insideItems items
  | .hash entries => insideEntries entries
  | .lazy _ content => content.inside
  | _ => []

def insideItems : List Value → List Value
  | [] => []
  | v :: rest => v :: (v.inside ++ insideItems rest)

def insideEntries : List (String × Value) → List Value
  | [] => []
  | (_, v) :: rest => v :: (v.inside ++ insideEntries rest)

end

theorem coveredEntries_cons (format : Format) (f : Covering) (key : String) (v : Value)
    (next : String × Value) (rest : List (String × Value)) :
    coveredEntries format f ((key, v) :: next :: rest) =
      key ++ ": " ++ v.covered format f ++ ", " ++ coveredEntries format f (next :: rest) := rfl

/-! ### Nothing covered -/

theorem textOf_of_none {f : Covering} {v : Value} (free : f v.kind = none) (byDefault : String) :
    f.textOf v byDefault = byDefault := by
  rw [Covering.textOf, free]

mutual

theorem write_covered (format : Format) {f : Covering} : (v : Value) →
    (∀ u ∈ v :: v.inside, f u.kind = none) → (out : String) →
    v.write format out = out ++ v.covered format f
  | .nil, free, out | .object _, free, out | .bool _, free, out | .int _, free, out
  | .float _, free, out | .str _, free, out => by
    rw [covered, textOf_of_none (free _ List.mem_cons_self), text, write, write]
    · simp
    all_goals nofun
  | .array items, free, out => by
    rw [covered, textOf_of_none (free _ List.mem_cons_self), write,
      writeItems_covered format items fun u member => free u (List.mem_cons_of_mem _ member)]
  | .hash entries, free, out => by
    rw [covered, textOf_of_none (free _ List.mem_cons_self), write,
      writeEntries_covered format entries fun u member => free u (List.mem_cons_of_mem _ member)]
    simp only [String.push_eq_append, String.append_assoc]
    rfl
  | .lazy cell content, free, out => by
    have kind := free _ List.mem_cons_self
    have inner := write_covered format content
      (List.forall_mem_cons.mpr ⟨kind, fun u member => free u (List.mem_cons_of_mem _ member)⟩) out
    rw [covered, textOf_of_none kind, write, inner]

private theorem writeItems_covered (format : Format) {f : Covering} : (items : List Value) →
    (∀ u ∈ insideItems items, f u.kind = none) → (out : String) →
    writeItems format out items = out ++ coveredItems format f items
  | [], _, out => by rw [writeItems, coveredItems, String.append_empty]
  | v :: rest, free, out => by
    rw [insideItems, ← List.cons_append] at free
    have first := write_covered format v fun u member => free u (List.mem_append_left _ member)
    have others := writeItems_covered format rest fun u member =>
      free u (List.mem_append_right _ member)
    rw [writeItems, coveredItems, others, first, String.append_assoc]

private theorem writeEntries_covered (format : Format) {f : Covering} :
    (entries : List (String × Value)) →
    (∀ u ∈ insideEntries entries, f u.kind = none) → (out : String) →
    writeEntries format out entries = out ++ coveredEntries format f entries
  | [], _, out => by rw [writeEntries, coveredEntries, String.append_empty]
  | [(key, v)], free, out => by
    rw [insideEntries, ← List.cons_append] at free
    have first := write_covered format v fun u member => free u (List.mem_append_left _ member)
    rw [writeEntries, coveredEntries, first]
    simp only [String.append_assoc]
  | (key, v) :: next :: rest, free, out => by
    rw [insideEntries, ← List.cons_append] at free
    have first := write_covered format v
      (fun u member => free u (List.mem_append_left _ member)) (out ++ key ++ ": ")
    have others := writeEntries_covered format (next :: rest)
      (fun u member => free u (List.mem_append_right _ member))
      (v.write format (out ++ key ++ ": ") ++ ", ")
    rw [writeEntries, coveredEntries_cons, others, first]
    · simp only [String.append_assoc]
    · nofun

end

/-- Nothing stands in for any text. -/
def uncovered : Covering := fun _ => none

theorem covered_uncovered (format : Format) (v : Value) :
    v.covered format uncovered = v.text format := by
  have written := write_covered format (f := uncovered) v (fun _ _ => rfl) ""
  rw [text, written, String.empty_append]

/-! ### Lengths -/

section

variable (format : Format) (f : Covering)

/-- A longer text stands in for that of the value. -/
def Lengthened (u : Value) : Prop :=
  ∃ g, f u.kind = some g ∧ (u.text format).length < (g u).length

/-- Texts stand in for those of scalars only, and none is shorter. -/
structure LengthensScalars : Prop where
  array : f .array = none
  hash : f .hash = none
  le : ∀ u g, f u.kind = some g → (u.text format).length ≤ (g u).length

/-- One text is no longer than the other, and shorter if one of the values is lengthened. -/
structure Outgrown (values : List Value) (short long : String) : Prop where
  le : short.length ≤ long.length
  lt : (∃ u ∈ values, Lengthened format f u) → short.length < long.length

end

section

variable {format : Format} {f : Covering}

theorem Outgrown.refl (s : String) : Outgrown format f [] s s :=
  ⟨Nat.le_refl _, fun ⟨_, member, _⟩ => nomatch member⟩

theorem Outgrown.mono {values others : List Value} {short long : String}
    (outgrown : Outgrown format f others short long) (among : values ⊆ others) :
    Outgrown format f values short long :=
  ⟨outgrown.le, fun ⟨u, member, more⟩ => outgrown.lt ⟨u, among member, more⟩⟩

theorem Outgrown.append {values others : List Value} {short long short' long' : String}
    (first : Outgrown format f values short long) (rest : Outgrown format f others short' long') :
    Outgrown format f (values ++ others) (short ++ short') (long ++ long') := by
  have left := first.le
  have right := rest.le
  constructor
  · simp only [String.length_append]
    omega
  · rintro ⟨u, member, more⟩
    simp only [String.length_append]
    rcases List.mem_append.mp member with member | member
    · have := first.lt ⟨u, member, more⟩
      omega
    · have := rest.lt ⟨u, member, more⟩
      omega

/-- A value of a kind that is not covered is not lengthened itself. -/
theorem Outgrown.around {v : Value} {values : List Value} {short long : String}
    (inner : Outgrown format f values short long) (free : f v.kind = none) :
    Outgrown format f (v :: values) short long := by
  refine ⟨inner.le, fun ⟨u, member, more⟩ => inner.lt ?_⟩
  rcases List.mem_cons.mp member with rfl | member
  · obtain ⟨g, given, _⟩ := more
    rw [free] at given
    cases given
  · exact ⟨u, member, more⟩

private theorem inside_eq_nil : (v : Value) → v.kind ≠ .array → v.kind ≠ .hash → v.inside = []
  | .array _, other, _ => absurd rfl other
  | .hash _, _, other => absurd rfl other
  | .lazy _ content, noArray, noHash => inside_eq_nil content noArray noHash
  | .nil, _, _ | .bool _, _, _ | .int _, _, _ | .float _, _, _ | .str _, _, _ | .object _, _, _ =>
    rfl

private theorem covered_of_some {v : Value} {g : Value → String} (given : f v.kind = some g) :
    v.covered format f = g v := by
  have chosen (byDefault : String) : f.textOf v byDefault = g v := by rw [Covering.textOf, given]
  cases v <;> exact chosen _

private theorem outgrown_of_some (lengthens : LengthensScalars format f) {v : Value}
    {g : Value → String} (given : f v.kind = some g) :
    Outgrown format f (v :: v.inside) (v.text format) (v.covered format f) := by
  -- A covered value is a scalar, so it is the only one that may be lengthened.
  have alone : v.inside = [] := by
    refine inside_eq_nil v (fun same => ?_) (fun same => ?_)
    · rw [same, lengthens.array] at given
      cases given
    · rw [same, lengthens.hash] at given
      cases given
  rw [covered_of_some given, alone]
  refine ⟨lengthens.le v g given, fun ⟨u, member, g', given', more⟩ => ?_⟩
  rw [List.mem_singleton] at member
  subst member
  rw [given] at given'
  cases given'
  exact more

theorem outgrown_of_textOf (lengthens : LengthensScalars format f) {v : Value}
    {byDefault : String}
    (covers : v.covered format f = f.textOf v byDefault)
    (inner : Outgrown format f v.inside (v.text format) byDefault) :
    Outgrown format f (v :: v.inside) (v.text format) (v.covered format f) := by
  cases given : f v.kind with
  | none =>
    rw [covers, textOf_of_none given]
    exact inner.around given
  | some g => exact outgrown_of_some lengthens given

mutual

theorem outgrown (lengthens : LengthensScalars format f) : (v : Value) →
    Outgrown format f (v :: v.inside) (v.text format) (v.covered format f)
  | .nil | .bool _ | .int _ | .float _ | .str _ | .object _ =>
    outgrown_of_textOf lengthens rfl (.refl _)
  | .array items => by
    refine outgrown_of_textOf lengthens rfl ?_
    rw [← covered_uncovered]
    exact outgrownItems lengthens items
  | .hash entries => by
    refine outgrown_of_textOf lengthens rfl ?_
    rw [← covered_uncovered]
    have inner := ((Outgrown.refl "\x7b").append (outgrownEntries lengthens entries)).append
      (.refl "\x7d")
    rw [List.append_nil] at inner
    exact inner
  | .lazy cell content =>
    outgrown_of_textOf lengthens rfl
      ((outgrown lengthens content).mono (List.subset_cons_self content content.inside))

theorem outgrownItems (lengthens : LengthensScalars format f) : (items : List Value) →
    Outgrown format f (insideItems items) (coveredItems format uncovered items)
      (coveredItems format f items)
  | [] => .refl ""
  | v :: rest => by
    rw [coveredItems, coveredItems, covered_uncovered]
    exact (outgrown lengthens v).append (outgrownItems lengthens rest)

theorem outgrownEntries (lengthens : LengthensScalars format f) :
    (entries : List (String × Value)) →
    Outgrown format f (insideEntries entries) (coveredEntries format uncovered entries)
      (coveredEntries format f entries)
  | [] => .refl ""
  | [(key, v)] => by
    rw [coveredEntries, coveredEntries, covered_uncovered]
    have first := (Outgrown.refl (key ++ ": ")).append (outgrown lengthens v)
    rw [insideEntries, insideEntries, List.append_nil]
    exact first
  | (key, v) :: next :: rest => by
    have first := ((Outgrown.refl (key ++ ": ")).append (outgrown lengthens v)).append (.refl ", ")
    have both := first.append (outgrownEntries lengthens (next :: rest))
    rw [List.append_nil] at both
    rw [coveredEntries_cons, coveredEntries_cons, covered_uncovered]
    exact both

end

end

end Value

/-! ### Main result -/

/-- Writes the same text for a value whatever was computed before. -/
def Transformer.Writes (t : Transformer) (g : Value → String) : Prop := ∀ v h, (t v h).1 = g v

namespace Environment

variable {env : Environment} {f : Covering}

/-- These are the texts that the transformers write. -/
def Writes (env : Environment) (f : Covering) : Prop :=
  ∀ kind, Option.Rel Transformer.Writes (env.transformers kind) (f kind)

/-- The kind of the exposed value alone decides whether a transformer writes it. -/
theorem output_fst (writes : env.Writes f) (format : Format) (v : Value) (h : Heap) :
    (env.output format v h).1 =
      f.textOf (env.registry.expose v h).1 ((env.registry.expose v h).1.text format) := by
  generalize exposed : env.registry.expose v h = o
  have kind : o.1.resolved.kind = o.1.kind := by
    rw [Value.kind, Value.resolved_resolved, Value.kind]
  rw [output, Live.bind_apply, exposed, Live.bind_apply, Value.read_apply, kind, Covering.textOf]
  have writes := writes o.1.kind
  generalize env.transformers o.1.kind = transformer at writes
  generalize f o.1.kind = given at writes
  cases writes with
  | none => rfl
  | some writes => exact writes o.1 _

/-- What is written for a value is the covered text, unless the value is an array or a hash with a
value of a covered kind inside. Then it is the text by default, and a longer text that stands in for
one of these values is missed. -/
theorem output_covered (writes : env.Writes f) (format : Format) (v : Value) (h : Heap) :
    let w := (env.registry.expose v h).1
    let written := (env.output format v h).1
    ((f w.kind = none → ∀ u ∈ w.inside, f u.kind = none) → written = w.covered format f) ∧
    (f w.kind = none → written = w.text format) ∧
    (Value.LengthensScalars format f → f w.kind = none →
      (∃ u ∈ w.inside, Value.Lengthened format f u) → written ≠ w.covered format f) := by
  intro w written
  have shown : written = f.textOf w (w.text format) := output_fst writes format v h
  refine ⟨fun free => ?_, fun none => ?_, fun lengthens none ⟨u, member, more⟩ same => ?_⟩
  · cases given : f w.kind with
    | none =>
      have plain := Value.write_covered format w (List.forall_mem_cons.mpr ⟨given, free given⟩) ""
      rw [String.empty_append] at plain
      rw [shown, Value.textOf_of_none given]
      exact plain
    | some g => rw [shown, Covering.textOf, given, Value.covered_of_some given]
  · rw [shown, Value.textOf_of_none none]
  · have longer := (Value.outgrown lengthens w).lt ⟨u, List.mem_cons_of_mem w member, more⟩
    rw [shown, Value.textOf_of_none none] at same
    rw [same] at longer
    exact Nat.lt_irrefl _ longer

/-- Texts are written with the characters of markup as entities. -/
def escaping : Environment := Template.bareEngine.env.setTransformer .str Sample.html

def escaped (v : Value) : String :=
  String.ofList ((v.str?.getD "").toList.flatMap Sample.markupChar)

def escapedTexts : Covering := fun kind => if kind = .str then some escaped else none

private theorem escaping_writes : escaping.Writes escapedTexts := by
  intro kind
  rw [escaping, setTransformer, escapedTexts]
  by_cases str : kind = .str
  · simp only [if_pos str]
    refine .some fun v h => ?_
    change String.ofList ((v.resolved.str?.getD "").toList.flatMap Sample.markupChar) = escaped v
    rw [Value.str?, Value.resolved_resolved]
    rfl
  · simp only [if_neg str]
    exact .none

private theorem length_le_flatMap_markupChar (s : List Char) :
    s.length ≤ (s.flatMap Sample.markupChar).length := by
  induction s with
  | nil => exact Nat.le_refl 0
  | cons c rest ih =>
    have some : 1 ≤ (Sample.markupChar c).length := by
      unfold Sample.markupChar
      split_ifs
      · decide
      · decide
      · decide
      · exact Nat.le_refl 1
    rw [List.flatMap_cons, List.length_append, List.length_cons]
    omega

private theorem length_le_escaped (format : Format) : (u : Value) → u.kind = .str →
    (u.text format).length ≤ (escaped u).length
  | .str s, _ => by
    have longer := length_le_flatMap_markupChar s.toList
    rw [String.length_toList] at longer
    change ("" ++ s).length ≤ (String.ofList (s.toList.flatMap Sample.markupChar)).length
    rw [String.empty_append, String.length_ofList]
    exact longer
  | .lazy _ content, str => length_le_escaped format content str

private theorem escapedTexts_lengthens (format : Format) :
    Value.LengthensScalars format escapedTexts := by
  refine ⟨rfl, rfl, fun u g given => ?_⟩
  by_cases str : u.kind = .str
  · rw [escapedTexts, if_pos str] at given
    cases given
    exact length_le_escaped format u str
  · rw [escapedTexts, if_neg str] at given
    cases given

theorem output_covered_escaping :
    let numbers : Value := .array [.int 1, .lazy ⟨0, ""⟩ (.hash [("k", .int 2)])]
    let texts : Value := .array [.hash [("k", .str "<b>")]]
    let written (v : Value) := (escaping.output Format.plain v Heap.new).1
    let covered (v : Value) := v.covered Format.plain escapedTexts
    escaping.Writes escapedTexts ∧
    (written (.str "<b>") = covered (.str "<b>") ∧ covered (.str "<b>") = "&lt;b&gt;") ∧
    (written numbers = covered numbers ∧ covered numbers = "1{k: 2}") ∧
    Value.LengthensScalars Format.plain escapedTexts ∧ written texts ≠ covered texts := by
  intro numbers texts written covered
  have covers (v : Value) := output_covered escaping_writes Format.plain v Heap.new
  refine ⟨escaping_writes, ⟨(covers (.str "<b>")).1 nofun, by decide +kernel⟩,
    ⟨(covers numbers).1 fun _ => by decide +kernel, by decide +kernel⟩,
    escapedTexts_lengthens Format.plain, ?_⟩
  exact (covers texts).2.2 (escapedTexts_lengthens Format.plain) rfl
    ⟨.str "<b>", .tail _ (.head _), escaped, rfl, by decide +kernel⟩

/-- A text is escaped, and the same text in an array is not. -/
theorem output_nestedText :
    let written (v : Value) := (escaping.output Format.plain v Heap.new).1
    let covered (v : Value) := v.covered Format.plain escapedTexts
    escapedTexts .array = none ∧ escapedTexts .hash = none ∧
    (written (.str "<b>") = "&lt;b&gt;" ∧ covered (.str "<b>") = "&lt;b&gt;") ∧
    (written (.array [.str "<b>"]) = "<b>" ∧ covered (.array [.str "<b>"]) = "&lt;b&gt;") := by
  decide +kernel

end Environment

end Liquid
