import Liquid.Proofs.Comparisons
import Liquid.Proofs.WholeDoubles

/-!
# Transitive comparisons

Equality and order look at whole numbers exactly, and through the nearest double where they meet
one. Beyond `2 ^ 53` several whole numbers share a nearest double, which then equals all of them
although no two of them are equal.

## Main result

`Value.comparisons_transitive`: equality is reflexive but for values that hold a double that is no
number, symmetric, and transitive but for a double between two different whole numbers that are
rounded to it. Order is transitive and strict where one of its steps is, with the same exception.

## Proof strategy

Rounding keeps the order (`Double.wholeRank_mono`), so steps of numbers upwards are steps of their
ranks upwards (`Value.rank_le`). Where the rank rises on the way, the last number is greater than
the first. Where all three have one rank, only whole numbers can differ, and only from each other.
-/

namespace Liquid

/-! ### Doubles -/

namespace Double

private theorem rank?_isSome {f : Float} (number : shape f ≠ .nan) : (rank? f).isSome = true := by
  unfold rank?
  split
  next nan => exact absurd nan number
  next => rfl

theorem compare?_eq_some {f g : Float} {o : Ordering} :
    compare? f g = some o ↔ ∃ x y, rank? f = some x ∧ rank? g = some y ∧ compare x y = o := by
  unfold compare?
  cases rank? f <;> cases rank? g <;> simp

theorem same_iff {f g : Float} : same f g = true ↔ ∃ x, rank? f = some x ∧ rank? g = some x := by
  rw [same, beq_iff_eq, compare?_eq_some]
  simp

theorem same_refl {f : Float} (number : shape f ≠ .nan) : same f f = true := by
  obtain ⟨x, rank⟩ := Option.isSome_iff_exists.mp (rank?_isSome number)
  exact same_iff.mpr ⟨x, rank, rank⟩

theorem same_trans {f g h : Float} (first : same f g = true) (second : same g h = true) :
    same f h = true := by
  obtain ⟨x, left, middle⟩ := same_iff.mp first
  obtain ⟨y, middle', right⟩ := same_iff.mp second
  cases middle.symm.trans middle'
  exact same_iff.mpr ⟨x, left, right⟩

end Double

namespace Value

/-- A whole number equals the doubles of its own rank. -/
theorem sameNumber_iff {i : Int64} {f : Float} :
    sameNumber i f = true ↔ Double.rank? f = some (Double.wholeRank i.toInt) := by
  rw [sameNumber, Double.same_iff, Number.rank?_toFloat]
  simp

/-! ### Reflexivity -/

mutual

/-- Some double in the value is "not a number", at whatever depth. -/
def hasNaN : Value → Bool
  | .float f => Double.shape f == .nan
  | .array items => itemsHaveNaN items
  | .hash entries => entriesHaveNaN entries
  | .lazy _ content => content.hasNaN
  | _ => false

def itemsHaveNaN : List Value → Bool
  | [] => false
  | v :: rest => v.hasNaN || itemsHaveNaN rest

def entriesHaveNaN : List (String × Value) → Bool
  | [] => false
  | (_, v) :: rest => v.hasNaN || entriesHaveNaN rest

end

private theorem shape_of_hasNaN {f : Float} (free : (float f).hasNaN = false) :
    Double.shape f ≠ .nan := by
  simpa [hasNaN] using free

mutual

theorem same_refl : (v : Value) → v.hasNaN = false → v.same v = true
  | .float _, free => Double.same_refl (shape_of_hasNaN free)
  | .array items, free => sameItems_refl items free
  | .hash entries, free => sameEntries_refl entries free
  | .nil, _ => rfl
  | .bool _, _ | .int _, _ | .str _, _ | .object _, _ | .lazy _ _, _ => by simp [same]

private theorem sameItems_refl : (items : List Value) → itemsHaveNaN items = false →
    sameItems items items = true
  | [], _ => rfl
  | v :: rest, free => by
    rw [itemsHaveNaN, Bool.or_eq_false_iff] at free
    rw [sameItems, same_refl v free.1, sameItems_refl rest free.2, Bool.and_self]

private theorem sameEntries_refl :
    (entries : List (String × Value)) → entriesHaveNaN entries = false →
    sameEntries entries entries = true
  | [], _ => rfl
  | (key, v) :: rest, free => by
    rw [entriesHaveNaN, Bool.or_eq_false_iff] at free
    rw [sameEntries, same_refl v free.1, sameEntries_refl rest free.2, beq_self_eq_true]
    rfl

end

mutual

private theorem looseEq_refl : (v : Value) → v.hasNaN = false → v.looseEq v = true
  | .lazy _ content, free => by
    rw [looseEq_lazy]
    exact looseEq_refl content free
  | .array items, free => looseEqItems_refl items free
  | .float f, free => same_refl (.float f) free
  | .hash entries, free => same_refl (.hash entries) free
  | .nil, _ => rfl
  | .bool _, _ | .int _, _ | .str _, _ | .object _, _ => by simp [looseEq, resolved, same]

private theorem looseEqItems_refl : (items : List Value) → itemsHaveNaN items = false →
    looseEqItems items items = true
  | [], _ => rfl
  | v :: rest, free => by
    rw [itemsHaveNaN, Bool.or_eq_false_iff] at free
    rw [looseEqItems, looseEq_refl v free.1, looseEqItems_refl rest free.2, Bool.and_self]

end

/-! ### Transitivity of equality -/

mutual

theorem same_trans : (a b c : Value) → a.same b = true → b.same c = true → a.same c = true
  | .float _, b, c, first, second => by
    cases b <;> cases c <;> first | contradiction | exact Double.same_trans first second
  | .array items, b, c, first, second => by
    cases b <;> cases c <;> first | contradiction | exact sameItems_trans items _ _ first second
  | .hash entries, b, c, first, second => by
    cases b <;> cases c <;>
      first | contradiction | exact sameEntries_trans entries _ _ first second
  | .nil, b, c, first, second | .bool _, b, c, first, second | .int _, b, c, first, second
  | .str _, b, c, first, second | .object _, b, c, first, second
  | .lazy _ _, b, c, first, second => by
    cases b <;> cases c <;> simp_all [same]

private theorem sameItems_trans : (as bs cs : List Value) → sameItems as bs = true →
    sameItems bs cs = true → sameItems as cs = true
  | [], bs, cs, first, second => by
    cases bs <;> cases cs <;> first | rfl | contradiction
  | a :: as, bs, cs, first, second => by
    cases bs <;> cases cs <;> try contradiction
    next b bs c cs =>
      rw [sameItems, Bool.and_eq_true] at first second ⊢
      exact ⟨same_trans a b c first.1 second.1, sameItems_trans as bs cs first.2 second.2⟩

private theorem sameEntries_trans : (as bs cs : List (String × Value)) → sameEntries as bs = true →
    sameEntries bs cs = true → sameEntries as cs = true
  | [], bs, cs, first, second => by
    cases bs <;> cases cs <;> first | rfl | contradiction
  | (k, a) :: as, bs, cs, first, second => by
    cases bs <;> cases cs <;> try contradiction
    next b bs c cs =>
      simp only [sameEntries, Bool.and_eq_true, beq_iff_eq] at first second ⊢
      obtain ⟨⟨key, here⟩, rest⟩ := first
      obtain ⟨⟨key', here'⟩, rest'⟩ := second
      exact ⟨⟨key.trans key', same_trans a b.2 c.2 here here'⟩,
        sameEntries_trans as bs cs rest rest'⟩

end

/-- The double is the nearest to both of two different whole numbers. -/
def blurs (f : Float) (i j : Int64) : Bool := i != j && (sameNumber i f && sameNumber j f)

mutual

/-- At some place that loose equality looks at, two of the three are different whole numbers and
the third is a double that blurs them. -/
def blurred : Value → Value → Value → Bool
  | .lazy _ content, b, c => content.blurred b c
  | .array as, b, c =>
    match b.resolved, c.resolved with
    | .array bs, .array cs => blurredItems as bs cs
    | _, _ => false
  | .int i, b, c =>
    match b.resolved, c.resolved with
    | .float f, .int j => blurs f i j
    | .int j, .float f => blurs f i j
    | _, _ => false
  | .float f, b, c =>
    match b.resolved, c.resolved with
    | .int i, .int j => blurs f i j
    | _, _ => false
  | _, _, _ => false

def blurredItems : List Value → List Value → List Value → Bool
  | a :: as, b :: bs, c :: cs => a.blurred b c || blurredItems as bs cs
  | _, _, _ => false

end

private theorem looseEq_trans_int {i : Int64} {v w : Value} (first : (int i).looseEq v = true)
    (second : v.looseEq w = true) (left : v.isResolved = true) (right : w.isResolved = true) :
    (int i).looseEq w = !(int i).blurred v w := by
  cases v <;> cases w <;> try contradiction
  case int.int j k =>
    have same : j = k := by simpa [looseEq, resolved, same] using second
    subst same
    exact first
  -- Two whole numbers in a row are the same one, which then meets the double by itself.
  case int.float j g =>
    obtain rfl : i = j := by simpa [looseEq, resolved, same] using first
    simpa [looseEq, resolved, blurred, blurs] using second
  -- The only way that a double stands between: equality holds just for one and the same number.
  case float.int f j =>
    have below : sameNumber i f = true := first
    have above : sameNumber j f = true := second
    simp [looseEq, resolved, same, blurred, blurs, below, above, bne]
  case float.float f g =>
    have here := sameNumber_iff.mp first
    obtain ⟨x, rank, rank'⟩ := Double.same_iff.mp second
    cases here.symm.trans rank
    exact sameNumber_iff.mpr rank'

private theorem looseEq_trans_float {f : Float} {v w : Value} (first : (float f).looseEq v = true)
    (second : v.looseEq w = true) (left : v.isResolved = true) (right : w.isResolved = true) :
    (float f).looseEq w = !(float f).blurred v w := by
  cases v <;> cases w <;> try contradiction
  case int.int i j =>
    obtain rfl : i = j := by simpa [looseEq, resolved, same] using second
    simpa [looseEq, resolved, blurred, blurs] using first
  case int.float i g =>
    exact Double.same_iff.mpr ⟨_, sameNumber_iff.mp first, sameNumber_iff.mp second⟩
  case float.int g i =>
    have here := sameNumber_iff.mp second
    obtain ⟨x, rank, rank'⟩ := Double.same_iff.mp first
    cases here.symm.trans rank'
    exact sameNumber_iff.mpr rank
  case float.float g h => exact Double.same_trans first second

/-- What is no number and no array equals strictly, and nothing in it is rounded. -/
theorem looseEq_trans_strict {a b c : Value} (strict : ∀ w, a.looseEq w = a.same w.resolved)
    (kept : ∀ w, a.same b.resolved = true → b.resolved.looseEq w = b.resolved.same w.resolved)
    (first : a.looseEq b = true) (second : b.looseEq c = true) : a.looseEq c = true := by
  rw [strict] at first ⊢
  rw [← looseEq_resolved_left, kept c first] at second
  exact same_trans _ _ _ first second

mutual

-- On the first value, which says what the other two are behind their cells.
theorem looseEq_trans : (a b c : Value) → a.looseEq b = true → b.looseEq c = true →
    a.looseEq c = !a.blurred b c
  | .lazy _ content, b, c, first, second => looseEq_trans content b c first second
  | .int i, b, c, first, second => by
    rw [← looseEq_resolved_right] at first second ⊢
    rw [← looseEq_resolved_left b] at second
    rw [looseEq_trans_int first second (isResolved_resolved b) (isResolved_resolved c)]
    simp only [blurred, resolved_resolved]
  | .float f, b, c, first, second => by
    rw [← looseEq_resolved_right] at first second ⊢
    rw [← looseEq_resolved_left b] at second
    rw [looseEq_trans_float first second (isResolved_resolved b) (isResolved_resolved c)]
    simp only [blurred, resolved_resolved]
  | .array items, b, c, first, second => by
    rw [← looseEq_resolved_left b] at second
    rw [looseEq] at first ⊢
    rw [blurred]
    generalize b.resolved = v at first second ⊢
    cases v <;> try contradiction
    next others =>
      rw [looseEq] at second
      generalize c.resolved = w at second ⊢
      cases w <;> try contradiction
      next more => exact looseEqItems_trans items others more first second
  | .nil, b, c, first, second | .bool _, b, c, first, second | .str _, b, c, first, second
  | .hash _, b, c, first, second | .object _, b, c, first, second => by
    refine looseEq_trans_strict (fun _ => rfl) (fun w equal => ?_) first second
    generalize b.resolved = v at equal ⊢
    cases v <;> first | contradiction | rfl

private theorem looseEqItems_trans : (as bs cs : List Value) → looseEqItems as bs = true →
    looseEqItems bs cs = true → looseEqItems as cs = !blurredItems as bs cs
  | [], bs, cs, first, second => by
    cases bs <;> cases cs <;> first | rfl | contradiction
  | a :: as, bs, cs, first, second => by
    cases bs <;> cases cs <;> try contradiction
    next b bs c cs =>
      rw [looseEqItems, Bool.and_eq_true] at first second
      rw [looseEqItems, blurredItems, looseEq_trans a b c first.1 second.1,
        looseEqItems_trans as bs cs first.2 second.2, Bool.not_or]

end

/-! ### Transitivity of order -/

/-- The place of a number among all numbers; whole numbers that are rounded alike share theirs. -/
def rank? (v : Value) : Option Int :=
  match v.resolved with
  | .int i => some (Double.wholeRank i.toInt)
  | .float f => Double.rank? f
  | _ => none

/-- How numbers of one rank are ordered. -/
def tie (a b : Value) : Ordering :=
  match a.resolved, b.resolved with
  | .int i, .int j => compare i.toInt j.toInt
  | _, _ => .eq

/-- Ranks say nothing else than the order of whole numbers. -/
theorem compare_wholeRank (i j : Int) :
    (compare (Double.wholeRank i) (Double.wholeRank j)).then (compare i j) = compare i j := by
  rcases lt_trichotomy i j with less | rfl | greater
  · have ranks := Double.wholeRank_mono less.le
    rw [Int.compare_eq_lt.mpr less]
    rcases ranks.lt_or_eq with below | same
    · rw [Int.compare_eq_lt.mpr below]
      rfl
    · rw [same, Int.compare_eq_eq.mpr rfl]
      rfl
  · rw [Int.compare_eq_eq.mpr rfl, Int.compare_eq_eq.mpr rfl]
    rfl
  · have ranks := Double.wholeRank_mono greater.le
    rw [Int.compare_eq_gt.mpr greater]
    rcases ranks.lt_or_eq with below | same
    · rw [Int.compare_eq_gt.mpr below]
      rfl
    · rw [same, Int.compare_eq_eq.mpr rfl]
      rfl

/-- Numbers are ordered by their ranks, and only whole numbers of one rank by more than that. -/
theorem compare?_of_rank? {a b : Value} {x y : Int} (left : a.rank? = some x)
    (right : b.rank? = some y) : a.compare? b = some ((compare x y).then (a.tie b)) := by
  unfold rank? at left right
  unfold compare? tie
  generalize a.resolved = v at left ⊢
  generalize b.resolved = w at right ⊢
  have doubles {f g : Float} (first : Double.rank? f = some x) (second : Double.rank? g = some y) :
      Double.compare? f g = some ((compare x y).then .eq) :=
    Double.compare?_eq_some.mpr ⟨x, y, first, second, Ordering.then_eq.symm⟩
  cases v <;> try contradiction
  case int i =>
    cases w <;> try contradiction
    case int j =>
      cases left
      cases right
      exact congrArg some (compare_wholeRank i.toInt j.toInt).symm
    case float g => exact doubles ((Number.rank?_toFloat i).trans left) right
  case float f =>
    cases w <;> try contradiction
    case int j => exact doubles left ((Number.rank?_toFloat j).trans right)
    case float g => exact doubles left right

/-- What is ordered has ranks or is a pair of texts. -/
theorem rank?_of_compare? {a b : Value} {o : Ordering} (ordered : a.compare? b = some o) :
    (∃ x y, a.rank? = some x ∧ b.rank? = some y) ∨
    ∃ s t, a.resolved = .str s ∧ b.resolved = .str t := by
  unfold compare? at ordered
  unfold rank?
  generalize a.resolved = v at ordered ⊢
  generalize b.resolved = w at ordered ⊢
  cases v <;> cases w <;> try contradiction
  case int.int i j => exact .inl ⟨_, _, rfl, rfl⟩
  case int.float i g =>
    obtain ⟨_, y, _, right, -⟩ := Double.compare?_eq_some.mp ordered
    exact .inl ⟨_, y, rfl, right⟩
  case float.int f j =>
    obtain ⟨x, _, left, _, -⟩ := Double.compare?_eq_some.mp ordered
    exact .inl ⟨x, _, left, rfl⟩
  case float.float f g =>
    obtain ⟨x, y, left, right, -⟩ := Double.compare?_eq_some.mp ordered
    exact .inl ⟨x, y, left, right⟩
  case str.str s t => exact .inr ⟨s, t, rfl, rfl⟩

private theorem rank?_str {v : Value} {s : String} (text : v.resolved = .str s) :
    v.rank? = none := by
  rw [rank?, text]

private theorem blurred_resolved (a b c : Value) : a.resolved.blurred b c = a.blurred b c := by
  induction a using resolved.induct with
  | case1 _ content ih => exact ih
  | case2 v outside => cases v <;> simp_all [resolved]

private theorem isLE_compare_trans {x y z : Int} (below : (compare x y).isLE = true)
    (above : (compare y z).isLE = true) :
    (compare x z).isLE = true ∧ (compare x y = .lt ∨ compare y z = .lt → compare x z = .lt) := by
  simp only [Int.isLE_compare, Int.compare_eq_lt] at below above ⊢
  omega

private theorem compare_toInt_eq_lt {i j : Int64} (below : (compare i.toInt j.toInt).isLE = true) :
    compare i.toInt j.toInt = .lt ↔ i ≠ j := by
  rw [Int.isLE_compare] at below
  rw [Int.compare_eq_lt, ne_eq, ← Int64.toInt_inj]
  omega

private theorem compare_toInt_eq (i j : Int64) :
    (compare i.toInt j.toInt).isLE = true ↔ (i ≠ j → compare i.toInt j.toInt = .lt) := by
  rw [Int.isLE_compare, Int.compare_eq_lt, ne_eq, ← Int64.toInt_inj]
  omega

theorem blurs_of_rank? {i j : Int64} {f : Float} {x : Int} (double : Double.rank? f = some x)
    (first : Double.wholeRank i.toInt = x) (second : Double.wholeRank j.toInt = x) :
    blurs f i j = true ↔ i ≠ j := by
  have left : sameNumber i f = true := sameNumber_iff.mpr (double.trans (congrArg some first.symm))
  have right : sameNumber j f = true :=
    sameNumber_iff.mpr (double.trans (congrArg some second.symm))
  rw [blurs, left, right, Bool.and_self, Bool.and_true, bne_iff_ne]

/-- Among numbers of one rank, only different whole numbers are not equal, and a double between
them blurs them. -/
theorem tie_trans {a b c : Value} {x : Int} (first : a.rank? = some x) (second : b.rank? = some x)
    (third : c.rank? = some x) (below : (a.tie b).isLE = true) (above : (b.tie c).isLE = true) :
    ((a.tie c).isLE = true ∧ (a.tie b = .lt ∨ b.tie c = .lt → a.tie c = .lt)) ↔
      (a.blurred b c = true → a.tie c = .lt) := by
  rw [← blurred_resolved]
  unfold rank? at first second third
  unfold tie at below above ⊢
  generalize a.resolved = u at first below ⊢
  cases u <;> try contradiction
  all_goals
    rw [blurred]
    generalize b.resolved = v at second below above ⊢
    generalize c.resolved = w at third above ⊢
    cases v <;> cases w <;> try contradiction
  -- Whole numbers keep their own order, and every step to or from a double is level.
  case int.int.int i j k => exact iff_of_true (isLE_compare_trans below above) nofun
  case int.int.float i j f =>
    have both := blurs_of_rank? third (Option.some.inj first) (Option.some.inj second)
    have strict := compare_toInt_eq_lt below
    simp only [both, strict]
    simp
  case int.float.int i f j =>
    have both := blurs_of_rank? second (Option.some.inj first) (Option.some.inj third)
    simp only [both, compare_toInt_eq]
    simp
  case float.int.int f i j =>
    have both := blurs_of_rank? first (Option.some.inj second) (Option.some.inj third)
    have strict := compare_toInt_eq_lt above
    simp only [both, strict]
    simp
  all_goals exact iff_of_true ⟨rfl, by simp⟩ nofun

private theorem text_trans {s t u : String} (below : (compare s t).isLE = true)
    (above : (compare t u).isLE = true) :
    (compare s u).isLE = true ∧ (compare s t = .lt ∨ compare t u = .lt → compare s u = .lt) := by
  refine ⟨Std.TransCmp.isLE_trans below above, ?_⟩
  rintro (less | less)
  · exact Std.TransCmp.lt_of_lt_of_isLE less above
  · exact Std.TransCmp.lt_of_isLE_of_lt below less

private theorem compare?_trans_of_rank? {a b c : Value} {x y z : Int} {o p : Ordering}
    (first : a.rank? = some x) (second : b.rank? = some y) (third : c.rank? = some z)
    (left : a.compare? b = some o) (right : b.compare? c = some p) (below : o.isLE = true)
    (above : p.isLE = true) : ∃ q, a.compare? c = some q ∧
      ((q.isLE = true ∧ (o = .lt ∨ p = .lt → q = .lt)) ↔ (a.blurred b c = true → q = .lt)) := by
  refine ⟨_, compare?_of_rank? first third, ?_⟩
  obtain rfl := Option.some.inj (left.symm.trans (compare?_of_rank? first second))
  obtain rfl := Option.some.inj (right.symm.trans (compare?_of_rank? second third))
  rw [Ordering.isLE_then_iff_and, Int.isLE_compare] at below above
  have rises : x ≤ z := below.1.trans above.1
  -- If the rank rises, the order is strict; if not, all three have one rank.
  rcases rises.lt_or_eq with less | rfl
  · rw [Int.compare_eq_lt.mpr less]
    exact iff_of_true ⟨rfl, fun _ => rfl⟩ fun _ => rfl
  · obtain rfl : x = y := le_antisymm below.1 above.1
    simp only [Int.compare_eq_eq.mpr rfl, Ordering.eq_then] at below above ⊢
    exact tie_trans first second third (below.2.resolve_left nofun) (above.2.resolve_left nofun)

theorem compare?_trans {a b c : Value} {o p : Ordering} (left : a.compare? b = some o)
    (right : b.compare? c = some p) (below : o.isLE = true) (above : p.isLE = true) :
    ∃ q, a.compare? c = some q ∧
      ((q.isLE = true ∧ (o = .lt ∨ p = .lt → q = .lt)) ↔ (a.blurred b c = true → q = .lt)) := by
  rcases rank?_of_compare? left with ⟨x, y, first, second⟩ | ⟨s, t, first, second⟩
  all_goals rcases rank?_of_compare? right with ⟨y', z, second', third⟩ | ⟨t', u, second', third⟩
  · obtain rfl := Option.some.inj (second'.symm.trans second)
    exact compare?_trans_of_rank? first second third left right below above
  -- What is in the middle is no text and a number at once.
  · exact nomatch (rank?_str second').symm.trans second
  · exact nomatch (rank?_str second).symm.trans second'
  · obtain rfl := str.inj (second'.symm.trans second)
    simp only [compare?, first, second, third, Option.some.injEq] at left right ⊢
    subst left right
    rw [← blurred_resolved, first]
    exact ⟨_, rfl, iff_of_true (text_trans below above) nofun⟩

/-! ### The laws -/

/-- Equality and order of values, where only a double that blurs two whole numbers stands between
them and the laws of an equivalence and of an order. -/
theorem comparisons_transitive (a b c : Value) :
    (a.hasNaN = false → a.looseEq a = true) ∧
    a.looseEq b = b.looseEq a ∧
    (a.looseEq b = true → b.looseEq c = true → a.looseEq c = !a.blurred b c) ∧
    ∀ o p : Ordering, a.compare? b = some o → b.compare? c = some p →
      o.isLE = true → p.isLE = true → ∃ q, a.compare? c = some q ∧
        ((q.isLE = true ∧ (o = .lt ∨ p = .lt → q = .lt)) ↔
          (a.blurred b c = true → q = .lt)) :=
  ⟨looseEq_refl a, looseEq_comm a b, looseEq_trans a b c, fun _ _ => compare?_trans⟩

theorem comparisons_transitive_among_small_numbers :
    let later : Value := .lazy ⟨0, "total"⟩ (.int 1)
    (array [.int 1, .float 2.5]).looseEq (array [.int 1, .float 2.5]) = true ∧
    (array [.int 1]).looseEq (array [later]) = true ∧
    ∃ q, (int 1).compare? (.int 2) = some q ∧ q = .lt := by
  intro later
  have reflexive := (comparisons_transitive (array [.int 1, .float 2.5]) .nil .nil).1
  have transitive :=
    (comparisons_transitive (array [.int 1]) (array [.float 1.0]) (array [later])).2.2.1
  have ordered := (comparisons_transitive (int 1) (float 1.5) (int 2)).2.2.2
  refine ⟨reflexive (by decide +kernel), ?_, ?_⟩
  · rw [transitive (by decide +kernel) (by decide +kernel)]
    decide +kernel
  · obtain ⟨q, upwards, laws⟩ := ordered .lt .lt (by decide +kernel) (by decide +kernel) rfl rfl
    have sharp : (int 1).blurred (float 1.5) (int 2) = false := by decide +kernel
    have upright := laws.mpr fun blurred => absurd (sharp.symm.trans blurred) Bool.false_ne_true
    exact ⟨q, upwards, upright.2 (.inl rfl)⟩

/-- `2 ^ 53` and the next whole number both equal the double `2 ^ 53` and stand in an order to it
that is not theirs. -/
theorem double_between_different_integers :
    (float 9007199254740992.0).hasNaN = false ∧
    (int 9007199254740993).looseEq (float 9007199254740992.0) = true ∧
    (float 9007199254740992.0).looseEq (int 9007199254740992) = true ∧
    (int 9007199254740993).looseEq (int 9007199254740992) = false ∧
    (int 9007199254740993).compare? (float 9007199254740992.0) = some .eq ∧
    (float 9007199254740992.0).compare? (int 9007199254740992) = some .eq ∧
    (int 9007199254740993).compare? (int 9007199254740992) = some .gt ∧
    (int 9007199254740992).compare? (int 9007199254740993) = some .lt := by
  decide +kernel

end Value

end Liquid
