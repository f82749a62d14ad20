import Liquid.Proofs.Comparisons
import Liquid.Proofs.Forcing
import Mathlib.Data.String.Basic

/-!
# Structural equality

Equality with coercion is meant to go through both kinds of containers: arrays are equal item by
item and hashes key by key, and at every depth a whole number equals the double of the same value
and a lazy value equals what it computes. Arrays are compared in this way. Two hashes are left to
strict equality, which takes whole numbers and doubles for different and lazy values for nothing
but themselves.

## Main result

`Value.looseEq_structural`: arrays are compared item by item. Hashes are compared key by key, and
equality, inequality and the search in an array answer what the structural equality `Value.alike`
says, unless inside of two hashes a whole number meets a double equal to it or the cell of a lazy
value says other than its content. Where two values are alike, the comparison says so exactly if
this does not happen.

## Proof strategy

`Value.unmixed` follows strict equality down to the places where it goes its own way, and
`Value.settled` follows loose equality down to the hashes, so each of the two agreements
(`Value.same_eq_alike`, `Value.looseEq_eq_alike`) is an induction over the values that are
compared. Hashes keep their keys in ascending order, in which entries stand side by side just if
they are found under the same keys (`Entries.forall₂_iff_get?`).
-/

namespace Liquid

/-! ### Entries in order -/

namespace Entries

/-- The order in which hashes keep their entries. -/
def Ascending (entries : List (String × Value)) : Prop :=
  entries.Pairwise fun entry later => entry.1 < later.1

private theorem get?_eq_none {name : String} {entries : List (String × Value)}
    (absent : ∀ entry ∈ entries, entry.1 ≠ name) : get? name entries = none := by
  induction entries with
  | nil => rfl
  | cons entry rest ih =>
    rw [List.forall_mem_cons] at absent
    rw [get?, if_neg (by simpa using absent.1), ih absent.2]

private theorem mem_insert {name : String} {value : Value} {entries : List (String × Value)}
    {entry : String × Value} (member : entry ∈ insert name value entries) :
    entry = (name, value) ∨ entry ∈ entries := by
  induction entries with
  | nil => exact .inl (List.mem_singleton.mp member)
  | cons first rest ih =>
    rw [insert] at member
    split at member
    · exact List.mem_cons.mp member
    · split at member
      · exact (List.mem_cons.mp member).imp_right (List.mem_cons_of_mem first)
      · rcases List.mem_cons.mp member with rfl | later
        · exact .inr List.mem_cons_self
        · exact (ih later).imp_right (List.mem_cons_of_mem first)

theorem Ascending.insert {entries : List (String × Value)} (ascending : Ascending entries)
    (name : String) (value : Value) : Ascending (insert name value entries) := by
  induction entries with
  | nil => exact List.pairwise_singleton _ _
  | cons first rest ih =>
    obtain ⟨above, others⟩ := List.pairwise_cons.mp ascending
    rw [Entries.insert]
    split
    next less =>
      refine List.pairwise_cons.mpr ⟨fun entry member => ?_, ascending⟩
      rcases List.mem_cons.mp member with rfl | later
      · exact less
      · exact less.trans (above entry later)
    next notLess =>
      split
      next same =>
        obtain rfl := beq_iff_eq.mp same
        exact List.pairwise_cons.mpr ⟨above, others⟩
      next other =>
        refine List.pairwise_cons.mpr ⟨fun entry member => ?_, ih others⟩
        rcases mem_insert member with rfl | later
        · exact lt_of_le_of_ne (not_lt.mp notLess) fun same => other (beq_iff_eq.mpr same)
        · exact above entry later

/-- Hashes are built in ascending order. -/
theorem ascending_ofPairs (pairs : List (String × Value)) : Ascending (ofPairs pairs) := by
  suffices steps : ∀ entries, Ascending entries →
      Ascending (pairs.foldl (fun held pair => insert pair.1 pair.2 held) entries) from
    steps [] .nil
  intro entries ascending
  induction pairs generalizing entries with
  | nil => exact ascending
  | cons pair rest ih => exact ih _ (ascending.insert pair.1 pair.2)

private theorem get?_eq_none_of_lt {name : String} {entry : String × Value}
    {rest : List (String × Value)} (ascending : Ascending (entry :: rest))
    (less : name < entry.1) : get? name (entry :: rest) = none := by
  have above := (List.pairwise_cons.mp ascending).1
  refine get?_eq_none (List.forall_mem_cons.mpr ⟨less.ne', fun later member => ?_⟩)
  exact (less.trans (above later member)).ne'

private theorem get?_rest {entry : String × Value} {rest : List (String × Value)}
    (ascending : Ascending (entry :: rest)) : get? entry.1 rest = none :=
  get?_eq_none fun later member => ((List.pairwise_cons.mp ascending).1 later member).ne'

theorem get?_self (entry : String × Value) (rest : List (String × Value)) :
    get? entry.1 (entry :: rest) = some entry.2 := by
  rw [get?, if_pos (beq_self_eq_true entry.1)]

section Related

variable {related : Value → Value → Prop} {entries others : List (String × Value)}

private theorem rel_get?
    (aligned : List.Forall₂ (fun a b => a.1 = b.1 ∧ related a.2 b.2) entries others)
    (key : String) : Option.Rel related (get? key entries) (get? key others) := by
  induction aligned with
  | nil => exact .none
  | @cons a b as bs here _ ih =>
    rw [get?, get?, here.1]
    split
    · exact .some here.2
    · exact ih

private theorem aligned_of_rel_get? (left : Ascending entries) (right : Ascending others)
    (found : ∀ key, Option.Rel related (get? key entries) (get? key others)) :
    List.Forall₂ (fun a b => a.1 = b.1 ∧ related a.2 b.2) entries others := by
  induction entries generalizing others with
  | nil =>
    cases others with
    | nil => exact .nil
    | cons b bs =>
      have missing := found b.1
      rw [get?_self] at missing
      cases missing
  | cons a as ih =>
    cases others with
    | nil =>
      have missing := found a.1
      rw [get?_self] at missing
      cases missing
    | cons b bs =>
      -- The smaller of two different first keys would be missing on the other side.
      have keys : a.1 = b.1 := by
        rcases lt_trichotomy a.1 b.1 with less | same | greater
        · have missing := found a.1
          rw [get?_self, get?_eq_none_of_lt right less] at missing
          cases missing
        · exact same
        · have missing := found b.1
          rw [get?_self, get?_eq_none_of_lt left greater] at missing
          cases missing
      have here := found a.1
      rw [get?_self, keys, get?_self, Option.rel_some_some] at here
      -- The first key stands only once, so the entries behind it answer for all others.
      refine .cons ⟨keys, here⟩ (ih left.of_cons right.of_cons fun key => ?_)
      by_cases first : a.1 = key
      · subst first
        rw [get?_rest left, keys, get?_rest right]
        exact .none
      · have later := found key
        rwa [get?, get?, if_neg (by simpa using first), if_neg (by simpa [← keys] using first)]
          at later

/-- In ascending order, entries stand side by side just if they are found under the same keys. -/
theorem forall₂_iff_get? (related : Value → Value → Prop) (left : Ascending entries)
    (right : Ascending others) :
    List.Forall₂ (fun a b => a.1 = b.1 ∧ related a.2 b.2) entries others ↔
      ∀ key, Option.Rel related (get? key entries) (get? key others) :=
  ⟨rel_get?, aligned_of_rel_get? left right⟩

end Related

end Entries

namespace Value

/-! ### Equality as it is meant -/

mutual

/-- The two are equal by value, however deep in arrays and hashes. -/
def alike : Value → Value → Bool
  | .lazy _ content, other => content.alike other
  | .array items, other =>
    match other.resolved with
    | .array others => alikeItems items others
    | _ => false
  | .hash entries, other =>
    match other.resolved with
    | .hash others => alikeEntries entries others
    | _ => false
  | v, other => v.looseEq other

def alikeItems : List Value → List Value → Bool
  | [], [] => true
  | a :: as, b :: bs => a.alike b && alikeItems as bs
  | _, _ => false

def alikeEntries : List (String × Value) → List (String × Value) → Bool
  | [], [] => true
  | (k, a) :: as, (l, b) :: bs => k == l && a.alike b && alikeEntries as bs
  | _, _ => false

end

/-! ### Where strict equality goes its own way -/

mutual

/-- Strict equality, as far as it goes, comes to no whole number beside a double equal to it and to
no lazy value whose cell says other than its content. -/
def unmixed : Value → Value → Bool
  | .lazy cell content, .lazy cell' content' => (cell == cell') == content.alike content'
  | .lazy _ content, other => !content.alike other
  | v, .lazy _ content => !v.alike content
  | .int i, .float f => !sameNumber i f
  | .float f, .int i => !sameNumber i f
  | .array items, .array others => unmixedItems items others
  | .hash entries, .hash others => unmixedEntries entries others
  | _, _ => true

def unmixedItems : List Value → List Value → Bool
  | a :: as, b :: bs => a.unmixed b && (!a.same b || unmixedItems as bs)
  | _, _ => true

def unmixedEntries : List (String × Value) → List (String × Value) → Bool
  | (k, a) :: as, (l, b) :: bs => k != l || a.unmixed b && (!a.same b || unmixedEntries as bs)
  | _, _ => true

end

mutual

/-- Loose equality, as far as it goes, comes to no hashes that strict equality takes wrongly. -/
def settled : Value → Value → Bool
  | .lazy _ content, other => content.settled other
  | .array items, other =>
    match other.resolved with
    | .array others => settledItems items others
    | _ => true
  | .hash entries, other =>
    match other.resolved with
    | .hash others => unmixedEntries entries others
    | _ => true
  | _, _ => true

def settledItems : List Value → List Value → Bool
  | a :: as, b :: bs => a.settled b && (!a.looseEq b || settledItems as bs)
  | _, _ => true

end

/-- The search comes to an item that is found before it comes to one that is taken wrongly. -/
def settledSearch (needle : Value) : List Value → Bool
  | [] => true
  | item :: rest => item.settled needle && (item.looseEq needle || settledSearch needle rest)

/-! ### Strict equality -/

private theorem alike_lazy (a : Value) (cell : Cell) (content : Value) :
    a.alike (.lazy cell content) = a.alike content := by
  induction a using Value.resolved.induct with
  | case1 _ inner ih => exact ih
  | case2 a outside =>
    cases a
    case lazy => exact absurd rfl (outside _ _)
    all_goals rfl

mutual

theorem same_eq_alike : (a b : Value) → a.unmixed b = true → a.same b = a.alike b
  | .lazy cell content, b, unmixed => by
    cases b
    case lazy cell' content' =>
      rw [alike, alike_lazy]
      exact beq_iff_eq.mp unmixed
    all_goals exact (Bool.not_eq_true' _ |>.mp unmixed).symm
  | .array items, b, unmixed => by
    cases b
    case lazy => exact (Bool.not_eq_true' _ |>.mp unmixed).symm
    case array others => exact sameItems_eq_alikeItems items others unmixed
    all_goals rfl
  | .hash entries, b, unmixed => by
    cases b
    case lazy => exact (Bool.not_eq_true' _ |>.mp unmixed).symm
    case hash others => exact sameEntries_eq_alikeEntries entries others unmixed
    all_goals rfl
  | .int i, b, unmixed | .float i, b, unmixed => by
    cases b
    case lazy | int | float => first | rfl | exact (Bool.not_eq_true' _ |>.mp unmixed).symm
    all_goals rfl
  | .nil, b, unmixed | .bool _, b, unmixed | .str _, b, unmixed | .object _, b, unmixed => by
    cases b
    case lazy => exact (Bool.not_eq_true' _ |>.mp unmixed).symm
    all_goals rfl

private theorem sameItems_eq_alikeItems : (as bs : List Value) → unmixedItems as bs = true →
    sameItems as bs = alikeItems as bs
  | [], bs, _ => by cases bs <;> rfl
  | a :: as, [], _ => rfl
  | a :: as, b :: bs, unmixed => by
    rw [unmixedItems, Bool.and_eq_true, Bool.or_eq_true, Bool.not_eq_true'] at unmixed
    obtain ⟨here, later⟩ := unmixed
    rw [sameItems, alikeItems, ← same_eq_alike a b here]
    -- Behind the first items that differ, nothing is looked at.
    rcases later with differ | later
    · rw [differ, Bool.false_and, Bool.false_and]
    · rw [sameItems_eq_alikeItems as bs later]

theorem sameEntries_eq_alikeEntries : (as bs : List (String × Value)) →
    unmixedEntries as bs = true → sameEntries as bs = alikeEntries as bs
  | [], bs, _ => by cases bs <;> rfl
  | a :: as, [], _ => rfl
  | (k, a) :: as, (l, b) :: bs, unmixed => by
    rw [unmixedEntries, Bool.or_eq_true, bne_iff_ne, Bool.and_eq_true, Bool.or_eq_true,
      Bool.not_eq_true'] at unmixed
    rw [sameEntries, alikeEntries]
    rcases unmixed with differ | ⟨here, later⟩
    · simp only [beq_false_of_ne differ, Bool.false_and]
    · rw [← same_eq_alike a b here]
      rcases later with differ | later
      · rw [differ, Bool.and_false, Bool.false_and, Bool.false_and]
      · rw [sameEntries_eq_alikeEntries as bs later]

end

/-! ### Loose equality -/

mutual

theorem looseEq_eq_alike : (a b : Value) → a.settled b = true → a.looseEq b = a.alike b
  | .lazy _ content, b, settled => looseEq_eq_alike content b settled
  | .array items, b, settled => by
    rw [Value.settled] at settled
    rw [looseEq, alike]
    generalize b.resolved = w at settled
    cases w
    case array others => exact looseEqItems_eq_alikeItems items others settled
    all_goals rfl
  | .hash entries, b, settled => by
    rw [Value.settled] at settled
    -- Here loose equality ends: behind the keys it is the strict one that must agree.
    change same (.hash entries) b.resolved = _
    rw [alike]
    generalize b.resolved = w at settled
    cases w
    case hash others => exact sameEntries_eq_alikeEntries entries others settled
    all_goals rfl
  | .nil, _, _ | .bool _, _, _ | .int _, _, _ | .float _, _, _ | .str _, _, _
  | .object _, _, _ => rfl

private theorem looseEqItems_eq_alikeItems : (as bs : List Value) → settledItems as bs = true →
    looseEqItems as bs = alikeItems as bs
  | [], bs, _ => by cases bs <;> rfl
  | _ :: _, [], _ => rfl
  | a :: as, b :: bs, settled => by
    rw [settledItems, Bool.and_eq_true, Bool.or_eq_true, Bool.not_eq_true'] at settled
    obtain ⟨here, later⟩ := settled
    rw [looseEqItems, alikeItems, ← looseEq_eq_alike a b here]
    rcases later with differ | later
    · rw [differ, Bool.false_and, Bool.false_and]
    · rw [looseEqItems_eq_alikeItems as bs later]

end

private theorem search_eq_alike {needle : Value} {items : List Value}
    (settled : settledSearch needle items = true) :
    items.any (·.looseEq needle) = items.any (·.alike needle) := by
  induction items with
  | nil => rfl
  | cons item rest ih =>
    rw [settledSearch, Bool.and_eq_true, Bool.or_eq_true] at settled
    obtain ⟨here, later⟩ := settled
    rw [List.any_cons, List.any_cons, ← looseEq_eq_alike item needle here]
    rcases later with found | later
    · rw [found, Bool.true_or, Bool.true_or]
    · rw [ih later]

/-! ### What is alike -/

mutual

private theorem unmixed_of_same :
    (a b : Value) → a.alike b = true → a.same b = true → a.unmixed b = true
  | .lazy cell content, b, alike, same => by
    cases b <;> try contradiction
    next cell' content' =>
      rw [Value.alike, alike_lazy] at alike
      rw [Value.same] at same
      rw [unmixed, alike, same, beq_self_eq_true]
  | .array items, b, alike, same => by
    cases b <;> try contradiction
    next others => exact unmixedItems_of_sameItems items others alike same
  | .hash entries, b, alike, same => by
    cases b <;> try contradiction
    next others => exact unmixedEntries_of_sameEntries entries others alike same
  | .nil, b, _, same | .bool _, b, _, same | .int _, b, _, same | .float _, b, _, same
  | .str _, b, _, same | .object _, b, _, same => by
    cases b <;> first | contradiction | rfl

private theorem unmixedItems_of_sameItems : (as bs : List Value) → alikeItems as bs = true →
    sameItems as bs = true → unmixedItems as bs = true
  | [], _, _, _ => rfl
  | _ :: _, [], _, _ => rfl
  | a :: as, b :: bs, alike, same => by
    rw [alikeItems, Bool.and_eq_true] at alike
    rw [sameItems, Bool.and_eq_true] at same
    rw [unmixedItems, unmixed_of_same a b alike.1 same.1,
      unmixedItems_of_sameItems as bs alike.2 same.2, Bool.or_true, Bool.and_self]

theorem unmixedEntries_of_sameEntries : (as bs : List (String × Value)) →
    alikeEntries as bs = true → sameEntries as bs = true → unmixedEntries as bs = true
  | [], _, _, _ => rfl
  | _ :: _, [], _, _ => rfl
  | (k, a) :: as, (l, b) :: bs, alike, same => by
    rw [alikeEntries, Bool.and_eq_true, Bool.and_eq_true] at alike
    rw [sameEntries, Bool.and_eq_true, Bool.and_eq_true] at same
    rw [unmixedEntries, unmixed_of_same a b alike.1.2 same.1.2,
      unmixedEntries_of_sameEntries as bs alike.2 same.2, Bool.or_true, Bool.and_self,
      Bool.or_true]

end

mutual

theorem settled_of_looseEq : (a b : Value) → a.alike b = true → a.looseEq b = true →
    a.settled b = true
  | .lazy _ content, b, alike, equal => settled_of_looseEq content b alike equal
  | .array items, b, alike, equal => by
    rw [Value.alike] at alike
    rw [looseEq] at equal
    rw [settled]
    generalize b.resolved = w at alike equal
    cases w <;> try contradiction
    next others => exact settledItems_of_looseEqItems items others alike equal
  | .hash entries, b, alike, equal => by
    rw [Value.alike] at alike
    change same (.hash entries) b.resolved = true at equal
    rw [settled]
    generalize b.resolved = w at alike equal
    cases w <;> try contradiction
    next others => exact unmixedEntries_of_sameEntries entries others alike equal
  | .nil, _, _, _ | .bool _, _, _, _ | .int _, _, _, _ | .float _, _, _, _ | .str _, _, _, _
  | .object _, _, _, _ => rfl

private theorem settledItems_of_looseEqItems : (as bs : List Value) → alikeItems as bs = true →
    looseEqItems as bs = true → settledItems as bs = true
  | [], _, _, _ => rfl
  | _ :: _, [], _, _ => rfl
  | a :: as, b :: bs, alike, equal => by
    rw [alikeItems, Bool.and_eq_true] at alike
    rw [looseEqItems, Bool.and_eq_true] at equal
    rw [settledItems, settled_of_looseEq a b alike.1 equal.1,
      settledItems_of_looseEqItems as bs alike.2 equal.2, Bool.or_true, Bool.and_self]

end

/-- Of values that are alike, loose equality misses just those that are not settled. -/
theorem looseEq_eq_settled {a b : Value} (alike : a.alike b = true) :
    a.looseEq b = a.settled b := by
  cases settled : a.settled b with
  | true => rw [looseEq_eq_alike a b settled, alike]
  | false =>
    refine Bool.eq_false_iff.mpr fun equal => ?_
    rw [settled_of_looseEq a b alike equal] at settled
    cases settled

/-! ### Containers -/

private theorem looseEqItems_iff {items others : List Value} :
    looseEqItems items others = true ↔
      List.Forall₂ (fun a b => a.looseEq b = true) items others := by
  induction items generalizing others with
  | nil => cases others <;> simp [looseEqItems]
  | cons a as ih => cases others <;> simp [looseEqItems, ih]

private theorem alikeItems_iff {items others : List Value} :
    alikeItems items others = true ↔
      List.Forall₂ (fun a b => a.alike b = true) items others := by
  induction items generalizing others with
  | nil => cases others <;> simp [alikeItems]
  | cons a as ih => cases others <;> simp [alikeItems, ih]

private theorem sameEntries_iff {entries others : List (String × Value)} :
    sameEntries entries others = true ↔
      List.Forall₂ (fun a b => a.1 = b.1 ∧ a.2.same b.2 = true) entries others := by
  induction entries generalizing others with
  | nil => cases others <;> simp [sameEntries]
  | cons a as ih => cases others <;> simp [sameEntries, ih]

private theorem alikeEntries_iff {entries others : List (String × Value)} :
    alikeEntries entries others = true ↔
      List.Forall₂ (fun a b => a.1 = b.1 ∧ a.2.alike b.2 = true) entries others := by
  induction entries generalizing others with
  | nil => cases others <;> simp [alikeEntries]
  | cons a as ih => cases others <;> simp [alikeEntries, ih]

/-- Hashes are compared key by key, if nothing under a key is taken for different only by strict
equality. -/
theorem looseEq_hash_iff {entries others : List (String × Value)}
    (left : Entries.Ascending entries) (right : Entries.Ascending others)
    (agree : ∀ key v w, Entries.get? key entries = some v → Entries.get? key others = some w →
      v.same w = v.looseEq w) :
    (hash entries).looseEq (hash others) = true ↔ ∀ key,
      Option.Rel (fun v w => v.looseEq w = true) (Entries.get? key entries)
        (Entries.get? key others) := by
  rw [looseEq, resolved, same, sameEntries_iff,
    Entries.forall₂_iff_get? (fun v w => v.same w = true) left right]
  refine forall_congr' fun key => ?_
  specialize agree key
  cases first : Entries.get? key entries <;> cases second : Entries.get? key others
  case some.some v w => rw [Option.rel_some_some, Option.rel_some_some, agree v w first second]
  all_goals simp

/-! ### Behind the cells -/

mutual

theorem alike_forced : (a b : Value) → a.forced.alike b.forced = a.alike b
  | .lazy _ content, b => alike_forced content b
  | .array items, b => by
    rw [forced, alike, alike, resolved_forced, ← forced_resolved]
    have bare := isResolved_resolved b
    generalize b.resolved = w at bare
    cases w
    case array others => exact alikeItems_forced items others
    case lazy => cases bare
    all_goals rfl
  | .hash entries, b => by
    rw [forced, alike, alike, resolved_forced, ← forced_resolved]
    have bare := isResolved_resolved b
    generalize b.resolved = w at bare
    cases w
    case hash others => exact alikeEntries_forced entries others
    case lazy => cases bare
    all_goals rfl
  | .nil, b | .bool _, b | .int _, b | .float _, b | .str _, b | .object _, b =>
    reading_forced (Value.looseEq _) (looseEq_lazy _) (fun _ => rfl) (fun _ => rfl) b

private theorem alikeItems_forced : (as bs : List Value) →
    alikeItems (forcedItems as) (forcedItems bs) = alikeItems as bs
  | [], [] => rfl
  | [], _ :: _ => rfl
  | _ :: _, [] => rfl
  | a :: as, b :: bs => by
    rw [forcedItems, forcedItems, alikeItems, alikeItems, alike_forced a b,
      alikeItems_forced as bs]

private theorem alikeEntries_forced : (as bs : List (String × Value)) →
    alikeEntries (forcedEntries as) (forcedEntries bs) = alikeEntries as bs
  | [], [] => rfl
  | [], _ :: _ => rfl
  | _ :: _, [] => rfl
  | (k, a) :: as, (l, b) :: bs => by
    rw [forcedEntries, forcedEntries, alikeEntries, alikeEntries, alike_forced a b,
      alikeEntries_forced as bs]

end

/-- An equality that goes through both kinds of containers and looks behind every cell. -/
structure Structural (equal : Value → Value → Bool) : Prop where
  arrays : ∀ items others, equal (.array items) (.array others) = true ↔
    List.Forall₂ (fun a b => equal a b = true) items others
  hashes : ∀ entries others, Entries.Ascending entries → Entries.Ascending others →
    (equal (.hash entries) (.hash others) = true ↔ ∀ key,
      Option.Rel (fun a b => equal a b = true) (Entries.get? key entries)
        (Entries.get? key others))
  cells : ∀ a b, equal a.forced b.forced = equal a b
  numbers : ∀ i f, equal (.int i) (.float f) = sameNumber i f

private theorem alike_structural : Structural alike where
  arrays _ _ := alikeItems_iff
  hashes _ _ left right :=
    alikeEntries_iff.trans (Entries.forall₂_iff_get? (fun a b => a.alike b = true) left right)
  cells := alike_forced
  numbers _ _ := rfl

/-! ### Main result -/

/-- Equality goes through arrays item by item. Through hashes it goes key by key where strict
equality of the values under a key is loose equality of them, and at every depth it is the
structural equality `alike` where it comes to no hashes that strict equality takes wrongly. -/
theorem looseEq_structural (a b : Value) :
    (∀ items others : List Value, a = .array items → b = .array others →
      (a.looseEq b = true ↔ List.Forall₂ (fun v w => v.looseEq w = true) items others)) ∧
    (∀ entries others : List (String × Value), a = .hash entries → b = .hash others →
      Entries.Ascending entries → Entries.Ascending others →
      (∀ key v w, Entries.get? key entries = some v → Entries.get? key others = some w →
        v.same w = v.looseEq w) →
      (a.looseEq b = true ↔ ∀ key,
        Option.Rel (fun v w => v.looseEq w = true) (Entries.get? key entries)
          (Entries.get? key others))) ∧
    Structural alike ∧
    (a.settled b = true →
      Operator.eq.Gives a b (.ok (a.alike b)) ∧ Operator.ne.Gives a b (.ok !(a.alike b))) ∧
    (∀ items : List Value, a.resolved = .array items → settledSearch b items = true →
      Operator.contains.Gives a b (.ok (items.any (·.alike b)))) ∧
    (a.alike b = true → a.looseEq b = a.settled b) := by
  refine ⟨?_, ?_, alike_structural, ?_, ?_, looseEq_eq_settled⟩
  · rintro items others rfl rfl
    exact looseEqItems_iff
  · rintro entries others rfl rfl
    exact looseEq_hash_iff
  · intro settled
    rw [← looseEq_eq_alike a b settled]
    exact ⟨Operator.eq_gives a b, Operator.ne_gives a b⟩
  · intro items behind settled heap
    rw [← search_eq_alike settled]
    change Except.ok (a.contains b) = _
    rw [contains, behind]

/-- A hash with a whole number, a lazy array of it, and the same in doubles outside of hashes. -/
theorem looseEq_structural_orders :
    let order : Value := .hash [("total", .int 3)]
    let orders : Value := .array [order, .int 2]
    let others : Value := .array [order, .float 2.0]
    let later : Value := .lazy ⟨0, "orders"⟩ orders
    order.looseEq order = true ∧
    Operator.eq.Gives later others (.ok true) ∧
    Operator.ne.Gives later others (.ok false) ∧
    Operator.contains.Gives later (.float 2.0) (.ok true) ∧
    later.looseEq others = later.settled others := by
  intro order orders others later
  obtain ⟨-, hashes, -⟩ := looseEq_structural order order
  obtain ⟨-, -, -, equal, -, exactly⟩ := looseEq_structural later others
  obtain ⟨-, -, -, -, search, -⟩ := looseEq_structural later (.float 2.0)
  have ascending : Entries.Ascending [("total", Value.int 3)] := List.pairwise_singleton _ _
  have answers := equal (by decide +kernel)
  refine ⟨?_, answers.1, answers.2, search _ rfl (by decide +kernel), exactly (by decide +kernel)⟩
  refine (hashes _ _ rfl rfl ascending ascending ?_).mpr fun key => ?_
  · intro key v w first second
    obtain rfl := Option.some.inj (first.symm.trans second)
    rw [Entries.get?] at first
    split at first <;> cases first
    decide +kernel
  · exact Entries.rel_get? (.cons ⟨rfl, by decide +kernel⟩ .nil) key

/-- Under the same key, a whole number and the double equal to it make two hashes different, though
not the arrays or the values themselves. -/
theorem number_under_key_told_apart :
    (int 1).looseEq (float 1.0) = true ∧
    (array [.int 1]).looseEq (array [.float 1.0]) = true ∧
    (hash [("k", .int 1)]).alike (hash [("k", .float 1.0)]) = true ∧
    Operator.eq.Gives (.hash [("k", .int 1)]) (.hash [("k", .float 1.0)]) (.ok false) ∧
    Operator.contains.Gives (.array [.hash [("k", .int 1)]]) (.hash [("k", .float 1.0)])
      (.ok false) := by
  have differ : (hash [("k", .int 1)]).looseEq (hash [("k", .float 1.0)]) = false := by
    decide +kernel
  have absent : (array [.hash [("k", .int 1)]]).contains (hash [("k", .float 1.0)]) = false := by
    decide +kernel
  refine ⟨by decide +kernel, by decide +kernel, by decide +kernel, ?_, ?_⟩
  · exact differ ▸ Operator.eq_gives _ _
  · exact fun _ => congrArg Except.ok absent

end Value

end Liquid
