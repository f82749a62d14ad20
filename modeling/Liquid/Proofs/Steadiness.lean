import Liquid.Evaluate
import Liquid.Proofs.Forcing

/-!
# Steady comparisons

Loose equality looks behind the cells and goes into arrays in the same way. Two hashes it leaves to
strict equality, for which a lazy value is the same as a copy of itself and as nothing else. A
comparison is steady if this makes no difference: wherever it comes down to two hashes, these are
equal or not whether their lazy values are forced or not.

## Main results

`Value.looseEq_version` and `Value.contains_version`: a steady comparison answers the same for all
versions of its operands.

`Value.steadyEntries_of_forced` and `Value.forced_of_steadyEntries_forced`: hashes without lazy
values compare steadily, and a hash with a lazy value does not compare steadily with its forced
version.
-/

namespace Liquid

namespace Value

/-- Strict equality of these entries does not depend on what is forced. -/
def steadyEntries (entries others : List (String × Value)) : Bool :=
  [entries, forcedEntries entries].all fun a => [others, forcedEntries others].all fun b =>
    sameEntries a b == sameEntries entries others

mutual

/-- Loose equality of two values, as far as it goes, comes to no hashes that are not steady. -/
def steady : Value → Value → Bool
  | .lazy _ content, other => content.steady other
  | .array items, other =>
    match other.resolved with
    | .array others => items.length != others.length || steadyItems items others
    | _ => true
  | .hash entries, other =>
    match other.resolved with
    | .hash others => steadyEntries entries others
    | _ => true
  | _, _ => true

/-- Items are compared up to the first two that differ. -/
def steadyItems : List Value → List Value → Bool
  | a :: as, b :: bs => a.steady b && (!a.looseEq b || steadyItems as bs)
  | _, _ => true

end

/-- Items are compared with the one that is sought up to the first that equals it. -/
def steadySearch (needle : Value) : List Value → Bool
  | [] => true
  | item :: rest => item.steady needle && (item.looseEq needle || steadySearch needle rest)

def steadyContains (v needle : Value) : Bool :=
  match v.resolved with
  | .array items => steadySearch needle items
  | _ => true

/-! ### Loose equality -/

private theorem sameEntries_version {entries entries' others others' : List (String × Value)}
    (left : entries' = entries ∨ entries' = forcedEntries entries)
    (right : others' = others ∨ others' = forcedEntries others)
    (steady : steadyEntries entries others = true) :
    sameEntries entries' others' = sameEntries entries others := by
  simp only [steadyEntries, List.all_cons, List.all_nil, Bool.and_true, Bool.and_eq_true,
    beq_iff_eq] at steady
  obtain ⟨⟨-, right'⟩, left', both⟩ := steady
  rcases left with rfl | rfl <;> rcases right with rfl | rfl
  · rfl
  · exact right'
  · exact left'
  · exact both

/-- Without the same number of items, arrays are different. -/
theorem looseEqItems_of_length {items others : List Value}
    (lengths : items.length ≠ others.length) : looseEqItems items others = false := by
  induction items generalizing others with
  | nil =>
    cases others with
    | nil => exact absurd rfl lengths
    | cons => rfl
  | cons a as ih =>
    cases others with
    | nil => rfl
    | cons b bs =>
      have shorter : as.length ≠ bs.length := fun same => lengths (congrArg (· + 1) same)
      rw [looseEqItems, ih shorter, Bool.and_false]

/-- What is no container is compared by its own content only. -/
theorem looseEq_version_right {v w w' : Value} (right : Version w w')
    (cells : ∀ cell content, v.looseEq (.lazy cell content) = v.looseEq content)
    (arrays : ∀ items, v.looseEq (.array items) = false)
    (hashes : ∀ entries, v.looseEq (.hash entries) = false) : v.looseEq w' = v.looseEq w :=
  right.reading v.looseEq <| reading_forced v.looseEq cells
    (fun items => (arrays _).trans (arrays items).symm)
    fun entries => (hashes _).trans (hashes entries).symm

mutual

-- On the left value alone, which loose equality takes apart; the right one only has to follow.
theorem looseEq_version : (v : Value) → {v' w w' : Value} → Version v v' → Version w w' →
    v.steady w = true → v'.looseEq w' = v.looseEq w
  | .lazy _ content, _, w, w', left, right, steady => by
    cases left with
    | same =>
      change content.looseEq w' = content.looseEq w
      exact looseEq_version content .same right steady
    | forced => exact looseEq_version content .forced right steady
  | .array items, v', w, w', left, right, steady => by
    obtain ⟨items', rfl, versions⟩ := left.array
    have twin := right.resolved
    rw [Value.steady] at steady
    rw [looseEq, looseEq]
    generalize w.resolved = u, w'.resolved = u' at twin steady
    cases u
    case array others =>
      obtain ⟨others', rfl, same⟩ := twin.version.array
      by_cases lengths : items.length = others.length
      · simp only [lengths, bne_self_eq_false, Bool.false_or] at steady
        exact looseEqItems_version items versions same steady
      · have lengths' : items'.length ≠ others'.length := by
          rwa [← versions.length_eq, ← same.length_eq]
        exact (looseEqItems_of_length lengths').trans (looseEqItems_of_length lengths).symm
    all_goals cases twin <;> first | rfl | contradiction
  | .hash entries, v', w, w', left, right, steady => by
    obtain ⟨entries', rfl, version⟩ := left.hash
    have twin := right.resolved
    rw [Value.steady] at steady
    change same (.hash entries') w'.resolved = same (.hash entries) w.resolved
    generalize w.resolved = u, w'.resolved = u' at twin steady
    cases u
    case hash others =>
      obtain ⟨others', rfl, other⟩ := twin.version.hash
      exact sameEntries_version version other steady
    all_goals cases twin <;> first | rfl | contradiction
  | .nil, _, _, _, left, right, _
  | .bool _, _, _, _, left, right, _
  | .int _, _, _, _, left, right, _
  | .float _, _, _, _, left, right, _
  | .str _, _, _, _, left, right, _
  | .object _, _, _, _, left, right, _ => by
    cases left <;>
      exact looseEq_version_right right (fun _ _ => rfl) (fun _ => rfl) fun _ => rfl

private theorem looseEqItems_version : (items : List Value) → {items' others others' : List Value} →
    List.Forall₂ Version items items' → List.Forall₂ Version others others' →
    steadyItems items others = true → looseEqItems items' others' = looseEqItems items others
  | [], _, _, _, .nil, .nil, _ => rfl
  | [], _, _, _, .nil, .cons _ _, _ => rfl
  | _ :: _, _, _, _, .cons _ _, .nil, _ => rfl
  | a :: as, _, b :: bs, _, .cons first rest, .cons other others, steady => by
    rw [steadyItems, Bool.and_eq_true, Bool.or_eq_true, Bool.not_eq_true'] at steady
    obtain ⟨here, later⟩ := steady
    rw [looseEqItems, looseEqItems, looseEq_version a first other here]
    -- Behind two items that differ, nothing is known to be steady, and nothing matters.
    rcases later with differ | later
    · rw [differ, Bool.false_and, Bool.false_and]
    · rw [looseEqItems_version as rest others later]

end

/-! ### Containment -/

private theorem search_version {items items' : List Value} {needle needle' : Value}
    (versions : List.Forall₂ Version items items') (sought : Version needle needle')
    (steady : steadySearch needle items = true) :
    items'.any (·.looseEq needle') = items.any (·.looseEq needle) := by
  induction versions with
  | nil => rfl
  | @cons item _ rest _ version _ ih =>
    rw [steadySearch, Bool.and_eq_true, Bool.or_eq_true] at steady
    obtain ⟨here, later⟩ := steady
    rw [List.any_cons, List.any_cons, looseEq_version item version sought here]
    rcases later with found | later
    · rw [found, Bool.true_or, Bool.true_or]
    · rw [ih later]

private theorem contains_str_version (s : String) {w w' : Value} (version : Version w w') :
    (str s).contains w' = (str s).contains w := by
  refine version.reading (str s).contains (reading_forced _ (fun _ _ => rfl) ?_ ?_)
  · intro items
    exact congrArg (containsText s) (plain_forced (.array items))
  · intro entries
    exact congrArg (containsText s) (plain_forced (.hash entries))

private theorem contains_hash_version {entries entries' : List (String × Value)} {w w' : Value}
    (left : entries' = entries ∨ entries' = forcedEntries entries) (right : Version w w') :
    (hash entries').contains w' = (hash entries).contains w := by
  have key : w'.str? = w.str? := right.reading str? str?_forced
  have held (name : String) :
      (Entries.get? name entries').isSome = (Entries.get? name entries).isSome := by
    rcases left with rfl | rfl
    · rfl
    · rw [entry_forced, Option.isSome_map]
  simp only [contains, resolved, key, held]

theorem contains_version : (v : Value) → {v' w w' : Value} → Version v v' → Version w w' →
    v.steadyContains w = true → v'.contains w' = v.contains w
  | .lazy _ content, _, w, w', left, right, steady => by
    cases left with
    | same =>
      change content.contains w' = content.contains w
      exact contains_version content .same right steady
    | forced => exact contains_version content .forced right steady
  | .array _, _, _, _, left, right, steady => by
    obtain ⟨items', rfl, versions⟩ := left.array
    exact search_version versions right steady
  | .hash _, _, _, _, left, right, _ => by
    obtain ⟨entries', rfl, version⟩ := left.hash
    exact contains_hash_version version right
  | .str s, _, _, _, left, right, _ => by
    cases left <;> exact contains_str_version s right
  | .nil, _, _, _, left, _, _
  | .bool _, _, _, _, left, _, _
  | .int _, _, _, _, left, _, _
  | .float _, _, _, _, left, _, _
  | .object _, _, _, _, left, _, _ => by
    cases left <;> rfl

/-! ### What is steady -/

theorem steadyEntries_of_forced {entries others : List (String × Value)}
    (left : forcedEntries entries = entries) (right : forcedEntries others = others) :
    steadyEntries entries others = true := by
  simp [steadyEntries, left, right]

mutual

/-- A value that is strictly equal to its forced version holds no lazy value. -/
theorem forced_of_same_forced : (v : Value) → v.same v.forced = true → v.forced = v
  | .lazy cell content, equal => by
    have bare := isResolved_forced content
    rw [forced] at equal
    generalize content.forced = w at equal bare
    cases w <;> contradiction
  | .array items, equal => congrArg array (forced_of_sameItems_forced items equal)
  | .hash entries, equal => congrArg hash (forced_of_sameEntries_forced entries equal)
  | .nil, _ | .bool _, _ | .int _, _ | .float _, _ | .str _, _ | .object _, _ => rfl

private theorem forced_of_sameItems_forced : (items : List Value) →
    sameItems items (forcedItems items) = true → forcedItems items = items
  | [], _ => rfl
  | v :: rest, equal => by
    rw [forcedItems, sameItems, Bool.and_eq_true] at equal
    rw [forcedItems, forced_of_same_forced v equal.1, forced_of_sameItems_forced rest equal.2]

theorem forced_of_sameEntries_forced : (entries : List (String × Value)) →
    sameEntries entries (forcedEntries entries) = true → forcedEntries entries = entries
  | [], _ => rfl
  | (key, v) :: rest, equal => by
    rw [forcedEntries, sameEntries, Bool.and_eq_true, Bool.and_eq_true] at equal
    rw [forcedEntries, forced_of_same_forced v equal.1.2,
      forced_of_sameEntries_forced rest equal.2]

end

/-- The one entry that may keep a hash from being the same as itself is a number that is none. -/
theorem forced_of_steadyEntries_forced {entries : List (String × Value)}
    (reflexive : sameEntries (forcedEntries entries) (forcedEntries entries) = true)
    (steady : steadyEntries entries (forcedEntries entries) = true) :
    forcedEntries entries = entries := by
  refine forced_of_sameEntries_forced entries ?_
  rw [← sameEntries_version (.inr rfl) (.inl rfl) steady]
  exact reflexive

end Value

/-- A comparison that a condition comes to. -/
structure Comparison where
  op : Operator
  left : Value
  right : Value

/-- Laziness does not show in the answer. -/
def Comparison.isSteady (c : Comparison) : Bool :=
  match c.op with
  | .eq | .ne => c.left.steady c.right
  | .contains => c.left.steadyContains c.right
  | .lt | .gt | .le | .ge => true

end Liquid
