import Liquid.Proofs.FilterRuns
import Mathlib.Data.List.Infix

/-!
# Split and joined texts

A text is cut at the occurrences of a pattern, which are found from the left and do not overlap.
Four filters rest on this: the pieces are given as they are, joined again with some other text in
between, or the occurrences are replaced or removed at once.

## Main result

`Filter.split_join_agree`: splitting gives the pieces of the only cut at the occurrences, joining
them with any text is the same as replacing the pattern by that text, and joining them with the
pattern gives the text back. An empty pattern splits between all characters and is never replaced.
A separator of one character gives a list of texts back from their join if none of them contains it.

## Proof strategy

Occurrences, cuts and replacements are described without the search (`Text.Leftmost`, `Text.Cut`,
`Text.Rewritten`), and each determines its outcome, so it is enough that the search follows them.
The induction is along the cut, one piece at a time.
-/

namespace Liquid

namespace Text

/-! ### Occurrences -/

/-- The pattern stands between the two parts of the text, and nowhere further to the left. -/
structure Leftmost (pattern s before after : List Char) : Prop where
  parts : s = before ++ pattern ++ after
  first : ∀ other rest, s = other ++ pattern ++ rest → before.length ≤ other.length

section

variable {pattern s before after : List Char}

private theorem leftmost_front (pattern after : List Char) :
    Leftmost pattern (pattern ++ after) [] after :=
  ⟨rfl, fun _ _ _ => Nat.zero_le _⟩

theorem Leftmost.cons {c : Char} (elsewhere : ¬ pattern <+: c :: s)
    (leftmost : Leftmost pattern s before after) :
    Leftmost pattern (c :: s) (c :: before) after := by
  refine ⟨by rw [leftmost.parts]; rfl, fun other rest parts => ?_⟩
  cases other with
  | nil => exact absurd ⟨rest, parts.symm⟩ elsewhere
  | cons d other =>
    obtain ⟨rfl, later⟩ := List.cons.inj parts
    exact Nat.succ_le_succ (leftmost.first other rest later)

/-- Without its first character, the text in front of the occurrence goes on in the same way. -/
theorem Leftmost.tail {c : Char} (leftmost : Leftmost pattern s (c :: before) after) :
    ∃ rest, s = c :: rest ∧ ¬ pattern <+: s ∧ Leftmost pattern rest before after := by
  refine ⟨before ++ pattern ++ after, leftmost.parts, ?_, rfl, fun other rest parts => ?_⟩
  · rintro ⟨rest, parts⟩
    exact absurd (leftmost.first [] rest parts.symm) (Nat.not_succ_le_zero _)
  · have whole : s = c :: other ++ pattern ++ rest :=
      leftmost.parts.trans (congrArg (c :: ·) parts)
    exact Nat.le_of_succ_le_succ (leftmost.first (c :: other) rest whole)

theorem Leftmost.unique {before' after' : List Char} (leftmost : Leftmost pattern s before after)
    (leftmost' : Leftmost pattern s before' after') : before = before' ∧ after = after' := by
  have length := Nat.le_antisymm (leftmost.first _ _ leftmost'.parts)
    (leftmost'.first _ _ leftmost.parts)
  have parts := leftmost.parts.symm.trans leftmost'.parts
  rw [List.append_assoc, List.append_assoc] at parts
  obtain ⟨rfl, rest⟩ := List.append_inj parts length
  exact ⟨rfl, List.append_cancel_left rest⟩

theorem Leftmost.occurs (leftmost : Leftmost pattern s before after) : pattern <:+: s :=
  ⟨before, after, leftmost.parts.symm⟩

private theorem leftmost_of_not_mem {c : Char} (free : c ∉ before) :
    Leftmost [c] (before ++ [c] ++ after) before after := by
  refine ⟨rfl, fun other rest parts => ?_⟩
  by_contra shorter
  -- Otherwise the character would stand where the other occurrence begins.
  have there := congrArg (·[other.length]?) parts
  simp only [List.append_assoc, List.getElem?_append_left (Nat.lt_of_not_le shorter),
    List.getElem?_append_right (Nat.le_refl _), Nat.sub_self, List.singleton_append,
    List.getElem?_cons_zero] at there
  exact free (List.mem_of_getElem? there)

end

/-- The search finds the leftmost occurrence if there is any. -/
theorem cutAt?_spec (pattern s : List Char) :
    match cutAt? pattern s with
    | some (before, after) => Leftmost pattern s before after
    | none => ¬ pattern <:+: s := by
  induction s with
  | nil =>
    cases pattern with
    | nil => exact leftmost_front [] []
    | cons => simp [cutAt?]
  | cons c rest ih =>
    rw [cutAt?]
    by_cases here : pattern <+: c :: rest
    · obtain ⟨after, parts⟩ := here
      rw [if_pos (List.isPrefixOf_iff_prefix.mpr ⟨after, parts⟩), ← parts, List.drop_left]
      exact leftmost_front pattern after
    · rw [if_neg fun found => here (List.isPrefixOf_iff_prefix.mp found)]
      cases found : cutAt? pattern rest with
      | some parts =>
        rw [found] at ih
        exact ih.cons here
      | none =>
        rw [found] at ih
        exact fun occurs => (List.infix_cons_iff.mp occurs).elim here ih

/-! ### Cuts -/

/-- The pieces between the occurrences of the pattern, from the left and without overlap. -/
inductive Cut (pattern : List Char) : List Char → List (List Char) → Prop where
  | whole {s : List Char} : ¬ pattern <:+: s → Cut pattern s [s]
  | behind {s before after : List Char} {pieces : List (List Char)} :
      Leftmost pattern s before after → Cut pattern after pieces → Cut pattern s (before :: pieces)

/-- Each occurrence is written anew, from the left and without overlap, and all else is copied. -/
inductive Rewritten (pattern replacement : List Char) : List Char → List Char → Prop where
  | done : Rewritten pattern replacement [] []
  | here {s rest out : List Char} : s = pattern ++ rest → Rewritten pattern replacement rest out →
      Rewritten pattern replacement s (replacement ++ out)
  | copied {c : Char} {rest out : List Char} : ¬ pattern <+: c :: rest →
      Rewritten pattern replacement rest out → Rewritten pattern replacement (c :: rest) (c :: out)

section

variable {pattern s : List Char} {parts : List (List Char)}

private theorem Cut.ne_nil (cut : Cut pattern s parts) : parts ≠ [] := by
  cases cut <;> exact List.cons_ne_nil _ _

theorem Cut.unique {others : List (List Char)} (cut : Cut pattern s parts)
    (cut' : Cut pattern s others) : parts = others := by
  induction cut generalizing others with
  | whole absent =>
    cases cut' with
    | whole => rfl
    | behind leftmost => exact absurd leftmost.occurs absent
  | behind leftmost _ ih =>
    cases cut' with
    | whole absent => exact absurd leftmost.occurs absent
    | behind leftmost' rest =>
      obtain ⟨rfl, rfl⟩ := leftmost.unique leftmost'
      rw [ih rest]

/-- As many steps as there are characters reach the end, because each takes one at least. -/
theorem cut_piecesWithin (some : pattern ≠ []) {count : Nat} (enough : s.length ≤ count) :
    Cut pattern s (piecesWithin pattern count s) := by
  induction count generalizing s with
  | zero =>
    obtain rfl := List.length_eq_zero_iff.mp (Nat.le_zero.mp enough)
    exact .whole (by simpa using some)
  | succ count ih =>
    have found := cutAt?_spec pattern s
    rw [piecesWithin]
    cases cut : cutAt? pattern s with
    | none =>
      rw [cut] at found
      exact .whole found
    | some ends =>
      rw [cut] at found
      refine .behind found (ih ?_)
      have taken := List.length_pos_of_ne_nil some
      have length := congrArg List.length found.parts
      simp only [List.length_append] at length
      omega

theorem cut_iff_pieces (some : pattern ≠ []) : Cut pattern s parts ↔ parts = pieces pattern s := by
  have cut := cut_piecesWithin (s := s) some (Nat.le_refl _)
  exact ⟨fun other => other.unique cut, fun same => same ▸ cut⟩

/-- With the pattern between them again, the pieces are the text. -/
theorem Cut.intercalate (cut : Cut pattern s parts) : pattern.intercalate parts = s := by
  induction cut with
  | whole => exact List.intercalate_singleton
  | behind leftmost rest ih =>
    rw [List.intercalate_cons_of_ne_nil rest.ne_nil, ih, leftmost.parts]

/-- Texts without a character are the pieces of their join by it. -/
theorem cut_intercalate {c : Char} (some : parts ≠ []) (free : ∀ part ∈ parts, c ∉ part) :
    Cut [c] ([c].intercalate parts) parts := by
  induction parts with
  | nil => exact absurd rfl some
  | cons part rest ih =>
    rw [List.forall_mem_cons] at free
    cases rest with
    | nil =>
      rw [List.intercalate_singleton]
      exact .whole fun occurs => free.1 ((List.singleton_infix_iff c part).mp occurs)
    | cons next rest =>
      rw [List.intercalate_cons_cons]
      exact .behind (leftmost_of_not_mem free.1) (ih (List.cons_ne_nil _ _) free.2)

/-! ### Replacements -/

variable {replacement : List Char}

private theorem rewritten_of_absent (replacement : List Char) (absent : ¬ pattern <:+: s) :
    Rewritten pattern replacement s s := by
  induction s with
  | nil => exact .done
  | cons c rest ih =>
    rw [List.infix_cons_iff, not_or] at absent
    exact .copied absent.1 (ih absent.2)

theorem Leftmost.rewritten {before after out : List Char}
    (leftmost : Leftmost pattern s before after) (rest : Rewritten pattern replacement after out) :
    Rewritten pattern replacement s (before ++ replacement ++ out) := by
  induction before generalizing s with
  | nil => exact .here leftmost.parts rest
  | cons c before ih =>
    obtain ⟨s', rfl, elsewhere, later⟩ := leftmost.tail
    exact .copied elsewhere (ih later)

/-- To put another text between the pieces is to replace the pattern by it. -/
theorem Cut.rewritten (replacement : List Char) (cut : Cut pattern s parts) :
    Rewritten pattern replacement s (replacement.intercalate parts) := by
  induction cut with
  | whole absent =>
    rw [List.intercalate_singleton]
    exact rewritten_of_absent replacement absent
  | behind leftmost rest ih =>
    rw [List.intercalate_cons_of_ne_nil rest.ne_nil]
    exact leftmost.rewritten ih

theorem Rewritten.unique (some : pattern ≠ []) {out other : List Char}
    (rewritten : Rewritten pattern replacement s out)
    (rewritten' : Rewritten pattern replacement s other) : out = other := by
  induction rewritten generalizing other with
  | done =>
    cases rewritten' with
    | done => rfl
    | here parts => exact absurd (List.append_eq_nil_iff.mp parts.symm).1 some
  | here parts _ ih =>
    subst parts
    generalize whole : pattern ++ _ = s at rewritten'
    cases rewritten' with
    | done => exact absurd (List.append_eq_nil_iff.mp whole).1 some
    | here parts rest =>
      rw [ih (List.append_cancel_left (whole.trans parts) ▸ rest)]
    | copied elsewhere => exact absurd ⟨_, whole⟩ elsewhere
  | copied elsewhere _ ih =>
    cases rewritten' with
    | here parts => exact absurd ⟨_, parts.symm⟩ elsewhere
    | copied _ rest => rw [ih rest]

private theorem rewritten_iff_pieces (some : pattern ≠ []) {out : List Char} :
    Rewritten pattern replacement s out ↔ out = replacement.intercalate (pieces pattern s) := by
  have rewritten := ((cut_iff_pieces (s := s) some).mpr rfl).rewritten replacement
  exact ⟨fun other => other.unique some rewritten, fun same => same ▸ rewritten⟩

end

end Text

/-! ### Filters -/

private theorem splitText_iff_cut {s pattern : String} (some : pattern ≠ "")
    {parts : List (List Char)} :
    Text.Cut pattern.toList s.toList parts ↔ parts.map String.ofList = splitText s pattern := by
  have some : pattern.toList ≠ [] := mt String.toList_eq_nil_iff.mp some
  rw [Text.cut_iff_pieces some, splitText, List.map_inj_right fun _ _ => String.ofList_inj.mp]

private theorem toList_replaceText (s pattern replacement : String) :
    (replaceText s pattern replacement).toList =
      replacement.toList.intercalate (Text.pieces pattern.toList s.toList) := by
  have same (parts : List (List Char)) : (parts.map String.ofList).map String.toList = parts := by
    simp
  rw [replaceText, String.toList_intercalate, splitText, same]

private theorem replaceText_self {pattern : String} (some : pattern ≠ "") (s : String) :
    replaceText s pattern pattern = s := by
  have some : pattern.toList ≠ [] := mt String.toList_eq_nil_iff.mp some
  rw [← String.toList_inj, toList_replaceText]
  exact ((Text.cut_iff_pieces some).mpr rfl).intercalate

private theorem replaceText_iff_rewritten {s pattern replacement out : String}
    (some : pattern ≠ "") :
    Text.Rewritten pattern.toList replacement.toList s.toList out.toList ↔
      out = replaceText s pattern replacement := by
  have some : pattern.toList ≠ [] := mt String.toList_eq_nil_iff.mp some
  rw [Text.rewritten_iff_pieces some, ← toList_replaceText, String.toList_inj]

private theorem Value.plain_texts (texts : List String) :
    (texts.map Value.str).map plain = texts := by
  rw [List.map_map, show plain ∘ Value.str = id from funext plain_str, List.map_id]

namespace Filter

section

variable (v p g : Value) (heap : Heap)

theorem apply_split :
    (apply standard "split" v [p] heap).1 =
      .ok (.array ((if p.plain.isEmpty then charTexts v.plain
        else splitText v.plain p.plain).map .str)) := by
  rw [apply_ok (f := split) rfl]
  rfl

private theorem apply_join (items : List Value) :
    (apply standard "join" (.array items) [g] heap).1 =
      .ok (.str (g.plain.intercalate (items.map Value.plain))) := by
  rw [apply_ok (f := join) rfl]
  rfl

private theorem apply_replace :
    (apply standard "replace" v [p, g] heap).1 =
      .ok (.str (replaced p.plain g.plain v.plain)) := by
  rw [apply_ok (f := replace) rfl]
  rfl

private theorem apply_remove :
    (apply standard "remove" v [p] heap).1 = .ok (.str (replaced p.plain "" v.plain)) := by
  rw [apply_ok (f := remove) rfl]
  rfl

/-- What is split at a pattern and joined by another text. -/
def splitJoin : Eval Value := do
  let parts ← apply standard "split" v [p]
  apply standard "join" parts [g]

/-- What is joined by a text and split at it again. -/
def joinSplit (items : List Value) : Eval Value := do
  let joined ← apply standard "join" (.array items) [p]
  apply standard "split" joined [p]

private theorem splitJoin_fst :
    (splitJoin v p g heap).1 =
      .ok (.str (g.plain.intercalate (if p.plain.isEmpty then charTexts v.plain
        else splitText v.plain p.plain))) := by
  rw [splitJoin, Eval.bind_ok (Prod.ext (apply_split v p heap) rfl), apply_join,
    Value.plain_texts]

private theorem joinSplit_fst (items : List Value) :
    (joinSplit p items heap).1 =
      .ok (.array ((if p.plain.isEmpty then charTexts (p.plain.intercalate (items.map Value.plain))
        else splitText (p.plain.intercalate (items.map Value.plain)) p.plain).map .str)) := by
  rw [joinSplit, Eval.bind_ok (Prod.ext (apply_join p heap items) rfl), apply_split,
    Value.plain_str]

end

/-! ### Main result -/

private theorem charTexts_eq (s : String) : charTexts s = s.toList.map String.singleton :=
  List.map_congr_left fun _ _ => String.singleton_eq_ofList.symm

private theorem join_singletons (s : List Char) :
    "".intercalate (s.map String.singleton) = String.ofList s := by
  induction s with
  | nil => rfl
  | cons c rest ih =>
    rw [String.ofList_cons, ← ih]
    cases rest with
    | nil => simp
    | cons d rest =>
      rw [List.map_cons, String.intercalate_cons_of_ne_nil (by simp), String.append_empty]

private theorem splitText_join {c : Char} {texts : List String} (some : texts ≠ [])
    (free : ∀ s ∈ texts, c ∉ s.toList) :
    splitText ((String.singleton c).intercalate texts) (String.singleton c) = texts := by
  have cut : Text.Cut [c] ([c].intercalate (texts.map String.toList)) (texts.map String.toList) :=
    Text.cut_intercalate (by simpa using some) (by simpa using free)
  rw [← String.toList_singleton, ← String.toList_intercalate,
    splitText_iff_cut String.singleton_ne_empty] at cut
  rw [← cut, List.map_map, show String.ofList ∘ String.toList = id from
    funext fun _ => String.ofList_toList, List.map_id]

/-- The filters that split, join, replace and remove agree, and all of them follow the occurrences
of the pattern from the left. -/
theorem split_join_agree (v p : Value) (heap : Heap) :
    let t := v.plain
    (p.plain ≠ "" →
      (∀ parts : List (List Char), Text.Cut p.plain.toList t.toList parts ↔
        (apply standard "split" v [p] heap).1 =
          .ok (.array (parts.map fun part => .str (String.ofList part)))) ∧
      (∀ g : Value,
        (splitJoin v p g heap).1 = (apply standard "replace" v [p, g] heap).1 ∧
        ∀ out : String, Text.Rewritten p.plain.toList g.plain.toList t.toList out.toList ↔
          (apply standard "replace" v [p, g] heap).1 = .ok (.str out)) ∧
      (splitJoin v p p heap).1 = .ok (.str t) ∧
      (apply standard "remove" v [p] heap).1 = (splitJoin v p (.str "") heap).1) ∧
    (p.plain = "" →
      (apply standard "split" v [p] heap).1 =
        .ok (.array (t.toList.map fun c => .str (String.singleton c))) ∧
      (splitJoin v p (.str "") heap).1 = .ok (.str t) ∧
      (∀ g, (apply standard "replace" v [p, g] heap).1 = .ok (.str t)) ∧
      (apply standard "remove" v [p] heap).1 = .ok (.str t)) ∧
    (∀ c : Char, p.plain = String.singleton c → ∀ texts : List String, texts ≠ [] →
      (∀ s ∈ texts, c ∉ s.toList) →
      (joinSplit p (texts.map .str) heap).1 = .ok (.array (texts.map .str))) := by
  intro t
  refine ⟨fun some => ?_, fun none => ?_, fun c single texts some free => ?_⟩
  · have filled : p.plain.isEmpty = false := String.isEmpty_eq_false_iff.mpr some
    simp only [splitJoin_fst, apply_split, apply_replace, apply_remove, replaced, filled,
      Bool.false_eq_true, if_false, Value.plain_str, Except.ok.injEq, Value.array.injEq,
      Value.str.injEq]
    refine ⟨fun parts => ?_, fun g => ⟨rfl, fun out => ?_⟩, replaceText_self some t, rfl⟩
    · have both : (parts.map fun part => Value.str (String.ofList part)) =
          (parts.map String.ofList).map .str := List.map_map.symm
      rw [splitText_iff_cut some, both, List.map_inj_right fun _ _ => Value.str.inj]
      exact eq_comm
    · rw [replaceText_iff_rewritten some]
      exact eq_comm
  · have empty : p.plain.isEmpty = true := String.isEmpty_iff.mpr none
    simp only [splitJoin_fst, apply_split, apply_replace, apply_remove, replaced, empty,
      if_true, Value.plain_str, charTexts_eq, join_singletons, List.map_map, String.ofList_toList]
    exact ⟨rfl, rfl, fun _ => rfl, rfl⟩
  · have filled : p.plain.isEmpty = false :=
      String.isEmpty_eq_false_iff.mpr (single ▸ String.singleton_ne_empty)
    rw [joinSplit_fst, filled, if_neg Bool.false_ne_true, Value.plain_texts, single,
      splitText_join some free]

/-- A pattern that overlaps itself, one that is empty, and a separator with nothing between two. -/
theorem split_join_agree_overlapping :
    let texts : List String := ["a", "", "é"]
    Text.Cut "aa".toList "aaab".toList [[], ['a', 'b']] ∧
    Text.Rewritten "aa".toList "-".toList "aaab".toList "-ab".toList ∧
    (splitJoin (.str "aaab") (.str "aa") (.str "-") Heap.new).1 = .ok (.str "-ab") ∧
    (splitJoin (.int 12) .nil (.str "") Heap.new).1 = .ok (.str "12") ∧
    (joinSplit (.str ",") (texts.map .str) Heap.new).1 = .ok (.array (texts.map .str)) := by
  intro texts
  have replaces : (apply standard "replace" (.str "aaab") [.str "aa", .str "-"] Heap.new).1 =
      .ok (.str "-ab") := by rfl
  obtain ⟨cut, rewritten, -⟩ := (split_join_agree (.str "aaab") (.str "aa") Heap.new).1 (by decide)
  refine ⟨(cut _).mpr (by rfl), ((rewritten (.str "-")).2 "-ab").mpr replaces,
    (rewritten (.str "-")).1.trans replaces, ?_, ?_⟩
  · exact ((split_join_agree (.int 12) .nil Heap.new).2.1 (by rfl)).2.1
  · exact (split_join_agree .nil (.str ",") Heap.new).2.2 ',' (by rfl) texts (by decide) (by decide)

end Filter

end Liquid
