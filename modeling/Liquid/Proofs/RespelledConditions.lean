import Liquid.Proofs.ConditionOutlines
import Liquid.Proofs.RespelledMarkup
import Mathlib.Data.List.Forall2

/-!
# Respelled conditions

The pieces of an operand may have any white space between them, but the words of a condition are
cut at ASCII white space alone. So a condition may change with its white space: a no-break space in
front of an operator makes it a part of the operand.

## Main result

`Condition.parse_respelling`: conditions that differ in nothing but which white space they have
outside of their quotes are the same, or fail in the same way, as long as the same words act in
both. This is so if ASCII white space stands for ASCII white space and other for other.

## Proof strategy

With the same outline both texts are cut into operands at the same places, and respelled operands
read the same. White space of the same kind leaves the words where they are, and a word that acts
has no white space in it.
-/

namespace Liquid

namespace Condition

open Text Markup

/-! ### Respelled stretches -/

private theorem Stretch.Tidy.value?_respelled {between between' : Stretch} (tidy : between.Tidy)
    (tidy' : between'.Tidy) (respelled : Respelled none between.text between'.text)
    (shape : between.shape = between'.shape) : between.value? = between'.value? := by
  have filled : between.words.isEmpty = between'.words.isEmpty := congrArg (·.2) shape
  by_cases none : between.words = []
  · have none' : between'.words = [] := by simpa [none] using filled.symm
    rw [Stretch.value?, Stretch.value?, none, none']
  · have some' : between'.words ≠ [] := fun none' => none (by simpa [none'] using filled)
    rw [tidy.value? none, tidy'.value? some', Markup.parse_respelled respelled]

private theorem values_respelled {first first' : Stretch} {more more' : List (Mark × Stretch)}
    (tidy : first.Tidy ∧ ∀ entry ∈ more, QuotesClosed entry.1.word ∧ entry.2.Tidy)
    (tidy' : first'.Tidy ∧ ∀ entry ∈ more', QuotesClosed entry.1.word ∧ entry.2.Tidy)
    (respelled : Respelled none (textOf first more) (textOf first' more'))
    (shape : first.shape = first'.shape) (same : shapes more = shapes more') :
    first.value? = first'.value? ∧ values more = values more' := by
  induction more generalizing first first' more' with
  | nil =>
    obtain rfl : more' = [] := by simpa [shapes] using same.symm
    exact ⟨tidy.1.value?_respelled tidy'.1 respelled shape, rfl⟩
  | cons entry more ih =>
    cases more' with
    | nil => cases same
    | cons entry' more' =>
      obtain ⟨mark, next⟩ := entry
      obtain ⟨mark', next'⟩ := entry'
      obtain ⟨tidyFirst, tidyMore⟩ := tidy
      obtain ⟨tidyFirst', tidyMore'⟩ := tidy'
      rw [List.forall_mem_cons] at tidyMore tidyMore'
      obtain ⟨head, others⟩ := List.cons_eq_cons.mp same
      obtain ⟨rfl, shapeNext⟩ := Prod.mk.inj head
      -- The text is cut at the same two places, in front of the word that acts and behind it.
      obtain ⟨front, back⟩ := respelled.split_length tidyFirst.closed (congrArg (·.1) shape)
      obtain ⟨-, back⟩ := back.split_length tidyMore.1.1 rfl
      obtain ⟨valueNext, valuesMore⟩ :=
        ih ⟨tidyMore.1.2, tidyMore.2⟩ ⟨tidyMore'.1.2, tidyMore'.2⟩ back shapeNext others
      refine ⟨tidyFirst.value?_respelled tidyFirst' front shape, ?_⟩
      rw [values_cons, values_cons, valueNext, valuesMore]

/-- Texts that differ in nothing but white space and have the same words that act are the same
condition. -/
theorem parse_of_outline (tag : String) {s t : List Char} (respelled : Respelled none s t)
    (same : outline s = outline t) : parse tag (String.ofList s) = parse tag (String.ofList t) := by
  cases found : words? s with
  | none =>
    have found' : words? t = none := by simpa [outline, found] using same.symm
    simp only [parse, String.toList_ofList, found, found']
  | some words =>
    obtain ⟨words', found'⟩ : ∃ words', words? t = some words' := by
      refine Option.isSome_iff_exists.mp ?_
      have some := congrArg Option.isSome same
      simpa [outline, found] using some.symm
    obtain ⟨tail, cut⟩ := cut_of_words? found
    obtain ⟨tail', cut'⟩ := cut_of_words? found'
    rw [outline_of_cut cut, outline_of_cut cut'] at same
    obtain ⟨shape, shapes⟩ := Prod.mk.inj (Option.some.inj same)
    have texts : Respelled none (textOf (stretches tail .fresh words).1
        (stretches tail .fresh words).2) (textOf (stretches tail' .fresh words').1
        (stretches tail' .fresh words').2) := by
      rw [textOf_stretches, textOf_stretches, ← cut.text, ← cut'.text]
      exact respelled
    obtain ⟨first, more⟩ := values_respelled (tidy_stretches cut.trailing cut.gaps cut.whole _)
      (tidy_stretches cut'.trailing cut'.gaps cut'.whole _) texts shape shapes
    rw [parse_of_cut tag cut, parse_of_cut tag cut', first, more]

/-! ### White space of the same kind -/

/-- The same places are ASCII white space. -/
def SameKind (s t : List Char) : Prop := s.map isAsciiBlank = t.map isAsciiBlank

theorem SameKind.split {s s' t t' : List Char} (same : SameKind (s ++ s') (t ++ t'))
    (length : s.length = t.length) : SameKind s t ∧ SameKind s' t' := by
  rw [SameKind, List.map_append, List.map_append] at same
  exact List.append_inj same (by simpa using length)

theorem SameKind.asciiBlank {s t : List Char} (same : SameKind s t) (blank : AsciiBlank s) :
    AsciiBlank t := by
  have all : ∀ kind ∈ s.map isAsciiBlank, kind = true := List.forall_mem_map.mpr blank
  rw [show s.map isAsciiBlank = _ from same] at all
  exact List.forall_mem_map.mp all

private theorem isWord_respelled {quote : Option Char} {s t : List Char}
    (respelled : Respelled quote s t)
    (same : SameKind s t) (isWord : IsWord quote s) : IsWord quote t := by
  induction respelled with
  | done => exact isWord
  | same c _ ih => exact ⟨isWord.1, ih (List.cons_eq_cons.mp same).2 isWord.2⟩
  | blank outside blankC blankD _ ih =>
    have quotes := fun q isOpen => (outside q isOpen).1
    obtain ⟨kind, others⟩ := List.cons_eq_cons.mp same
    obtain ⟨ink, rest⟩ := isWord
    rw [quoteBehind_blank quotes blankC] at rest
    refine ⟨fun none => kind ▸ ink none, ?_⟩
    rw [quoteBehind_blank quotes blankD]
    exact ih others rest

theorem reserved_of_role? {phase : Phase} {w : Word} {role : Role}
    (acts : phase.role? w = some role) : IsReserved w.name := by
  cases joins : Combinator.ofWord? w.name with
  | some c => exact .inl (by rw [joins]; rfl)
  | none =>
    cases compares : Operator.ofWord? w.name with
    | some op => exact .inr (by rw [compares]; rfl)
    | none =>
      rw [Phase.role?_plain joins fun _ => compares] at acts
      cases acts

section

variable {w w' : Word} (respelled : Respelled none w.text w'.text)
include respelled

/-- A word that acts is spelled in one way. -/
theorem text_eq_of_reserved (reserved : IsReserved w.name) : w'.text = w.text := by
  have ink := ink_of_reserved reserved
  rw [Word.name, String.toList_ofList] at ink
  exact respelled.eq_of_ink ink

private theorem role?_respelled (phase : Phase) : phase.role? w' = phase.role? w := by
  cases acts : phase.role? w with
  | some role =>
    rw [← acts, Phase.role?, Phase.role?, Word.name, Word.name,
      text_eq_of_reserved respelled (reserved_of_role? acts)]
  | none =>
    cases acts' : phase.role? w' with
    | none => rfl
    | some role =>
      rw [← acts, ← acts', Phase.role?, Phase.role?, Word.name, Word.name,
        text_eq_of_reserved respelled.symm (reserved_of_role? acts')]

end

/-- A word and another in its place. -/
def Alike (w w' : Word) : Prop :=
  w.gap.length = w'.gap.length ∧ Respelled none w.text w'.text

section

variable {words words' : List Word}

private theorem gaps_alike (alike : List.Forall₂ Alike words words')
    (apart : ∀ w ∈ words, w.gap ≠ []) : ∀ w ∈ words', w.gap ≠ [] := by
  induction alike with
  | nil => nofun
  | cons pair _ ih =>
    rw [List.forall_mem_cons] at apart
    refine List.forall_mem_cons.mpr ⟨fun none => apart.1 ?_, ih apart.2⟩
    exact List.eq_nil_of_length_eq_zero (by rw [pair.1, none, List.length_nil])

private theorem stretches_alike (alike : List.Forall₂ Alike words words') {tail tail' : List Char}
    (length : tail.length = tail'.length) (phase : Phase) :
    (stretches tail phase words).1.shape = (stretches tail' phase words').1.shape ∧
      shapes (stretches tail phase words).2 = shapes (stretches tail' phase words').2 := by
  induction alike generalizing phase with
  | nil => exact ⟨by simp [stretches, Stretch.shape, Stretch.text, joined, length], rfl⟩
  | @cons w w' rest rest' pair _ ih =>
    obtain ⟨gap, text⟩ := pair
    have same := role?_respelled text phase
    cases acts : phase.role? w with
    | some role =>
      obtain ⟨first, more⟩ := ih (phase.behind (some role))
      rw [stretches_mark acts, stretches_mark (same.trans acts),
        text_eq_of_reserved text (reserved_of_role? acts)]
      refine ⟨by simp [Stretch.shape, Stretch.text, joined, gap], ?_⟩
      rw [shapes_cons, shapes_cons, first, more]
    | none =>
      obtain ⟨first, more⟩ := ih (phase.behind none)
      rw [stretches_plain acts, stretches_plain (same.trans acts)]
      exact ⟨by rw [Stretch.shape_cons, Stretch.shape_cons, gap, text.length_eq, first], more⟩

private theorem exists_cut_alike {s t tail : List Char} (cut : Cut s words tail)
    (respelled : Respelled none s t) (same : SameKind s t) :
    ∃ words' tail', Cut t words' tail' ∧ List.Forall₂ Alike words words' ∧
      tail.length = tail'.length := by
  induction words generalizing s t with
  | nil =>
    obtain rfl : s = tail := by simpa [joined] using cut.text
    refine ⟨[], t, ⟨rfl, ?_, by simp, by simp, by simp⟩, .nil, respelled.length_eq⟩
    exact same.asciiBlank cut.trailing
  | cons w rest ih =>
    have blank := cut.gaps w List.mem_cons_self
    obtain ⟨filled, isWord⟩ := cut.whole w List.mem_cons_self
    have text : s = w.gap ++ (w.text ++ (joined rest ++ tail)) := by
      simpa [joined] using cut.text
    rw [text] at respelled same
    obtain ⟨gap, _, rfl, gap', back⟩ := respelled.split_closed blank.quotesClosed
    obtain ⟨word, u, rfl, word', others⟩ := back.split_closed isWord.openQuote
    obtain ⟨kindGap, kindBack⟩ := same.split gap'.length_eq
    obtain ⟨kindWord, kindOthers⟩ := kindBack.split word'.length_eq
    obtain ⟨words', tail', cut', alike, length⟩ :=
      ih (@Cut.rest s tail [w] rest cut) others kindOthers
    refine ⟨⟨gap, word⟩ :: words', tail', ⟨?_, cut'.trailing, ?_, ?_, ?_⟩,
      .cons ⟨gap'.length_eq, word'⟩ alike, length⟩
    · rw [cut'.text]
      simp [joined]
    · exact List.forall_mem_cons.mpr ⟨kindGap.asciiBlank blank, cut'.gaps⟩
    · have filled' : word ≠ [] := fun none => filled
        (List.eq_nil_of_length_eq_zero (by rw [word'.length_eq, none, List.length_nil]))
      exact List.forall_mem_cons.mpr ⟨⟨filled', isWord_respelled word' kindWord isWord⟩, cut'.whole⟩
    · exact gaps_alike alike cut.between

end

/-- White space of the same kind makes the same words. -/
theorem outline_of_sameKind {s t : List Char} (respelled : Respelled none s t)
    (same : SameKind s t) : outline s = outline t := by
  cases found : words? s with
  | some words =>
    obtain ⟨tail, cut⟩ := cut_of_words? found
    obtain ⟨words', tail', cut', alike, length⟩ := exists_cut_alike cut respelled same
    obtain ⟨first, more⟩ := stretches_alike alike length .fresh
    rw [outline_of_cut cut, outline_of_cut cut', first, more]
  | none =>
    cases found' : words? t with
    | none => simp only [outline, found, found', Option.map_none]
    | some words' =>
      have closed : QuotesClosed s := respelled.openQuote_eq.trans (closed_of_words? found')
      obtain ⟨words, tail, cut⟩ := exists_cut closed
      cases found.symm.trans (words?_of_cut cut)

/-! ### Main result -/

instance {s t : List Char} : Decidable (SameKind s t) :=
  inferInstanceAs (Decidable (s.map isAsciiBlank = t.map isAsciiBlank))

/-- A condition does not change with its white space as long as the same words act in it, and they
do if all white space is of the same kind as before. -/
theorem parse_respelling (tag : String) {s t : String}
    (respelled : Respelled none s.toList t.toList) :
    (SameKind s.toList t.toList → outline s.toList = outline t.toList) ∧
    (outline s.toList = outline t.toList → parse tag s = parse tag t) := by
  refine ⟨outline_of_sameKind respelled, fun same => ?_⟩
  have parsed := parse_of_outline tag respelled same
  rwa [String.ofList_toList, String.ofList_toList] at parsed

theorem parse_respelling_spacious :
    let s := "a | f: 'x  y' == b and c"
    let t := "a\u3000|\u2028f: 'x  y'\t==\nb\u000Cand\rc"
    let u := "a\t|\tf:\t'x  y'\n==\nb\nand\nc"
    (Respelled none s.toList t.toList ∧ parse "if" s = parse "if" t) ∧
    (Respelled none s.toList u.toList ∧ parse "if" s = parse "if" u) ∧
    (parse "if" s).toOption.isSome = true := by
  intro s t u
  have respelled : Respelled none s.toList t.toList := by decide +kernel
  have respelled' : Respelled none s.toList u.toList := by decide +kernel
  obtain ⟨-, parsed⟩ := parse_respelling "if" respelled
  obtain ⟨kind, parsed'⟩ := parse_respelling "if" respelled'
  exact ⟨⟨respelled, parsed (by decide +kernel)⟩, ⟨respelled', parsed' (kind (by decide +kernel))⟩,
    by decide +kernel⟩

/-- A no-break space joins the words on its sides, so that there is no operator. -/
theorem no_break_space_hides_operator :
    let s := "a == b"
    let t := "a\u00a0== b"
    let a : Variable := ⟨.lookup "a" [], []⟩
    let b : Variable := ⟨.lookup "b" [], []⟩
    Respelled none s.toList t.toList ∧ parse "if" s = .ok (.last (.compare a .eq b)) ∧
    parse "if" t = .error (.tagUsage "if" "if [expression]") := by
  intro s t a b
  have words : words? s.toList =
      some [⟨[], ['a']⟩, ⟨[' '], ['=', '=']⟩, ⟨[' '], ['b']⟩] := by decide +kernel
  have words' : words? t.toList =
      some [⟨[], ['a', '\u00a0', '=', '=']⟩, ⟨[' '], ['b']⟩] := by decide +kernel
  refine ⟨by decide +kernel, ?_, ?_⟩
  · simp only [parse, words]
    rfl
  · simp only [parse, words']
    rfl

end Condition

end Liquid
