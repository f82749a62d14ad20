import Liquid.Proofs.ConditionOperands

/-!
# Respelled markup

White space is all the same to the reader of markup, as long as it is not within a quoted text.

## Main result

`Markup.parse_respelled`: markup that differs in nothing but which white space it has outside of its
quotes reads as the same variable, or as none.

## Proof strategy

Two texts are respelled along their characters, with the quote that is open there. All that the
grammar is made of leaves no quote open, so a respelled text is cut into respelled pieces.
-/

namespace Liquid

namespace Markup

open Text Condition

/-! ### Respelling -/

/-- The same text but for the white space outside of quoted texts, where this quote is open in front
of both. A quote that is never closed makes no quoted text. -/
inductive Respelled : Option Char → List Char → List Char → Prop where
  | done {quote : Option Char} : Respelled quote [] []
  | same {quote : Option Char} {s t : List Char} (c : Char) :
      Respelled (quoteBehind quote c) s t → Respelled quote (c :: s) (c :: t)
  | blank {quote : Option Char} {s t : List Char} {c d : Char} :
      (∀ q ∈ quote, isQuote q = true ∧ q ∉ s) → isBlank c = true → isBlank d = true →
      Respelled quote s t → Respelled quote (c :: s) (d :: t)

def respells : Option Char → List Char → List Char → Bool
  | _, [], [] => true
  | quote, c :: s, d :: t =>
    c == d && respells (quoteBehind quote c) s t ||
      isBlank c && isBlank d && quote.all (fun q => isQuote q && !s.contains q) &&
        respells quote s t
  | _, _, _ => false

private theorem respells_iff {quote : Option Char} {s t : List Char} :
    respells quote s t = true ↔ Respelled quote s t := by
  constructor
  · intro respells'
    induction s generalizing quote t with
    | nil =>
      cases t with
      | nil => exact .done
      | cons d t => cases respells'
    | cons c s ih =>
      cases t with
      | nil => cases respells'
      | cons d t =>
        simp only [respells, Bool.or_eq_true, Bool.and_eq_true, beq_iff_eq] at respells'
        rcases respells' with ⟨rfl, rest⟩ | ⟨⟨⟨blankC, blankD⟩, outside⟩, rest⟩
        · exact .same c (ih rest)
        · exact .blank (by simpa [Option.all_eq_true] using outside) blankC blankD (ih rest)
  · intro respelled
    induction respelled with
    | done => rfl
    | same c _ ih => simp [respells, ih]
    | @blank quote s t c d outside blankC blankD _ ih =>
      have free : quote.all (fun q => isQuote q && !s.contains q) = true := by
        simpa [Option.all_eq_true] using outside
      rw [respells, blankC, blankD, free, ih]
      exact Bool.or_true _

instance {quote : Option Char} {s t : List Char} : Decidable (Respelled quote s t) :=
  decidable_of_iff _ respells_iff

section

variable {quote : Option Char} {s s' t t' : List Char} {c : Char}

theorem isQuote_of_isBlank (blank : isBlank c = true) : isQuote c = false :=
  isQuote_of_apart (by decide) (by decide) blank

theorem quoteBehind_blank (quotes : ∀ q ∈ quote, isQuote q = true) (blank : isBlank c = true) :
    quoteBehind quote c = quote := by
  have other := isQuote_of_isBlank blank
  cases quote with
  | none => simp [quoteBehind, other]
  | some q =>
    have apart : c ≠ q := fun same => by
      rw [same, quotes q rfl] at other
      cases other
    simp [quoteBehind, apart]

theorem Respelled.length_eq (respelled : Respelled quote s t) : s.length = t.length := by
  induction respelled with
  | done => rfl
  | same _ _ ih => rw [List.length_cons, List.length_cons, ih]
  | blank _ _ _ _ ih => rw [List.length_cons, List.length_cons, ih]

/-- Quotes are never respelled. -/
theorem Respelled.mem_quote (respelled : Respelled quote s t) {q : Char}
    (isQuote' : isQuote q = true) (member : q ∈ t) : q ∈ s := by
  induction respelled with
  | done => exact member
  | same d _ ih =>
    rcases List.mem_cons.mp member with rfl | later
    · exact List.mem_cons_self
    · exact List.mem_cons_of_mem _ (ih later)
  | blank _ _ blank _ ih =>
    rcases List.mem_cons.mp member with rfl | later
    · cases isQuote'.symm.trans (isQuote_of_isBlank blank)
    · exact List.mem_cons_of_mem _ (ih later)

theorem Respelled.symm (respelled : Respelled quote s t) : Respelled quote t s := by
  induction respelled with
  | done => exact .done
  | same c _ ih => exact .same c ih
  | blank outside blankC blankD rest ih =>
    refine .blank (fun q isOpen => ?_) blankD blankC ih
    obtain ⟨isQuote, free⟩ := outside q isOpen
    exact ⟨isQuote, fun member => free (rest.mem_quote isQuote member)⟩

theorem Respelled.openQuote_eq (respelled : Respelled quote s t) :
    openQuote quote s = openQuote quote t := by
  induction respelled with
  | done => rfl
  | same c _ ih => exact ih
  | blank outside blankC blankD _ ih =>
    have quotes := fun q isOpen => (outside q isOpen).1
    rw [openQuote, List.foldl_cons, quoteBehind_blank quotes blankC, ← openQuote, ih, openQuote,
      openQuote, List.foldl_cons, quoteBehind_blank quotes blankD]

theorem Respelled.split (respelled : Respelled quote (s ++ s') t) :
    ∃ u u', t = u ++ u' ∧ Respelled quote s u ∧ Respelled (openQuote quote s) s' u' := by
  induction s generalizing quote t with
  | nil => exact ⟨[], t, rfl, .done, respelled⟩
  | cons c s ih =>
    cases respelled with
    | same _ rest =>
      obtain ⟨u, u', rfl, first, others⟩ := ih rest
      exact ⟨c :: u, u', rfl, .same c first, others⟩
    | @blank _ _ _ _ d outside blankC blankD rest =>
      obtain ⟨u, u', rfl, first, others⟩ := ih rest
      refine ⟨d :: u, u', rfl, .blank (fun q isOpen => ?_) blankC blankD first, ?_⟩
      · obtain ⟨isQuote, free⟩ := outside q isOpen
        exact ⟨isQuote, fun member => free (List.mem_append_left _ member)⟩
      · rw [openQuote, List.foldl_cons,
          quoteBehind_blank (fun q isOpen => (outside q isOpen).1) blankC]
        exact others

theorem Respelled.split_closed (respelled : Respelled none (s ++ s') t) (closed : QuotesClosed s) :
    ∃ u u', t = u ++ u' ∧ Respelled none s u ∧ Respelled none s' u' := by
  obtain ⟨u, u', parts, first, rest⟩ := respelled.split
  rw [show openQuote none s = none from closed] at rest
  exact ⟨u, u', parts, first, rest⟩

/-- Two texts that are cut at the same place. -/
theorem Respelled.split_length (respelled : Respelled none (s ++ s') (t ++ t'))
    (closed : QuotesClosed s) (length : s.length = t.length) :
    Respelled none s t ∧ Respelled none s' t' := by
  obtain ⟨u, u', parts, first, rest⟩ := respelled.split_closed closed
  obtain ⟨rfl, rfl⟩ := List.append_inj parts (length.symm.trans first.length_eq)
  exact ⟨first, rest⟩

theorem Respelled.blanks (respelled : Respelled quote s t) (blank : Blank s) : Blank t := by
  induction respelled with
  | done => exact blank_nil
  | same c _ ih =>
    obtain ⟨first, rest⟩ := List.forall_mem_cons.mp blank
    exact List.forall_mem_cons.mpr ⟨first, ih rest⟩
  | blank _ _ blankD _ ih =>
    obtain ⟨_, rest⟩ := List.forall_mem_cons.mp blank
    exact List.forall_mem_cons.mpr ⟨blankD, ih rest⟩

theorem Respelled.eq_of_ink (respelled : Respelled quote s t) (ink : ∀ c ∈ s, isBlank c = false) :
    t = s := by
  induction respelled with
  | done => rfl
  | same c _ ih => rw [ih (List.forall_mem_cons.mp ink).2]
  | blank _ blank _ _ _ => cases blank.symm.trans (List.forall_mem_cons.mp ink).1

/-- A quoted text is left as it is. -/
theorem Respelled.eq_of_quoted {q : Char} {inside : List Char}
    (respelled : Respelled (some q) (inside ++ [q]) t) (free : q ∉ inside) : t = inside ++ [q] := by
  induction inside generalizing t with
  | nil =>
    cases respelled with
    | same _ rest =>
      cases rest with
      | done => rfl
    | blank outside blank _ _ =>
      cases (isQuote_of_isBlank blank).symm.trans (outside q rfl).1
  | cons c inside ih =>
    rw [List.mem_cons, not_or] at free
    have stays : quoteBehind (some q) c = some q := by simp [quoteBehind, Ne.symm free.1]
    cases respelled with
    | same _ rest =>
      rw [stays] at rest
      rw [ih rest free.2, List.cons_append]
    | blank outside _ _ _ => exact absurd (by simp) (outside q rfl).2

private theorem Respelled.cons_ink (respelled : Respelled quote (c :: s) t)
    (ink : isBlank c = false) :
    ∃ u, t = c :: u ∧ Respelled (quoteBehind quote c) s u := by
  cases respelled with
  | same _ rest => exact ⟨_, rfl, rest⟩
  | blank _ blank _ _ => cases blank.symm.trans ink

theorem Respelled.cons_plain (respelled : Respelled none (c :: s) t) (ink : isBlank c = false)
    (plain : isQuote c = false) : ∃ u, t = c :: u ∧ Respelled none s u := by
  obtain ⟨u, parts, rest⟩ := respelled.cons_ink ink
  have step : quoteBehind none c = none := by simp [quoteBehind, plain]
  exact ⟨u, parts, step ▸ rest⟩

theorem Respelled.padded {a b : List Char} (respelled : Respelled none (a ++ s ++ b) t)
    (blankA : Blank a) (closed : QuotesClosed s) (blankB : Blank b) :
    ∃ a' u b', t = a' ++ u ++ b' ∧ Blank a' ∧ Respelled none s u ∧ Blank b' := by
  obtain ⟨front, b', rfl, first, last⟩ :=
    respelled.split_closed (blankA.quotesClosed.append closed)
  obtain ⟨a', u, rfl, spaces, inner⟩ := first.split_closed blankA.quotesClosed
  exact ⟨a', u, b', rfl, spaces.blanks blankA, inner, last.blanks blankB⟩

end

/-! ### Pieces -/

theorem Respelled.eq_of_plain {quote : Option Char} {s t : List Char}
    (respelled : Respelled quote s t) (plain : ∀ c ∈ s, isPlain c = true) : t = s :=
  respelled.eq_of_ink fun c member => ink_of_isPlain (plain c member)

mutual

theorem IsExpr.respelled : {e : Expr} → {s t : List Char} → IsExpr e s → Respelled none s t →
    IsExpr e t
  | _, _, _, @IsExpr.str q _ quotes free, respelled => by
    have ink : isBlank q = false := ink_of_isExprStart (by simp [isExprStart, quotes])
    have opened : quoteBehind none q = some q := by simp [quoteBehind, quotes]
    obtain ⟨_, rfl, rest⟩ := respelled.cons_ink ink
    rw [opened] at rest
    rw [rest.eq_of_quoted free]
    exact .str quotes free
  | _, _, _, .int negative digits value, respelled => by
    rw [respelled.eq_of_plain (List.forall_mem_append.mpr ⟨sign_plain negative, digits.plain⟩)]
    exact .int negative digits value
  | _, _, _, @IsExpr.float whole fraction negative left right, respelled => by
    have chars : ∀ c ∈ whole ++ '.' :: fraction, isPlain c = true :=
      List.forall_mem_append.mpr ⟨left.plain, List.forall_mem_cons.mpr ⟨by decide, right.plain⟩⟩
    rw [respelled.eq_of_plain (List.forall_mem_append.mpr ⟨sign_plain negative, chars⟩)]
    exact .float negative left right
  | _, _, _, .keyword keyword, respelled => by
    rw [respelled.eq_of_plain (isName_of_keyword keyword).isPlain]
    exact .keyword keyword
  | _, _, _, .range blankA isFirst blankB blankC isLast blankD, respelled => by
    obtain ⟨_, rfl, inside⟩ := respelled.cons_plain (by decide) (by decide)
    obtain ⟨_, _, rfl, front, points⟩ :=
      inside.split_closed (isFirst.bounded.padded blankA blankB)
    obtain ⟨_, rfl, point⟩ := points.cons_plain (by decide) (by decide)
    obtain ⟨_, rfl, after⟩ := point.cons_plain (by decide) (by decide)
    obtain ⟨_, _, rfl, back, closing⟩ :=
      after.split_closed (isLast.bounded.padded blankC blankD)
    obtain ⟨a, first, b, rfl, blankA, first', blankB⟩ :=
      front.padded blankA isFirst.bounded.closed blankB
    obtain ⟨c, last, d, rfl, blankC, last', blankD⟩ :=
      back.padded blankC isLast.bounded.closed blankD
    rw [closing.eq_of_ink (by simp; decide)]
    exact .range blankA (isFirst.respelled first') blankB blankC (isLast.respelled last') blankD
  | _, _, _, .lookup isName free isPath, respelled => by
    obtain ⟨_, _, rfl, name, path⟩ := respelled.split_closed isName.bounded.closed
    rw [name.eq_of_plain isName.isPlain]
    exact .lookup isName free (isPath.respelled path)

theorem IsPath.respelled : {path : List Segment} → {s t : List Char} → IsPath path s →
    Respelled none s t → IsPath path t
  | _, _, _, .done, respelled => by
    rw [respelled.eq_of_ink nofun]
    exact .done
  | _, _, _, .field isName isPath, respelled => by
    obtain ⟨_, rfl, inside⟩ := respelled.cons_plain (by decide) (by decide)
    obtain ⟨_, _, rfl, name, path⟩ := inside.split_closed isName.bounded.closed
    rw [name.eq_of_plain isName.isPlain]
    exact .field isName (isPath.respelled path)
  | _, _, _, .index blankA isExpr blankB isPath, respelled => by
    obtain ⟨_, rfl, inside⟩ := respelled.cons_plain (by decide) (by decide)
    obtain ⟨_, _, rfl, index, closing⟩ :=
      inside.split_closed (isExpr.bounded.padded blankA blankB)
    obtain ⟨_, rfl, path⟩ := closing.cons_plain (by decide) (by decide)
    obtain ⟨a, e, b, rfl, blankA, e', blankB⟩ := index.padded blankA isExpr.bounded.closed blankB
    exact .index blankA (isExpr.respelled e') blankB (isPath.respelled path)

end

theorem IsArgs.respelled {args : List Expr} {s t : List Char} (isArgs : IsArgs args s)
    (respelled : Respelled none s t) : IsArgs args t := by
  induction isArgs generalizing t with
  | last blank isExpr =>
    obtain ⟨_, _, rfl, front, e⟩ := respelled.split_closed blank.quotesClosed
    exact .last (front.blanks blank) (isExpr.respelled e)
  | more blankA isExpr blankB _ ih =>
    obtain ⟨_, _, rfl, front, comma⟩ :=
      respelled.split_closed (isExpr.bounded.padded blankA blankB)
    obtain ⟨_, rfl, others⟩ := comma.cons_plain (by decide) (by decide)
    obtain ⟨a, e, b, rfl, blankA, e', blankB⟩ := front.padded blankA isExpr.bounded.closed blankB
    exact .more blankA (isExpr.respelled e') blankB (ih others)

theorem IsFilter.respelled {call : FilterCall} {s t : List Char} (isFilter : IsFilter call s)
    (respelled : Respelled none s t) : IsFilter call t := by
  cases isFilter with
  | bare blank isName =>
    obtain ⟨_, rfl, inside⟩ := respelled.cons_plain (by decide) (by decide)
    obtain ⟨_, _, rfl, front, name⟩ := inside.split_closed blank.quotesClosed
    rw [name.eq_of_plain isName.isPlain]
    exact .bare (front.blanks blank) isName
  | called blankA isName blankB isArgs =>
    obtain ⟨_, rfl, inside⟩ := respelled.cons_plain (by decide) (by decide)
    obtain ⟨_, _, rfl, front, colon⟩ :=
      inside.split_closed (isName.bounded.padded blankA blankB)
    obtain ⟨_, rfl, args⟩ := colon.cons_plain (by decide) (by decide)
    obtain ⟨a, name, b, rfl, blankA, name', blankB⟩ :=
      front.padded blankA isName.bounded.closed blankB
    rw [name'.eq_of_plain isName.isPlain]
    exact .called blankA isName blankB (isArgs.respelled args)

theorem IsFilters.respelled {calls : List FilterCall} {s t : List Char}
    (isFilters : IsFilters calls s) (respelled : Respelled none s t) : IsFilters calls t := by
  induction isFilters generalizing t with
  | done =>
    rw [respelled.eq_of_ink nofun]
    exact .done
  | more blank isFilter _ ih =>
    obtain ⟨_, _, rfl, first, others⟩ :=
      respelled.split_closed (blank.quotesClosed.append isFilter.bounded.closed)
    obtain ⟨_, _, rfl, front, call⟩ := first.split_closed blank.quotesClosed
    exact .more (front.blanks blank) (isFilter.respelled call) (ih others)

theorem IsVariable.respelled {v : Variable} {s t : List Char} (isVariable : IsVariable v s)
    (respelled : Respelled none s t) : IsVariable v t := by
  cases isVariable with
  | given blankA isExpr isFilters blankB =>
    have front := blankA.quotesClosed.append isExpr.bounded.closed
    obtain ⟨_, _, rfl, first, back⟩ :=
      respelled.split_closed (front.append isFilters.quotesClosed)
    obtain ⟨_, _, rfl, front', filters⟩ := first.split_closed front
    obtain ⟨_, _, rfl, a, e⟩ := front'.split_closed blankA.quotesClosed
    exact .given (a.blanks blankA) (isExpr.respelled e) (isFilters.respelled filters)
      (back.blanks blankB)
  | absent blankA isFilters blankB =>
    obtain ⟨a, _, b, rfl, blankA, filters, blankB⟩ :=
      respelled.padded blankA isFilters.quotesClosed blankB
    exact .absent blankA (isFilters.respelled filters) blankB

/-! ### Main result -/

/-- Respelled markup reads as the same variable, or is refused as well. -/
theorem parse_respelled {s t : List Char} (respelled : Respelled none s t) :
    (Variable.parse (String.ofList s)).toOption = (Variable.parse (String.ofList t)).toOption := by
  have same (v : Variable) :
      Variable.parse (String.ofList s) = .ok v ↔ Variable.parse (String.ofList t) = .ok v := by
    rw [parse_eq_ok_iff, parse_eq_ok_iff, String.toList_ofList, String.toList_ofList]
    exact ⟨fun isVariable => isVariable.respelled respelled,
      fun isVariable => isVariable.respelled respelled.symm⟩
  exact toOption_eq_of_iff same

end Markup

end Liquid
