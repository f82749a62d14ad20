import Liquid.Token.Scan

/-!
# The tokens of a source

What a row of tokens has to be to stand for a source, said without the scanner: nothing is lost
and nothing comes twice, every span is the place of its token, text is as long as it can be, and
markup runs from its opening to the first closing delimiter behind it.

## Main result

`Token.segments_iff_scan`: the scanned tokens are such a row, and they are the only one.

## Proof strategy

Both directions go token by token. What the conditions say about the first token, in front of the
source of the others, is what the scanner finds there (`next?_of_stands`, `stands_of_next?`); the
conditions on the others are those of a shorter row that begins further on (`segments_cons`).
-/

namespace Liquid

namespace Token

/-- The characters that begin markup of a kind. -/
def opener : TokenKind → List Char
  | .text => []
  | .tag => ['{', '%']
  | .variable => ['{', '{']

/-- The characters that end markup of a kind. -/
def closer : TokenKind → List Char
  | .text => []
  | .tag => ['%', '}']
  | .variable => ['}', '}']

/-- What a row of tokens stands for. -/
def source (tokens : List Token) : List Char := tokens.flatMap fun t => t.raw.toList

/-- The delimiter does not start within a text that something follows. -/
def Free (delimiter text after : List Char) : Prop :=
  ∀ u v, text = u ++ v → v ≠ [] → ¬ delimiter <+: v ++ after

/-- Text as it stands, in which no markup starts. -/
structure IsText (t : Token) (after : List Char) : Prop where
  content : t.content = t.raw
  terminated : t.terminated = true
  trimBefore : t.trimBefore = false
  trimAfter : t.trimAfter = false
  noTag : Free (opener .tag) t.raw.toList after
  noVariable : Free (opener .variable) t.raw.toList after

/-- The opening delimiter of a kind, with or without a trim mark. -/
def opened (kind : TokenKind) (marked : Bool) : List Char :=
  opener kind ++ if marked then ['-'] else []

def opening (t : Token) : List Char := opened t.kind t.trimBefore

/-- Markup that the first closing delimiter ends. -/
structure Closed (t : Token) (inside after : List Char) : Prop where
  raw : t.raw.toList = t.opening ++ inside ++ closer t.kind
  first : Free (closer t.kind) inside (closer t.kind ++ after)
  trimAfter : t.trimAfter = true ↔ inside ≠ [] ∧ inside.getLast? = some '-'
  content : t.content.toList = if t.trimAfter then inside.dropLast else inside

/-- Markup that takes all the rest. -/
structure Unclosed (t : Token) (inner after : List Char) : Prop where
  last : after = []
  content : t.content.toList = inner
  trimAfter : t.trimAfter = false

/-- Markup, with all that follows its opening. -/
structure IsMarkup (t : Token) (inner after : List Char) : Prop where
  opened : t.raw.toList ++ after = t.opening ++ inner
  trimBefore : t.trimBefore = true ↔ opener t.kind ++ ['-'] <+: t.raw.toList ++ after
  terminated : t.terminated = true ↔ closer t.kind <:+: inner
  closed : t.terminated = true → ∃ inside, t.Closed inside after
  unclosed : t.terminated = false → t.Unclosed inner after

/-- A token at an offset in bytes, in front of the source of the tokens after it. -/
structure Stands (offset : Nat) (t : Token) (after : List Char) : Prop where
  nonempty : t.raw ≠ ""
  span : t.span = ⟨offset, t.raw.utf8ByteSize⟩
  text : t.kind = .text → t.IsText after
  markup : t.kind ≠ .text → ∃ inner, t.IsMarkup inner after

/-- The tokens stand for a source that begins at an offset in bytes. -/
structure Segments (offset : Nat) (s : List Char) (tokens : List Token) : Prop where
  joined : source tokens = s
  each (before : List Token) (t : Token) (after : List Token) :
    tokens = before ++ t :: after → t.Stands (offset + byteLength (source before)) (source after)
  apart (before : List Token) (t u : Token) (after : List Token) :
    tokens = before ++ t :: u :: after → t.kind = .text → u.kind ≠ .text

/-! ### Delimiters -/

private theorem free_nil (delimiter after : List Char) : Free delimiter [] after := by
  intro u v parts some
  exact absurd (List.append_eq_nil_iff.mp parts.symm).2 some

theorem free_cons {delimiter text after : List Char} {c : Char} :
    Free delimiter (c :: text) after ↔
      ¬ delimiter <+: c :: text ++ after ∧ Free delimiter text after := by
  constructor
  · intro free
    refine ⟨free [] (c :: text) rfl (List.cons_ne_nil _ _), fun u v parts => ?_⟩
    exact free (c :: u) v (by rw [parts]; rfl)
  · rintro ⟨here, later⟩ u v parts some
    cases u with
    | nil =>
      subst parts
      exact here
    | cons _ u =>
      obtain ⟨rfl, rest⟩ := List.cons.inj parts
      exact later u v rest some

theorem opening?_eq_some_iff {s : List Char} {kind : TokenKind} :
    opening? s = some kind ↔ kind ≠ .text ∧ opener kind <+: s := by
  constructor
  · intro opens
    unfold opening? at opens
    split at opens <;> cases opens <;> simp [opener]
  · rintro ⟨markup, rest, rfl⟩
    cases kind
    · exact absurd rfl markup
    · rfl
    · rfl

private theorem opening?_eq_none_iff {s : List Char} :
    opening? s = none ↔ ¬ opener .tag <+: s ∧ ¬ opener .variable <+: s := by
  constructor
  · intro none
    constructor
    · intro tag
      rw [opening?_eq_some_iff.mpr ⟨by decide, tag⟩] at none
      cases none
    · intro output
      rw [opening?_eq_some_iff.mpr ⟨by decide, output⟩] at none
      cases none
  · rintro ⟨noTag, noVariable⟩
    cases opens : opening? s with
    | none => rfl
    | some kind =>
      obtain ⟨markup, opened⟩ := opening?_eq_some_iff.mp opens
      cases kind
      · exact absurd rfl markup
      · exact absurd opened noTag
      · exact absurd opened noVariable

/-! ### Text -/

/-- Markup can follow text, and further text cannot. -/
def Ends (after : List Char) : Prop := after = [] ∨ (opening? after).isSome = true

/-- Text in which no markup starts, up to where some starts or the source ends. -/
structure Maximal (text after : List Char) : Prop where
  noTag : Free (opener .tag) text after
  noVariable : Free (opener .variable) text after
  ends : Ends after

private theorem maximal_nil {after : List Char} (ends : Ends after) : Maximal [] after :=
  ⟨free_nil _ _, free_nil _ _, ends⟩

theorem maximal_cons {c : Char} {text after : List Char} :
    Maximal (c :: text) after ↔ opening? (c :: (text ++ after)) = none ∧ Maximal text after := by
  rw [opening?_eq_none_iff]
  constructor
  · rintro ⟨noTag, noVariable, ends⟩
    rw [free_cons] at noTag noVariable
    exact ⟨⟨noTag.1, noVariable.1⟩, noTag.2, noVariable.2, ends⟩
  · rintro ⟨⟨tagless, variableless⟩, noTag, noVariable, ends⟩
    exact ⟨free_cons.mpr ⟨tagless, noTag⟩, free_cons.mpr ⟨variableless, noVariable⟩, ends⟩

private theorem splitText_append {text after : List Char} (maximal : Maximal text after) :
    splitText (text ++ after) = (text, after) := by
  induction text with
  | nil =>
    rcases maximal.ends with rfl | opens
    · rfl
    · cases after with
      | nil => rfl
      | cons c rest => simp only [List.nil_append, splitText, opens, ↓reduceIte]
  | cons c text ih =>
    obtain ⟨none, later⟩ := maximal_cons.mp maximal
    simp [splitText, none, ih later]

private theorem maximal_of_splitText {s text after : List Char}
    (split : splitText s = (text, after)) :
    s = text ++ after ∧ Maximal text after := by
  induction s generalizing text with
  | nil =>
    cases split
    exact ⟨rfl, maximal_nil (.inl rfl)⟩
  | cons c rest ih =>
    unfold splitText at split
    by_cases opens : (opening? (c :: rest)).isSome = true
    · rw [if_pos opens] at split
      cases split
      exact ⟨rfl, maximal_nil (.inr opens)⟩
    · rw [if_neg opens] at split
      cases split
      obtain ⟨parts, maximal⟩ := ih rfl
      refine ⟨congrArg (c :: ·) parts, maximal_cons.mpr ⟨?_, maximal⟩⟩
      rwa [← parts, ← Option.not_isSome_iff_eq_none]

/-! ### Markup -/

theorem closer_of_ne_text {kind : TokenKind} (markup : kind ≠ .text) :
    closer kind = [closingMark kind, '}'] := by
  cases kind
  · exact absurd rfl markup
  · rfl
  · rfl

/-- The test for a closing delimiter at the front. -/
theorem closes_iff {mark c : Char} {rest : List Char} :
    (c == mark && rest.head? == some '}') = true ↔ [mark, '}'] <+: c :: rest := by
  rw [Bool.and_eq_true, beq_iff_eq, beq_iff_eq, List.cons_prefix_cons, eq_comm (a := c)]
  cases rest <;> simp [eq_comm (a := '}')]

private theorem splitClosing?_append {mark : Char} {inside after : List Char}
    (first : Free [mark, '}'] inside (mark :: '}' :: after)) :
    splitClosing? mark (inside ++ mark :: '}' :: after) = some (inside, after) := by
  induction inside with
  | nil => simp [splitClosing?]
  | cons c inside ih =>
    obtain ⟨here, later⟩ := free_cons.mp first
    rw [List.cons_append, ← closes_iff] at here
    rw [List.cons_append, splitClosing?, if_neg here, ih later]
    rfl

private theorem splitClosing?_of_some {mark : Char} {s inside after : List Char}
    (found : splitClosing? mark s = some (inside, after)) :
    s = inside ++ mark :: '}' :: after ∧ Free [mark, '}'] inside (mark :: '}' :: after) := by
  induction s generalizing inside with
  | nil => cases found
  | cons c rest ih =>
    unfold splitClosing? at found
    by_cases closes : (c == mark && rest.head? == some '}') = true
    · rw [if_pos closes] at found
      cases found
      obtain ⟨more, parts⟩ := closes_iff.mp closes
      cases parts
      exact ⟨rfl, free_nil _ _⟩
    · rw [if_neg closes, Option.map_eq_some_iff] at found
      obtain ⟨⟨more, _⟩, later, same⟩ := found
      cases same
      obtain ⟨parts, first⟩ := ih later
      rw [closes_iff, parts] at closes
      exact ⟨congrArg (c :: ·) parts, free_cons.mpr ⟨closes, first⟩⟩

private theorem splitClosing?_eq_none_iff {mark : Char} {s : List Char} :
    splitClosing? mark s = none ↔ ¬ [mark, '}'] <:+: s := by
  induction s with
  | nil => simp [splitClosing?]
  | cons c rest ih =>
    unfold splitClosing?
    rw [List.infix_cons_iff, ← closes_iff, not_or, ← ih]
    by_cases closes : (c == mark && rest.head? == some '}') = true <;> simp [closes]

/-- What the scanner makes of an opening and what follows it. -/
theorem markup_opened {kind : TokenKind} (isMarkup : kind ≠ .text) (offset : Nat) (marked : Bool)
    (inner : List Char) (unmarked : marked = false → inner.head? ≠ some '-') :
    markup kind offset (opened kind marked ++ inner) =
      match splitClosing? (closingMark kind) inner with
      | none =>
        ({ kind
           content := String.ofList inner
           raw := String.ofList (opened kind marked ++ inner)
           span := ⟨offset, byteLength (opened kind marked ++ inner)⟩
           terminated := false
           trimBefore := marked
           trimAfter := false }, [])
      | some (inside, after) =>
        let raw := opened kind marked ++ inside ++ closer kind
        let trimAfter := inside.getLast? == some '-'
        ({ kind
           content := String.ofList (if trimAfter then inside.dropLast else inside)
           raw := String.ofList raw
           span := ⟨offset, byteLength raw⟩
           terminated := true
           trimBefore := marked
           trimAfter }, after) := by
  have mark : ((opened kind marked ++ inner).drop 2).head? = some '-' ↔ marked = true := by
    cases marked <;> cases kind <;> simp_all [opened, opener]
  have front : (opened kind marked ++ inner).take (if marked then 3 else 2) =
      opened kind marked := by
    cases marked <;> cases kind <;> simp_all [opened, opener]
  have back : (opened kind marked ++ inner).drop (if marked then 3 else 2) = inner := by
    cases marked <;> cases kind <;> simp_all [opened, opener]
  have sign : (((opened kind marked ++ inner).drop 2).head? == some '-') = marked := by
    rw [Bool.eq_iff_iff, beq_iff_eq, mark]
  cases closes : splitClosing? (closingMark kind) inner with
  | none => simp only [markup, sign, back, closes]
  | some parts => simp only [markup, sign, front, back, closes, closer_of_ne_text isMarkup]

/-- A trim mark that can belong to the opening does. -/
theorem exists_opened {kind : TokenKind} {s : List Char} (opens : opener kind <+: s) :
    ∃ marked inner, s = opened kind marked ++ inner ∧
      (marked = false → inner.head? ≠ some '-') := by
  obtain ⟨inner, rfl⟩ := opens
  by_cases mark : inner.head? = some '-'
  · cases inner with
    | nil => cases mark
    | cons c inner =>
      cases mark
      exact ⟨true, inner, by simp [opened], fun no => nomatch no⟩
  · exact ⟨false, inner, by simp [opened], fun _ => mark⟩

private theorem marked_iff {kind : TokenKind} {marked : Bool} {inner : List Char}
    (unmarked : marked = false → inner.head? ≠ some '-') :
    marked = true ↔ opener kind ++ ['-'] <+: opened kind marked ++ inner := by
  cases marked with
  | true => simp [opened]
  | false =>
    have free := unmarked rfl
    have plain : opened kind false ++ inner = opener kind ++ inner := by simp [opened]
    rw [plain, List.prefix_append_right_inj]
    cases inner with
    | nil => simp
    | cons c inner =>
      have other : '-' ≠ c := fun same => free (congrArg some same.symm)
      simp [List.cons_prefix_cons, other]

private theorem isMarkup_of_markup {kind : TokenKind} (isMarkup : kind ≠ .text) {offset : Nat}
    {s after : List Char} {t : Token} (opens : opener kind <+: s)
    (scanned : markup kind offset s = (t, after)) :
    t.kind = kind ∧ s = t.raw.toList ++ after ∧
      t.span = ⟨offset, t.raw.utf8ByteSize⟩ ∧ ∃ inner, t.IsMarkup inner after := by
  obtain ⟨marked, inner, rfl, unmarked⟩ := exists_opened opens
  rw [markup_opened isMarkup offset marked inner unmarked] at scanned
  have sign : marked = true ↔ opener kind ++ ['-'] <+: opened kind marked ++ inner :=
    marked_iff unmarked
  cases closes : splitClosing? (closingMark kind) inner with
  | none =>
    rw [closes] at scanned
    have never := splitClosing?_eq_none_iff.mp closes
    rw [← closer_of_ne_text isMarkup] at never
    cases scanned
    refine ⟨rfl, by simp, by rw [byteLength_eq], inner, ?_⟩
    exact {
      opened := by simp [opening]
      trimBefore := by simpa using sign
      terminated := by simpa using never
      closed := fun no => nomatch no
      unclosed := fun _ => ⟨rfl, by simp, rfl⟩ }
  | some parts =>
    obtain ⟨inside, rest⟩ := parts
    rw [closes] at scanned
    obtain ⟨found, first⟩ := splitClosing?_of_some closes
    have ends : closer kind ++ rest = closingMark kind :: '}' :: rest := by
      rw [closer_of_ne_text isMarkup]
      rfl
    rw [← ends] at found
    rw [← closer_of_ne_text isMarkup, ← ends] at first
    have marks : (inside.getLast? == some '-') = true ↔
        inside ≠ [] ∧ inside.getLast? = some '-' := by
      cases inside <;> simp
    cases scanned
    refine ⟨rfl, by simp [found], by rw [byteLength_eq], inner, ?_⟩
    exact {
      opened := by simp [opening, found]
      trimBefore := by simpa [found] using sign
      terminated := by simp [found]
      closed := fun _ => ⟨inside, by simp [opening], first, marks, by simp⟩
      unclosed := fun no => nomatch no }

private theorem markup_of_isMarkup {t : Token} (isMarkup : t.kind ≠ .text) {offset : Nat}
    {inner after : List Char} (m : t.IsMarkup inner after)
    (span : t.span = ⟨offset, t.raw.utf8ByteSize⟩) :
    markup t.kind offset (t.raw.toList ++ after) = (t, after) := by
  obtain ⟨kind, content, raw, _, terminated, trimBefore, trimAfter⟩ := t
  dsimp only at isMarkup span
  subst span
  have unmarked : trimBefore = false → inner.head? ≠ some '-' := by
    rintro rfl mark
    -- A mark that follows the opening would have been taken for its own.
    cases inner with
    | nil => cases mark
    | cons c inner =>
      cases mark
      have own := m.trimBefore.mpr
      rw [m.opened] at own
      exact Bool.false_ne_true (own (by simp [opening, opened]))
  have opens := m.opened
  dsimp only [opening] at opens
  rw [opens, markup_opened isMarkup offset trimBefore inner unmarked]
  cases terminated with
  | true =>
    obtain ⟨inside, ends, first, marks, content_eq⟩ := m.closed rfl
    dsimp only [opening] at ends marks content_eq first
    rw [ends, List.append_assoc, List.append_assoc, List.append_cancel_left_eq] at opens
    have ending : closer kind ++ after = closingMark kind :: '}' :: after := by
      rw [closer_of_ne_text isMarkup]
      rfl
    rw [ending] at opens first
    rw [closer_of_ne_text isMarkup] at first
    rw [← opens, splitClosing?_append first]
    have sign : trimAfter = (inside.getLast? == some '-') := by
      rw [Bool.eq_iff_iff, marks, beq_iff_eq, and_iff_right_of_imp]
      rintro last rfl
      cases last
    have raw_eq : raw = String.ofList (opened kind trimBefore ++ inside ++ closer kind) := by
      rw [← ends, String.ofList_toList]
    subst sign raw_eq
    simp only [← content_eq, String.ofList_toList, byteLength_eq]
  | false =>
    obtain ⟨rfl, rfl, rfl⟩ := m.unclosed rfl
    have never : splitClosing? (closingMark kind) content.toList = none := by
      rw [splitClosing?_eq_none_iff, ← closer_of_ne_text isMarkup]
      simpa using m.terminated
    rw [never]
    rw [List.append_nil] at opens
    simp only [← opens, String.ofList_toList, byteLength_eq]

/-! ### Rows of tokens -/

theorem segments_nil {offset : Nat} {s : List Char} : Segments offset s [] ↔ s = [] := by
  constructor
  · intro segments
    exact segments.joined.symm
  · rintro rfl
    exact ⟨rfl, by simp, by simp⟩

theorem segments_cons {offset : Nat} {s : List Char} {t : Token} {rest : List Token} :
    Segments offset s (t :: rest) ↔
      s = t.raw.toList ++ source rest ∧ t.Stands offset (source rest) ∧
      (t.kind = .text → ∀ u ∈ rest.head?, u.kind ≠ .text) ∧
      Segments (offset + t.raw.utf8ByteSize) (source rest) rest := by
  constructor
  · rintro ⟨rfl, each, apart⟩
    refine ⟨rfl, each [] t rest rfl, ?_, rfl, ?_, ?_⟩
    · intro text u first
      obtain ⟨after, rfl⟩ := List.head?_eq_some_iff.mp first
      exact apart [] t u after rfl text
    · rintro before u after rfl
      simpa [source, byteLength_eq, Nat.add_assoc] using each (t :: before) u after rfl
    · rintro before u v after rfl
      exact apart (t :: before) u v after rfl
  · rintro ⟨rfl, first, follows, _, each, apart⟩
    refine ⟨rfl, ?_, ?_⟩
    · intro before u after parts
      cases before with
      | nil =>
        cases parts
        exact first
      | cons _ before =>
        cases parts
        simpa [source, byteLength_eq, Nat.add_assoc] using each before u after rfl
    · intro before u v after parts
      cases before with
      | nil =>
        cases parts
        exact fun text => follows text v rfl
      | cons _ before =>
        cases parts
        exact apart before u v after rfl

theorem next?_of_ne_nil {offset : Nat} {s : List Char} (some : s ≠ []) :
    next? offset s =
      match opening? s with
      | .some kind => .some (markup kind offset s)
      | .none => .some (text offset (splitText s).1, (splitText s).2) := by
  cases s with
  | nil => exact absurd rfl some
  | cons c rest => rfl

private theorem opening?_of_isMarkup {t : Token} {inner after : List Char}
    (isMarkup : t.kind ≠ .text)
    (m : t.IsMarkup inner after) : opening? (t.raw.toList ++ after) = some t.kind := by
  rw [opening?_eq_some_iff, m.opened, opening, opened, List.append_assoc]
  exact ⟨isMarkup, List.prefix_append _ _⟩

theorem toList_ne_nil {s : String} (nonempty : s ≠ "") : s.toList ≠ [] := fun none =>
  nonempty (String.toList_eq_nil_iff.mp none)

private theorem text_of_isText {t : Token} (isText : t.kind = .text) {offset : Nat}
    {after : List Char}
    (as : t.IsText after) (span : t.span = ⟨offset, t.raw.utf8ByteSize⟩) :
    text offset t.raw.toList = t := by
  obtain ⟨kind, content, raw, _, terminated, trimBefore, trimAfter⟩ := t
  dsimp only at isText span
  subst isText span
  obtain ⟨same, terminated_eq, before_eq, after_eq, _, _⟩ := as
  dsimp only at same terminated_eq before_eq after_eq
  subst same terminated_eq before_eq after_eq
  simp only [text, String.ofList_toList, byteLength_eq]

theorem next?_of_stands {offset : Nat} {t : Token} {after : List Char}
    (stands : t.Stands offset after) (ends : t.kind = .text → Ends after) :
    next? offset (t.raw.toList ++ after) = some (t, after) := by
  have first := toList_ne_nil stands.nonempty
  rw [next?_of_ne_nil (List.append_ne_nil_of_left_ne_nil first after)]
  by_cases isText : t.kind = .text
  · have as := stands.text isText
    have maximal : Maximal t.raw.toList after := ⟨as.noTag, as.noVariable, ends isText⟩
    have none : opening? (t.raw.toList ++ after) = none := by
      cases chars : t.raw.toList with
      | nil => exact absurd chars first
      | cons c rest =>
        rw [chars] at maximal
        exact (maximal_cons.mp maximal).1
    rw [none, splitText_append maximal]
    simp only [text_of_isText isText as stands.span]
  · obtain ⟨inner, m⟩ := stands.markup isText
    rw [opening?_of_isMarkup isText m]
    simp only [markup_of_isMarkup isText m stands.span]

private theorem opening?_of_isText {t : Token} {after : List Char} (first : t.raw.toList ≠ [])
    (as : t.IsText after) : opening? (t.raw.toList ++ after) = none := by
  cases chars : t.raw.toList with
  | nil => exact absurd chars first
  | cons c rest =>
    have noTag := as.noTag
    have noVariable := as.noVariable
    rw [chars, free_cons] at noTag noVariable
    exact opening?_eq_none_iff.mpr ⟨noTag.1, noVariable.1⟩

private theorem opener_prefix_raw {t : Token} {inner after : List Char}
    (m : t.IsMarkup inner after) :
    opener t.kind <+: t.raw.toList := by
  cases terminated : t.terminated with
  | true =>
    obtain ⟨inside, closed⟩ := m.closed terminated
    rw [closed.raw, opening, opened, List.append_assoc, List.append_assoc]
    exact List.prefix_append _ _
  | false =>
    have all := m.opened
    rw [(m.unclosed terminated).last, List.append_nil] at all
    rw [all, opening, opened, List.append_assoc]
    exact List.prefix_append _ _

private theorem opener_ne_nil {kind : TokenKind} (isMarkup : kind ≠ .text) : opener kind ≠ [] := by
  cases kind
  · exact absurd rfl isMarkup
  · exact List.cons_ne_nil _ _
  · exact List.cons_ne_nil _ _

theorem stands_of_next? {offset : Nat} {s after : List Char} {t : Token}
    (scanned : next? offset s = some (t, after)) :
    s = t.raw.toList ++ after ∧ t.Stands offset after ∧ (t.kind = .text → Ends after) := by
  have some : s ≠ [] := by
    rintro rfl
    cases scanned
  rw [next?_of_ne_nil some] at scanned
  cases opens : opening? s with
  | none =>
    rw [opens] at scanned
    cases scanned
    obtain ⟨parts, maximal⟩ := maximal_of_splitText (s := s) rfl
    have nonempty : (splitText s).1 ≠ [] := by
      intro empty
      -- Then the text would end at its beginning, where no markup opens.
      rw [empty, List.nil_append] at parts
      rcases maximal.ends with none | starts
      · exact some (parts.trans none)
      · rw [← parts, opens] at starts
        cases starts
    have stands : (text offset (splitText s).1).Stands offset (splitText s).2 := {
      nonempty := by simpa [text] using nonempty
      span := by rw [text, byteLength_eq]
      text := fun _ => ⟨rfl, rfl, rfl, rfl, by simpa [text] using maximal.noTag,
        by simpa [text] using maximal.noVariable⟩
      markup := fun isMarkup => absurd rfl isMarkup }
    exact ⟨by simpa [text] using parts, stands, fun _ => maximal.ends⟩
  | some kind =>
    rw [opens] at scanned
    obtain ⟨isMarkup, opened⟩ := opening?_eq_some_iff.mp opens
    obtain ⟨rfl, parts, span, inner, m⟩ := isMarkup_of_markup isMarkup opened
      (Option.some.inj scanned)
    have nonempty : t.raw ≠ "" := by
      intro empty
      have opener := opener_prefix_raw m
      rw [empty] at opener
      exact opener_ne_nil isMarkup (List.prefix_nil.mp opener)
    exact ⟨parts, ⟨nonempty, span, fun isText => absurd isText isMarkup, fun _ => ⟨inner, m⟩⟩,
      fun isText => absurd isText isMarkup⟩

private theorem ends_iff {offset : Nat} {s : List Char} {tokens : List Token}
    (segments : Segments offset s tokens) : Ends s ↔ ∀ t ∈ tokens.head?, t.kind ≠ .text := by
  cases tokens with
  | nil => simp [Ends, segments_nil.mp segments]
  | cons t rest =>
    obtain ⟨rfl, stands, _, _⟩ := segments_cons.mp segments
    have first := toList_ne_nil stands.nonempty
    have some : t.raw.toList ++ source rest ≠ [] := List.append_ne_nil_of_left_ne_nil first _
    simp only [Ends, some, false_or, List.head?_cons, Option.mem_some_iff, forall_eq']
    by_cases isText : t.kind = .text
    · simp [isText, opening?_of_isText first (stands.text isText)]
    · obtain ⟨inner, m⟩ := stands.markup isText
      simp [isText, opening?_of_isMarkup isText m]

theorem segments_empty {offset : Nat} {tokens : List Token} :
    Segments offset [] tokens ↔ tokens = [] := by
  cases tokens with
  | nil => simp [segments_nil]
  | cons t rest =>
    refine ⟨fun segments => ?_, fun none => nomatch none⟩
    obtain ⟨parts, stands, _, _⟩ := segments_cons.mp segments
    exact absurd (List.append_eq_nil_iff.mp parts.symm).1 (toList_ne_nil stands.nonempty)

private theorem next?_eq_none_iff {offset : Nat} {s : List Char} :
    next? offset s = none ↔ s = [] := by
  cases s with
  | nil => simp [next?]
  | cons c rest =>
    rw [next?_of_ne_nil (List.cons_ne_nil c rest)]
    cases opening? (c :: rest) <;> simp

theorem segments_iff_scanFrom {steps offset : Nat} {s : List Char} {tokens : List Token}
    (enough : s.length ≤ steps) : Segments offset s tokens ↔ tokens = scanFrom steps offset s := by
  -- Over the steps, each of which takes the first token away from the source.
  induction steps generalizing offset s tokens with
  | zero =>
    rw [List.length_eq_zero_iff.mp (Nat.le_zero.mp enough), segments_empty]
    rfl
  | succ steps ih =>
    unfold scanFrom
    cases scanned : next? offset s with
    | none => rw [next?_eq_none_iff.mp scanned, segments_empty]
    | some parts =>
      obtain ⟨first, after⟩ := parts
      obtain ⟨joined, stands, ends⟩ := stands_of_next? scanned
      have shorter : after.length ≤ steps := by
        have length := congrArg List.length joined
        have some := List.length_pos_iff.mpr (toList_ne_nil stands.nonempty)
        rw [List.length_append] at length
        omega
      have later {rest : List Token} : Segments (offset + first.raw.utf8ByteSize) after rest ↔
          rest = scanFrom steps (offset + first.span.length) after := by
        rw [stands.span]
        exact ih shorter
      constructor
      · intro segments
        cases tokens with
        | nil =>
          rw [next?_eq_none_iff.mpr (segments_nil.mp segments)] at scanned
          cases scanned
        | cons t rest =>
          obtain ⟨parts, stands', follows, rows⟩ := segments_cons.mp segments
          have same := next?_of_stands stands' fun isText => (ends_iff rows).mpr (follows isText)
          rw [← parts, scanned] at same
          cases same
          exact congrArg (List.cons _) (later.mp rows)
      · rintro rfl
        have rows := later.mpr rfl
        have rest_eq := rows.joined
        rw [segments_cons, rest_eq]
        exact ⟨joined, stands, fun isText => (ends_iff rows).mp (ends isText), rows⟩

/-- The scanned tokens stand for the source, and no other tokens do. -/
theorem segments_iff_scan (s : String) (tokens : List Token) :
    Segments 0 s.toList tokens ↔ tokens = scan s := segments_iff_scanFrom (Nat.le_refl _)

/-- A mark that both delimiters touch belongs to the opening. -/
example : (scan "{{-}}").map (fun t => (t.trimBefore, t.trimAfter, t.content)) =
    [(true, false, "")] := by decide +kernel

end Token

end Liquid
