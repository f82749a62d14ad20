import Liquid.Condition.Parse

/-!
# The words of a condition

`words?` said without the reader: a text is cut into words at the ASCII white space outside of its
quotes, and any text whose quotes are closed can be cut in one way. Texts that are joined with white
space between them are cut into the words of the first and those of the second, and only the gap in
front of the first word of the second is another one.

A word `Stands` in a text if white space, or the end of the text, is on both of its sides and no
quote is open there. The words that a text is cut into stand in it.
-/

namespace Liquid

namespace Condition

open Text Markup

/-! ### Quotes -/

/-- The quote that is open behind a character. -/
def quoteBehind : Option Char → Char → Option Char
  | none, c => if isQuote c then some c else none
  | some q, c => if c == q then none else some q

def openQuote (quote : Option Char) (s : List Char) : Option Char := s.foldl quoteBehind quote

def QuotesClosed (s : List Char) : Prop := openQuote none s = none

theorem openQuote_append (quote : Option Char) (s t : List Char) :
    openQuote quote (s ++ t) = openQuote (openQuote quote s) t := List.foldl_append

theorem quotesClosed_nil : QuotesClosed [] := rfl

theorem QuotesClosed.append {s t : List Char} (first : QuotesClosed s) (second : QuotesClosed t) :
    QuotesClosed (s ++ t) := by
  rw [QuotesClosed, openQuote_append, first, second]

theorem QuotesClosed.cons {c : Char} {s : List Char} (quote : isQuote c = false)
    (closed : QuotesClosed s) : QuotesClosed (c :: s) := by
  have step : quoteBehind none c = none := by simp [quoteBehind, quote]
  rw [QuotesClosed, openQuote, List.foldl_cons, step]
  exact closed

theorem quotesClosed_of_free {s : List Char} (free : ∀ c ∈ s, isQuote c = false) :
    QuotesClosed s := by
  induction s with
  | nil => rfl
  | cons c s ih =>
    rw [List.forall_mem_cons] at free
    exact .cons free.1 (ih free.2)

/-! ### White space -/

def AsciiBlank (s : List Char) : Prop := ∀ c ∈ s, isAsciiBlank c = true

theorem isQuote_of_isAsciiBlank {c : Char} (blank : isAsciiBlank c = true) : isQuote c = false := by
  simp only [isAsciiBlank, Bool.or_eq_true, beq_iff_eq] at blank
  rcases blank with (((rfl | rfl) | rfl) | rfl) | rfl
  all_goals decide

theorem asciiBlank_nil : AsciiBlank [] := by simp [AsciiBlank]

theorem AsciiBlank.append {s t : List Char} (first : AsciiBlank s) (second : AsciiBlank t) :
    AsciiBlank (s ++ t) := by
  intro c member
  rcases List.mem_append.mp member with inFirst | inSecond
  · exact first c inFirst
  · exact second c inSecond

theorem AsciiBlank.quotesClosed {s : List Char} (blank : AsciiBlank s) : QuotesClosed s :=
  quotesClosed_of_free fun c member => isQuote_of_isAsciiBlank (blank c member)

/-! ### Single words -/

/-- No white space outside of quotes, and no quote is left open. -/
def IsWord : (quote : Option Char) → List Char → Prop
  | quote, [] => quote = none
  | quote, c :: rest =>
    (quote = none → isAsciiBlank c = false) ∧ IsWord (quoteBehind quote c) rest

/-- White space follows, or nothing. -/
def EndsWord (rest : List Char) : Prop := ∀ c ∈ rest.head?, isAsciiBlank c = true

private theorem endsWord_of_asciiBlank {s : List Char} (blank : AsciiBlank s) : EndsWord s :=
  fun c first => blank c (List.mem_of_mem_head? first)

theorem IsWord.openQuote {quote : Option Char} {w : List Char} (isWord : IsWord quote w) :
    openQuote quote w = none := by
  induction w generalizing quote with
  | nil => exact isWord
  | cons c w ih => exact ih isWord.2

/-- A word is read whole in front of white space, whatever quote is open where it begins. -/
theorem wordFrom?_append {quote : Option Char} {w rest : List Char} (isWord : IsWord quote w)
    (ends : EndsWord rest) : wordFrom? quote (w ++ rest) = some (w, rest) := by
  induction w generalizing quote with
  | nil =>
    obtain rfl : quote = none := isWord
    cases rest with
    | nil => rfl
    | cons c rest => simp [wordFrom?, ends c rfl]
  | cons c w ih =>
    have later := ih isWord.2
    cases quote with
    | none => simpa [wordFrom?, isWord.1 rfl, quoteBehind] using later
    | some q => simpa [wordFrom?, quoteBehind] using later

/-- Up to the first white space outside of quotes there is a word. -/
theorem exists_isWord {quote : Option Char} {s : List Char} (closed : openQuote quote s = none) :
    ∃ w rest, s = w ++ rest ∧ IsWord quote w ∧ EndsWord rest ∧ QuotesClosed rest := by
  induction s generalizing quote with
  | nil => exact ⟨[], [], rfl, closed, by simp [EndsWord], rfl⟩
  | cons c s ih =>
    by_cases stop : quote = none ∧ isAsciiBlank c = true
    · obtain ⟨rfl, blank⟩ := stop
      exact ⟨[], c :: s, rfl, rfl, by simpa [EndsWord] using blank, closed⟩
    · obtain ⟨w, rest, rfl, isWord, ends, closedRest⟩ := ih closed
      refine ⟨c :: w, rest, rfl, ⟨fun none => ?_, isWord⟩, ends, closedRest⟩
      simpa [none] using stop

/-! ### Cuts -/

/-- The text of words with their gaps. -/
def joined (words : List Word) : List Char := words.flatMap fun w => w.gap ++ w.text

private theorem joined_append (words more : List Word) :
    joined (words ++ more) = joined words ++ joined more := List.flatMap_append

/-- The words of a text, and the white space behind the last of them. -/
structure Cut (s : List Char) (words : List Word) (tail : List Char) : Prop where
  text : s = joined words ++ tail
  trailing : AsciiBlank tail
  gaps : ∀ w ∈ words, AsciiBlank w.gap
  whole : ∀ w ∈ words, w.text ≠ [] ∧ IsWord none w.text
  between : ∀ w ∈ words.tail, w.gap ≠ []

section

variable {s t tail tail' : List Char} {w : Word} {words more : List Word}

/-- The words of the text behind a word. -/
theorem Cut.rest (cut : Cut s (words ++ more) tail) : Cut (joined more ++ tail) more tail where
  text := rfl
  trailing := cut.trailing
  gaps w member := cut.gaps w (List.mem_append_right _ member)
  whole w member := cut.whole w (List.mem_append_right _ member)
  between w member := by
    refine cut.between w ?_
    cases words with
    | nil => exact member
    | cons first words => exact List.mem_append_right _ (List.mem_of_mem_tail member)

theorem ink_of_isWord {c : Char} (isWord : IsWord none (c :: s)) : isAsciiBlank c = false :=
  isWord.1 rfl

/-- Behind white space a gap is what makes a word another one. -/
theorem Cut.gap_ne_nil (cut : Cut s (w :: words) tail) (ends : EndsWord s) : w.gap ≠ [] := by
  intro none
  obtain ⟨filled, isWord⟩ := cut.whole w List.mem_cons_self
  obtain ⟨c, more, spelled⟩ := List.exists_cons_of_ne_nil filled
  have first : s.head? = some c := by simp [cut.text, joined, none, spelled]
  have ink := ink_of_isWord (spelled ▸ isWord)
  rw [ends c first] at ink
  cases ink

theorem Cut.endsWord (cut : Cut s (w :: words) tail) : EndsWord (joined words ++ tail) := by
  cases words with
  | nil => exact endsWord_of_asciiBlank cut.trailing
  | cons next words =>
    have blank := cut.gaps next (by simp)
    obtain ⟨c, gap, gapped⟩ := List.exists_cons_of_ne_nil (cut.between next List.mem_cons_self)
    intro d first
    simp only [joined, List.flatMap_cons, gapped, List.cons_append, List.head?_cons] at first
    obtain rfl := Option.some.inj first
    exact blank c (by simp [gapped])

private theorem wordsWithin_of_cut (cut : Cut s words tail) {count : Nat}
    (enough : s.length < count) :
    wordsWithin count s = some words := by
  induction words generalizing s count with
  | nil =>
    obtain ⟨count, rfl⟩ : ∃ n, count = n + 1 := ⟨count - 1, by omega⟩
    have all : s.dropWhile isAsciiBlank = [] := by
      have nothing : (tail ++ []).dropWhile isAsciiBlank = [] :=
        List.dropWhile_append_of_pos cut.trailing
      simpa [cut.text, joined] using nothing
    simp [wordsWithin, all]
  | cons w words ih =>
    obtain ⟨count, rfl⟩ : ∃ n, count = n + 1 := ⟨count - 1, by omega⟩
    -- The gap is skipped, the word is read, and what is left is cut into the other words.
    have blank := cut.gaps w List.mem_cons_self
    obtain ⟨some, isWord⟩ := cut.whole w List.mem_cons_self
    have text : s = w.gap ++ (w.text ++ (joined words ++ tail)) := by
      simpa [joined] using cut.text
    obtain ⟨c, more, spelled⟩ := List.exists_cons_of_ne_nil some
    have ink := ink_of_isWord (spelled ▸ isWord)
    have front : s.takeWhile isAsciiBlank = w.gap := by
      rw [text, List.takeWhile_append_of_pos blank, spelled]
      simp [ink]
    have back : s.dropWhile isAsciiBlank = w.text ++ (joined words ++ tail) := by
      rw [text, List.dropWhile_append_of_pos blank, spelled]
      simp [ink]
    have shorter : (joined words ++ tail).length < count := by
      have length := congrArg List.length text
      simp only [spelled, List.length_append, List.length_cons] at length ⊢
      omega
    have read := wordFrom?_append isWord cut.endsWord
    simp only [spelled, List.cons_append] at back read
    simp [wordsWithin, front, back, read, ih (@Cut.rest s tail [w] words cut) shorter, ← spelled]

theorem words?_of_cut (cut : Cut s words tail) : words? s = some words :=
  wordsWithin_of_cut cut (Nat.lt_succ_self _)

/-- A text whose quotes are closed can be cut. -/
theorem exists_cut (closed : QuotesClosed s) : ∃ words tail, Cut s words tail := by
  -- On the length, for a word takes an unknown part of the text away.
  induction size : s.length using Nat.strongRecOn generalizing s with
  | ind size ih =>
    have blank : AsciiBlank (s.takeWhile isAsciiBlank) := List.all_eq_true.mp List.all_takeWhile
    have parts := List.takeWhile_append_dropWhile (p := isAsciiBlank) (l := s)
    generalize s.takeWhile isAsciiBlank = gap at blank parts
    cases back : s.dropWhile isAsciiBlank with
    | nil =>
      rw [back, List.append_nil] at parts
      exact ⟨[], s, rfl, parts ▸ blank, by simp, by simp, by simp⟩
    | cons c after =>
      rw [back] at parts
      have ink : isAsciiBlank c = false := by
        have first := List.head?_dropWhile_not isAsciiBlank s
        simpa [back] using first
      have closedBack : openQuote none (c :: after) = none := by
        rwa [← parts, QuotesClosed, openQuote_append, blank.quotesClosed] at closed
      obtain ⟨w, rest, text, isWord, ends, closedRest⟩ := exists_isWord closedBack
      have some : w ≠ [] := by
        rintro rfl
        rw [List.nil_append] at text
        rw [ends c (by rw [← text]; rfl)] at ink
        cases ink
      have shorter : rest.length < s.length := by
        have filled := List.length_pos_iff.mpr some
        rw [← parts, text]
        simp only [List.length_append]
        omega
      obtain ⟨words, tail, cut⟩ := ih rest.length (size ▸ shorter) closedRest rfl
      refine ⟨⟨gap, w⟩ :: words, tail, ?_, cut.trailing, ?_, ?_, ?_⟩
      · rw [← parts, text, cut.text]
        simp [joined]
      · exact List.forall_mem_cons.mpr ⟨blank, cut.gaps⟩
      · exact List.forall_mem_cons.mpr ⟨⟨some, isWord⟩, cut.whole⟩
      · cases words with
        | nil => simp
        | cons next words =>
          exact List.forall_mem_cons.mpr ⟨cut.gap_ne_nil ends, cut.between⟩

end

/-! ### Texts that have words -/

private theorem closed_of_wordFrom? {quote : Option Char} {s w rest : List Char}
    (read : wordFrom? quote s = some (w, rest)) : s = w ++ rest ∧ openQuote quote w = none := by
  induction s generalizing quote w with
  | nil =>
    cases quote with
    | none =>
      cases read
      exact ⟨rfl, rfl⟩
    | some q => cases read
  | cons c s ih =>
    have next {word : List Char} (later : wordFrom? (quoteBehind quote c) s = some (word, rest)) :
        c :: s = c :: word ++ rest ∧ openQuote quote (c :: word) = none := by
      obtain ⟨rfl, closed⟩ := ih later
      exact ⟨rfl, closed⟩
    cases quote with
    | some q =>
      obtain ⟨_, later, same⟩ := Option.map_eq_some_iff.mp read
      cases same
      exact next later
    | none =>
      rw [wordFrom?] at read
      split at read
      next =>
        cases read
        exact ⟨rfl, rfl⟩
      next =>
        obtain ⟨_, later, same⟩ := Option.map_eq_some_iff.mp read
        cases same
        exact next later

private theorem closed_of_wordsWithin {count : Nat} {s : List Char} {words : List Word}
    (read : wordsWithin count s = some words) (enough : s.length < count) : QuotesClosed s := by
  induction count generalizing s words with
  | zero => exact absurd enough (Nat.not_lt_zero _)
  | succ count ih =>
    have blank : AsciiBlank (s.takeWhile isAsciiBlank) := List.all_eq_true.mp List.all_takeWhile
    have parts := List.takeWhile_append_dropWhile (p := isAsciiBlank) (l := s)
    rw [← parts]
    refine blank.quotesClosed.append ?_
    cases back : s.dropWhile isAsciiBlank with
    | nil => exact quotesClosed_nil
    | cons c after =>
      have ink : isAsciiBlank c = false := by
        have first := List.head?_dropWhile_not isAsciiBlank s
        simpa [back] using first
      rw [wordsWithin, back] at read
      obtain ⟨⟨w, rest⟩, readWord, readRest⟩ := Option.bind_eq_some_iff.mp read
      obtain ⟨more, readMore, -⟩ := Option.map_eq_some_iff.mp readRest
      obtain ⟨text, closed⟩ := closed_of_wordFrom? readWord
      -- The word is not empty, so what is behind it is shorter.
      have filled : w ≠ [] := by
        rw [wordFrom?, if_neg (by simp [ink])] at readWord
        obtain ⟨_, _, same⟩ := Option.map_eq_some_iff.mp readWord
        cases same
        exact List.cons_ne_nil _ _
      have shorter : rest.length < count := by
        have total := congrArg List.length parts
        have some := List.length_pos_iff.mpr filled
        rw [List.length_append, back, text, List.length_append] at total
        omega
      rw [text]
      exact QuotesClosed.append closed (ih readMore shorter)

theorem closed_of_words? {s : List Char} {words : List Word} (found : words? s = some words) :
    QuotesClosed s := closed_of_wordsWithin found (Nat.lt_succ_self _)

/-- Texts that have words can be cut into them. -/
theorem cut_of_words? {s : List Char} {words : List Word} (found : words? s = some words) :
    ∃ tail, Cut s words tail := by
  obtain ⟨words', tail, cut⟩ := exists_cut (closed_of_words? found)
  obtain rfl : words' = words := Option.some.inj ((words?_of_cut cut).symm.trans found)
  exact ⟨tail, cut⟩

section

variable {s t tail tail' : List Char} {w : Word} {words more : List Word}

/-! ### Words that stand in a text -/

/-- The word is in the text on its own and outside of quotes. -/
def Stands (word s : List Char) : Prop :=
  ∃ before after, s = before ++ word ++ after ∧ QuotesClosed before ∧
    (∀ c ∈ before.getLast?, isAsciiBlank c = true) ∧ EndsWord after

theorem quotesClosed_joined (gaps : ∀ w ∈ words, AsciiBlank w.gap)
    (whole : ∀ w ∈ words, w.text ≠ [] ∧ IsWord none w.text) : QuotesClosed (joined words) := by
  induction words with
  | nil => rfl
  | cons w words ih =>
    rw [List.forall_mem_cons] at gaps whole
    exact (gaps.1.quotesClosed.append whole.1.2.openQuote).append (ih gaps.2 whole.2)

theorem Cut.stands (cut : Cut s words tail) : ∀ w ∈ words, Stands w.text s := by
  intro w member
  obtain ⟨front, back, rfl⟩ := List.append_of_mem member
  have blank := cut.gaps w member
  have closed : QuotesClosed (joined front) :=
    quotesClosed_joined (fun v inFront => cut.gaps v (List.mem_append_left _ inFront))
      fun v inFront => cut.whole v (List.mem_append_left _ inFront)
  refine ⟨joined front ++ w.gap, joined back ++ tail, ?_, closed.append blank.quotesClosed, ?_,
    cut.rest.endsWord⟩
  · simpa [joined] using cut.text
  · intro c last
    rw [List.getLast?_append] at last
    cases gap : w.gap.getLast? with
    | some d =>
      rw [gap] at last
      obtain rfl := Option.some.inj last
      exact blank d (List.mem_of_getLast? gap)
    | none =>
      -- Only the first word has no gap in front of it.
      have empty := List.getLast?_eq_none_iff.mp gap
      cases front with
      | nil => simp [gap, joined] at last
      | cons first front => exact absurd empty (cut.between w (by simp))

/-- Only quotes are ever open. -/
theorem quoteBehind_isQuote {quote : Option Char} (quotes : ∀ q ∈ quote, isQuote q = true)
    (c : Char) : ∀ q ∈ quoteBehind quote c, isQuote q = true := by
  cases quote with
  | none =>
    by_cases opens : isQuote c = true
    · simp [quoteBehind, opens]
    · simp [quoteBehind, opens]
  | some q =>
    by_cases closes : c = q
    · simp [quoteBehind, closes]
    · simpa [quoteBehind, closes] using quotes

/-- A word ends with its own character or with a quote. -/
theorem IsWord.last {quote : Option Char} {w : List Char} (isWord : IsWord quote w)
    (quotes : ∀ q ∈ quote, isQuote q = true) : ∀ c ∈ w.getLast?, isAsciiBlank c = false := by
  induction w generalizing quote with
  | nil => simp
  | cons c w ih =>
    cases w with
    | cons d w => simpa using ih isWord.2 (quoteBehind_isQuote quotes c)
    | nil =>
      obtain ⟨outside, closed⟩ := isWord
      intro d last
      obtain rfl : c = d := by simpa using last
      cases quote with
      | none => exact outside rfl
      | some q =>
        obtain rfl : c = q := by simpa [IsWord, quoteBehind] using closed
        refine Bool.eq_false_iff.mpr fun blank => ?_
        cases (isQuote_of_isAsciiBlank blank).symm.trans (quotes c rfl)

/-- A text that ends with white space has some behind its last word. -/
theorem Cut.tail_ne_nil (cut : Cut s words tail) (filled : words ≠ [])
    (ends : ∀ c ∈ s.getLast?, isAsciiBlank c = true) : tail ≠ [] := by
  rintro rfl
  have isLast := List.getLast_mem filled
  obtain ⟨some, isWord⟩ := cut.whole _ isLast
  have text : s = joined words.dropLast ++ (words.getLast filled).gap ++
      (words.getLast filled).text := by
    conv => lhs; rw [cut.text, ← List.dropLast_concat_getLast filled, joined_append]
    simp [joined]
  have last := List.getLast?_eq_some_getLast some
  have ink := isWord.last (by simp) _ last
  rw [ends _ (by rw [text, List.getLast?_append, last]; rfl)] at ink
  cases ink

/-- A word that stands in a text is one of those that the text is cut into. -/
theorem Cut.mem_of_stands {word : List Char} (cut : Cut s words tail) (stands : Stands word s)
    (some : word ≠ []) (isWord : IsWord none word) : ∃ w ∈ words, w.text = word := by
  obtain ⟨before, after, text, closed, ends, endsWord⟩ := stands
  have closedAfter : QuotesClosed after := by
    have all : QuotesClosed s :=
      cut.text ▸ (quotesClosed_joined cut.gaps cut.whole).append cut.trailing.quotesClosed
    rwa [text, QuotesClosed, openQuote_append, openQuote_append, closed, isWord.openQuote] at all
  obtain ⟨front, gap, cutFront⟩ := exists_cut closed
  obtain ⟨back, end', cutBack⟩ := exists_cut closedAfter
  have same : Cut s (front ++ ⟨gap, word⟩ :: back) end' := by
    refine ⟨?_, cutBack.trailing, ?_, ?_, ?_⟩
    · rw [text, cutFront.text, cutBack.text]
      simp [joined]
    · exact List.forall_mem_append.mpr ⟨cutFront.gaps,
        List.forall_mem_cons.mpr ⟨cutFront.trailing, cutBack.gaps⟩⟩
    · exact List.forall_mem_append.mpr ⟨cutFront.whole,
        List.forall_mem_cons.mpr ⟨⟨some, isWord⟩, cutBack.whole⟩⟩
    · have apart : ∀ w ∈ back, w.gap ≠ [] := by
        cases back with
        | nil => simp
        | cons w back =>
          exact List.forall_mem_cons.mpr ⟨cutBack.gap_ne_nil endsWord, cutBack.between⟩
      cases front with
      | nil => exact apart
      | cons first front =>
        exact List.forall_mem_append.mpr ⟨cutFront.between,
          List.forall_mem_cons.mpr ⟨cutFront.tail_ne_nil (by simp) ends, apart⟩⟩
  -- A text is cut in one way only.
  obtain rfl := Option.some.inj ((words?_of_cut cut).symm.trans (words?_of_cut same))
  exact ⟨⟨gap, word⟩, by simp, rfl⟩

/-! ### Texts that are joined -/

/-- Words with more white space in front of the first. -/
def behind (gap : List Char) : List Word → List Word
  | [] => []
  | w :: words => ⟨gap ++ w.gap, w.text⟩ :: words

theorem Cut.append {gap : List Char} (first : Cut s words tail) (blank : AsciiBlank gap)
    (between : gap ≠ []) (second : Cut t more tail') :
    ∃ tail'', Cut (s ++ gap ++ t) (words ++ behind (tail ++ gap) more) tail'' := by
  have gapped := first.trailing.append blank
  have text : s ++ gap ++ t = joined words ++ (tail ++ gap ++ joined more ++ tail') := by
    rw [first.text, second.text]
    simp
  rw [text]
  cases more with
  | nil =>
    refine ⟨tail ++ gap ++ tail', ?_⟩
    rw [behind, List.append_nil]
    exact ⟨by simp [joined], gapped.append second.trailing, first.gaps, first.whole, first.between⟩
  | cons w more =>
    have blankW := second.gaps w List.mem_cons_self
    refine ⟨tail', by simp [joined, behind], second.trailing, ?_, ?_, ?_⟩
    · refine List.forall_mem_append.mpr ⟨first.gaps, List.forall_mem_cons.mpr ⟨?_, ?_⟩⟩
      · exact gapped.append blankW
      · exact fun v member => second.gaps v (List.mem_cons_of_mem _ member)
    · refine List.forall_mem_append.mpr ⟨first.whole, List.forall_mem_cons.mpr ⟨?_, ?_⟩⟩
      · exact second.whole w List.mem_cons_self
      · exact fun v member => second.whole v (List.mem_cons_of_mem _ member)
    · -- The gap between the two texts is in front of the second's first word.
      have apart : ∀ v ∈ behind (tail ++ gap) (w :: more), v.gap ≠ [] :=
        List.forall_mem_cons.mpr ⟨by simp [between], second.between⟩
      cases words with
      | nil => exact second.between
      | cons v words => exact List.forall_mem_append.mpr ⟨first.between, apart⟩

end

end Condition

end Liquid
