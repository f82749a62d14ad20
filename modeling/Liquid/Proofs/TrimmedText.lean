import Liquid.Proofs.JoinedTokens
import Liquid.Token.Trim
import Mathlib.Data.List.DropRight
import Mathlib.Data.List.Nodup

/-!
# Trimmed text

A trim mark takes white space away from the text on its side. A text may lie between two marks, and
there may be nothing in it but white space, so that both of them reach for the same characters.

## Main result

`Token.tokenize_trims`: trimming changes nothing but the content of texts. A text loses all spaces
and tabs in front and one line break behind these if the token before it is marked, all spaces and
tabs at its end if the token after it is marked, and nothing else. The marks of the tokens can be
carried out in any order.

## Proof strategy

Taking away from the front and from the back are exchanged by looking at the first character that is
neither space nor tab (`trimStart_trimEnd`). From then on a text is what the marks at its two sides
make of it, whichever of them were carried out so far (`Carried`).
-/

namespace Liquid

namespace Token

/-! ### What marks take away -/

/-- Nothing but spaces and tabs. -/
def Spaces (s : List Char) : Prop := ∀ c ∈ s, isSpaceOrTab c = true

inductive IsLineBreak : List Char → Prop where
  | feed : IsLineBreak ['\n']
  | returned : IsLineBreak ['\r', '\n']

/-- All spaces and tabs in front of a text, and the line break behind them if there is one. -/
def TakesFront (front rest : List Char) : Prop :=
  ∃ spaces lineBreak, front = spaces ++ lineBreak ∧ Spaces spaces ∧
    (∀ c ∈ (lineBreak ++ rest).head?, isSpaceOrTab c = false) ∧
    (IsLineBreak lineBreak ∨ lineBreak = [] ∧ ∀ next, IsLineBreak next → ¬ next <+: rest)

/-- All spaces and tabs at the end of a text. -/
def TakesBack (rest back : List Char) : Prop :=
  Spaces back ∧ ∀ c ∈ rest.getLast?, isSpaceOrTab c = false

/-- What is left of a text between a token with or without a mark at its end and one with or
without a mark at its start. -/
def Trims (startMarked endMarked : Bool) (raw content : List Char) : Prop :=
  ∃ front back, raw = front ++ content ++ back ∧
    (if startMarked then TakesFront front (content ++ back) else front = []) ∧
    (if endMarked then TakesBack content back else back = [])

/-! ### From one side -/

private theorem exists_dropLineBreak (s : List Char) :
    ∃ lineBreak, s = lineBreak ++ dropLineBreak s ∧ (IsLineBreak lineBreak ∨
      lineBreak = [] ∧ ∀ next, IsLineBreak next → ¬ next <+: dropLineBreak s) := by
  unfold dropLineBreak
  split
  next rest => exact ⟨_, rfl, .inl .returned⟩
  next rest => exact ⟨_, rfl, .inl .feed⟩
  next noPair noFeed =>
    refine ⟨[], rfl, .inr ⟨rfl, fun next isBreak starts => ?_⟩⟩
    obtain ⟨rest, rfl⟩ := starts
    cases isBreak with
    | feed => exact noFeed rest rfl
    | returned => exact noPair rest rfl

private theorem exists_trimStart (s : List Char) :
    ∃ front, s = front ++ trimStart s ∧ TakesFront front (trimStart s) := by
  obtain ⟨lineBreak, parts, isBreak⟩ := exists_dropLineBreak (s.dropWhile isSpaceOrTab)
  refine ⟨s.takeWhile isSpaceOrTab ++ lineBreak, ?_, _, _, rfl, ?_, ?_, isBreak⟩
  · rw [trimStart, List.append_assoc, ← parts, List.takeWhile_append_dropWhile]
  · exact List.all_eq_true.mp List.all_takeWhile
  · intro c first
    rw [trimStart, ← parts] at first
    have stops := List.head?_dropWhile_not isSpaceOrTab s
    rw [Option.mem_def.mp first] at stops
    simpa using stops

/-- Dropping a tail is the library's function. -/
theorem trimEnd_eq (s : List Char) : trimEnd s = s.rdropWhile isSpaceOrTab := rfl

private theorem exists_trimEnd (s : List Char) :
    ∃ back, s = trimEnd s ++ back ∧ TakesBack (trimEnd s) back := by
  refine ⟨(s.reverse.takeWhile isSpaceOrTab).reverse, ?_, fun c member => ?_, fun c last => ?_⟩
  · rw [trimEnd_eq, List.rdropWhile, ← List.reverse_append, List.takeWhile_append_dropWhile,
      List.reverse_reverse]
  · exact List.all_eq_true.mp List.all_takeWhile c (List.mem_reverse.mp member)
  · rw [trimEnd_eq, List.rdropWhile, List.getLast?_reverse] at last
    have stops := List.head?_dropWhile_not isSpaceOrTab s.reverse
    rw [Option.mem_def.mp last] at stops
    simpa using stops

/-! ### From both sides -/

/-- In front of a character that stays, all characters stay. -/
theorem trimEnd_append_cons {c : Char} (ink : isSpaceOrTab c = false) (front rest : List Char) :
    trimEnd (front ++ c :: rest) = front ++ c :: trimEnd rest := by
  induction rest using List.reverseRecOn with
  | nil => simp [trimEnd_eq, ink]
  | append_singleton rest d ih =>
    rw [trimEnd_eq] at ih ⊢
    rw [← List.cons_append, ← List.append_assoc, List.rdropWhile_concat, trimEnd_eq,
      List.rdropWhile_concat]
    split
    next => exact ih
    next => simp

private theorem dropLineBreak_of_unbroken {s : List Char}
    (unbroken : ∀ next, IsLineBreak next → ¬ next <+: s) : dropLineBreak s = s := by
  unfold dropLineBreak
  split
  next rest => exact absurd ⟨rest, rfl⟩ (unbroken _ .returned)
  next rest => exact absurd ⟨rest, rfl⟩ (unbroken _ .feed)
  next => rfl

private theorem dropLineBreak_trimEnd {c : Char} (ink : isSpaceOrTab c = false) (s : List Char) :
    dropLineBreak (c :: trimEnd s) = trimEnd (dropLineBreak (c :: s)) := by
  by_cases broken : ∃ next, IsLineBreak next ∧ next <+: c :: s
  · obtain ⟨_, isBreak, rest, parts⟩ := broken
    cases isBreak with
    | feed =>
      cases parts
      rfl
    | returned =>
      cases parts
      have stays : trimEnd ('\n' :: rest) = '\n' :: trimEnd rest :=
        trimEnd_append_cons (by decide) [] rest
      change dropLineBreak ('\r' :: trimEnd ('\n' :: rest)) = _
      rw [stays]
      rfl
  · -- What is taken from the end cannot make a line break in front.
    have shorter : c :: trimEnd s <+: c :: s := by
      rw [trimEnd_eq]
      exact List.cons_prefix_cons.mpr ⟨rfl, List.rdropWhile_prefix _ _⟩
    rw [dropLineBreak_of_unbroken fun next isBreak starts =>
        broken ⟨next, isBreak, starts.trans shorter⟩,
      dropLineBreak_of_unbroken fun next isBreak starts => broken ⟨next, isBreak, starts⟩,
      ← List.nil_append (c :: s), trimEnd_append_cons ink, List.nil_append]

/-- The front and the back of a text can be trimmed in either order. -/
theorem trimStart_trimEnd (s : List Char) : trimStart (trimEnd s) = trimEnd (trimStart s) := by
  have spaces : Spaces (s.takeWhile isSpaceOrTab) := List.all_eq_true.mp List.all_takeWhile
  have parts := List.takeWhile_append_dropWhile (p := isSpaceOrTab) (l := s)
  rw [trimStart, trimStart]
  generalize s.takeWhile isSpaceOrTab = front at spaces parts
  cases back : s.dropWhile isSpaceOrTab with
  | nil =>
    rw [back, List.append_nil] at parts
    have nothing : trimEnd s = [] := by
      rw [trimEnd_eq, List.rdropWhile_eq_nil_iff, ← parts]
      exact spaces
    rw [nothing]
    rfl
  | cons c rest =>
    have ink : isSpaceOrTab c = false := by
      have stops := List.head?_dropWhile_not isSpaceOrTab s
      simpa [back] using stops
    rw [back] at parts
    have skipped : (front ++ c :: trimEnd rest).dropWhile isSpaceOrTab = c :: trimEnd rest := by
      rw [List.dropWhile_append_of_pos spaces, List.dropWhile_cons_of_neg (by simp [ink])]
    rw [← parts, trimEnd_append_cons ink, skipped, dropLineBreak_trimEnd ink]

/-! ### Between two marks -/

def trimFront (marked : Bool) (s : List Char) : List Char := if marked then trimStart s else s

def trimBack (marked : Bool) (s : List Char) : List Char := if marked then trimEnd s else s

private theorem trimFront_trimBack (startMarked endMarked : Bool) (s : List Char) :
    trimFront startMarked (trimBack endMarked s) =
      trimBack endMarked (trimFront startMarked s) := by
  cases startMarked with
  | false => rfl
  | true =>
    cases endMarked with
    | false => rfl
    | true => exact trimStart_trimEnd s

private theorem trims_trimBack (startMarked endMarked : Bool) (s : List Char) :
    Trims startMarked endMarked s (trimBack endMarked (trimFront startMarked s)) := by
  obtain ⟨front, parts, takesFront⟩ : ∃ front, s = front ++ trimFront startMarked s ∧
      if startMarked then TakesFront front (trimFront startMarked s) else front = [] := by
    cases startMarked with
    | false => exact ⟨[], rfl, rfl⟩
    | true => exact exists_trimStart s
  generalize trimFront startMarked s = rest at parts takesFront
  obtain ⟨back, parts', takesBack⟩ : ∃ back, rest = trimBack endMarked rest ++ back ∧
      if endMarked then TakesBack (trimBack endMarked rest) back else back = [] := by
    cases endMarked with
    | false => exact ⟨[], (List.append_nil _).symm, rfl⟩
    | true => exact exists_trimEnd rest
  refine ⟨front, back, ?_, ?_, takesBack⟩
  · rw [List.append_assoc, ← parts', ← parts]
  · rw [← parts']
    exact takesFront

theorem trimmed_eq (startMarked endMarked : Bool) (t : Token) :
    trimmed startMarked endMarked t =
      if t.kind = .text then
        { t with
          content := String.ofList (trimBack endMarked (trimFront startMarked t.content.toList)) }
      else t := by
  obtain ⟨kind, _⟩ := t
  cases kind <;> rfl

/-! ### Marks in a row of tokens -/

/-- The token before is marked at its end. -/
def startMarked (tokens : List Token) : Nat → Bool
  | 0 => false
  | i + 1 => tokens[i]?.any (·.trimAfter)

/-- The token after is marked at its start. -/
def endMarked (tokens : List Token) (i : Nat) : Bool := tokens[i + 1]?.any (·.trimBefore)

private theorem getElem?_trimAll (marked : Bool) (tokens : List Token) (i : Nat) :
    (trimAll marked tokens)[i]? = tokens[i]?.map
      (trimmed (if i = 0 then marked else startMarked tokens i) (endMarked tokens i)) := by
  induction tokens generalizing marked i with
  | nil => rfl
  | cons t rest ih =>
    rw [trimAll]
    cases i with
    | zero => cases rest <;> rfl
    | succ i =>
      rw [List.getElem?_cons_succ, List.getElem?_cons_succ, ih]
      cases i <;> rfl

private theorem getElem?_tokenize (s : String) (i : Nat) :
    (tokenize s)[i]? =
      (scan s)[i]?.map (trimmed (startMarked (scan s) i) (endMarked (scan s) i)) := by
  rw [tokenize, getElem?_trimAll]
  cases i <;> rfl

/-! ### Mark by mark -/

/-- The marks of the tokens at some indexes, carried out in the texts beside them. -/
def carryOut (tokens : List Token) (indexes : List Nat) : List Token :=
  tokens.mapIdx fun i => trimmed (startMarked tokens i && indexes.any fun j => i == j + 1)
    (endMarked tokens i && indexes.any fun j => i + 1 == j)

private theorem trim_once (trim : List Char → List Char) {first second : Bool}
    (once : ¬ (first = true ∧ second = true)) (s : List Char) :
    (let s := if first then trim s else s; if second then trim s else s) =
      if first || second then trim s else s := by
  cases first with
  | false => rfl
  | true =>
    cases second with
    | false => rfl
    | true => exact absurd ⟨rfl, rfl⟩ once

private theorem trimFront_trimFront {first second : Bool} (once : ¬ (first = true ∧ second = true))
    (s : List Char) : trimFront second (trimFront first s) = trimFront (first || second) s :=
  trim_once trimStart once s

private theorem trimBack_trimBack {first second : Bool} (once : ¬ (first = true ∧ second = true))
    (s : List Char) : trimBack second (trimBack first s) = trimBack (first || second) s :=
  trim_once trimEnd once s

/-- Whichever marks come first, a text loses the same. -/
theorem trimmed_trimmed {start start' ending ending' : Bool}
    (startOnce : ¬ (start = true ∧ start' = true)) (endOnce : ¬ (ending = true ∧ ending' = true))
    (t : Token) : trimmed start' ending' (trimmed start ending t) =
      trimmed (start || start') (ending || ending') t := by
  by_cases text : t.kind = .text
  · simp only [trimmed_eq, text, if_true, String.toList_ofList]
    rw [trimFront_trimBack, trimFront_trimFront startOnce, trimBack_trimBack endOnce]
  · simp only [trimmed_of_markup text]

private theorem trimmed_trimBefore (startMarked endMarked : Bool) (t : Token) :
    (trimmed startMarked endMarked t).trimBefore = t.trimBefore := by
  rw [trimmed_eq]
  split <;> rfl

private theorem trimmed_trimAfter (startMarked endMarked : Bool) (t : Token) :
    (trimmed startMarked endMarked t).trimAfter = t.trimAfter := by
  rw [trimmed_eq]
  split <;> rfl

private theorem startMarked_carryOut (tokens : List Token) (indexes : List Nat) (i : Nat) :
    startMarked (carryOut tokens indexes) i = startMarked tokens i := by
  cases i with
  | zero => rfl
  | succ i => simp [startMarked, carryOut, trimmed_trimAfter, Option.any_map]

private theorem endMarked_carryOut (tokens : List Token) (indexes : List Nat) (i : Nat) :
    endMarked (carryOut tokens indexes) i = endMarked tokens i := by
  simp [endMarked, carryOut, trimmed_trimBefore, Option.any_map]

private theorem carryOut_nil (tokens : List Token) : carryOut tokens [] = tokens := by
  refine List.ext_getElem? fun i => ?_
  have nothing : trimmed false false = id := by
    funext t
    rw [trimmed_eq]
    split
    next => simp [trimBack, trimFront]
    next => rfl
  simp [carryOut, nothing]

private theorem carryOut_carryOut {done others : List Nat} (disjoint : done.Disjoint others)
    (tokens : List Token) :
    carryOut (carryOut tokens done) others = carryOut tokens (done ++ others) := by
  have once {p : Nat → Bool} (one : ∀ j k, p j = true → p k = true → j = k) (marked : Bool) :
      ¬ ((marked && done.any p) = true ∧ (marked && others.any p) = true) := by
    simp only [Bool.and_eq_true, List.any_eq_true]
    rintro ⟨⟨-, j, member, here⟩, -, k, member', here'⟩
    exact disjoint member (one j k here here' ▸ member')
  refine List.ext_getElem? fun i => ?_
  rw [carryOut, carryOut, List.getElem?_mapIdx, List.getElem?_mapIdx, Option.map_map]
  rw [carryOut, List.getElem?_mapIdx, ← carryOut, startMarked_carryOut, endMarked_carryOut]
  congr 1
  funext t
  rw [Function.comp_apply, trimmed_trimmed (once (by simp; omega) _) (once (by simp) _),
    ← Bool.and_or_distrib_left, ← Bool.and_or_distrib_left, List.any_append, List.any_append]

/-- Each mark carried out once, in any order. -/
theorem foldl_carryOut (tokens : List Token) {done order : List Nat}
    (once : (done ++ order).Nodup) :
    order.foldl (fun now i => carryOut now [i]) (carryOut tokens done) =
      carryOut tokens (done ++ order) := by
  induction order generalizing done with
  | nil => rw [List.append_nil, List.foldl_nil]
  | cons i rest ih =>
    have apart : done.Disjoint [i] :=
      List.disjoint_of_subset_right (by simp) (List.disjoint_of_nodup_append once)
    have shift : done ++ i :: rest = done ++ [i] ++ rest := by simp
    rw [shift] at once ⊢
    rw [List.foldl_cons, carryOut_carryOut apart, ih once]

private theorem tokenize_eq_carryOut (s : String) {indexes : List Nat}
    (all : ∀ i < (scan s).length, i ∈ indexes) : tokenize s = carryOut (scan s) indexes := by
  refine List.ext_getElem? fun i => ?_
  rw [getElem?_tokenize, carryOut, List.getElem?_mapIdx]
  have started : (startMarked (scan s) i && indexes.any fun j => i == j + 1) =
      startMarked (scan s) i := by
    cases i with
    | zero => rfl
    | succ i =>
      cases before : (scan s)[i]? with
      | none => simp [startMarked, before]
      | some t =>
        have member : i ∈ indexes := all i (List.getElem?_eq_some_iff.mp before).1
        simp [member]
  have ended : (endMarked (scan s) i && indexes.any fun j => i + 1 == j) =
      endMarked (scan s) i := by
    cases next : (scan s)[i + 1]? with
    | none => simp [endMarked, next]
    | some t =>
      have member : i + 1 ∈ indexes := all (i + 1) (List.getElem?_eq_some_iff.mp next).1
      simp [member]
  rw [started, ended]

/-! ### The theorem -/

private theorem content_of_scan {s : String} {i : Nat} {t : Token} (scanned : (scan s)[i]? = some t)
    (text : t.kind = .text) : t.content = t.raw := by
  obtain ⟨inside, rfl⟩ := List.getElem?_eq_some_iff.mp scanned
  have parts : scan s = (scan s).take i ++ (scan s)[i] :: (scan s).drop (i + 1) := by simp
  exact (((segments_scan s).each _ _ _ parts).text text).content

/-- A token with its trim marks carried out, at an index of the tokens before that. -/
structure TrimmedAt (tokens : List Token) (i : Nat) (t t' : Token) : Prop where
  same : t' = { t with content := t'.content }
  markup : t.kind ≠ .text → t' = t
  text : t.kind = .text →
    Trims (startMarked tokens i) (endMarked tokens i) t.raw.toList t'.content.toList
  frontFirst : t.kind = .text → t'.content.toList =
    trimBack (endMarked tokens i) (trimFront (startMarked tokens i) t.raw.toList)
  backFirst : t.kind = .text → t'.content.toList =
    trimFront (startMarked tokens i) (trimBack (endMarked tokens i) t.raw.toList)

private theorem trimmedAt_of_scan {s : String} {i : Nat} {t : Token}
    (scanned : (scan s)[i]? = some t) :
    TrimmedAt (scan s) i t (trimmed (startMarked (scan s) i) (endMarked (scan s) i) t) := by
  have raw := content_of_scan scanned
  rw [trimmed_eq]
  split
  next text =>
    rw [raw text]
    refine ⟨rfl, fun markup => absurd text markup, fun _ => ?_, fun _ => ?_, fun _ => ?_⟩ <;>
      rw [String.toList_ofList]
    · exact trims_trimBack _ _ _
    · rw [trimFront_trimBack]
  next markup => exact ⟨rfl, fun _ => rfl, fun text => absurd text markup,
      fun text => absurd text markup, fun text => absurd text markup⟩

/-- Trimming changes nothing but texts, each by the marks of the tokens beside it, whichever comes
first. -/
theorem tokenize_trims (source : String) :
    (tokenize source).length = (scan source).length ∧
    (∀ i t, (scan source)[i]? = some t →
      ∃ t', (tokenize source)[i]? = some t' ∧ TrimmedAt (scan source) i t t') ∧
    ∀ order : List Nat, order.Perm (List.range (scan source).length) →
      order.foldl (fun tokens i => carryOut tokens [i]) (scan source) = tokenize source := by
  refine ⟨?_, fun i t scanned => ?_, fun order each => ?_⟩
  · rw [tokenize_eq_carryOut source fun i => List.mem_range.mpr, carryOut, List.length_mapIdx]
  · exact ⟨_, by rw [getElem?_tokenize, scanned, Option.map_some], trimmedAt_of_scan scanned⟩
  · have once : ([] ++ order).Nodup := each.nodup_iff.mpr List.nodup_range
    have all (i : Nat) (inside : i < (scan source).length) : i ∈ order :=
      each.mem_iff.mpr (List.mem_range.mpr inside)
    have run := foldl_carryOut (scan source) once
    rw [carryOut_nil, List.nil_append] at run
    rw [run, tokenize_eq_carryOut source all]

/-- Nothing but white space and line breaks, between two marks. -/
def facingSource : String := "\x7b\x7b a -\x7d\x7d \n\t\n \x7b\x7b- b \x7d\x7d"

theorem tokenize_trims_facing :
    ∃ t t', (scan facingSource)[1]? = some t ∧ (tokenize facingSource)[1]? = some t' ∧
      t'.content = "\t\n" ∧ TrimmedAt (scan facingSource) 1 t t' ∧
      [2, 0, 1].foldl (fun tokens i => carryOut tokens [i]) (scan facingSource) =
        tokenize facingSource := by
  obtain ⟨-, texts, orders⟩ := tokenize_trims facingSource
  have between : (tokenize facingSource)[1]?.map (·.content) = some "\t\n" := by decide +kernel
  obtain ⟨t, scanned⟩ : ∃ t, (scan facingSource)[1]? = some t :=
    Option.isSome_iff_exists.mp (by decide +kernel)
  obtain ⟨t', at', trims⟩ := texts 1 t scanned
  rw [at', Option.map_some, Option.some_inj] at between
  exact ⟨t, t', scanned, at', between, trims, orders [2, 0, 1] (by decide +kernel)⟩

end Token

end Liquid
