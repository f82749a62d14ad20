import Liquid.Proofs.FilterRuns
import Mathlib.Tactic.SplitIfs

/-!
# Escaped texts

An escaped text holds none of the characters that begin or end markup, and an ampersand only where
an entity begins. So it can be read back: from the left, each entity is the character it stands for
and every other character is itself.

## Main result

`Filter.escape_reversible`: what is written for the text of a value has this form and is read back
as that text, so values with different texts are never escaped alike; and what is appended to a
value before it is escaped could as well be escaped on its own and appended then.

## Proof strategy

A character is written as its entity or, if it has none, as itself (`Written`). An entity begins
with an ampersand and has no other, and reading takes off one such piece at a time
(`unescaped_append`), so all laws are by induction on the text that is escaped.
-/

namespace Liquid

/-! ### Entities -/

/-- The characters that are not written as they are, and what is written for them. -/
def entities : List (Char × String) :=
  [('&', "&amp;"), ('<', "&lt;"), ('>', "&gt;"), ('\x22', "&quot;"), ('\x27', "&#39;")]

/-- Reads entities back from the left; what is none stays as it is. -/
def unescaped : List Char → List Char
  | [] => []
  | '&' :: 'a' :: 'm' :: 'p' :: ';' :: rest => '&' :: unescaped rest
  | '&' :: 'l' :: 't' :: ';' :: rest => '<' :: unescaped rest
  | '&' :: 'g' :: 't' :: ';' :: rest => '>' :: unescaped rest
  | '&' :: 'q' :: 'u' :: 'o' :: 't' :: ';' :: rest => '\x22' :: unescaped rest
  | '&' :: '#' :: '3' :: '9' :: ';' :: rest => '\x27' :: unescaped rest
  | c :: rest => c :: unescaped rest

def unescapeText (s : String) : String := String.ofList (unescaped s.toList)

/-- What is written for one character. -/
inductive Written (c : Char) : List Char → Prop where
  | entity {name : String} : (c, name) ∈ entities → Written c name.toList
  | plain : (∀ entry ∈ entities, c ≠ entry.1) → Written c [c]

theorem written_escapeChar (c : Char) : Written c (escapeChar c) := by
  unfold escapeChar
  split_ifs with ampersand less greater quote apostrophe
  · rw [beq_iff_eq.mp ampersand]
    exact .entity (by decide)
  · rw [beq_iff_eq.mp less]
    exact .entity (by decide)
  · rw [beq_iff_eq.mp greater]
    exact .entity (by decide)
  · rw [beq_iff_eq.mp quote]
    exact .entity (by decide)
  · rw [beq_iff_eq.mp apostrophe]
    exact .entity (by decide)
  · simp only [beq_iff_eq] at ampersand less greater quote apostrophe
    exact .plain (by simp [entities, ampersand, less, greater, quote, apostrophe])

/-- An entity is an ampersand and characters that are never escaped. -/
theorem exists_tail_of_entity : ∀ entry ∈ entities, ∃ tail, entry.2.toList = '&' :: tail ∧
    ∀ other ∈ entities, other.1 ∉ tail := by
  simp only [entities, List.forall_mem_cons]
  exact ⟨⟨_, rfl, by decide⟩, ⟨_, rfl, by decide⟩, ⟨_, rfl, by decide⟩, ⟨_, rfl, by decide⟩,
    ⟨_, rfl, by decide⟩, nofun⟩

private theorem unescaped_cons {c : Char} (other : c ≠ '&') (rest : List Char) :
    unescaped (c :: rest) = c :: unescaped rest := by
  rw [unescaped] <;> simp [other]

section

variable {c : Char} {piece : List Char}

/-- What is written for a character is read as that character, whatever follows. -/
theorem Written.unescaped_append (written : Written c piece) (rest : List Char) :
    unescaped (piece ++ rest) = c :: unescaped rest := by
  cases written with
  | entity listed =>
    simp only [entities, List.mem_cons, Prod.mk.injEq, List.not_mem_nil, or_false] at listed
    rcases listed with ⟨rfl, rfl⟩ | ⟨rfl, rfl⟩ | ⟨rfl, rfl⟩ | ⟨rfl, rfl⟩ | ⟨rfl, rfl⟩ <;> rfl
  | plain free => exact unescaped_cons (free ('&', "&amp;") (by decide)) rest

/-- Only the ampersand of an entity is left of the characters that have one. -/
theorem Written.eq_of_mem (written : Written c piece) (entry : Char × String)
    (listed : entry ∈ entities) (member : entry.1 ∈ piece) : entry.1 = '&' := by
  cases written with
  | entity known =>
    obtain ⟨tail, parts, free⟩ := exists_tail_of_entity _ known
    rw [parts] at member
    exact (List.mem_cons.mp member).resolve_right (free entry listed)
  | plain free => exact absurd (List.mem_singleton.mp member).symm (free entry listed)

/-- An ampersand in what is written for a character begins its entity. -/
theorem Written.begins (written : Written c piece) {front back : List Char}
    (parts : piece = front ++ '&' :: back) :
    ∃ entry ∈ entities, entry.2.toList = '&' :: back := by
  cases written with
  | @entity name known =>
    obtain ⟨tail, whole, free⟩ := exists_tail_of_entity _ known
    refine ⟨_, known, ?_⟩
    cases front with
    | nil => exact parts
    | cons d front =>
      -- Behind the first character there is no other ampersand.
      obtain ⟨-, later⟩ := List.cons.inj (whole.symm.trans parts)
      exact absurd (later ▸ by simp) (free ('&', "&amp;") (by decide))
  | plain free =>
    have member : '&' ∈ [c] := parts ▸ by simp
    exact absurd (List.mem_singleton.mp member).symm (free ('&', "&amp;") (by decide))

end

/-! ### Whole texts -/

theorem toList_escapeText (s : String) : (escapeText s).toList = s.toList.flatMap escapeChar :=
  String.toList_ofList

theorem unescapeText_escapeText (s : String) : unescapeText (escapeText s) = s := by
  have read (text : List Char) : unescaped (text.flatMap escapeChar) = text := by
    induction text with
    | nil => rfl
    | cons c rest ih =>
      rw [List.flatMap_cons, (written_escapeChar c).unescaped_append, ih]
  rw [unescapeText, toList_escapeText, read, String.ofList_toList]

private theorem escapeText_append (s t : String) :
    escapeText (s ++ t) = escapeText s ++ escapeText t := by
  rw [escapeText, String.toList_append, List.flatMap_append, String.ofList_append]
  rfl

theorem not_mem_escapeText (entry : Char × String) (listed : entry ∈ entities)
    (markup : entry.1 ≠ '&') (s : String) : entry.1 ∉ (escapeText s).toList := by
  rw [toList_escapeText, List.mem_flatMap]
  rintro ⟨c, -, member⟩
  exact markup ((written_escapeChar c).eq_of_mem entry listed member)

/-- Every ampersand of an escaped text begins an entity. -/
theorem entity_of_ampersand {text front back : List Char}
    (parts : text.flatMap escapeChar = front ++ '&' :: back) :
    ∃ entry ∈ entities, entry.2.toList <+: '&' :: back := by
  induction text generalizing front with
  | nil => simp at parts
  | cons c rest ih =>
    rw [List.flatMap_cons, List.append_eq_append_iff] at parts
    rcases parts with ⟨between, -, later⟩ | ⟨between, first, later⟩
    · exact ih later
    · -- The ampersand stands in the first piece, or right behind it.
      cases between with
      | nil => exact ih (show _ = [] ++ _ from later.symm)
      | cons d between =>
        obtain ⟨rfl, whole⟩ := List.cons.inj later
        obtain ⟨entry, listed, same⟩ := (written_escapeChar c).begins first
        exact ⟨entry, listed, same ▸ whole ▸ List.prefix_append _ _⟩

/-! ### Main result -/

namespace Filter

theorem apply_escape (v : Value) (args : List Value) (heap : Heap) :
    (apply standard "escape" v args heap).1 = .ok (.str (escapeText v.plain)) := by
  rw [apply_ok (f := escape) rfl]
  rfl

private theorem apply_append (v w : Value) (rest : List Value) (heap : Heap) :
    (apply standard "append" v (w :: rest) heap).1 = .ok (.str (v.plain ++ w.plain)) := by
  rw [apply_ok (f := append) rfl, append, Eval.bind_ok (arg_ok "append" rfl heap)]
  rfl

/-- An escaped text is safe in markup and can be read back, and escaping goes piece by piece. -/
theorem escape_reversible (v : Value) (args : List Value) :
    ∃ out : String, (∀ heap, (apply standard "escape" v args heap).1 = .ok (.str out)) ∧
      (∀ c ∈ ['<', '>', '\x22', '\x27'], c ∉ out.toList) ∧
      (∀ front back, out.toList = front ++ '&' :: back →
        ∃ entry ∈ entities, entry.2.toList <+: '&' :: back) ∧
      unescapeText out = v.plain ∧
      (∀ w others heap, (apply standard "escape" w others heap).1 = .ok (.str out) →
        w.plain = v.plain) ∧
      ∀ w others, ∃ more : String,
        (∀ heap, (apply standard "escape" w others heap).1 = .ok (.str more)) ∧
        ∀ heap, ((apply standard "append" v [w] >>= fun joined =>
          apply standard "escape" joined args) heap).1 = .ok (.str (out ++ more)) := by
  refine ⟨escapeText v.plain, apply_escape v args, ?_, fun front back parts => ?_,
    unescapeText_escapeText _, fun w others heap same => ?_,
    fun w others => ⟨escapeText w.plain, apply_escape w others, fun heap => ?_⟩⟩
  · simp only [List.forall_mem_cons]
    exact ⟨not_mem_escapeText ('<', "&lt;") (by decide) (by decide) _,
      not_mem_escapeText ('>', "&gt;") (by decide) (by decide) _,
      not_mem_escapeText ('\x22', "&quot;") (by decide) (by decide) _,
      not_mem_escapeText ('\x27', "&#39;") (by decide) (by decide) _, nofun⟩
  · rw [toList_escapeText] at parts
    exact entity_of_ampersand parts
  · rw [apply_escape] at same
    have texts : escapeText w.plain = escapeText v.plain := Value.str.inj (Except.ok.inj same)
    rw [← unescapeText_escapeText w.plain, texts, unescapeText_escapeText]
  · rw [Eval.bind_ok (Prod.ext (apply_append v w [] heap) rfl), apply_escape, Value.plain_str,
      escapeText_append]

/-- Entities that are there already are escaped once more, and lone ampersands are found again. -/
example : escapeText "<&lt;&&" = "&lt;&amp;lt;&amp;&amp;" ∧
    unescapeText "&lt;&amp;lt;&amp;&amp;" = "<&lt;&&" := by decide

end Filter

end Liquid
