import ContentQuery.Schema.Declared
import Mathlib.Data.List.DropRight

/-!
# How types are spelled

A declared type is spelled as a name with exclamation marks behind it, or as brackets around one, with
marks behind the closing bracket as well (`DeclaredType.Spelled`). Blanks may stand around the whole
and inside the brackets, and nowhere else. The reader takes off blanks, marks and brackets in turn and
looks at what is left; a text is read exactly if it is spelled so, and as the type that it spells
(**`DeclaredType.parse_iff_spelled`**).
-/

namespace ContentQuery

/-! ## Blanks around a text -/

namespace Text

variable {p : Char → Bool} {core cs run : List Char}

/-- A run of blanks, perhaps an empty one. -/
def Blanks (cs : List Char) : Prop := ∀ c ∈ cs, isBlank c

/-- `cs` is `core` with blanks around it. -/
def Padded (core cs : List Char) : Prop :=
  ∃ before after, Blanks before ∧ Blanks after ∧ cs = before ++ core ++ after

theorem dropEndWhile_append (hrun : ∀ c ∈ run, p c) :
    dropEndWhile p (cs ++ run) = dropEndWhile p cs := by
  have hreverse : ∀ c ∈ run.reverse, p c := fun c hc => hrun c (List.mem_reverse.mp hc)
  rw [dropEndWhile, dropEndWhile, List.reverse_append, List.dropWhile_append_of_pos hreverse]

/-- What does not end in a character to drop stays as it is. -/
theorem dropEndWhile_eq_self (hlast : ∀ c ∈ cs.getLast?, p c = false) :
    dropEndWhile p cs = cs := by
  apply List.rdropWhile_eq_self_iff.mpr
  intro hne
  simp [hlast _ (List.getLast?_eq_getLast_of_ne_nil hne)]

/-- What is dropped is a run at the end. -/
theorem exists_dropEndWhile_append (p : Char → Bool) (cs : List Char) :
    ∃ run, (∀ c ∈ run, p c) ∧ cs = dropEndWhile p cs ++ run :=
  ⟨cs.rtakeWhile p, fun _ => List.mem_rtakeWhile_imp, List.rdropWhile_append_rtakeWhile.symm⟩

/-- **Trimming** takes off blanks only. -/
theorem padded_trim (cs : List Char) : Padded (trim cs) cs := by
  obtain ⟨after, hafter, hcs⟩ := exists_dropEndWhile_append isBlank (cs.dropWhile isBlank)
  refine ⟨cs.takeWhile isBlank, after, fun c hc => List.mem_takeWhile_imp hc, hafter, ?_⟩
  rw [trim, List.append_assoc, ← hcs, List.takeWhile_append_dropWhile]

/-- **Trimming** takes off all blanks at the ends. -/
theorem Padded.trim_eq (hpadded : Padded core cs) (hfirst : ∀ c ∈ core.head?, isBlank c = false)
    (hlast : ∀ c ∈ core.getLast?, isBlank c = false) : trim cs = core := by
  obtain ⟨before, after, hbefore, hafter, rfl⟩ := hpadded
  rw [trim, List.append_assoc, List.dropWhile_append_of_pos hbefore]
  cases core with
  | nil =>
      rw [List.nil_append, List.dropWhile_eq_nil_iff.mpr hafter]
      rfl
  | cons first rest =>
      have hstop : isBlank first = false := hfirst first rfl
      rw [List.cons_append, List.dropWhile_cons_of_neg (by simp [hstop]), ← List.cons_append,
        dropEndWhile_append hafter, dropEndWhile_eq_self hlast]

end Text

open Text (Blanks Padded)

namespace DeclaredType

variable {name cs : List Char} {list : Bool} {d : DeclaredType}

/-! ## Names and marks -/

/-- A name is made of letters, digits and underscores, all of them ASCII, and there is at least one. -/
def IsName (cs : List Char) : Prop :=
  cs ≠ [] ∧ ∀ c ∈ cs,
    'a' ≤ c ∧ c ≤ 'z' ∨ 'A' ≤ c ∧ c ≤ 'Z' ∨ '0' ≤ c ∧ c ≤ '9' ∨ c = '_'

/-- A name with any number of marks behind it. -/
def Marked (name cs : List Char) : Prop := IsName name ∧ ∃ k, cs = name ++ List.replicate k '!'

/-- How a type is spelled, but for blanks around it. -/
inductive Spelled : DeclaredType → List Char → Prop
  | name {name cs : List Char} : Marked name cs → Spelled ⟨String.ofList name, false⟩ cs
  | list {name cs inside : List Char} (k : Nat) : Marked name cs → Padded cs inside →
      Spelled ⟨String.ofList name, true⟩ ('[' :: inside ++ ']' :: List.replicate k '!')

theorem isNameChar_iff {c : Char} : isNameChar c ↔
    'a' ≤ c ∧ c ≤ 'z' ∨ 'A' ≤ c ∧ c ≤ 'Z' ∨ '0' ≤ c ∧ c ≤ '9' ∨ c = '_' := by
  have hclasses : isNameChar c = (decide ('A' ≤ c ∧ c ≤ 'Z') ||
      (decide ('a' ≤ c) && decide (c ≤ 'z')) || (decide ('0' ≤ c) && decide (c ≤ '9')) ||
      c == '_') := rfl
  simp only [hclasses, Bool.or_eq_true, Bool.and_eq_true, decide_eq_true_eq, beq_iff_eq]
  grind

theorem isName_iff : IsName cs ↔ cs ≠ [] ∧ cs.all isNameChar := by
  simp only [IsName, List.all_eq_true, isNameChar_iff]

theorem IsName.ne_of_mem (h : IsName name) {c : Char} (hc : c ∈ name) : c ≠ '!' ∧ c ≠ '[' := by
  have hchar : isNameChar c := isNameChar_iff.mpr (h.2 c hc)
  constructor
  · rintro rfl
    exact absurd hchar (by decide)
  · rintro rfl
    exact absurd hchar (by decide)

/-- From the exclamation mark to the last letter no character is blank. -/
theorem isBlank_eq_false {c : Char} (hlow : 33 ≤ c.toNat) (hhigh : c.toNat ≤ 122) :
    Text.isBlank c = false := by
  simp [Text.isBlank]
  omega

theorem IsName.isBlank_eq_false (h : IsName name) {c : Char} (hc : c ∈ name) :
    Text.isBlank c = false := by
  have hchar := h.2 c hc
  simp only [Char.le_def, UInt32.le_iff_toNat_le] at hchar
  change 97 ≤ c.toNat ∧ c.toNat ≤ 122 ∨ 65 ≤ c.toNat ∧ c.toNat ≤ 90 ∨
    48 ≤ c.toNat ∧ c.toNat ≤ 57 ∨ c = '_' at hchar
  rcases hchar with hchar | hchar | hchar | rfl
  · apply DeclaredType.isBlank_eq_false <;> omega
  · apply DeclaredType.isBlank_eq_false <;> omega
  · apply DeclaredType.isBlank_eq_false <;> omega
  · decide

theorem ofName_eq_ok_iff : ofName cs list = .ok d ↔ IsName cs ∧ d = ⟨String.ofList cs, list⟩ := by
  rw [isName_iff]
  unfold ofName
  split
  · -- A bracket is no character of a name.
    rename_i hbracket
    have hname : isNameChar '[' = false := by decide
    cases cs with
    | nil => simp
    | cons c rest =>
        obtain rfl : c = '[' := Option.some.inj hbracket
        simp [hname]
  · split
    · rename_i hfault
      simp only [reduceCtorEq, false_iff]
      rintro ⟨⟨hne, hall⟩, -⟩
      simp [hne, hall] at hfault
    · rename_i hfine
      simp only [Bool.or_eq_true, List.isEmpty_iff, Bool.not_eq_true', not_or, Bool.not_eq_false]
        at hfine
      rw [Except.ok.injEq, eq_comm]
      exact ⟨fun hd => ⟨hfine, hd⟩, fun hd => hd.2⟩

/-- What is dropped are marks. -/
theorem exists_dropMarks_append (cs : List Char) :
    ∃ k, cs = dropMarks cs ++ List.replicate k '!' := by
  obtain ⟨marks, hmarks, hcs⟩ := Text.exists_dropEndWhile_append (· == '!') cs
  refine ⟨marks.length, ?_⟩
  rw [← List.eq_replicate_length.mpr fun c hc => beq_iff_eq.mp (hmarks c hc)]
  exact hcs

theorem dropMarks_append (k : Nat) : dropMarks (cs ++ List.replicate k '!') = dropMarks cs := by
  apply Text.dropEndWhile_append
  simp

theorem dropMarks_eq_self (hlast : ∀ c ∈ cs.getLast?, c ≠ '!') : dropMarks cs = cs := by
  apply Text.dropEndWhile_eq_self
  intro c hc
  simpa using hlast c hc

namespace Marked

theorem of_dropMarks (h : IsName (dropMarks cs)) : Marked (dropMarks cs) cs :=
  ⟨h, exists_dropMarks_append cs⟩

/-- Marks behind a name are dropped, and nothing else. -/
theorem dropMarks_eq (h : Marked name cs) : dropMarks cs = name := by
  obtain ⟨hname, k, rfl⟩ := h
  rw [dropMarks_append, dropMarks_eq_self]
  intro c hc
  exact (hname.ne_of_mem (List.mem_of_getLast? hc)).1

/-- No character of a marked name is blank. -/
theorem isBlank_eq_false (h : Marked name cs) {c : Char} (hc : c ∈ cs) :
    Text.isBlank c = false := by
  obtain ⟨hname, k, rfl⟩ := h
  rcases List.mem_append.mp hc with hc | hc
  · exact hname.isBlank_eq_false hc
  · rw [List.eq_of_mem_replicate hc]
    decide

theorem trim_eq (h : Marked name cs) {padded : List Char} (hpadded : Padded cs padded) :
    Text.trim padded = cs := by
  apply hpadded.trim_eq
  · intro c hc
    exact h.isBlank_eq_false (List.mem_of_head? hc)
  · intro c hc
    exact h.isBlank_eq_false (List.mem_of_getLast? hc)

end Marked

/-! ## Reading -/

/-- **What is spelled as a type** is read as that type. -/
theorem parseChars_of_spelled {padded : List Char} (h : Spelled d cs) (hpadded : Padded cs padded) :
    parseChars padded = .ok d := by
  cases h with
  | @name name _ hmarked =>
      have hname : ofName name false = .ok ⟨String.ofList name, false⟩ :=
        ofName_eq_ok_iff.mpr ⟨hmarked.1, rfl⟩
      rw [parseChars, hmarked.trim_eq hpadded, hmarked.dropMarks_eq]
      split
      · rename_i rest
        exact absurd rfl (hmarked.1.ne_of_mem List.mem_cons_self).2
      · exact hname
  | @list name cs inside k hmarked hinside =>
      have htrim : Text.trim padded = '[' :: inside ++ ']' :: List.replicate k '!' := by
        apply hpadded.trim_eq
        · intro c hc
          obtain rfl : '[' = c := by simpa using hc
          decide
        · intro c hc
          rw [List.getLast?_append_of_ne_nil _ (List.cons_ne_nil _ _)] at hc
          rcases List.mem_cons.mp (List.mem_of_getLast? hc) with rfl | hmark
          · decide
          · rw [List.eq_of_mem_replicate hmark]
            decide
      have hdrop : dropMarks (Text.trim padded) = '[' :: (inside ++ [']']) := by
        rw [htrim, List.append_cons, dropMarks_append, dropMarks_eq_self]
        · rfl
        · intro c hc
          rw [List.getLast?_concat] at hc
          obtain rfl := Option.some.inj hc
          decide
      rw [parseChars, hdrop]
      simp only [List.getLast?_concat, if_true, List.dropLast_concat]
      rw [hmarked.trim_eq hinside, hmarked.dropMarks_eq]
      exact ofName_eq_ok_iff.mpr ⟨hmarked.1, rfl⟩

/-- **What is read as a type** is spelled as it, with blanks around. -/
theorem exists_spelled_of_parseChars (h : parseChars cs = .ok d) :
    ∃ core, Spelled d core ∧ Padded core cs := by
  have hpadded := Text.padded_trim cs
  unfold parseChars at h
  split at h
  · rename_i rest hrest
    split at h
    · rename_i hclosed
      obtain ⟨inside, rfl⟩ := List.getLast?_eq_some_iff.mp hclosed
      rw [List.dropLast_concat] at h
      obtain ⟨hname, rfl⟩ := ofName_eq_ok_iff.mp h
      obtain ⟨k, htrim⟩ := exists_dropMarks_append (Text.trim cs)
      rw [hrest] at htrim
      refine ⟨Text.trim cs, ?_, hpadded⟩
      rw [htrim, ← List.cons_append, List.append_assoc, List.singleton_append]
      exact .list k (.of_dropMarks hname) (Text.padded_trim inside)
    · cases h
  · obtain ⟨hname, rfl⟩ := ofName_eq_ok_iff.mp h
    exact ⟨Text.trim cs, .name (.of_dropMarks hname), hpadded⟩

/-- **A text declares a type** exactly if it is spelled as that type, with blanks around. A text that
is spelled as no type is refused. -/
theorem parse_iff_spelled (text : String) :
    (∀ d, parse text = .ok d ↔ ∃ core, Spelled d core ∧ Padded core text.toList) ∧
      ((∃ fault, parse text = .error fault) ↔ ¬∃ d core, Spelled d core ∧ Padded core text.toList) := by
  have hread : ∀ d, parse text = .ok d ↔ ∃ core, Spelled d core ∧ Padded core text.toList := by
    intro d
    constructor
    · exact exists_spelled_of_parseChars
    · rintro ⟨core, hspelled, hpadded⟩
      exact parseChars_of_spelled hspelled hpadded
  refine ⟨hread, ?_⟩
  simp only [← hread]
  cases parse text <;> simp

example : parse " [ Tag!! ]! " = .ok ⟨"Tag", true⟩ := by decide

example : parse "[Tag !]" = .error .invalidName := by decide

end DeclaredType

end ContentQuery
