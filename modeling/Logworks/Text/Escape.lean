/-!
# One record, one line

A message is put into a line with its line feeds, carriage returns and tabs written as a
backslash and a letter, so that no message can start a second line. This file fixes

* `escapeMark` -- the single pass: what each character becomes;
* `sanitize` -- the three replacements in turn, behind a check that lets an untouched message
  through as it is (`Sanitized.unchanged`);
* `replaceInTurn`, `substitute` -- replacements one after the other, and all in one pass;
  `replaceInTurn_eq_flatMap` -- **the two are the same if no text that is put in has a mark**;
* `sanitize_text` -- so the replacements never see each other's output.
-/

namespace Logworks.Text

/-- The characters that never stand in a written message. -/
def isLineMark (c : Char) : Bool :=
  c == '\n' || c == '\r' || c == '\t'

/-- What a character of a message becomes in a line. -/
def escapeMark : Char → List Char
  | '\n' => ['\\', 'n']
  | '\r' => ['\\', 'r']
  | '\t' => ['\\', 't']
  | c => [c]

/-- Every occurrence of one character replaced by a text. -/
def replaceChar (mark : Char) (other : List Char) (cs : List Char) : List Char :=
  cs.flatMap fun c => if c = mark then other else [c]

/-- A message made fit for a line: either it needed nothing, or a new text stands for it. -/
inductive Sanitized where
  | unchanged (cs : List Char)
  | changed (cs : List Char)
  deriving DecidableEq, Repr

namespace Sanitized

def text : Sanitized → List Char
  | unchanged cs => cs
  | changed cs => cs

def isUnchanged : Sanitized → Bool
  | unchanged _ => true
  | changed _ => false

end Sanitized

/-- Line feeds first, then carriage returns, then tabs; a message without any is let through. -/
def sanitize (cs : List Char) : Sanitized :=
  if cs.any isLineMark then
    .changed (replaceChar '\t' ['\\', 't'] (replaceChar '\r' ['\\', 'r']
      (replaceChar '\n' ['\\', 'n'] cs)))
  else .unchanged cs

/-- The text a message has in a line. -/
def lineText (message : String) : List Char :=
  (sanitize message.toList).text

/-! ## Replacements in turn -/

/-- Replacements made one after the other, each all over the text. -/
def replaceInTurn (rs : List (Char × List Char)) (cs : List Char) : List Char :=
  rs.foldl (fun cs r => replaceChar r.1 r.2 cs) cs

/-- What one pass makes of a character: the text that replaces it, or the character. -/
def substitute (rs : List (Char × List Char)) (c : Char) : List Char :=
  (rs.lookup c).getD [c]

/-- No text that is put in has a mark that is replaced. -/
def IsSettled (rs : List (Char × List Char)) : Prop :=
  ∀ r ∈ rs, ∀ q ∈ rs, q.1 ∉ r.2

theorem flatMap_eq_self {f : Char → List Char} {cs : List Char} (h : ∀ c ∈ cs, f c = [c]) :
    cs.flatMap f = cs := by
  rw [List.flatMap_def, List.map_congr_left h, ← List.flatMap_def, List.flatMap_singleton']

theorem substitute_cons (r : Char × List Char) (rs : List (Char × List Char)) (c : Char) :
    substitute (r :: rs) c = if c = r.1 then r.2 else substitute rs c := by
  rw [substitute, List.lookup_cons]
  by_cases hc : c = r.1
  · rw [if_pos hc, beq_iff_eq.mpr hc, Option.getD_some]
  · rw [if_neg hc, beq_eq_false_iff_ne.mpr hc, substitute]

theorem substitute_of_no_mark {rs : List (Char × List Char)} {c : Char} (h : ∀ r ∈ rs, r.1 ≠ c) :
    substitute rs c = [c] := by
  have absent : rs.lookup c = none :=
    List.lookup_eq_none_iff.mpr fun r hr => bne_iff_ne.mpr (h r hr).symm
  rw [substitute, absent, Option.getD_none]

/-- A text without marks is left as it is. -/
theorem flatMap_substitute_eq_self {rs : List (Char × List Char)} {cs : List Char}
    (h : ∀ r ∈ rs, r.1 ∉ cs) : cs.flatMap (substitute rs) = cs :=
  flatMap_eq_self fun _ hc => substitute_of_no_mark fun r hr same => h r hr (same ▸ hc)

/-- **Replacements in turn are one pass**, if no text that is put in has a mark. -/
theorem replaceInTurn_eq_flatMap {rs : List (Char × List Char)} (h : IsSettled rs)
    (cs : List Char) : replaceInTurn rs cs = cs.flatMap (substitute rs) := by
  induction rs generalizing cs with
  | nil => exact (List.flatMap_singleton' cs).symm
  | cons r rs ih =>
    have later : IsSettled rs := fun q hq p hp =>
      h q (List.mem_cons_of_mem r hq) p (List.mem_cons_of_mem r hp)
    have kept : r.2.flatMap (substitute rs) = r.2 :=
      flatMap_substitute_eq_self fun q hq => h r List.mem_cons_self q (List.mem_cons_of_mem r hq)
    show replaceInTurn rs (replaceChar r.1 r.2 cs) = _
    rw [ih later, replaceChar, List.flatMap_assoc]
    congr 1
    funext c
    rw [substitute_cons]
    by_cases hc : c = r.1
    · rw [if_pos hc, if_pos hc, kept]
    · rw [if_neg hc, if_neg hc, List.flatMap_singleton]

/-! ## The marks of a line -/

/-- The three replacements, in the order they are made. -/
def lineMarks : List (Char × List Char) :=
  [('\n', ['\\', 'n']), ('\r', ['\\', 'r']), ('\t', ['\\', 't'])]

theorem isSettled_lineMarks : IsSettled lineMarks := by
  unfold IsSettled
  decide

theorem substitute_lineMarks : substitute lineMarks = escapeMark := by
  funext c
  unfold escapeMark
  split
  · rfl
  · rfl
  · rfl
  · rename_i feed ret tab
    refine substitute_of_no_mark ?_
    simp only [lineMarks, List.forall_mem_cons, List.not_mem_nil, false_implies, implies_true,
      and_true]
    exact ⟨Ne.symm feed, Ne.symm ret, Ne.symm tab⟩

theorem escapeMark_of_not_mark {c : Char} (h : isLineMark c = false) : escapeMark c = [c] := by
  simp only [isLineMark, Bool.or_eq_false_iff, beq_eq_false_iff_ne, ne_eq] at h
  obtain ⟨⟨h1, h2⟩, h3⟩ := h
  unfold escapeMark
  split <;> simp_all

theorem flatMap_escapeMark_of_not_any {cs : List Char} (h : cs.any isLineMark = false) :
    cs.flatMap escapeMark = cs :=
  flatMap_eq_self fun c hc => escapeMark_of_not_mark (by simpa using List.any_eq_false.mp h c hc)

/-- **Three replacements in turn are one pass.** -/
theorem replaceChar_thrice (cs : List Char) :
    replaceChar '\t' ['\\', 't'] (replaceChar '\r' ['\\', 'r']
      (replaceChar '\n' ['\\', 'n'] cs)) = cs.flatMap escapeMark := by
  rw [← substitute_lineMarks, ← replaceInTurn_eq_flatMap isSettled_lineMarks]
  rfl

theorem sanitize_text (cs : List Char) : (sanitize cs).text = cs.flatMap escapeMark := by
  unfold sanitize
  split
  · exact replaceChar_thrice cs
  · next h =>
    rw [Bool.not_eq_true] at h
    exact (flatMap_escapeMark_of_not_any h).symm

end Logworks.Text
