import Logworks.Text.Escape
import Mathlib.Data.List.Nodup

/-!
# Escaping the marks of a line

What becomes of a message that is put into a line can be said character by character. This file
fixes

* `replaceInTurn_perm` -- **the order of replacements is of no account**, if no text that is put in
  has a mark and no mark is replaced twice;
* `not_isLineMark_of_mem_text` -- no mark is left; `text_eq_self_iff` -- only a text without marks
  stays as it is;
* `sanitize_eq_unchanged_iff` -- and it is that one which is let through;
* `escaped_in_one_pass` -- **escaping is one pass over the characters**, and what follows from it.
-/

namespace Logworks.Text

/-! ## 1. The order of replacements -/

variable {rs qs : List (Char × List Char)}

theorem substitute_swap {r q : Char × List Char} (h : r.1 ≠ q.1) :
    substitute [r, q] = substitute [q, r] := by
  funext c
  simp only [substitute_cons]
  by_cases hr : c = r.1
  · have hq : c ≠ q.1 := hr ▸ h
    rw [if_pos hr, if_neg hq, if_pos hr]
  · rw [if_neg hr, if_neg hr]

/-- Two replacements that do not see each other's output may change places. -/
theorem replaceChar_comm {r q : Char × List Char} (h : IsSettled [r, q]) (hne : r.1 ≠ q.1)
    (cs : List Char) :
    replaceChar q.1 q.2 (replaceChar r.1 r.2 cs) = replaceChar r.1 r.2 (replaceChar q.1 q.2 cs) := by
  have swapped : IsSettled [q, r] := fun a ha b hb =>
    h a ((List.Perm.swap r q []).mem_iff.mp ha) b ((List.Perm.swap r q []).mem_iff.mp hb)
  calc
    replaceChar q.1 q.2 (replaceChar r.1 r.2 cs)
      = cs.flatMap (substitute [r, q]) := replaceInTurn_eq_flatMap h cs
    _ = cs.flatMap (substitute [q, r]) := by rw [substitute_swap hne]
    _ = replaceChar r.1 r.2 (replaceChar q.1 q.2 cs) := (replaceInTurn_eq_flatMap swapped cs).symm

/-- **The order of replacements is of no account.** -/
theorem replaceInTurn_perm (settled : IsSettled rs) (once : (rs.map Prod.fst).Nodup)
    (h : rs.Perm qs) (cs : List Char) : replaceInTurn qs cs = replaceInTurn rs cs := by
  refine (h.foldl_eq' (fun r hr q hq cs => ?_) cs).symm
  by_cases same : r = q
  · rw [same]
  · have apart : r.1 ≠ q.1 := fun he => same (List.inj_on_of_nodup_map once hr hq he)
    have pair : IsSettled [r, q] := by
      have within : ∀ p ∈ [r, q], p ∈ rs := by simp [hr, hq]
      exact fun a ha b hb => settled a (within a ha) b (within b hb)
    exact replaceChar_comm pair apart cs

/-! ## 2. What is left of the marks -/

theorem not_isLineMark_of_mem_escapeMark {c d : Char} (h : d ∈ escapeMark c) :
    isLineMark d = false := by
  unfold escapeMark at h
  split at h
  case h_4 feed ret tab =>
    obtain rfl := List.mem_singleton.mp h
    simp only [isLineMark, Bool.or_eq_false_iff, beq_eq_false_iff_ne]
    exact ⟨⟨feed, ret⟩, tab⟩
  all_goals
    simp only [List.mem_cons, List.not_mem_nil, or_false] at h
    rcases h with rfl | rfl <;> rfl

variable {cs : List Char}

theorem not_isLineMark_of_mem_text {c : Char} (h : c ∈ (sanitize cs).text) :
    isLineMark c = false := by
  rw [sanitize_text] at h
  obtain ⟨d, -, hc⟩ := List.mem_flatMap.mp h
  exact not_isLineMark_of_mem_escapeMark hc

/-- **Only a text without marks stays as it is.** -/
theorem text_eq_self_iff : (sanitize cs).text = cs ↔ cs.any isLineMark = false := by
  constructor
  · intro same
    refine List.any_eq_false.mpr fun c hc => ?_
    rw [← same] at hc
    simp [not_isLineMark_of_mem_text hc]
  · intro clean
    rw [sanitize_text, flatMap_escapeMark_of_not_any clean]

/-- **A message is let through exactly if its text stays as it is**, and then it is that message. -/
theorem sanitize_eq_unchanged_iff {given : List Char} :
    sanitize cs = .unchanged given ↔ given = cs ∧ (sanitize cs).text = cs := by
  rw [text_eq_self_iff, sanitize]
  cases h : cs.any isLineMark with
  | true => simp
  | false => simp [eq_comm]

/-! ## 3. One pass -/

/-- **Escaping is one pass over the characters.** Each becomes what `escapeMark` says, whatever the
order in which the three marks are replaced. So texts may be escaped in pieces, an escaped one is
let through as it is, no mark is left, and a message is let through exactly if it stays as it is. -/
theorem escaped_in_one_pass (cs : List Char) :
    (sanitize cs).text = cs.flatMap escapeMark ∧
    (∀ rs, lineMarks.Perm rs → replaceInTurn rs cs = (sanitize cs).text) ∧
    (∀ ds, (sanitize (cs ++ ds)).text = (sanitize cs).text ++ (sanitize ds).text) ∧
    sanitize (sanitize cs).text = .unchanged (sanitize cs).text ∧
    (∀ c ∈ (sanitize cs).text, c ≠ '\n' ∧ c ≠ '\r' ∧ c ≠ '\t') ∧
    (∀ given, sanitize cs = .unchanged given ↔ given = cs ∧ (sanitize cs).text = cs) := by
  refine ⟨sanitize_text cs, fun rs h => ?_, fun ds => ?_, ?_, fun c hc => ?_,
    fun given => sanitize_eq_unchanged_iff⟩
  · rw [replaceInTurn_perm isSettled_lineMarks (by decide) h, sanitize_text]
    exact replaceChar_thrice cs
  · simp only [sanitize_text, List.flatMap_append]
  · have clean : ((sanitize cs).text.any isLineMark) = false :=
      List.any_eq_false.mpr fun c hc => by simp [not_isLineMark_of_mem_text hc]
    exact sanitize_eq_unchanged_iff.mpr ⟨rfl, text_eq_self_iff.mpr clean⟩
  · have clean := not_isLineMark_of_mem_text hc
    simpa [isLineMark, and_assoc] using clean

/-- A message that has a backslash and an `n` already, escaped from the last mark to the first. -/
theorem escaped_in_one_pass_backwards :
    lineMarks.Perm lineMarks.reverse ∧
      replaceInTurn lineMarks.reverse ['\\', 'n', '\n', '\t'] =
        ['\\', 'n', '\\', 'n', '\\', 't'] ∧
      'n' ∈ (sanitize ['\\', 'n', '\n', '\t']).text ∧ 'n' ≠ '\n' ∧
      sanitize ['\\', 'n'] = .unchanged ['\\', 'n'] := by
  have back : lineMarks.Perm lineMarks.reverse := (List.reverse_perm lineMarks).symm
  have there : 'n' ∈ (sanitize ['\\', 'n', '\n', '\t']).text := by decide
  obtain ⟨-, order, -, -, clean, -⟩ := escaped_in_one_pass ['\\', 'n', '\n', '\t']
  obtain ⟨-, -, -, -, -, through⟩ := escaped_in_one_pass ['\\', 'n']
  exact ⟨back, (order _ back).trans (by decide), there, (clean 'n' there).1,
    (through _).mpr ⟨rfl, by decide⟩⟩

end Logworks.Text
