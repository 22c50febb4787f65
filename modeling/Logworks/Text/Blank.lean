/-!
# Blank characters

The characters with the Unicode property `White_Space`, and the text left when they are taken
off both ends. This file fixes

* `isBlank` -- the twenty-five blank characters;
* `trim` -- a text without its leading and trailing blanks;
* `trimEnd_append_of_blank`, `trimEnd_append_singleton` -- **exactly the blanks at the end go.**
-/

namespace Logworks.Text

/-- The characters with the property `White_Space`. -/
def isBlank (c : Char) : Bool :=
  let n := c.toNat
  (9 ≤ n && n ≤ 13) || n == 0x20 || n == 0x85 || n == 0xA0 || n == 0x1680 ||
    (0x2000 ≤ n && n ≤ 0x200A) || n == 0x2028 || n == 0x2029 || n == 0x202F || n == 0x205F ||
    n == 0x3000

/-- A text without its trailing blanks. -/
def trimEnd : List Char → List Char
  | [] => []
  | c :: cs =>
    match trimEnd cs with
    | [] => if isBlank c then [] else [c]
    | rest => c :: rest

/-- A text without its leading and trailing blanks. -/
def trim (cs : List Char) : List Char :=
  trimEnd (cs.dropWhile isBlank)

example : trim "\t off \n".toList = "off".toList := by decide

theorem trimEnd_append_of_blank (cs : List Char) {bs : List Char}
    (hb : ∀ c ∈ bs, isBlank c = true) : trimEnd (cs ++ bs) = trimEnd cs := by
  induction cs with
  | nil =>
    induction bs with
    | nil => rfl
    | cons b bs ih =>
      have hbs := ih fun c hc => hb c (List.mem_cons_of_mem _ hc)
      simp only [List.nil_append] at hbs ⊢
      simp [trimEnd, hbs, hb b List.mem_cons_self]
  | cons c cs ih => simp [trimEnd, ih]

/-- **Nothing but the end is touched**: a text that ends in a character that is not blank stays. -/
theorem trimEnd_append_singleton (cs : List Char) {c : Char} (hc : isBlank c = false) :
    trimEnd (cs ++ [c]) = cs ++ [c] := by
  induction cs with
  | nil => simp [trimEnd, hc]
  | cons d cs ih =>
    rw [List.cons_append, trimEnd, ih]
    cases cs <;> rfl

end Logworks.Text
