/-!
# Capital forms that reach the Latin capitals A to Z

Unicode gives a character's full capital form as one or more characters. Names of levels are
written with the capitals A to Z alone, so only the characters whose capital form consists of
these letters can take part in a match:

* the small letters a to z, one capital each;
* the dotless i (`ı`) and the long s (`ſ`), whose capitals are `I` and `S`;
* the sharp s and the f and s ligatures, whose capital forms have two or three letters.

Every other character is left as it is: neither it nor its capital form consists of A to Z.
-/

namespace Logworks.Text

/-- The capital form of a character, where it consists of the letters A to Z. -/
def capital (c : Char) : List Char :=
  if 'a' ≤ c ∧ c ≤ 'z' then [Char.ofNat (c.toNat - 32)]
  else match c with
    | 'ı' => ['I']
    | 'ſ' => ['S']
    | 'ß' => ['S', 'S']
    | 'ﬀ' => ['F', 'F']
    | 'ﬁ' => ['F', 'I']
    | 'ﬂ' => ['F', 'L']
    | 'ﬃ' => ['F', 'F', 'I']
    | 'ﬄ' => ['F', 'F', 'L']
    | 'ﬅ' => ['S', 'T']
    | 'ﬆ' => ['S', 'T']
    | c => [c]

/-- The capital form of a text, character by character. -/
def capitals (cs : List Char) : List Char :=
  cs.flatMap capital

example : capitals "ınfo".toList = "INFO".toList := by decide

@[simp] theorem capitals_nil : capitals [] = [] := rfl

@[simp] theorem capitals_cons (c : Char) (cs : List Char) :
    capitals (c :: cs) = capital c ++ capitals cs := rfl

theorem capitals_append (cs ds : List Char) :
    capitals (cs ++ ds) = capitals cs ++ capitals ds := by
  simp [capitals]

end Logworks.Text
