import Logworks.Level
import Mathlib.Data.List.Infix
import Mathlib.Data.List.TakeWhile

/-!
# The texts that name a level

A level has one name, two of them a second one, and a text names it whatever the case of its
letters and whatever blanks are around them. Letters are compared by their capital forms, so two
characters outside ASCII take part: the dotless i is an `I`, and the ligature of two f is `FF`.
This file fixes

* `Level.names` -- the names there are; `ofCapitals?_eq_some_iff` -- those are the ones looked up;
* `Spelled` -- a text spells a name, letter by letter; `capitals_eq_iff` -- **spelling a name is
  having it for capitals**, for names without an S, an FI or an FL;
* `Padded` -- a text with blanks around it; `trim_eq_iff` -- what is trimmed is what they surround;
* `names_read` -- **a text is read as a level exactly if it spells one of its names**; every other
  one is quoted as it is in the refusal;
* `read_beyond_ascii` -- a text that is read though not all of its letters are ASCII.
-/

namespace Logworks.Level

open Text

/-! ## 1. Names -/

/-- The names of a level. -/
def names : Level → List String
  | warn => ["WARN", "WARNING"]
  | critical => ["CRITICAL", "FATAL"]
  | l => [l.name]

theorem ofCapitals?_eq_some_iff {cs : List Char} {l : Level} :
    ofCapitals? cs = some l ↔ ∃ name ∈ l.names, cs = name.toList := by
  constructor
  · intro h
    unfold ofCapitals? at h
    split at h
    case h_10 => cases h
    all_goals
      rename_i written
      obtain rfl := Option.some.inj h
      exact ⟨String.ofList cs, by rw [written]; decide, String.toList_ofList.symm⟩
  · rintro ⟨name, listed, rfl⟩
    unfold ofCapitals?
    rw [String.ofList_toList]
    cases l <;> simp only [names, Level.name, List.mem_cons, List.not_mem_nil, or_false] at listed
    case warn | critical => rcases listed with rfl | rfl <;> rfl
    all_goals
      subst listed
      rfl

/-! ## 2. Spelling -/

/-- A text spells a name in capitals: letter by letter, whatever the case of ASCII letters, with a
dotless i for an `I` and a ligature for two letters `F`. -/
inductive Spelled : List Char → List Char → Prop where
  | nil : Spelled [] []
  | letter (c : Char) {cs ds : List Char} (rest : Spelled cs ds) :
      Spelled (c :: cs) (c.toUpper :: ds)
  | dotless {cs ds : List Char} (rest : Spelled cs ds) : Spelled ('ı' :: cs) ('I' :: ds)
  | ligature {cs ds : List Char} (rest : Spelled cs ds) : Spelled ('ﬀ' :: cs) ('F' :: 'F' :: ds)

/-- The capital forms in ASCII of the other characters outside it. -/
def otherForms : List (List Char) :=
  [['S'], ['S', 'S'], ['F', 'I'], ['F', 'L'], ['F', 'F', 'I'], ['F', 'F', 'L'], ['S', 'T']]

/-- A name in ASCII in which those have no place. -/
structure Legible (ds : List Char) : Prop where
  ascii : ∀ d ∈ ds, d.toNat < 128
  others : ∀ form ∈ otherForms, ¬ form <:+: ds

theorem Legible.of_suffix {ds es : List Char} (h : Legible ds) (hs : es <:+ ds) : Legible es where
  ascii d hd := h.ascii d (hs.subset hd)
  others form hf within := h.others form hf (within.trans hs.isInfix)

theorem legible_of_mem_names {l : Level} {name : String} (listed : name ∈ l.names) :
    Legible name.toList := by
  have ascii : l.names.all (fun name => name.toList.all fun d => d.toNat < 128) = true := by
    cases l <;> decide
  have others : ∀ name ∈ l.names, ∀ form ∈ otherForms, ¬ form <:+: name.toList := by
    cases l <;> decide
  simp only [List.all_eq_true, decide_eq_true_eq] at ascii
  exact ⟨ascii name listed, others name listed⟩

theorem ofNat_sub_eq_toUpper {c : Char} (h : 'a' ≤ c ∧ c ≤ 'z') :
    Char.ofNat (c.toNat - 32) = c.toUpper := by
  have low : 97 ≤ c.toNat := h.1
  have high : c.toNat ≤ 122 := h.2
  have all : ∀ n : Fin 123, 97 ≤ n.val →
      Char.ofNat (n.val - 32) = (Char.ofNat n.val).toUpper := by decide
  have this := all ⟨c.toNat, by omega⟩ low
  rwa [Char.ofNat_toNat] at this

/-- What the capital form of a character is: in ASCII, of a character outside it, only these. -/
theorem capital_cases (c : Char) :
    capital c = [c.toUpper] ∨ c = 'ı' ∧ capital c = ['I'] ∨ c = 'ﬀ' ∧ capital c = ['F', 'F'] ∨
      capital c ∈ otherForms ∧ 128 ≤ c.toUpper.toNat := by
  unfold capital
  by_cases small : 'a' ≤ c ∧ c ≤ 'z'
  · rw [if_pos small, ofNat_sub_eq_toUpper small]
    exact .inl rfl
  · have same : c.toUpper = c := dif_neg small
    rw [if_neg small, same]
    split
    case h_1 => exact .inr (.inl ⟨rfl, rfl⟩)
    case h_4 => exact .inr (.inr (.inl ⟨rfl, rfl⟩))
    case h_11 => exact .inl rfl
    all_goals exact .inr (.inr (.inr (by decide)))

theorem capital_of_toUpper_ascii {c : Char} (h : c.toUpper.toNat < 128) :
    capital c = [c.toUpper] := by
  rcases capital_cases c with form | ⟨rfl, -⟩ | ⟨rfl, -⟩ | ⟨-, beyond⟩
  · exact form
  · exact absurd h (by decide)
  · exact absurd h (by decide)
  · exact absurd h (Nat.not_lt.mpr beyond)

/-- **Spelling a name is having it for capitals.** -/
theorem capitals_eq_iff {cs ds : List Char} (h : Legible ds) : capitals cs = ds ↔ Spelled cs ds := by
  constructor
  · intro same
    induction cs generalizing ds with
    | nil => exact same ▸ .nil
    | cons c cs ih =>
      rw [capitals_cons] at same
      have rest : Spelled cs (capitals cs) := ih (h.of_suffix ⟨_, same⟩) rfl
      rcases capital_cases c with form | ⟨rfl, form⟩ | ⟨rfl, form⟩ | ⟨form, -⟩
      · rw [form] at same
        exact same ▸ rest.letter c
      · rw [form] at same
        exact same ▸ rest.dotless
      · rw [form] at same
        exact same ▸ rest.ligature
      · exact absurd ⟨[], capitals cs, same⟩ (h.others _ form)
  · intro spelled
    induction spelled with
    | nil => rfl
    | letter c rest ih =>
      rw [capitals_cons, ih (h.of_suffix (List.suffix_cons _ _)),
        capital_of_toUpper_ascii (h.ascii _ List.mem_cons_self)]
      rfl
    | dotless rest ih =>
      rw [capitals_cons, ih (h.of_suffix (List.suffix_cons _ _))]
      rfl
    | ligature rest ih =>
      rw [capitals_cons, ih (h.of_suffix ⟨['F', 'F'], rfl⟩)]
      rfl

/-! ## 3. Blanks around a text -/

/-- A text with blanks around it. -/
def Padded (cs ts : List Char) : Prop :=
  ∃ front back, cs = front ++ ts ++ back ∧ (∀ c ∈ front, isBlank c = true) ∧
    ∀ c ∈ back, isBlank c = true

theorem exists_trimEnd_append (cs : List Char) :
    ∃ back, cs = trimEnd cs ++ back ∧ ∀ c ∈ back, isBlank c = true := by
  induction cs with
  | nil => exact ⟨[], rfl, by simp⟩
  | cons c cs ih =>
    obtain ⟨back, split, blank⟩ := ih
    rw [trimEnd]
    split
    · rename_i none
      rw [none, List.nil_append] at split
      by_cases hc : isBlank c = true
      · refine ⟨c :: cs, by simp [hc], fun d hd => ?_⟩
        rcases List.mem_cons.mp hd with rfl | hd
        · exact hc
        · exact blank d (split ▸ hd)
      · exact ⟨back, by simp [hc, split], blank⟩
    · exact ⟨back, congrArg (c :: ·) split, blank⟩

theorem padded_trim (cs : List Char) : Padded cs (trim cs) := by
  obtain ⟨back, split, blank⟩ := exists_trimEnd_append (cs.dropWhile isBlank)
  refine ⟨cs.takeWhile isBlank, back, ?_, fun c hc => List.mem_takeWhile_imp hc, blank⟩
  rw [List.append_assoc, trim, ← split, List.takeWhile_append_dropWhile]

/-- **What is trimmed is what the blanks surround**, if that is a text without any. -/
theorem trim_eq_iff {cs ts : List Char} (some : ts ≠ []) (solid : ∀ c ∈ ts, isBlank c = false) :
    trim cs = ts ↔ Padded cs ts := by
  refine ⟨fun same => same ▸ padded_trim cs, ?_⟩
  rintro ⟨front, back, rfl, leading, trailing⟩
  obtain ⟨c, rest, rfl⟩ := List.exists_cons_of_ne_nil some
  have head : isBlank c = false := solid c List.mem_cons_self
  have dropped : (front ++ c :: rest ++ back).dropWhile isBlank = c :: rest ++ back := by
    rw [List.append_assoc, List.dropWhile_append_of_pos leading, List.cons_append,
      List.dropWhile_cons_of_neg (by simp [head])]
  rw [trim, dropped, trimEnd_append_of_blank _ trailing, ← List.dropLast_concat_getLast some]
  exact trimEnd_append_singleton _ (solid _ (List.getLast_mem some))

/-! ## 4. Reading -/

/-- A text names a level: between blanks it spells one of its names. -/
def Named (s : String) (l : Level) : Prop :=
  ∃ ts, Padded s.toList ts ∧ ∃ name ∈ l.names, Spelled ts name.toList

theorem isBlank_of_toUpper {c : Char} (h : isBlank c.toUpper = false) : isBlank c = false := by
  by_cases small : 'a' ≤ c ∧ c ≤ 'z'
  · have low : 97 ≤ c.toNat := small.1
    have high : c.toNat ≤ 122 := small.2
    simp only [isBlank, Bool.or_eq_false_iff, Bool.and_eq_false_iff, decide_eq_false_iff_not,
      beq_eq_false_iff_ne]
    omega
  · rwa [show c.toUpper = c from dif_neg small] at h

/-- A text that spells a name has no blanks, as the name has none. -/
theorem Spelled.solid {ts ds : List Char} (h : Spelled ts ds) (solid : ∀ d ∈ ds, isBlank d = false) :
    ∀ c ∈ ts, isBlank c = false := by
  induction h with
  | nil => simp
  | letter c rest ih =>
    rw [List.forall_mem_cons] at solid ⊢
    exact ⟨isBlank_of_toUpper solid.1, ih solid.2⟩
  | dotless rest ih =>
    rw [List.forall_mem_cons] at solid ⊢
    exact ⟨by decide, ih solid.2⟩
  | ligature rest ih =>
    rw [List.forall_mem_cons, List.forall_mem_cons] at solid
    rw [List.forall_mem_cons]
    exact ⟨by decide, ih solid.2.2⟩

theorem Spelled.ne_nil {ts ds : List Char} (h : Spelled ts ds) (some : ds ≠ []) : ts ≠ [] := by
  cases h with
  | nil => exact absurd rfl some
  | letter | dotless | ligature => exact List.cons_ne_nil _ _

theorem name_solid {l : Level} {name : String} (listed : name ∈ l.names) :
    name.toList ≠ [] ∧ ∀ d ∈ name.toList, isBlank d = false := by
  have all : l.names.all (fun name => !name.toList.isEmpty &&
      name.toList.all fun d => !isBlank d) = true := by
    cases l <;> decide
  simp only [List.all_eq_true, Bool.and_eq_true, Bool.not_eq_true', List.isEmpty_eq_false_iff] at all
  exact all name listed

theorem parse_eq_ok_iff {s : String} {l : Level} : parse s = .ok l ↔ Named s l := by
  have looked : parse s = .ok l ↔ ofCapitals? (capitals (trim s.toList)) = some l := by
    unfold parse
    split <;> simp [*]
  rw [looked, ofCapitals?_eq_some_iff]
  constructor
  · rintro ⟨name, listed, same⟩
    exact ⟨_, padded_trim _, name, listed,
      (capitals_eq_iff (legible_of_mem_names listed)).mp same⟩
  · rintro ⟨ts, padded, name, listed, spelled⟩
    obtain ⟨some, solid⟩ := name_solid listed
    have trimmed := (trim_eq_iff (spelled.ne_nil some) (spelled.solid solid)).mpr padded
    exact ⟨name, listed, trimmed ▸ (capitals_eq_iff (legible_of_mem_names listed)).mpr spelled⟩

/-- The only refusal of a text is the one that quotes it. -/
theorem eq_of_parse_eq_error {s : String} {u : Unknown} (h : parse s = .error u) : u = ⟨s⟩ := by
  unfold parse at h
  split at h
  · cases h
  · cases h
    rfl

/-- **A text is read as a level exactly if it spells one of its names**, between blanks and whatever
the case of its letters. Every other text is refused, and the refusal quotes it as it is. -/
theorem names_read (s : String) :
    (∀ l, parse s = .ok l ↔ Named s l) ∧
    ∀ said, (∃ u, parse s = .error u ∧ u.message = said) ↔
      said = "Invalid log level: '" ++ s ++ "'" ∧ ∀ l, ¬ Named s l := by
  refine ⟨fun l => parse_eq_ok_iff, fun said => ?_⟩
  constructor
  · rintro ⟨u, refused, rfl⟩
    obtain rfl := eq_of_parse_eq_error refused
    refine ⟨rfl, fun l named => ?_⟩
    rw [parse_eq_ok_iff.mpr named] at refused
    cases refused
  · rintro ⟨rfl, none⟩
    cases h : parse s with
    | ok l => exact absurd (parse_eq_ok_iff.mp h) (none l)
    | error u =>
      obtain rfl := eq_of_parse_eq_error h
      exact ⟨_, rfl, rfl⟩

/-- **The case of ASCII letters is not all that is ignored**: a dotless i is read, too. -/
theorem read_beyond_ascii :
    ¬ ∀ (s : String) (l : Level), parse s = .ok l ↔
      ∃ ts, Padded s.toList ts ∧ ∃ name ∈ l.names, ts.map Char.toUpper = name.toList := by
  intro h
  have read : parse "ınfo" = .ok info := by decide
  obtain ⟨ts, ⟨front, back, whole, -⟩, name, listed, same⟩ := (h "ınfo" info).mp read
  obtain rfl : name = "INFO" := by simpa [names, Level.name] using listed
  -- four letters leave no room for blanks
  have long : ts.length = 4 := by
    rw [← List.length_map Char.toUpper, same]
    rfl
  have sum : 4 = front.length + ts.length + back.length := by
    rw [← List.length_append, ← List.length_append, ← whole]
    rfl
  obtain rfl : front = [] := List.eq_nil_of_length_eq_zero (by omega)
  obtain rfl : back = [] := List.eq_nil_of_length_eq_zero (by omega)
  rw [List.nil_append, List.append_nil] at whole
  rw [← whole] at same
  exact absurd same (by decide)

end Logworks.Level
