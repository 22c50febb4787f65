import Logworks.Json.Reader

/-!
# The tokens of a document that was written

What is written without a blank is taken apart into the tokens it was made of. This file fixes

* `Value.Readable` -- a value without doubles: what is written of it stands for nothing else;
* `Value.tokens` -- the tokens of a value;
* `scan_textLiteral` -- **a text comes back character by character**, whatever is escaped in it;
* `scan_compact` -- the tokens of a value stand before those of what is behind it;
* `tokens_render` -- **the tokens of a document are those of its value**.

NOT here: doubles, whose texts are read with a rounding of their own.
-/

namespace Logworks.Json

open Logworks.Text

/-! ## 1. Values and their tokens -/

namespace Value

mutual
/-- The value has no doubles, and its whole numbers have sixty-four bits. -/
def Readable : Value → Prop
  | null | bool _ | text _ => True
  | whole z => -0x8000000000000000 ≤ z ∧ z < 0x10000000000000000
  | double _ => False
  | array items => ReadableItems items
  | object members => ReadableMembers members

def ReadableItems : List Value → Prop
  | [] => True
  | v :: vs => Readable v ∧ ReadableItems vs

def ReadableMembers : List (String × Value) → Prop
  | [] => True
  | (_, v) :: ms => Readable v ∧ ReadableMembers ms
end

/-- A whole number as it is written. -/
def wholeParts (z : Int) : Literal := { negative := decide (z < 0), whole := digits z.natAbs }

mutual
/-- The tokens of a value; those of a double are not told. -/
def tokens : Value → List Token
  | null => [.mark, .null]
  | bool b => [.mark, .bool b]
  | whole z => [.mark, .number (wholeParts z)]
  | double _ => []
  | text s => [.text s.toList]
  | array items => .beginArray :: (itemTokens items ++ [.endArray])
  | object members => .beginObject :: (memberTokens members ++ [.endObject])

def itemTokens : List Value → List Token
  | [] => []
  | [v] => tokens v
  | v :: vs => tokens v ++ .more :: itemTokens vs

def memberTokens : List (String × Value) → List Token
  | [] => []
  | [(k, v)] => .key k.toList :: tokens v
  | (k, v) :: ms => .key k.toList :: (tokens v ++ .more :: memberTokens ms)
end

theorem itemTokens_cons_cons (v w : Value) (vs : List Value) :
    itemTokens (v :: w :: vs) = v.tokens ++ .more :: itemTokens (w :: vs) := rfl

theorem memberTokens_cons_cons (m n : String × Value) (ms : List (String × Value)) :
    memberTokens (m :: n :: ms) =
      .key m.1.toList :: (m.2.tokens ++ .more :: memberTokens (n :: ms)) := rfl

end Value

namespace Scanner

/-! ## 2. Texts -/

theorem scan_cons (s : Scanner) (c : Char) (cs : List Char) :
    s.scan (c :: cs) = (s.step c).tokens ++
      match (s.step c).next with
      | none => [.malformed]
      | some s => s.scan cs := rfl

theorem scan_go {s s' : Scanner} {c : Char} {ts : List Token} (h : s.step c = .go s' ts)
    (cs : List Char) : s.scan (c :: cs) = ts ++ s'.scan cs := by
  rw [scan_cons, h]
  rfl

/-- A character that only moves the machine. -/
theorem scan_moved {s s' : Scanner} {c : Char} (h : s.step c = .go s') (cs : List Char) :
    s.scan (c :: cs) = s'.scan cs := scan_go h cs

theorem step_text (isKey : Bool) (read : List Char) (e : Escape) (opened : List Bool) (c : Char) :
    step ⟨.text isKey read e, opened⟩ c = stepText opened isKey read e c := rfl

theorem hexDigitValue_digitChar : ∀ d < 16, hexDigitValue (Nat.digitChar d) = d := by decide

theorem isHexDigit_digitChar : ∀ d < 16, isHexDigit (Nat.digitChar d) = true := by decide

theorem utf8Size_digitChar : ∀ d < 16, (Nat.digitChar d).utf8Size = 1 := by decide

variable {opened : List Bool} {isKey : Bool} {read : List Char}

/-- A control character, by the value of its two last digits. -/
theorem scan_control {c : Char} (h : c.toNat < 0x20) (rest : List Char) :
    scan ⟨.text isKey read .none, opened⟩
        (['\\', 'u', '0', '0', Nat.digitChar (c.toNat / 16), Nat.digitChar (c.toNat % 16)] ++
          rest) =
      scan ⟨.text isKey (read ++ [c]) .none, opened⟩ rest := by
  have high : c.toNat / 16 < 16 := by omega
  have low : c.toNat % 16 < 16 := Nat.mod_lt _ (by decide)
  have value : 16 * (c.toNat / 16) + c.toNat % 16 = c.toNat := by omega
  have third : step ⟨.text isKey read (.hex ['0', '0'] 2 none), opened⟩
        (Nat.digitChar (c.toNat / 16)) =
      .go ⟨.text isKey read (.hex ['0', '0', Nat.digitChar (c.toNat / 16)] 3 none), opened⟩ := by
    rw [step_text, stepText, utf8Size_digitChar _ high]
    rfl
  have number : hexText opened isKey read none c.toNat =
      .go ⟨.text isKey (read ++ [c]) .none, opened⟩ := by
    have notTrail : isTrail c.toNat = false := by
      simp only [isTrail, Bool.and_eq_false_iff, decide_eq_false_iff_not]
      omega
    have notLead : isLead c.toNat = false := by
      simp only [isLead, Bool.and_eq_false_iff, decide_eq_false_iff_not]
      omega
    simp only [hexText, notTrail, notLead, Char.ofNat_toNat, Bool.false_eq_true, if_false]
  have fourth : step ⟨.text isKey read (.hex ['0', '0', Nat.digitChar (c.toNat / 16)] 3 none),
        opened⟩ (Nat.digitChar (c.toNat % 16)) =
      .go ⟨.text isKey (read ++ [c]) .none, opened⟩ := by
    have digits : (['0', '0', Nat.digitChar (c.toNat / 16)] ++
        [Nat.digitChar (c.toNat % 16)]).all isHexDigit = true := by
      simp only [List.cons_append, List.nil_append, List.all_cons, List.all_nil,
        isHexDigit_digitChar _ high, isHexDigit_digitChar _ low]
      rfl
    have sum : (['0', '0', Nat.digitChar (c.toNat / 16)] ++
        [Nat.digitChar (c.toNat % 16)]).foldl (fun n d => 16 * n + hexDigitValue d) 0 =
          c.toNat := by
      simp only [List.cons_append, List.nil_append, List.foldl_cons, List.foldl_nil,
        hexDigitValue_digitChar _ high, hexDigitValue_digitChar _ low]
      rw [show hexDigitValue '0' = 0 from rfl]
      omega
    rw [step_text, stepText, utf8Size_digitChar _ low, digits, sum]
    exact number
  calc _ = scan ⟨.text isKey read (.hex ['0', '0'] 2 none), opened⟩
        (Nat.digitChar (c.toNat / 16) :: Nat.digitChar (c.toNat % 16) :: rest) := rfl
    _ = _ := by rw [scan_moved third, scan_moved fourth]

/-- **An escaped character is read as the character.** -/
theorem scan_escapeChar (c : Char) (rest : List Char) :
    scan ⟨.text isKey read .none, opened⟩ (escapeChar c ++ rest) =
      scan ⟨.text isKey (read ++ [c]) .none, opened⟩ rest := by
  unfold escapeChar
  split
  · rfl
  · rfl
  · rfl
  · rfl
  · rfl
  · rfl
  · rfl
  · rename_i quote backslash _ _ _ _ _
    split
    · rename_i control
      exact scan_control control rest
    · rename_i plain
      refine scan_moved ?_ rest
      show plainText opened isKey read c = _
      rw [plainText, if_neg quote, if_neg backslash, if_neg plain]

theorem scan_escaped (cs rest : List Char) :
    scan ⟨.text isKey read .none, opened⟩ (cs.flatMap escapeChar ++ rest) =
      scan ⟨.text isKey (read ++ cs) .none, opened⟩ rest := by
  induction cs generalizing read with
  | nil => rw [List.append_nil]; rfl
  | cons c cs ih =>
    rw [List.flatMap_cons, List.append_assoc, scan_escapeChar, ih, List.append_assoc]
    rfl

/-- **A text comes back character by character.** -/
theorem scan_textLiteral (s : String) (rest : List Char) :
    scan ⟨.value, opened⟩ (textLiteral s ++ rest) =
      .text s.toList :: scan ⟨.after, opened⟩ rest := by
  calc _ = scan ⟨.text false [] .none, opened⟩ (s.toList.flatMap escapeChar ++ '"' :: rest) := by
        rw [textLiteral, List.append_assoc]
        rfl
    _ = _ := by
        rw [scan_escaped]
        rfl

theorem scan_keyLiteral {m : Mode} (hm : m = .firstKey ∨ m = .key) (k : String)
    (rest : List Char) :
    scan ⟨m, opened⟩ (textLiteral k ++ ':' :: rest) =
      .key k.toList :: scan ⟨.value, opened⟩ rest := by
  calc _ = scan ⟨.text true [] .none, opened⟩
        (k.toList.flatMap escapeChar ++ '"' :: ':' :: rest) := by
        rw [textLiteral, List.append_assoc]
        rcases hm with rfl | rfl <;> rfl
    _ = _ := by
        rw [scan_escaped]
        rfl

/-! ## 3. Numbers -/

theorem digitChar_ne_zero : ∀ n < 10, n ≠ 0 → Nat.digitChar n ≠ '0' := by decide

/-- The digits of a number start with a zero only if it is zero. -/
theorem exists_digits {n : Nat} (h : n ≠ 0) :
    ∃ d ds, digits n = d :: ds ∧ d ≠ '0' ∧ d.isDigit = true ∧ ∀ c ∈ ds, c.isDigit = true := by
  have all : ∀ c ∈ digits n, c.isDigit = true := fun c hc =>
    Nat.isDigit_of_mem_toDigits (by decide) (by decide) hc
  have first : ∃ d ds, digits n = d :: ds ∧ d ≠ '0' := by
    clear all
    induction n using Nat.strongRecOn with
    | ind n ih =>
      by_cases small : n < 10
      · exact ⟨Nat.digitChar n, [], Nat.toDigits_of_lt_base small, digitChar_ne_zero n small h⟩
      · obtain ⟨d, ds, hd, hne⟩ := ih (n / 10) (by omega) (by omega)
        refine ⟨d, ds ++ [Nat.digitChar (n % 10)], ?_, hne⟩
        rw [digits, Nat.toDigits_of_base_le (by decide) (by omega)]
        rw [digits] at hd
        rw [hd]
        rfl
  obtain ⟨d, ds, hd, hne⟩ := first
  rw [hd, List.forall_mem_cons] at all
  exact ⟨d, ds, hd, hne, all⟩

/-- What stands behind a value in a document without blanks. -/
def Parted (rest : List Char) : Prop :=
  ∀ c ∈ rest.head?, c = ',' ∨ c = ']' ∨ c = '\x7d'

theorem scan_digits {l : Literal} {ds : List Char} (h : ∀ c ∈ ds, c.isDigit = true)
    (rest : List Char) :
    scan ⟨.number .whole l, opened⟩ (ds ++ rest) =
      scan ⟨.number .whole { l with whole := l.whole ++ ds }, opened⟩ rest := by
  induction ds generalizing l with
  | nil => rw [List.append_nil]; rfl
  | cons d ds ih =>
    rw [List.forall_mem_cons] at h
    have moved : step ⟨.number .whole l, opened⟩ d =
        .go ⟨.number .whole { l with whole := l.whole ++ [d] }, opened⟩ := by
      show stepNumber opened .whole l d = _
      simp only [stepNumber, extendNumber, h.1, if_true]
    rw [List.cons_append, scan_moved moved, ih h.2]
    simp only [List.append_assoc, List.singleton_append]

/-- A number ends where the text does not go on with it. -/
theorem scan_number {part : Part} (hp : part = .zero ∨ part = .whole) (l : Literal)
    {rest : List Char} (h : Parted rest) :
    scan ⟨.number part l, opened⟩ rest = .number l :: scan ⟨.after, opened⟩ rest := by
  cases rest with
  | nil => rcases hp with rfl | rfl <;> rfl
  | cons c cs =>
    have ends : step ⟨.number part l, opened⟩ c = (afterValue opened c).after (.number l) := by
      rcases hp with rfl | rfl <;> rcases h c rfl with rfl | rfl | rfl <;> rfl
    rw [scan_cons, ends, scan_cons]
    rfl

theorem isSpace_of_isDigit {d : Char} (digit : d.isDigit = true) : isSpace d = false := by
  simp only [isSpace, Bool.or_eq_false_iff, beq_eq_false_iff_ne]
  refine ⟨⟨⟨?_, ?_⟩, ?_⟩, ?_⟩ <;> rintro rfl <;> cases digit

theorem step_value_digit {d : Char} (zero : d ≠ '0') (digit : d.isDigit = true) :
    step ⟨.value, opened⟩ d =
      .go ⟨.number .whole ⟨false, [d], [], none⟩, opened⟩ [.mark] := by
  have ne {e : Char} (he : e.isDigit = false) : d ≠ e := by
    rintro rfl
    rw [digit] at he
    cases he
  show (if isSpace d then _ else beginValue opened d) = _
  rw [isSpace_of_isDigit digit, if_neg Bool.false_ne_true, beginValue, if_neg (ne rfl),
    if_neg (ne rfl), if_neg (ne rfl), if_neg (ne rfl), if_neg zero, if_pos digit]

/-- **A whole number comes back digit by digit.** -/
theorem scan_wholeLiteral (z : Int) {rest : List Char} (h : Parted rest) :
    scan ⟨.value, opened⟩ (Value.wholeLiteral z ++ rest) =
      .mark :: .number (Value.wholeParts z) :: scan ⟨.after, opened⟩ rest := by
  by_cases zero : z = 0
  · subst zero
    calc _ = .mark :: scan ⟨.number .zero ⟨false, ['0'], [], none⟩, opened⟩ rest := rfl
      _ = _ := by
        rw [scan_number (.inl rfl) _ h]
        rfl
  · obtain ⟨d, ds, hd, hne, digit, all⟩ := exists_digits (n := z.natAbs) (by omega)
    have parts : Value.wholeParts z = ⟨decide (z < 0), d :: ds, [], none⟩ := by
      rw [Value.wholeParts, hd]
    have behind (negative : Bool) : scan ⟨.number .whole ⟨negative, [d], [], none⟩, opened⟩
        (ds ++ rest) = .number ⟨negative, d :: ds, [], none⟩ :: scan ⟨.after, opened⟩ rest := by
      rw [scan_digits all, scan_number (.inr rfl) _ h]
      rfl
    rw [parts, Value.wholeLiteral, signed, hd]
    by_cases negative : z < 0
    · rw [signOf, if_pos negative, decide_eq_true negative, ← behind true]
      have moved : step ⟨.number .sign ⟨true, [], [], none⟩, opened⟩ d =
          .go ⟨.number .whole ⟨true, [d], [], none⟩, opened⟩ := by
        show stepNumber opened .sign _ d = _
        simp only [stepNumber, extendNumber, if_neg hne, digit, if_true]
      calc _ = .mark :: scan ⟨.number .sign ⟨true, [], [], none⟩, opened⟩ (d :: (ds ++ rest)) := rfl
        _ = _ := by rw [scan_moved moved]
    · rw [signOf, if_neg negative, decide_eq_false negative, ← behind false]
      exact scan_go (step_value_digit hne digit) (ds ++ rest)

/-! ## 4. Values -/

/-- The first character of a value opens no blank and closes no bracket. -/
theorem exists_head_compact {v : Value} (h : v.Readable) :
    ∃ c cs, v.compact = c :: cs ∧ isSpace c = false ∧ c ≠ ']' := by
  cases v with
  | null => exact ⟨'n', _, rfl, rfl, by decide⟩
  | bool b => cases b with
    | true => exact ⟨'t', _, rfl, rfl, by decide⟩
    | false => exact ⟨'f', _, rfl, rfl, by decide⟩
  | double x => exact h.elim
  | text s => exact ⟨'"', _, rfl, rfl, by decide⟩
  | array items => exact ⟨'[', _, rfl, rfl, by decide⟩
  | object members => exact ⟨'\x7b', _, rfl, rfl, by decide⟩
  | whole z =>
    obtain ⟨d, ds, hd⟩ := List.exists_cons_of_ne_nil (Nat.toDigits_ne_nil (n := z.natAbs) (b := 10))
    have digit : d.isDigit = true :=
      Nat.isDigit_of_mem_toDigits (by decide) (by decide) (hd ▸ List.mem_cons_self)
    by_cases negative : z < 0
    · refine ⟨'-', digits z.natAbs, ?_, rfl, by decide⟩
      simp only [Value.compact, Value.wholeLiteral, signed, signOf, if_pos negative, List.cons_append,
        List.nil_append]
    · refine ⟨d, ds, ?_, isSpace_of_isDigit digit, by rintro rfl; cases digit⟩
      simp only [Value.compact, Value.wholeLiteral, signed, signOf, if_neg negative, digits, hd,
        Bool.false_eq_true, if_false, List.nil_append]

/-- Behind the bracket of an array a value starts as it does elsewhere. -/
theorem scan_firstItem {v : Value} (h : v.Readable) (rest : List Char) :
    scan ⟨.firstItem, opened⟩ (v.compact ++ rest) = scan ⟨.value, opened⟩ (v.compact ++ rest) := by
  obtain ⟨c, cs, hv, hspace, hc⟩ := exists_head_compact h
  have same : step ⟨.firstItem, opened⟩ c = step ⟨.value, opened⟩ c := by
    show (if isSpace c then Step.go _ else if c = ']' then _ else beginValue opened c) =
      if isSpace c then Step.go _ else beginValue opened c
    rw [hspace, if_neg Bool.false_ne_true, if_neg Bool.false_ne_true, if_neg hc]
  rw [hv, List.cons_append, scan_cons, scan_cons, same]

mutual
/-- **The tokens of a value stand before those of what is behind it.** -/
theorem scan_compact : ∀ (v : Value) (opened : List Bool) (rest : List Char), v.Readable →
    Parted rest →
    scan ⟨.value, opened⟩ (v.compact ++ rest) = v.tokens ++ scan ⟨.after, opened⟩ rest
  | .null, _, _, _, _ => rfl
  | .bool true, _, _, _, _ => rfl
  | .bool false, _, _, _, _ => rfl
  | .whole z, _, _, _, hr => scan_wholeLiteral z hr
  | .text s, _, rest, _, _ => scan_textLiteral s rest
  | .array [], _, _, _, _ => rfl
  | .array (v :: vs), opened, rest, h, _ => by
    have items := scan_compactItems (v :: vs) opened (']' :: rest) (List.cons_ne_nil _ _) h
      (by simp [Parted])
    have first : scan ⟨.firstItem, false :: opened⟩
        (Value.compactItems (v :: vs) ++ ']' :: rest) =
        scan ⟨.value, false :: opened⟩ (Value.compactItems (v :: vs) ++ ']' :: rest) := by
      cases vs with
      | nil => exact scan_firstItem h.1 _
      | cons w vs =>
        simp only [Value.compactItems, List.append_assoc, List.cons_append]
        exact scan_firstItem h.1 _
    simp only [Value.compact, Value.tokens, List.append_assoc, List.cons_append, List.nil_append]
    calc _ = .beginArray :: scan ⟨.firstItem, false :: opened⟩
          (Value.compactItems (v :: vs) ++ ']' :: rest) := rfl
      _ = _ := by
        rw [first, items]
        rfl
  | .object [], _, _, _, _ => rfl
  | .object (m :: ms), opened, rest, h, _ => by
    have members := scan_compactMembers (m :: ms) .firstKey opened ('\x7d' :: rest) (.inl rfl)
      (List.cons_ne_nil _ _) h (by simp [Parted])
    simp only [Value.compact, Value.tokens, List.append_assoc, List.cons_append, List.nil_append]
    calc _ = .beginObject :: scan ⟨.firstKey, true :: opened⟩
          (Value.compactMembers (m :: ms) ++ '\x7d' :: rest) := rfl
      _ = _ := by
        rw [members]
        rfl

theorem scan_compactItems : ∀ (vs : List Value) (opened : List Bool) (rest : List Char),
    vs ≠ [] → Value.ReadableItems vs → Parted rest →
    scan ⟨.value, false :: opened⟩ (Value.compactItems vs ++ rest) =
      Value.itemTokens vs ++ scan ⟨.after, false :: opened⟩ rest
  | [], _, _, hne, _, _ => absurd rfl hne
  | [v], _, rest, _, h, hr => scan_compact v _ rest h.1 hr
  | v :: w :: vs, opened, rest, _, h, hr => by
    have items := scan_compactItems (w :: vs) opened rest (List.cons_ne_nil _ _) h.2 hr
    simp only [Value.compactItems, Value.itemTokens, List.append_assoc, List.cons_append]
    rw [scan_compact v _ _ h.1 (by simp [Parted]), ← items]
    rfl

theorem scan_compactMembers : ∀ (ms : List (String × Value)) (mode : Mode) (opened : List Bool)
    (rest : List Char), mode = .firstKey ∨ mode = .key → ms ≠ [] → Value.ReadableMembers ms →
    Parted rest →
    scan ⟨mode, true :: opened⟩ (Value.compactMembers ms ++ rest) =
      Value.memberTokens ms ++ scan ⟨.after, true :: opened⟩ rest
  | [], _, _, _, _, hne, _, _ => absurd rfl hne
  | [(k, v)], mode, opened, rest, hm, _, h, hr => by
    simp only [Value.compactMembers, Value.memberTokens, List.append_assoc, List.cons_append]
    rw [scan_keyLiteral hm, scan_compact v _ _ h.1 hr]
  | (k, v) :: m :: ms, mode, opened, rest, hm, _, h, hr => by
    have members := scan_compactMembers (m :: ms) .key opened rest (.inr rfl)
      (List.cons_ne_nil _ _) h.2 hr
    simp only [Value.compactMembers, Value.memberTokens, List.append_assoc, List.cons_append]
    rw [scan_keyLiteral hm, scan_compact v _ _ h.1 (by simp [Parted]), ← members]
    rfl
end

end Scanner

/-- **The tokens of a document are those of its value.** -/
theorem tokens_render {v : Value} (h : v.Readable) : tokens v.render = v.tokens ++ [.done] := by
  have scanned := Scanner.scan_compact v [] [] h (fun c hc => by cases hc)
  rw [List.append_nil] at scanned
  rw [tokens, Value.render, String.toList_ofList, Scanner.start, scanned]
  rfl

end Logworks.Json
