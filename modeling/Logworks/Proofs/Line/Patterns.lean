import Logworks.Proofs.Line.Breaks
import Mathlib.Data.List.Chain

/-!
# Patterns read and written

A pattern is read from left to right. What is read is written back as the very same pattern, and a
list of tokens that could have been read is read back from what it is written as; a pattern is
refused exactly if the scan comes to a directive that it can make nothing of. All of this holds
whatever time directives there are. This file fixes

* `Shaped` -- what stands behind a percent sign; `IsOwn` -- the directives that are no time;
* `Meets` -- **the fault a scan from left to right comes to first**;
* `Canonical` -- lists of tokens a scan can give: no empty literal, no two in a row, and time
  directives that are accepted;
* `told_scan` -- what a scan tells is so; `scan_unparse`, `scan_of_meets` -- and it tells all;
* `pattern_read_back` -- **reading and writing patterns are inverse, and the refusals are the
  faults**; a line is its tokens one behind the other.
-/

namespace Logworks.Line

open Logworks.Time Logworks.Text

/-! ## 1. Directives and faults -/

/-- What stands behind a percent sign: modifiers, and one character that is none. -/
structure Shaped (mods : List Char) (c : Char) : Prop where
  modifiers : ∀ m ∈ mods, isModifier m = true
  last : isModifier c = false

/-- The directives that are no time: a percent sign and the parts of a record, all without
modifiers. -/
def IsOwn (mods : List Char) (c : Char) : Prop := mods = [] ∧ c ∈ ['%', 'l', 'n', 'v']

instance (mods : List Char) (c : Char) : Decidable (IsOwn mods c) :=
  inferInstanceAs (Decidable (_ ∧ _))

/-- A time directive, percent sign included. -/
def timeSpec (mods : List Char) (c : Char) : List Char := '%' :: mods ++ [c]

variable {accepts : List Char → Bool}

/-- The fault a scan from left to right comes to first. -/
inductive Meets (accepts : List Char → Bool) : List Char → Refusal → Prop where
  /-- Modifiers up to the end. -/
  | dangling {mods : List Char} (modifiers : ∀ m ∈ mods, isModifier m = true) :
      Meets accepts ('%' :: mods) .dangling
  | unsupported {mods : List Char} {c : Char} (shaped : Shaped mods c) (foreign : ¬ IsOwn mods c)
      (unknown : accepts (timeSpec mods c) = false) (rest : List Char) :
      Meets accepts ('%' :: mods ++ c :: rest) (.unsupported (timeSpec mods c))
  | literal {c : Char} {cs : List Char} {r : Refusal} (plain : c ≠ '%') (later : Meets accepts cs r) :
      Meets accepts (c :: cs) r
  | directive {mods : List Char} {c : Char} {cs : List Char} {r : Refusal} (shaped : Shaped mods c)
      (known : IsOwn mods c ∨ accepts (timeSpec mods c) = true) (later : Meets accepts cs r) :
      Meets accepts ('%' :: mods ++ c :: cs) r

/-! ## 2. Lists of tokens -/

def Token.isLiteral : Token → Bool
  | literal _ => true
  | _ => false

/-- A token a scan can give. -/
def Token.Sound (accepts : List Char → Bool) : Token → Prop
  | literal text => text ≠ []
  | time spec => ∃ mods c, Shaped mods c ∧ ¬ IsOwn mods c ∧ spec = timeSpec mods c ∧
      accepts spec = true
  | _ => True

/-- A list of tokens a scan can give. -/
structure Canonical (accepts : List Char → Bool) (ts : List Token) : Prop where
  sound : ∀ t ∈ ts, t.Sound accepts
  apart : ts.IsChain fun t u => t.isLiteral = true → u.isLiteral = false

theorem Canonical.nil : Canonical accepts [] where
  sound := by simp
  apart := .nil

theorem Canonical.tail {t : Token} {ts : List Token} (h : Canonical accepts (t :: ts)) :
    Canonical accepts ts where
  sound u hu := h.sound u (List.mem_cons_of_mem _ hu)
  apart := h.apart.tail

/-- Before a token that is no literal anything may stand, and it before anything. -/
theorem Canonical.cons {t : Token} {ts : List Token} (h : Canonical accepts ts)
    (sound : t.Sound accepts) (other : t.isLiteral = false) : Canonical accepts (t :: ts) where
  sound := List.forall_mem_cons.mpr ⟨sound, h.sound⟩
  apart := h.apart.cons (by simp [other])

theorem Canonical.pushLiteral (c : Char) {ts : List Token} (h : Canonical accepts ts) :
    Canonical accepts (pushLiteral c ts) := by
  have fresh (h' : ∀ t ∈ ts.head?, t.isLiteral = false) : Canonical accepts (.literal [c] :: ts) :=
    ⟨List.forall_mem_cons.mpr ⟨List.cons_ne_nil _ _, h.sound⟩, h.apart.cons fun t ht _ => h' t ht⟩
  cases ts with
  | nil => exact fresh (by simp)
  | cons t ts =>
    cases t with
    | literal text =>
      obtain ⟨sound, later⟩ := List.forall_mem_cons.mp h.sound
      obtain ⟨other, apart⟩ := List.isChain_cons.mp h.apart
      exact ⟨List.forall_mem_cons.mpr ⟨List.cons_ne_nil _ _, later⟩, apart.cons other⟩
    | level | loggerName | message | time => exact fresh (by simp [Token.isLiteral])

@[simp] theorem unparse_nil : unparse [] = [] := rfl

@[simp] theorem unparse_cons (t : Token) (ts : List Token) :
    unparse (t :: ts) = t.unparse ++ unparse ts := rfl

theorem unparse_pushLiteral (c : Char) (ts : List Token) :
    unparse (pushLiteral c ts) = doublePercent [c] ++ unparse ts := by
  unfold pushLiteral
  split
  · simp [Token.unparse, doublePercent]
  · rfl

/-! ## 3. What a scan tells is so -/

theorem not_isOwn {mods : List Char} {c : Char} (percent : mods = [] → c = '%' → False)
    (level : mods = [] → c = 'l' → False) (name : mods = [] → c = 'n' → False)
    (message : mods = [] → c = 'v' → False) : ¬ IsOwn mods c := by
  rintro ⟨none, mem⟩
  simp only [List.mem_cons, List.not_mem_nil, or_false] at mem
  rcases mem with h | h | h | h
  · exact percent none h
  · exact level none h
  · exact name none h
  · exact message none h

/-- What the outcome of a scan says of the text. -/
def Tells (accepts : List Char → Bool) (cs : List Char) : Except Refusal (List Token) → Prop
  | .ok ts => unparse ts = cs ∧ Canonical accepts ts
  | .error r => Meets accepts cs r

/-- The part of a directive that has been read. -/
def begun : Option (List Char) → List Char
  | none => []
  | some mods => '%' :: mods

theorem Tells.pushLiteral {cs : List Char} {x : Except Refusal (List Token)} {c : Char}
    (h : Tells accepts cs x) (plain : c ≠ '%') :
    Tells accepts (c :: cs) (x.map (pushLiteral c)) := by
  cases x with
  | error r => exact Meets.literal plain h
  | ok ts =>
    refine ⟨?_, h.2.pushLiteral c⟩
    rw [unparse_pushLiteral, h.1]
    simp [doublePercent, plain]

/-- A directive that is known adds what it is written as. -/
theorem Tells.directive {cs : List Char} {x : Except Refusal (List Token)} {c : Char}
    (h : Tells accepts cs x) (mods : List Char) (shaped : Shaped mods c)
    (known : IsOwn mods c ∨ accepts (timeSpec mods c) = true) {add : List Token → List Token}
    (written : ∀ ts, unparse (add ts) = timeSpec mods c ++ unparse ts)
    (canonical : ∀ ts, Canonical accepts ts → Canonical accepts (add ts)) :
    Tells accepts ('%' :: mods ++ c :: cs) (x.map add) := by
  cases x with
  | error r => exact Meets.directive shaped known h
  | ok ts =>
    refine ⟨?_, canonical ts h.2⟩
    rw [written, h.1]
    simp [timeSpec]

/-- **What a scan tells is so.** -/
theorem told_scan (mods : Option (List Char)) (cs : List Char)
    (modifiers : ∀ m ∈ mods.getD [], isModifier m = true) :
    Tells accepts (begun mods ++ cs) (scan accepts mods cs) := by
  fun_induction scan accepts mods cs with
  | case1 => exact ⟨rfl, .nil⟩
  | case2 mods =>
    rw [List.append_nil]
    exact .dangling modifiers
  | case3 cs ih => exact ih (by simp)
  | case4 c cs hc ih => exact (ih (by simp)).pushLiteral hc
  | case5 mods c cs hm ih =>
    have more : ∀ m ∈ mods ++ [c], isModifier m = true := by
      simpa [or_imp, forall_and] using ⟨modifiers, hm⟩
    simpa [begun] using ih more
  | case6 cs hm ih =>
    exact (ih (by simp)).directive [] ⟨modifiers, by simpa using hm⟩ (.inl (by decide))
      (unparse_pushLiteral '%') fun _ => .pushLiteral '%'
  | case7 cs hm ih | case8 cs hm ih | case9 cs hm ih =>
    exact (ih (by simp)).directive [] ⟨modifiers, by simpa using hm⟩ (.inl (by decide))
      (fun _ => rfl) fun _ canonical => canonical.cons trivial rfl
  | case10 mods c cs hm read known percent level name message =>
    rename_i ih
    dsimp only
    rw [if_pos known]
    have shaped : Shaped mods c := ⟨modifiers, by simpa using hm⟩
    have foreign := not_isOwn percent level name message
    exact (ih (by simp)).directive mods shaped (.inr known) (fun _ => rfl) fun _ canonical =>
      canonical.cons ⟨mods, c, shaped, foreign, rfl, known⟩ rfl
  | case11 mods c cs hm read unknown percent level name message =>
    dsimp only
    rw [if_neg unknown]
    exact Meets.unsupported ⟨modifiers, by simpa using hm⟩
      (not_isOwn percent level name message) (Bool.eq_false_iff.mpr unknown) cs

/-! ## 4. A scan tells all -/

theorem scan_modifiers {mods : List Char} (modifiers : ∀ m ∈ mods, isModifier m = true)
    (before cs : List Char) :
    scan accepts (some before) (mods ++ cs) = scan accepts (some (before ++ mods)) cs := by
  induction mods generalizing before with
  | nil => rw [List.nil_append, List.append_nil]
  | cons m mods ih =>
    obtain ⟨first, others⟩ := List.forall_mem_cons.mp modifiers
    have step : scan accepts (some before) (m :: (mods ++ cs)) =
        scan accepts (some (before ++ [m])) (mods ++ cs) := if_pos first
    rw [List.cons_append, step, ih others, List.append_assoc]
    rfl

theorem scan_begun {mods : List Char} (modifiers : ∀ m ∈ mods, isModifier m = true)
    (cs : List Char) : scan accepts none ('%' :: mods ++ cs) = scan accepts (some mods) cs := by
  rw [List.cons_append, scan, if_pos rfl, scan_modifiers modifiers]
  rfl

theorem scan_time {mods : List Char} {c : Char} (shaped : Shaped mods c) (foreign : ¬ IsOwn mods c)
    (cs : List Char) :
    scan accepts none ('%' :: mods ++ c :: cs) =
      if accepts (timeSpec mods c) then (scan accepts none cs).map (.time (timeSpec mods c) :: ·)
      else .error (.unsupported (timeSpec mods c)) := by
  rw [scan_begun shaped.modifiers, scan, if_neg (by simp [shaped.last])]
  · rfl
  all_goals
    rintro rfl rfl
    exact foreign (by decide)

/-- What a directive that is no time adds hangs on the directive alone. -/
theorem scan_own {mods : List Char} {c : Char} (own : IsOwn mods c) : ∃ add, ∀ cs,
    scan accepts none ('%' :: mods ++ c :: cs) = (scan accepts none cs).map add := by
  obtain ⟨rfl, mem⟩ := own
  simp only [List.mem_cons, List.not_mem_nil, or_false] at mem
  rcases mem with rfl | rfl | rfl | rfl <;> exact ⟨_, fun _ => rfl⟩

/-- **The fault a scan comes to is the one it tells of.** -/
theorem scan_of_meets {cs : List Char} {r : Refusal} (h : Meets accepts cs r) :
    scan accepts none cs = .error r := by
  induction h with
  | dangling modifiers =>
    rw [← List.append_nil ('%' :: _), scan_begun modifiers, scan]
  | unsupported shaped foreign unknown rest =>
    rw [scan_time shaped foreign, if_neg (by simp [unknown])]
  | literal plain later ih =>
    rw [scan, if_neg plain, ih]
    rfl
  | @directive mods c cs r shaped known later ih =>
    by_cases own : IsOwn mods c
    · obtain ⟨add, scanned⟩ := @scan_own accepts mods c own
      rw [scanned, ih]
      rfl
    · rw [scan_time shaped own, if_pos (known.resolve_left own), ih]
      rfl

theorem scan_doublePercent (text cs : List Char) :
    scan accepts none (doublePercent text ++ cs) =
      (scan accepts none cs).map fun ts => text.foldr pushLiteral ts := by
  induction text with
  | nil => cases h : scan accepts none cs <;> simp [doublePercent, h, Except.map]
  | cons c text ih =>
    have step : scan accepts none (doublePercent (c :: text) ++ cs) =
        (scan accepts none (doublePercent text ++ cs)).map (pushLiteral c) := by
      by_cases hc : c = '%'
      · subst hc
        rfl
      · have written : doublePercent (c :: text) = c :: doublePercent text := by
          simp [doublePercent, hc]
        rw [written, List.cons_append, scan, if_neg hc]
    rw [step, ih]
    cases scan accepts none cs <;> rfl

/-- Before a token that is no literal a text becomes a literal of its own. -/
theorem foldr_pushLiteral {text : List Char} (some : text ≠ []) {ts : List Token}
    (other : ∀ t ∈ ts.head?, t.isLiteral = false) :
    text.foldr pushLiteral ts = .literal text :: ts := by
  induction text with
  | nil => exact absurd rfl some
  | cons c text ih =>
    rw [List.foldr_cons]
    cases text with
    | nil =>
      cases ts with
      | nil => rfl
      | cons t ts =>
        cases t with
        | literal => cases other _ rfl
        | level | loggerName | message | time => rfl
    | cons d text =>
      rw [ih (List.cons_ne_nil _ _)]
      rfl

/-- **A list of tokens that a scan can give is what a scan of its text gives.** -/
theorem scan_unparse {ts : List Token} (h : Canonical accepts ts) :
    scan accepts none (unparse ts) = .ok ts := by
  induction ts with
  | nil => rfl
  | cons t ts ih =>
    obtain ⟨sound, -⟩ := List.forall_mem_cons.mp h.sound
    have rest := ih h.tail
    rw [unparse_cons]
    cases t with
    | literal text =>
      have other := (List.isChain_cons.mp h.apart).1
      rw [Token.unparse, scan_doublePercent, rest]
      exact congrArg Except.ok (foldr_pushLiteral sound fun t ht => other t ht rfl)
    | level | loggerName | message => exact congrArg (Except.map (_ :: ·)) rest
    | time spec =>
      obtain ⟨mods, c, shaped, foreign, rfl, known⟩ := sound
      have written : (Token.time (timeSpec mods c)).unparse ++ unparse ts =
          '%' :: mods ++ c :: unparse ts := by
        simp [Token.unparse, timeSpec]
      rw [written, scan_time shaped foreign, if_pos known, rest]
      rfl

/-! ## 5. Patterns -/

theorem parseTokens_eq_error_iff {cs : List Char} {r : Refusal} :
    parseTokens accepts cs = .error r ↔ Meets accepts cs r := by
  refine ⟨fun h => ?_, scan_of_meets⟩
  have told := @told_scan accepts none cs (by simp)
  rwa [show scan accepts none cs = .error r from h] at told

theorem parseTokens_eq_ok_iff {cs : List Char} {ts : List Token} :
    parseTokens accepts cs = .ok ts ↔ unparse ts = cs ∧ Canonical accepts ts := by
  constructor
  · intro h
    have told := @told_scan accepts none cs (by simp)
    rwa [show scan accepts none cs = .ok ts from h] at told
  · rintro ⟨rfl, canonical⟩
    exact scan_unparse canonical

namespace Formatter

theorem ofPattern_eq_error_iff {pattern : String} {e : Fault} : ofPattern pattern = .error e ↔
    ∃ r, Meets Directive.isKnown pattern.toList r ∧ e = .linePattern pattern r.message := by
  simp only [← parseTokens_eq_error_iff]
  unfold ofPattern
  split <;> simp [*, eq_comm]

theorem ofPattern_eq_ok_iff {pattern : String} {f : Formatter} : ofPattern pattern = .ok f ↔
    f.pattern = pattern ∧ unparse f.tokens = pattern.toList ∧
      Canonical Directive.isKnown f.tokens := by
  rw [← parseTokens_eq_ok_iff]
  unfold ofPattern
  obtain ⟨written, tokens⟩ := f
  split <;> simp [*, eq_comm]

end Formatter

/-- What a token shows of a record. -/
def Token.shown (dial : Dial) (p : Parts) : Token → List Char
  | literal text => text
  | level => p.level.name.toList
  | loggerName => p.logger.toList
  | message => p.message.toList.flatMap escapeMark
  | time spec => dial spec p.time

/-- A line is its tokens one behind the other. -/
theorem Formatter.toList_renderBy (f : Formatter) (dial : Dial) (p : Parts) :
    (f.renderBy dial p).toList = f.tokens.flatMap (Token.shown dial p) := by
  rw [renderBy, String.toList_ofList, renderTokens]
  congr 1
  funext t
  cases t with
  | message => exact sanitize_text p.message.toList
  | literal | level | loggerName | time => rfl

/-- **Reading and writing patterns are inverse.** Whatever time directives there are, a pattern is
refused exactly with the fault that a scan from left to right comes to first, and it is read as some
tokens exactly if it is what they are written as and they are canonical. A formatter is such a
reading with the known directives, and its lines are its tokens one behind the other, whichever way
the time is shown. -/
theorem pattern_read_back :
    (∀ (accepts : List Char → Bool) (cs : List Char),
      (∀ r, parseTokens accepts cs = .error r ↔ Meets accepts cs r) ∧
      ∀ ts, parseTokens accepts cs = .ok ts ↔ unparse ts = cs ∧ Canonical accepts ts) ∧
    (∀ pattern : String,
      (∀ e, Formatter.ofPattern pattern = .error e ↔
        ∃ r, Meets Directive.isKnown pattern.toList r ∧ e = .linePattern pattern r.message) ∧
      ∀ f, Formatter.ofPattern pattern = .ok f ↔
        f.pattern = pattern ∧ unparse f.tokens = pattern.toList ∧
          Canonical Directive.isKnown f.tokens) ∧
    ∀ (f : Formatter) (p : Parts),
      (∀ dial, (f.renderBy dial p).toList = f.tokens.flatMap (Token.shown dial p)) ∧
        (f.render p).toList = f.tokens.flatMap (Token.shown Directive.render p) :=
  ⟨fun _ _ => ⟨fun _ => parseTokens_eq_error_iff, fun _ => parseTokens_eq_ok_iff⟩,
    fun _ => ⟨fun _ => Formatter.ofPattern_eq_error_iff, fun _ => Formatter.ofPattern_eq_ok_iff⟩,
    fun f p => ⟨fun dial => f.toList_renderBy dial p, f.toList_renderBy Directive.render p⟩⟩

/-- A percent sign that is no directive belongs to the text around it. -/
example : parseTokens Directive.isKnown "50%% on %-d".toList =
    .ok [.literal "50% on ".toList, .time "%-d".toList] := by decide

end Logworks.Line
