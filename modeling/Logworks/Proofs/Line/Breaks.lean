import Logworks.Line.Formatter

/-!
# Line breaks in a line

Of all that goes into a line only the literal texts of the pattern and the logger's name are
written as they are. This file fixes

* `Unbroken` -- a text without line feed and carriage return;
* `unbroken_lineText` -- a message is unbroken once it is fit for a line;
* `Directive.unbroken_render` -- **no time directive of a pattern breaks a line**: the one that
  could is read as the logger's name (`tail_ne_of_mem_scan`);
* `Formatter.Smooth` -- the literal texts of a pattern are unbroken, and the time as a dial shows
  it; `Formatter.smooth_of_accepted` -- **so it is with the known directives**;
* `Formatter.Smooth.count_renderBy` -- **the breaks of a line are those of the logger's name**, as
  often as it is written.
-/

namespace Logworks

open Logworks.Time Logworks.Text

/-! ## 1. Unbroken texts -/

def isBreak (c : Char) : Bool := c == '\n' || c == '\r'

/-- The text has no line feed and no carriage return. -/
def Unbroken (cs : List Char) : Prop := ∀ c ∈ cs, isBreak c = false

instance (cs : List Char) : Decidable (Unbroken cs) :=
  List.decidableBAll (isBreak · = false) cs

namespace Unbroken

theorem count_eq_zero {cs : List Char} (h : Unbroken cs) {c : Char} (hc : isBreak c = true) :
    cs.count c = 0 :=
  List.count_eq_zero.mpr fun hm => by simp [h c hm] at hc

@[simp] theorem append_iff {a b : List Char} : Unbroken (a ++ b) ↔ Unbroken a ∧ Unbroken b := by
  simp only [Unbroken, List.mem_append, or_imp, forall_and]

@[simp] theorem cons_iff {c : Char} {cs : List Char} :
    Unbroken (c :: cs) ↔ isBreak c = false ∧ Unbroken cs := by
  simp only [Unbroken, List.mem_cons, forall_eq_or_imp]

@[simp] theorem nil : Unbroken [] := fun _ h => absurd h List.not_mem_nil

theorem flatMap {α : Type} {as : List α} {f : α → List Char} (h : ∀ a ∈ as, Unbroken (f a)) :
    Unbroken (as.flatMap f) := by
  intro c hc
  obtain ⟨a, ha, hca⟩ := List.mem_flatMap.mp hc
  exact h a ha c hca

theorem replicate (n : Nat) {c : Char} (h : isBreak c = false) : Unbroken (List.replicate n c) :=
  fun _ hd => (List.eq_of_mem_replicate hd).symm ▸ h

end Unbroken

theorem isBreak_of_isDigit {c : Char} (h : c.isDigit = true) : isBreak c = false := by
  simp only [isBreak, Bool.or_eq_false_iff, beq_eq_false_iff_ne, ne_eq]
  constructor <;> rintro rfl <;> exact absurd h (by decide)

theorem unbroken_escapeMark (c : Char) : Unbroken (escapeMark c) := by
  unfold escapeMark
  split
  · decide
  · decide
  · decide
  · rename_i feed ret _
    rw [Unbroken.cons_iff, isBreak, Bool.or_eq_false_iff, beq_eq_false_iff_ne, beq_eq_false_iff_ne]
    exact ⟨⟨feed, ret⟩, .nil⟩

/-- A message is fit for a line: nothing in it breaks the line. -/
theorem unbroken_lineText (message : String) : Unbroken (lineText message) := by
  rw [lineText, sanitize_text]
  exact .flatMap fun c _ => unbroken_escapeMark c

/-! ## 2. Numbers and names -/

namespace Text

theorem unbroken_digits (n : Nat) : Unbroken (digits n) :=
  fun _ h => isBreak_of_isDigit (Nat.isDigit_of_mem_toDigits (by decide) (by decide) h)

theorem unbroken_zeroPadded (width n : Nat) : Unbroken (zeroPadded width n) :=
  Unbroken.append_iff.mpr ⟨.replicate _ rfl, unbroken_digits n⟩

theorem unbroken_signOf (plus : Bool) (z : Int) : Unbroken (signOf plus z) := by
  unfold signOf
  split
  · decide
  · split <;> decide

theorem unbroken_signed (fill : Fill) (plus : Bool) (width : Nat) (z : Int) :
    Unbroken (signed fill plus width z) := by
  cases fill with
  | none => exact Unbroken.append_iff.mpr ⟨unbroken_signOf plus z, unbroken_digits _⟩
  | zeros => exact Unbroken.append_iff.mpr ⟨unbroken_signOf plus z, unbroken_zeroPadded _ _⟩
  | blanks =>
    exact Unbroken.append_iff.mpr ⟨.replicate _ rfl,
      Unbroken.append_iff.mpr ⟨unbroken_signOf plus z, unbroken_digits _⟩⟩

end Text

namespace Time

theorem unbroken_name {names : List String} (h : ∀ s ∈ names, Unbroken s.toList) (k : Nat) :
    Unbroken (names.getD k "").toList := by
  rw [List.getD_eq_getElem?_getD]
  cases hk : names[k]? with
  | none => exact .nil
  | some s => exact h s (List.mem_of_getElem? hk)

theorem unbroken_monthName (d : Date) : Unbroken d.monthName.toList :=
  unbroken_name (by decide) _

theorem unbroken_weekdayName (d : Date) : Unbroken d.weekdayName.toList :=
  unbroken_name (by decide) _

theorem unbroken_take {cs : List Char} (h : Unbroken cs) (n : Nat) : Unbroken (cs.take n) :=
  fun c hc => h c (List.mem_of_mem_take hc)

theorem unbroken_yearText (fill : Fill) (year : Int) : Unbroken (Instant.yearText fill year) := by
  unfold Instant.yearText
  split
  · exact unbroken_digits _
  · split <;> exact unbroken_signed _ _ _ _

theorem unbroken_shortFraction (t : Instant) : Unbroken t.shortFraction := by
  unfold Instant.shortFraction
  simp only
  split
  · exact .nil
  · split
    · exact Unbroken.cons_iff.mpr ⟨rfl, unbroken_zeroPadded _ _⟩
    · split <;> exact Unbroken.cons_iff.mpr ⟨rfl, unbroken_zeroPadded _ _⟩

theorem unbroken_dateTimeText (t : Instant) : Unbroken t.dateTimeText := by
  simp [Instant.dateTimeText, unbroken_yearText, unbroken_zeroPadded, isBreak]

theorem unbroken_offsetText (t : Instant) : Unbroken t.offsetText := by
  simp only [Instant.offsetText, Unbroken.append_iff]
  exact ⟨⟨unbroken_dateTimeText t, unbroken_shortFraction t⟩, by decide⟩

/-- A digit, or one of the characters behind the digits. -/
theorem isBreak_place : ∀ n < 26, isBreak (Char.ofNat (48 + n)) = false := by
  decide

theorem unbroken_onePlace (v : Int) : Unbroken (Item.onePlace v) := by
  have h : (v % 256).toNat % 10 < 26 := by omega
  exact Unbroken.cons_iff.mpr ⟨isBreak_place _ h, .nil⟩

theorem unbroken_twoPlaces (fill : Fill) (v : Int) : Unbroken (Item.twoPlaces fill v) := by
  have tens : (v % 256).toNat / 10 < 26 := by omega
  have ones : (v % 256).toNat % 10 < 26 := by omega
  unfold Item.twoPlaces
  refine Unbroken.append_iff.mpr ⟨?_, Unbroken.cons_iff.mpr ⟨isBreak_place _ ones, .nil⟩⟩
  split
  · exact .nil
  · decide
  · exact Unbroken.cons_iff.mpr ⟨isBreak_place _ tens, .nil⟩

/-! ## 3. Directives -/

theorem unbroken_numberText (n : Number) (fill : Fill) (t : Instant) :
    Unbroken (Item.numberText n fill t) := by
  cases n with
  | year | weekYear => exact unbroken_yearText _ _
  | quarter | weekdayFromSunday | weekdayFromMonday => exact unbroken_onePlace _
  | ordinal | nanosecond | timestamp => exact unbroken_signed _ _ _ _
  | century | yearOfCentury | weekYearOfCentury | month | day | weekFromSunday | weekFromMonday |
    week | hour | hour12 | minute | second => exact unbroken_twoPlaces _ _

/-- What is shown as it stands has no break. -/
def Item.isUnbroken : Item → Bool
  | literal text | offset text => decide (Unbroken text.toList)
  | _ => true

theorem Item.unbroken_render {i : Item} (h : i.isUnbroken = true) (t : Instant) :
    Unbroken (i.render t) := by
  cases i with
  | number n fill => exact unbroken_numberText n fill t
  | literal text | offset text => exact of_decide_eq_true h
  | monthShort => exact unbroken_take (unbroken_monthName _) 3
  | monthLong => exact unbroken_monthName _
  | weekdayShort => exact unbroken_take (unbroken_weekdayName _) 3
  | weekdayLong => exact unbroken_weekdayName _
  | noon capital =>
    cases capital <;> rw [render] <;> split <;> decide
  | fraction => exact unbroken_shortFraction t
  | fractionIn places point =>
    rw [render, Unbroken.append_iff]
    exact ⟨by split <;> decide, unbroken_zeroPadded _ _⟩
  | full => exact unbroken_offsetText t
  | silent => exact .nil

namespace Directive

theorem isUnbroken_of_plainItems? {c : Char} {items : List Item} (h : plainItems? c = some items)
    (hc : c ≠ 'n') : ∀ i ∈ items, i.isUnbroken = true := by
  unfold plainItems? at h
  split at h
  all_goals first
    | exact absurd rfl hc
    | (obtain rfl := Option.some.inj h; decide)
    | cases h

theorem isUnbroken_longItems : ∀ e ∈ longItems, e.2.isUnbroken = true := by
  decide

/-- Only `n` stands for an item that is a break. -/
theorem isUnbroken_of_items? {cs : List Char} {items : List Item} (h : items? cs = some items)
    (hcs : cs ≠ ['n']) : ∀ i ∈ items, i.isUnbroken = true := by
  unfold items? at h
  split at h
  · rename_i item found
    obtain rfl := Option.some.inj h
    obtain ⟨before, behind, entries, -⟩ := List.lookup_eq_some_iff.mp found
    have listed : (cs, item) ∈ longItems := entries ▸ List.mem_append_cons_self
    rw [List.forall_mem_singleton]
    exact isUnbroken_longItems _ listed
  · split at h
    · split at h
      · obtain rfl := Option.some.inj h
        exact List.forall_mem_singleton.mpr rfl
      · exact isUnbroken_of_plainItems? h fun e => hcs (e ▸ rfl)
    · split at h
      · obtain rfl := Option.some.inj h
        exact List.forall_mem_singleton.mpr rfl
      · cases h
    · cases h

/-- **A time directive that is not `%n` breaks no line.** -/
theorem unbroken_render {spec : List Char} (h : spec.tail ≠ ['n']) (t : Instant) :
    Unbroken (render spec t) := by
  unfold render
  cases hi : items? spec.tail with
  | none => exact .nil
  | some items =>
    exact .flatMap fun i hm => Item.unbroken_render (isUnbroken_of_items? hi h i hm) t

end Directive

end Time

/-! ## 4. Patterns -/

namespace Line

theorem map_ok {ε α β : Type} {f : α → β} {x : Except ε α} {b : β} (h : x.map f = .ok b) :
    ∃ a, x = .ok a ∧ f a = b := by
  cases x with
  | error e => cases h
  | ok a => exact ⟨a, rfl, Except.ok.inj h⟩

theorem time_mem_pushLiteral {c : Char} {ts : List Token} {spec : List Char} :
    Token.time spec ∈ pushLiteral c ts → Token.time spec ∈ ts := by
  unfold pushLiteral
  split <;> simp

/-- Where a pattern says `%n` it does not mean the time. -/
theorem tail_ne_of_mem_scan {accepts : List Char → Bool} {mods : Option (List Char)}
    {cs : List Char} {ts : List Token} (h : scan accepts mods cs = .ok ts) {spec : List Char}
    (hs : Token.time spec ∈ ts) : spec.tail ≠ ['n'] := by
  fun_induction scan accepts mods cs generalizing ts with
  | case1 =>
    cases h
    cases hs
  | case2 => cases h
  | case3 cs ih => exact ih h hs
  | case4 c cs hc ih =>
    obtain ⟨rest, hrest, rfl⟩ := map_ok h
    exact ih hrest (time_mem_pushLiteral hs)
  | case5 mods c cs hm ih => exact ih h hs
  | case6 cs hm ih =>
    obtain ⟨rest, hrest, rfl⟩ := map_ok h
    exact ih hrest (time_mem_pushLiteral hs)
  | case7 cs hm ih | case8 cs hm ih | case9 cs hm ih =>
    obtain ⟨rest, hrest, rfl⟩ := map_ok h
    exact ih hrest (by simpa using hs)
  | case10 mods c cs hm read known _ _ notName _ =>
    rename_i ih
    dsimp only at h
    rw [if_pos known] at h
    obtain ⟨rest, hrest, rfl⟩ := map_ok h
    rcases List.mem_cons.mp hs with here | later
    · rw [Token.time.inj here]
      intro e
      obtain ⟨rfl, e⟩ := List.append_eq_singleton_iff.mp e |>.resolve_right (by simp)
      exact notName rfl (List.singleton_inj.mp e)
    · exact ih hrest later
  | case11 mods c cs hm read unknown =>
    dsimp only at h
    rw [if_neg unknown] at h
    cases h

/-- **The known time directives of a pattern break no line.** -/
theorem Formatter.unbroken_time {pattern : String} {f : Formatter}
    (accepted : ofPattern pattern = .ok f) {spec : List Char} (h : Token.time spec ∈ f.tokens)
    (t : Instant) : Unbroken (Directive.render spec t) := by
  unfold ofPattern at accepted
  split at accepted
  · rename_i tokens scanned
    obtain rfl := Except.ok.inj accepted
    exact Directive.unbroken_render (tail_ne_of_mem_scan scanned h) t
  · cases accepted

/-- The texts of a formatter are unbroken: the literal ones, and the directives as a dial shows
them. -/
structure Formatter.Smooth (f : Formatter) (dial : Dial) : Prop where
  literal : ∀ text, Token.literal text ∈ f.tokens → Unbroken text
  time : ∀ spec, Token.time spec ∈ f.tokens → ∀ t, Unbroken (dial spec t)

theorem Formatter.smooth_of_accepted {pattern : String} {f : Formatter}
    (accepted : ofPattern pattern = .ok f)
    (plain : ∀ text, Token.literal text ∈ f.tokens → Unbroken text) :
    f.Smooth Directive.render := ⟨plain, fun _ h t => unbroken_time accepted h t⟩

/-- Only the logger's name may break the line. -/
theorem Formatter.Smooth.unbroken_token {f : Formatter} {dial : Dial} (h : f.Smooth dial)
    (p : Parts) {t : Token} (ht : t ∈ f.tokens) (other : t ≠ .loggerName) :
    Unbroken (t.render dial p) := by
  cases t with
  | literal text => exact h.literal text ht
  | level =>
    rw [Token.render]
    cases p.level <;> decide
  | loggerName => exact absurd rfl other
  | message => exact unbroken_lineText p.message
  | time spec => exact h.time spec ht p.time

theorem count_renderTokens {dial : Dial} {ts : List Token} {p : Parts}
    (h : ∀ t ∈ ts, t ≠ .loggerName → Unbroken (t.render dial p)) {c : Char}
    (hc : isBreak c = true) :
    (renderTokens dial ts p).count c = ts.count .loggerName * p.logger.toList.count c := by
  induction ts with
  | nil => simp [renderTokens]
  | cons t ts ih =>
    have rest := ih fun t ht => h t (List.mem_cons_of_mem _ ht)
    rw [renderTokens, List.flatMap_cons, List.count_append, ← renderTokens, rest]
    by_cases ht : t = .loggerName
    · subst ht
      rw [List.count_cons_self, Nat.add_mul, Nat.one_mul, Nat.add_comm]
      rfl
    · rw [(h t List.mem_cons_self ht).count_eq_zero hc, List.count_cons_of_ne ht, Nat.zero_add]

/-- **The breaks of a line are those of the logger's name**, as often as the pattern has it. -/
theorem Formatter.Smooth.count_renderBy {f : Formatter} {dial : Dial} (h : f.Smooth dial)
    (p : Parts) {c : Char} (hc : isBreak c = true) :
    (f.renderBy dial p).toList.count c = f.tokens.count .loggerName * p.logger.toList.count c := by
  rw [renderBy, String.toList_ofList]
  exact count_renderTokens (fun t ht => h.unbroken_token p ht) hc

end Line

end Logworks
