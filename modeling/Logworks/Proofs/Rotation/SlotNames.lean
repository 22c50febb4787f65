import Logworks.Proofs.Disk.Parts
import Logworks.Rotation.Log

/-!
# The names of slots

The number of a slot stands between dots, so a name shows the number and what follows it. This
file fixes

* `Dotted` -- nothing, or a text that starts with a dot; suffixes are `Suffix`es;
* `exists_stem` -- the name of a log and those of its slots share a stem;
* `slotName_append_inj` -- **a slot's name with its suffix tells number and suffix**;
* `slotName_append_ne` -- **and is never that of the log**.
-/

namespace Logworks.Rotation

open Logworks.Disk

/-! ## 1. Numbers between dots -/

/-- Nothing, or a text that starts with a dot. -/
def Dotted (cs : List Char) : Prop := cs = [] ∨ ∃ rest, cs = '.' :: rest

theorem Dotted.append {a b : List Char} (ha : Dotted a) (hb : Dotted b) : Dotted (a ++ b) := by
  rcases ha with rfl | ⟨rest, rfl⟩
  · exact hb
  · exact .inr ⟨rest ++ b, rfl⟩

/-- What stands behind the number in the name of a half-way path. -/
theorem Dotted.half {s : String} (hs : Dotted s.toList) : Dotted (s ++ ".tmp").toList := by
  rw [String.toList_append]
  exact hs.append (.inr ⟨['t', 'm', 'p'], rfl⟩)

theorem isDigit_of_mem {i : Nat} {c : Char} (h : c ∈ Nat.toDigits 10 i) : c.isDigit = true :=
  Nat.isDigit_of_mem_toDigits (by decide) (by decide) h

theorem ne_of_mem_toDigits {i : Nat} {c e : Char} (h : c ∈ Nat.toDigits 10 i)
    (he : e.isDigit = false) : c ≠ e := by
  rintro rfl
  rw [isDigit_of_mem h] at he
  cases he

/-- The digits before a dot are found again. -/
theorem takeWhile_toDigits (i : Nat) {x : List Char} (hx : Dotted x) :
    (Nat.toDigits 10 i ++ x).takeWhile (· != '.') = Nat.toDigits 10 i := by
  have hd : ∀ c ∈ Nat.toDigits 10 i, (c != '.') = true := by
    intro c hc
    simpa using ne_of_mem_toDigits hc (e := '.') rfl
  rw [List.takeWhile_append_of_pos hd]
  rcases hx with rfl | ⟨rest, rfl⟩ <;> simp

theorem toDigits_append_inj {i j : Nat} {x y : List Char} (hx : Dotted x) (hy : Dotted y)
    (h : Nat.toDigits 10 i ++ x = Nat.toDigits 10 j ++ y) : i = j ∧ x = y := by
  have hd : Nat.toDigits 10 i = Nat.toDigits 10 j := by
    rw [← takeWhile_toDigits i hx, h, takeWhile_toDigits j hy]
  have hij : i = j :=
    calc
      i = Nat.ofDigitChars 10 (Nat.toDigits 10 i) 0 := Nat.ofDigitChars_ten_toDigits.symm
      _ = Nat.ofDigitChars 10 (Nat.toDigits 10 j) 0 := by rw [hd]
      _ = j := Nat.ofDigitChars_ten_toDigits
  rw [hd] at h
  exact ⟨hij, List.append_cancel_left h⟩

/-! ## 2. Stems -/

theorem splitLastDot?_eq_some {cs a b : List Char} (h : Path.splitLastDot? cs = some (a, b)) :
    cs = a ++ '.' :: b := by
  induction cs generalizing a b with
  | nil => simp [Path.splitLastDot?] at h
  | cons c cs ih =>
    rw [Path.splitLastDot?] at h
    split at h
    · rename_i a' b' hs
      cases h
      rw [ih hs, List.cons_append]
    · split at h
      · cases h
        rename_i hc
        rw [hc, List.nil_append]
      · cases h

/-- The stem of a name, with the dot and the extension behind it. -/
theorem stemAndExtension_eq (m : List Char) :
    ∃ tail, Dotted tail ∧ m = (Path.stemAndExtension m).1 ++ tail ∧
      tail = ((Path.stemAndExtension m).2.map ('.' :: ·)).getD [] := by
  unfold Path.stemAndExtension
  split
  · exact ⟨[], .inl rfl, by simp, rfl⟩
  · split
    · exact ⟨[], .inl rfl, by simp, rfl⟩
    · exact ⟨[], .inl rfl, by simp, rfl⟩
    · rename_i stem ext _ hs
      exact ⟨'.' :: ext, .inr ⟨ext, rfl⟩, splitLastDot?_eq_some hs, rfl⟩

/-- **The name of a log and those of its slots share their stem and what ends them.** -/
theorem exists_stem {base : Path} {m : List Char} (h : base.name? = some m) :
    ∃ stem tail, Dotted tail ∧ m = stem ++ tail ∧
      ∀ i, slotName base i = stem ++ '.' :: (Nat.toDigits 10 i ++ tail) := by
  obtain ⟨tail, ht, hm, he⟩ := stemAndExtension_eq m
  refine ⟨_, tail, ht, hm, fun i => ?_⟩
  rw [slotName, Path.stem?, Path.extension?, h, he]
  dsimp only [Option.map_some, Option.getD_some, Option.bind_some]
  cases (Path.stemAndExtension m).2 <;> simp

/-! ## 3. Names of slots -/

/-- What may stand behind the name of a slot: a dot, and no further name. -/
structure IsSuffix (s : String) : Prop where
  dot : ∃ rest, s.toList = '.' :: rest
  slash : '/' ∉ s.toList

theorem IsSuffix.ne_empty {s : String} (h : IsSuffix s) : s ≠ "" := by
  rintro rfl
  obtain ⟨rest, he⟩ := h.dot
  cases he

/-- The suffixes a file of the history may have: none, or one of those given. -/
def IsEnding (suffixes : List String) (s : String) : Prop := s = "" ∨ s ∈ suffixes

theorem IsEnding.dotted {suffixes : List String} (hs : ∀ s ∈ suffixes, IsSuffix s) {s : String}
    (h : IsEnding suffixes s) : Dotted s.toList := by
  rcases h with rfl | h
  · exact .inl rfl
  · exact .inr (hs s h).dot

theorem IsEnding.slash {suffixes : List String} (hs : ∀ s ∈ suffixes, IsSuffix s) {s : String}
    (h : IsEnding suffixes s) : '/' ∉ s.toList := by
  rcases h with rfl | h
  · simp
  · exact (hs s h).slash

variable {base : Path} {m : List Char}

/-- **Number and suffix can be told from the name.** -/
theorem slotName_append_inj (h : base.name? = some m) {i j : Nat} {s t : List Char}
    (hs : Dotted s) (ht : Dotted t) (he : slotName base i ++ s = slotName base j ++ t) :
    i = j ∧ s = t := by
  obtain ⟨stem, tail, htail, -, hslot⟩ := exists_stem h
  rw [hslot, hslot, List.append_assoc, List.append_assoc] at he
  have he' := List.append_cancel_left he
  rw [List.cons_append, List.cons_append, List.cons.injEq, List.append_assoc,
    List.append_assoc] at he'
  obtain ⟨hij, hst⟩ := toDigits_append_inj (htail.append hs) (htail.append ht) he'.2
  exact ⟨hij, List.append_cancel_left hst⟩

/-- **No slot has the name of the log.** -/
theorem slotName_append_ne (h : base.name? = some m) (i : Nat) (s : List Char) :
    slotName base i ++ s ≠ m := by
  obtain ⟨stem, tail, -, hm, hslot⟩ := exists_stem h
  intro he
  have hl := congrArg List.length he
  rw [hslot, hm] at hl
  simp only [List.length_append, List.length_cons] at hl
  omega

theorem slash_not_mem_slotName (h : base.name? = some m) (hm : '/' ∉ m) (i : Nat) :
    '/' ∉ slotName base i := by
  obtain ⟨stem, tail, -, rfl, hslot⟩ := exists_stem h
  rw [List.mem_append, not_or] at hm
  have hd : '/' ∉ Nat.toDigits 10 i := fun hc => ne_of_mem_toDigits hc rfl rfl
  rw [hslot]
  simp [hm, hd]

/-- There is a digit in the name of a slot, so it is looked up like any name. -/
theorem slotName_append_ne_dots (h : base.name? = some m) (i : Nat) (s : List Char) :
    slotName base i ++ s ≠ ['.'] ∧ slotName base i ++ s ≠ ['.', '.'] := by
  obtain ⟨stem, tail, -, -, hslot⟩ := exists_stem h
  obtain ⟨c, hc⟩ := List.exists_mem_of_ne_nil _ (Nat.toDigits_ne_nil (n := i) (b := 10))
  have hdot : c ≠ '.' := ne_of_mem_toDigits hc rfl
  have hmem : c ∈ slotName base i ++ s := by
    rw [hslot]
    simp [hc]
  refine ⟨fun he => ?_, fun he => ?_⟩
  · rw [he] at hmem
    exact hdot (List.mem_singleton.mp hmem)
  · rw [he] at hmem
    simp [hdot] at hmem

theorem slotName_ne_nil (h : base.name? = some m) (i : Nat) : slotName base i ≠ [] := by
  obtain ⟨stem, tail, -, -, hslot⟩ := exists_stem h
  rw [hslot]
  simp

end Logworks.Rotation
