import Logworks.Proofs.Disk.Route
import Logworks.Proofs.Rotation.SlotNames

/-!
# The paths of slots

The path of a slot is that of the log with another name. So it tells its number and its ending as
its name does, whatever the name of the log is. This file fixes

* `slotPath` -- the path of a slot's file under an ending;
* `route_slotPath`, `name?_slotPath`, `parent?_slotPath` -- **it goes where the path of the log
  goes**, to the name of the slot; `beneath_parent` -- and further, if the ending has a slash;
* `slotPath_alike` -- paths of slots that say the same are those of one slot; `slotPath_eq_inj` --
  **so as texts they tell number and ending**;
* `not_alike_base` -- **and none says what the path of the log says**.
-/

namespace Logworks.Rotation

open Logworks.Disk

/-! ## 1. Slots and endings -/

/-- The path of the file that a slot holds under an ending. -/
def slotPath (base : Path) (i : Nat) (ending : String) : Path :=
  (slot base i).withSuffix ending

@[simp] theorem withSuffix_empty (p : Path) : p.withSuffix "" = p := by
  simp [Path.withSuffix]

theorem slotPath_empty (base : Path) (i : Nat) : slotPath base i "" = slot base i :=
  withSuffix_empty _

theorem slotPath_eq (base : Path) (i : Nat) (ending : String) :
    slotPath base i ending = base.withName (slotName base i ++ ending.toList) :=
  Path.withSuffix_withName base (slotName base i) ending

theorem slotPath_withSuffix (base : Path) (i : Nat) (e t : String) :
    (slotPath base i e).withSuffix t = slotPath base i (e ++ t) := by
  simp [slotPath, Path.withSuffix]

theorem variants_slot (suffixes : List String) (base : Path) (i : Nat) :
    variants suffixes (slot base i) = ("" :: suffixes).map (slotPath base i) := by
  rw [variants, List.map_cons, slotPath_empty]
  rfl

theorem mem_endings {suffixes : List String} {e : String} :
    e ∈ "" :: suffixes ↔ IsEnding suffixes e := List.mem_cons

/-! ## 2. Where they go -/

variable {base : Path} {m : List Char} {heads voids : List (List Char)} {s t : String}

/-- What stands before the first slash of an ending. -/
theorem exists_first (hs : Dotted s.toList) :
    ∃ first rest, Path.partsOf s.toList = first :: rest ∧ Dotted first := by
  rcases hs with hs | ⟨cs, hs⟩
  · exact ⟨[], [], by rw [hs, Path.partsOf], .inl rfl⟩
  · obtain ⟨p, ps, hp⟩ := List.exists_cons_of_ne_nil (Path.partsOf_ne_nil cs)
    exact ⟨'.' :: p, ps, by rw [hs, Path.partsOf_cons (by decide) hp], .inr ⟨p, rfl⟩⟩

theorem slash_not_mem_slotName_of_named (h : Path.Named base heads m voids) (i : Nat) :
    '/' ∉ slotName base i :=
  slash_not_mem_slotName (Path.name?_of_named h) (Path.slash_not_mem_of_named h) i

/-- The path of a slot goes where that of the log goes, to another name. -/
theorem route_slotPath (h : Path.Named base heads m voids) (i : Nat) {first : List Char}
    {rest : List (List Char)} (hs : Path.partsOf s.toList = first :: rest) :
    (slotPath base i s).route = Path.speaking (Path.staying heads) ++
      (slotName base i ++ first) :: rest.filter (!Path.isVoid ·) := by
  have named := Path.name?_of_named h
  have solid : Path.isVoid (slotName base i ++ first) = false :=
    Path.isVoid_eq_false.mpr
      ⟨by simp [slotName_ne_nil named], (slotName_append_ne_dots named i first).1⟩
  rw [slotPath_eq, Path.route_withName h (slash_not_mem_slotName_of_named h i) hs solid]

/-- Its name is that of the slot with the ending, if the ending has no slash. -/
theorem hasName_slotPath (h : Path.Named base heads m voids) (i : Nat) (hs : '/' ∉ s.toList) :
    Path.HasName (slotPath base i s) (Path.staying heads) (slotName base i ++ s.toList) where
  parts := by
    have one : '/' ∉ slotName base i ++ s.toList := by
      rw [List.mem_append, not_or]
      exact ⟨slash_not_mem_slotName_of_named h i, hs⟩
    rw [slotPath_eq, Path.parts_withName_of_named h, Path.partsOf_of_not_mem one]
  ne_nil := by simp [slotName_ne_nil (Path.name?_of_named h)]
  ne_dot := (slotName_append_ne_dots (Path.name?_of_named h) i _).1
  ne_dots := (slotName_append_ne_dots (Path.name?_of_named h) i _).2

theorem name?_slotPath (named : base.name? = some m) (i : Nat) (hs : '/' ∉ s.toList) :
    (slotPath base i s).name? = some (slotName base i ++ s.toList) := by
  obtain ⟨heads, voids, h⟩ := Path.exists_named named
  exact Path.name?_of_hasName (hasName_slotPath h i hs)

/-- It is beneath the directory of the log, -/
theorem beneath_parent (named : base.name? = some m) (i : Nat) (hs : Dotted s.toList)
    {directory : Path} (hd : base.parent? = some directory) :
    directory.route <+: (slotPath base i s).route := by
  obtain ⟨heads, voids, h⟩ := Path.exists_named named
  obtain ⟨first, rest, hfirst, -⟩ := exists_first hs
  rw [route_slotPath h i hfirst, Path.route_parent h hd]
  exact List.prefix_append _ _

/-- and in it if the ending has no slash. -/
theorem parent?_slotPath (named : base.name? = some m) (i : Nat) (hs : '/' ∉ s.toList) :
    (slotPath base i s).parent? = base.parent? := by
  obtain ⟨heads, voids, h⟩ := Path.exists_named named
  exact Path.parent?_withName h (hasName_slotPath h i hs)

/-! ## 3. Which of them say the same -/

/-- **Paths of slots that say the same are those of one slot**, and have one ending if the endings
have no slash. -/
theorem slotPath_alike (named : base.name? = some m) {i j : Nat} (hs : Dotted s.toList)
    (ht : Dotted t.toList) (alike : (slotPath base i s).Alike (slotPath base j t)) :
    i = j ∧ ('/' ∉ s.toList → '/' ∉ t.toList → s = t) := by
  obtain ⟨heads, voids, h⟩ := Path.exists_named named
  obtain ⟨first, rest, hfirst, dotted⟩ := exists_first hs
  obtain ⟨first', rest', hfirst', dotted'⟩ := exists_first ht
  have same := alike.route
  rw [route_slotPath h i hfirst, route_slotPath h j hfirst',
    List.append_cancel_left_eq, List.cons.injEq] at same
  obtain ⟨number, ending⟩ := slotName_append_inj named dotted dotted' same.1
  refine ⟨number, fun hs ht => ?_⟩
  rw [Path.partsOf_of_not_mem hs, List.cons.injEq] at hfirst
  rw [Path.partsOf_of_not_mem ht, List.cons.injEq] at hfirst'
  exact String.toList_inj.mp (by rw [hfirst.1, hfirst'.1, ending])

/-- **None of them says what the path of the log says.** -/
theorem not_alike_base (named : base.name? = some m) (i : Nat) (hs : Dotted s.toList) :
    ¬ (slotPath base i s).Alike base := by
  intro alike
  obtain ⟨heads, voids, h⟩ := Path.exists_named named
  obtain ⟨first, rest, hfirst, -⟩ := exists_first hs
  have same := alike.route
  rw [route_slotPath h i hfirst, Path.route_of_named h, List.append_cancel_left_eq,
    List.cons.injEq] at same
  exact slotName_append_ne named i first same.1

theorem slotPath_ne_base (named : base.name? = some m) (i : Nat) (hs : Dotted s.toList) :
    slotPath base i s ≠ base := fun same =>
  not_alike_base named i hs ⟨by rw [same], by rw [same]⟩

/-- **As texts they tell number and ending**, whatever the endings are. -/
theorem slotPath_eq_inj (named : base.name? = some m) {i j : Nat} (hs : Dotted s.toList)
    (ht : Dotted t.toList) (same : slotPath base i s = slotPath base j t) : i = j ∧ s = t := by
  obtain ⟨rfl, -⟩ := slotPath_alike named hs ht ⟨by rw [same], by rw [same]⟩
  have texts : (slot base i).chars ++ s.toList = (slot base i).chars ++ t.toList :=
    congrArg Path.chars same
  exact ⟨rfl, String.toList_inj.mp (List.append_cancel_left texts)⟩

end Logworks.Rotation
