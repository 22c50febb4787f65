import Logworks.Proofs.Disk.Parts

/-!
# Texts of one path

A path may be written in many ways: an empty part says nothing, and neither does a dot behind the
first part. This file fixes

* `route` -- what a path says, part by part; `Alike` -- two texts that say the same;
* `route_of_named` -- the route of a path with a name ends with it; `route_parent` -- what is before
  it is that of the directory;
* `route_withName` -- **what takes the place of the name comes behind the same route**.
-/

namespace Logworks.Disk.Path

/-! ## 1. What parts say -/

/-- The parts that say something: the first unless it is empty, and those behind it unless they are
void. -/
def speaking : List (List Char) → List (List Char)
  | [] => []
  | first :: rest => [first].filter (!·.isEmpty) ++ rest.filter (!isVoid ·)

/-- What a path says, part by part. -/
def route (p : Path) : List (List Char) := speaking p.parts

/-- Two texts of one path: they start at the same place and say the same. -/
structure Alike (p q : Path) : Prop where
  absolute : p.isAbsolute = q.isAbsolute
  route : p.route = q.route

theorem speaking_append {x : List Char} (h : isVoid x = false) (heads rest : List (List Char)) :
    speaking (heads ++ x :: rest) = speaking heads ++ x :: rest.filter (!isVoid ·) := by
  cases heads with
  | nil => simp [speaking, (isVoid_eq_false.mp h).1]
  | cons first init => simp [speaking, h]

theorem filter_dropVoidEnd (ps : List (List Char)) :
    (dropVoidEnd ps).filter (!isVoid ·) = ps.filter (!isVoid ·) := by
  obtain ⟨voids, hps, hvoids⟩ := exists_dropped ps
  have none : voids.filter (!isVoid ·) = [] := by simpa using hvoids
  calc
    (dropVoidEnd ps).filter (!isVoid ·)
      = (dropVoidEnd ps ++ voids).filter (!isVoid ·) := by
        rw [List.filter_append, none, List.append_nil]
    _ = ps.filter (!isVoid ·) := by rw [← hps]

theorem speaking_staying (heads : List (List Char)) : speaking (staying heads) = speaking heads := by
  cases heads with
  | nil => rfl
  | cons first rest => rw [staying, speaking, speaking, filter_dropVoidEnd]

/-- The text of a directory says what its parts say. -/
theorem route_directoryText {ps : List (List Char)} (h : ∀ part ∈ ps, '/' ∉ part) :
    route ⟨directoryText ps⟩ = speaking ps := by
  unfold directoryText
  split
  · rfl
  · by_cases none : ps = []
    · subst none
      rfl
    · exact congrArg speaking (partsOf_join none h)

/-! ## 2. The route of a path with a name -/

variable {p : Path} {heads voids : List (List Char)} {m : List Char}

/-- The directory of a path with a name says what stands before the name. -/
theorem route_parent (h : Named p heads m voids) {directory : Path}
    (hd : p.parent? = some directory) : directory.route = speaking (staying heads) := by
  rw [parent?, splitName?_of_named h] at hd
  cases hd
  exact route_directoryText (slash_not_mem_of_mem_staying h)

theorem route_of_named (h : Named p heads m voids) :
    p.route = speaking (staying heads) ++ [m] := by
  have none : voids.filter (!isVoid ·) = [] := by simpa using h.void
  rw [route, h.parts, speaking_append h.solid, none, speaking_staying]

/-- A text behind a name makes it longer, up to its first slash. -/
theorem partsOf_append_of_not_mem {nm cs s : List Char} {rest : List (List Char)}
    (h : '/' ∉ nm) (hs : partsOf cs = s :: rest) : partsOf (nm ++ cs) = (nm ++ s) :: rest := by
  induction nm with
  | nil => exact hs
  | cons c nm ih =>
    rw [List.mem_cons, not_or] at h
    exact partsOf_cons (Ne.symm h.1) (ih h.2)

/-- **What takes the place of the name comes behind the same route.** -/
theorem route_withName (h : Named p heads m voids) {nm cs s : List Char}
    {rest : List (List Char)} (hnm : '/' ∉ nm) (hs : partsOf cs = s :: rest)
    (solid : isVoid (nm ++ s) = false) :
    (p.withName (nm ++ cs)).route =
      speaking (staying heads) ++ (nm ++ s) :: rest.filter (!isVoid ·) := by
  rw [route, parts_withName_of_named h, partsOf_append_of_not_mem hnm hs, speaking_append solid]

end Logworks.Disk.Path
