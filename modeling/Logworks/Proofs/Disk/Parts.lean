import Logworks.Disk.Path

/-!
# The parts of a path

A path is its parts joined by slashes. Its name is the last of them, so another name may stand in
its place, in the same directory. This file fixes

* `partsOf_append_slash`, `join_partsOf`, `partsOf_join` -- parts and their text;
* `Named` -- the name is the last part that says something; `exists_named` -- a path that has a
  name has it there; `HasName` -- nothing stands behind it;
* `withSuffix_withName` -- a suffix only makes the name longer;
* `parts_withName` -- **the parts before the name stay**, but for void ones right before it;
* `parent?_withName` -- so the directory stays.
-/

namespace Logworks.Disk.Path

/-! ## 1. Parts and text -/

theorem partsOf_ne_nil (cs : List Char) : partsOf cs ≠ [] := by
  cases cs with
  | nil => simp [partsOf]
  | cons c cs =>
    rw [partsOf]
    split
    · simp
    · split <;> simp

theorem partsOf_slash (cs : List Char) : partsOf ('/' :: cs) = [] :: partsOf cs := by
  rw [partsOf, if_pos rfl]

/-- A character that is no slash belongs to the first part. -/
theorem partsOf_cons {c : Char} {cs p : List Char} {ps : List (List Char)} (hc : c ≠ '/')
    (h : partsOf cs = p :: ps) : partsOf (c :: cs) = (c :: p) :: ps := by
  rw [partsOf, if_neg hc, h]

theorem partsOf_of_not_mem {cs : List Char} (h : '/' ∉ cs) : partsOf cs = [cs] := by
  induction cs with
  | nil => rfl
  | cons c cs ih =>
    rw [List.mem_cons, not_or] at h
    exact partsOf_cons (Ne.symm h.1) (ih h.2)

theorem partsOf_append_slash (xs ys : List Char) :
    partsOf (xs ++ '/' :: ys) = partsOf xs ++ partsOf ys := by
  induction xs with
  | nil => exact partsOf_slash ys
  | cons c xs ih =>
    by_cases hc : c = '/'
    · subst hc
      rw [List.cons_append, partsOf_slash, partsOf_slash, ih, List.cons_append]
    · obtain ⟨p, ps, hp⟩ := List.exists_cons_of_ne_nil (partsOf_ne_nil xs)
      rw [hp, List.cons_append] at ih
      rw [List.cons_append, partsOf_cons hc ih, partsOf_cons hc hp, List.cons_append]

theorem not_mem_of_mem_partsOf {cs part : List Char} (h : part ∈ partsOf cs) : '/' ∉ part := by
  induction cs generalizing part with
  | nil =>
    rw [partsOf, List.mem_singleton] at h
    simp [h]
  | cons c cs ih =>
    by_cases hc : c = '/'
    · subst hc
      rw [partsOf_slash, List.mem_cons] at h
      rcases h with rfl | h
      · simp
      · exact ih h
    · obtain ⟨p, ps, hp⟩ := List.exists_cons_of_ne_nil (partsOf_ne_nil cs)
      rw [partsOf_cons hc hp, List.mem_cons] at h
      rcases h with rfl | h
      · have hnp : '/' ∉ p := ih (by rw [hp]; exact List.mem_cons_self)
        simp [hnp, Ne.symm hc]
      · exact ih (by rw [hp]; exact List.mem_cons_of_mem p h)

theorem join_cons {ps : List (List Char)} (p : List Char) (h : ps ≠ []) :
    join (p :: ps) = p ++ '/' :: join ps := by
  obtain ⟨q, qs, rfl⟩ := List.exists_cons_of_ne_nil h
  rfl

theorem join_concat {ps : List (List Char)} (h : ps ≠ []) (x : List Char) :
    join (ps ++ [x]) = join ps ++ '/' :: x := by
  induction ps with
  | nil => exact absurd rfl h
  | cons p ps ih =>
    rw [List.cons_append, join_cons p (by simp)]
    by_cases hps : ps = []
    · subst hps
      rfl
    · rw [ih hps, join_cons p hps]
      simp

/-- The parts of a text, joined, are the text. -/
theorem join_partsOf (cs : List Char) : join (partsOf cs) = cs := by
  induction cs with
  | nil => rfl
  | cons c cs ih =>
    by_cases hc : c = '/'
    · subst hc
      rw [partsOf_slash, join_cons _ (partsOf_ne_nil cs), ih, List.nil_append]
    · obtain ⟨p, ps, hp⟩ := List.exists_cons_of_ne_nil (partsOf_ne_nil cs)
      rw [partsOf_cons hc hp]
      rw [hp] at ih
      by_cases hps : ps = []
      · subst hps
        exact congrArg (c :: ·) ih
      · rw [join_cons _ hps] at ih ⊢
        exact congrArg (c :: ·) ih

/-- Parts that were joined are found again. -/
theorem partsOf_join {ps : List (List Char)} (hne : ps ≠ []) (h : ∀ p ∈ ps, '/' ∉ p) :
    partsOf (join ps) = ps := by
  induction ps with
  | nil => exact absurd rfl hne
  | cons p ps ih =>
    have hp : partsOf p = [p] := partsOf_of_not_mem (h p List.mem_cons_self)
    by_cases hps : ps = []
    · subst hps
      exact hp
    · rw [join_cons p hps, partsOf_append_slash, hp,
        ih hps fun q hq => h q (List.mem_cons_of_mem p hq), List.singleton_append]

/-- A text without a slash makes the last part longer. -/
theorem partsOf_append_last {cs nm m : List Char} {heads : List (List Char)}
    (h : partsOf cs = heads ++ [m]) (hnm : '/' ∉ nm) : partsOf (cs ++ nm) = heads ++ [m ++ nm] := by
  have hno : ∀ q ∈ heads ++ [m], '/' ∉ q := fun q hq => not_mem_of_mem_partsOf (h ▸ hq)
  have hlast : partsOf (m ++ nm) = [m ++ nm] := by
    refine partsOf_of_not_mem ?_
    rw [List.mem_append, not_or]
    exact ⟨hno m (by simp), hnm⟩
  have hcs : cs = join (heads ++ [m]) := by rw [← h, join_partsOf]
  rw [hcs]
  by_cases hn : heads = []
  · subst hn
    exact hlast
  · rw [join_concat hn, List.append_assoc, List.cons_append, partsOf_append_slash, hlast,
      partsOf_join hn fun q hq => hno q (List.mem_append_left [m] hq)]

/-! ## 2. Void parts -/

theorem isVoid_eq_false {part : List Char} : isVoid part = false ↔ part ≠ [] ∧ part ≠ ['.'] := by
  simp [isVoid]

theorem dropVoidEnd_concat (ps : List (List Char)) {m : List Char} (h : isVoid m = false) :
    dropVoidEnd (ps ++ [m]) = ps ++ [m] := by
  induction ps with
  | nil => simp [dropVoidEnd, h]
  | cons p ps ih =>
    rw [List.cons_append, dropVoidEnd, ih]
    cases ps <;> rfl

/-- Void parts at the end are dropped, whatever is before them. -/
theorem dropVoidEnd_append_voids (ps : List (List Char)) {voids : List (List Char)}
    (h : ∀ v ∈ voids, isVoid v = true) : dropVoidEnd (ps ++ voids) = dropVoidEnd ps := by
  induction ps with
  | cons p ps ih => rw [List.cons_append, dropVoidEnd, ih, dropVoidEnd]
  | nil =>
    induction voids with
    | nil => rfl
    | cons v voids ih =>
      have rest : dropVoidEnd voids = [] := ih fun w hw => h w (List.mem_cons_of_mem v hw)
      show dropVoidEnd (v :: voids) = []
      rw [dropVoidEnd, rest]
      exact if_pos (h v List.mem_cons_self)

/-- What is dropped at the end are void parts. -/
theorem exists_dropped (ps : List (List Char)) :
    ∃ voids, ps = dropVoidEnd ps ++ voids ∧ ∀ v ∈ voids, isVoid v = true := by
  induction ps with
  | nil => exact ⟨[], rfl, by simp⟩
  | cons p ps ih =>
    obtain ⟨voids, he, hv⟩ := ih
    rw [dropVoidEnd]
    cases hd : dropVoidEnd ps with
    | cons q qs =>
      rw [hd] at he
      exact ⟨voids, congrArg (p :: ·) he, hv⟩
    | nil =>
      rw [hd, List.nil_append] at he
      cases hp : isVoid p with
      | false => exact ⟨voids, congrArg (p :: ·) he, hv⟩
      | true =>
        refine ⟨p :: voids, congrArg (p :: ·) he, fun v hm => ?_⟩
        rcases List.mem_cons.mp hm with rfl | hm
        · exact hp
        · exact hv v hm

/-- The last part that is left says something. -/
theorem isVoid_of_dropVoidEnd {ps qs : List (List Char)} {x : List Char}
    (h : dropVoidEnd ps = qs ++ [x]) : isVoid x = false := by
  induction ps generalizing qs with
  | nil => simp [dropVoidEnd] at h
  | cons p ps ih =>
    rw [dropVoidEnd] at h
    cases hd : dropVoidEnd ps with
    | nil =>
      rw [hd] at h
      dsimp only at h
      split at h
      · simp at h
      · rename_i hp
        have hx : [] ++ [p] = qs ++ [x] := h
        obtain rfl : p = x := List.singleton_inj.mp (List.append_inj' hx rfl).2
        simpa using hp
    | cons q rest =>
      rw [hd] at h
      dsimp only at h
      cases qs with
      | nil => simp at h
      | cons r qs =>
        rw [List.cons_append, List.cons.injEq] at h
        exact ih (hd.trans h.2)

/-! ## 3. The name -/

/-- The last part that says something is a name. -/
structure Named (p : Path) (heads : List (List Char)) (m : List Char) (voids : List (List Char)) :
    Prop where
  parts : p.parts = heads ++ m :: voids
  void : ∀ v ∈ voids, isVoid v = true
  solid : isVoid m = false
  ne_dots : m ≠ ['.', '.']

/-- The last part says something, and the path has it for its name. -/
structure HasName (p : Path) (heads : List (List Char)) (m : List Char) : Prop where
  parts : p.parts = heads ++ [m]
  ne_nil : m ≠ []
  ne_dot : m ≠ ['.']
  ne_dots : m ≠ ['.', '.']

theorem HasName.named {p : Path} {heads : List (List Char)} {m : List Char}
    (h : HasName p heads m) : Named p heads m [] where
  parts := h.parts
  void v hv := by cases hv
  solid := isVoid_eq_false.mpr ⟨h.ne_nil, h.ne_dot⟩
  ne_dots := h.ne_dots

/-- The parts before the name that stay when another name takes its place. -/
def staying : List (List Char) → List (List Char)
  | [] => []
  | first :: rest => first :: dropVoidEnd rest

variable {p : Path} {heads voids : List (List Char)} {m : List Char}

/-- A path without a slash at its end has its name in its last part. -/
theorem exists_heads {ns : List (List Char)} (hs : p.isSlashed = false)
    (hn : p.names = ns ++ [m]) :
    ∃ heads, p.parts = heads ++ [m] ∧ ns = heads.filter (fun part => !part.isEmpty) := by
  obtain ⟨heads, x, hx⟩ : ∃ heads x, p.parts = heads ++ [x] :=
    ⟨_, _, (List.dropLast_concat_getLast (partsOf_ne_nil p.chars)).symm⟩
  rw [names, hx, List.filter_append] at hn
  have hxne : x ≠ [] := by
    rintro rfl
    have hj : join (heads ++ [[]]) = p.chars := by
      rw [← hx]
      exact join_partsOf p.chars
    by_cases hh : heads = []
    · subst hh
      simp at hn
    · rw [join_concat hh] at hj
      rw [isSlashed, ← hj, List.getLast?_concat] at hs
      cases hs
  have hf : [x].filter (fun part => !part.isEmpty) = [x] := by simp [hxne]
  rw [hf] at hn
  obtain ⟨he, hm⟩ := List.append_inj' hn rfl
  exact ⟨heads, by rw [hx, hm], he.symm⟩

theorem splitName?_of_named (h : Named p heads m voids) :
    p.splitName? = some (directoryText (staying heads), m) := by
  obtain ⟨hne, hdot⟩ := isVoid_eq_false.mp h.solid
  rw [splitName?, h.parts]
  cases heads with
  | nil =>
    have hrest : dropVoidEnd voids = [] := dropVoidEnd_append_voids [] h.void
    simp [staying, hrest, directoryText, join, hne, hdot, h.ne_dots]
  | cons first rest =>
    have hrest : dropVoidEnd (rest ++ m :: voids) = rest ++ [m] := by
      rw [List.append_cons, dropVoidEnd_append_voids _ h.void, dropVoidEnd_concat rest h.solid]
    simp only [List.cons_append, hrest, List.getLast?_concat, List.dropLast_concat, staying]
    rw [if_neg (by simpa using h.ne_dots)]

theorem splitName?_of_hasName (h : HasName p heads m) :
    p.splitName? = some (directoryText (staying heads), m) :=
  splitName?_of_named h.named

/-- **A path that has a name has it last**, but for parts that say nothing. -/
theorem exists_named (h : p.name? = some m) : ∃ heads voids, Named p heads m voids := by
  obtain ⟨⟨directory, name⟩, hs, hname⟩ := Option.map_eq_some_iff.mp h
  obtain rfl : name = m := hname
  obtain ⟨first, rest, hp⟩ := List.exists_cons_of_ne_nil (partsOf_ne_nil p.chars)
  obtain ⟨voids, hrest, hvoids⟩ := exists_dropped rest
  have hparts : p.parts = first :: rest := hp
  rw [splitName?, hparts] at hs
  rcases List.eq_nil_or_concat (dropVoidEnd rest) with hd | ⟨init, x, hd⟩
  · -- the first part is the name
    rw [hd, List.nil_append] at hrest
    subst hrest
    simp only [hd, List.getLast?_nil] at hs
    split at hs
    · cases hs
    · rename_i hfirst
      cases hs
      simp only [Bool.or_eq_true, List.isEmpty_iff, beq_iff_eq, not_or] at hfirst
      exact ⟨[], rest, hparts, hvoids, isVoid_eq_false.mpr hfirst.1, hfirst.2⟩
  · rw [List.concat_eq_append] at hd
    simp only [hd, List.getLast?_concat] at hs
    split at hs
    · cases hs
    · rename_i hdots
      cases hs
      refine ⟨first :: init, voids, ?_, hvoids, isVoid_of_dropVoidEnd hd, by simpa using hdots⟩
      rw [hparts, List.cons_append, List.append_cons, ← hd, ← hrest]

/-- The part that stays last says something, unless only the top stays. -/
theorem ne_nil_of_staying {init : List (List Char)} {x : List Char}
    (h : staying heads = init ++ [x]) (hne : staying heads ≠ [[]]) : x ≠ [] := by
  cases heads with
  | nil => simp [staying] at h
  | cons first rest =>
    rw [staying] at h hne
    cases init with
    | nil =>
      rw [List.nil_append, List.cons.injEq] at h
      rintro rfl
      exact hne (by rw [h.1, h.2])
    | cons q qs =>
      rw [List.cons_append, List.cons.injEq] at h
      exact (isVoid_eq_false.mp (isVoid_of_dropVoidEnd h.2)).1

/-- What is put behind the text of a directory has its parts behind those of the directory. -/
theorem partsOf_append_directoryText (hheads : ∀ q ∈ staying heads, '/' ∉ q) (nm : List Char) :
    partsOf (append (directoryText (staying heads)) nm) = staying heads ++ partsOf nm := by
  rcases List.eq_nil_or_concat (staying heads) with he | ⟨init, x, he⟩
  · rw [he]
    rfl
  by_cases htop : staying heads = [[]]
  · rw [htop]
    exact partsOf_slash nm
  have hne : staying heads ≠ [] := by simp [he]
  have hd : directoryText (staying heads) = join (staying heads) := by
    unfold directoryText
    split
    · exact absurd ‹_› htop
    · rfl
  rw [List.concat_eq_append] at he
  -- the last character is that of a part, so a slash is put behind it
  obtain ⟨c, hc, hlast⟩ : ∃ c, c ≠ '/' ∧ (join (staying heads)).getLast? = some c := by
    have hx : x ≠ [] := ne_nil_of_staying he htop
    have hmem : x.getLast hx ∈ x := List.getLast_mem hx
    refine ⟨x.getLast hx, fun e => hheads x (by simp [he]) (e ▸ hmem), ?_⟩
    rw [he]
    by_cases hi : init = []
    · subst hi
      exact List.getLast?_eq_some_getLast hx
    · rw [join_concat hi, List.getLast?_append, List.getLast?_cons,
        List.getLast?_eq_some_getLast hx]
      rfl
  have happ : append (join (staying heads)) nm = join (staying heads) ++ '/' :: nm := by
    unfold append
    rw [hlast]
    split
    · rename_i h
      cases h
    · rename_i h
      cases h
      exact absurd rfl hc
    · rfl
  rw [hd, happ, partsOf_append_slash, partsOf_join hne hheads]

theorem mem_of_mem_staying {q : List Char} (h : q ∈ staying heads) : q ∈ heads := by
  cases heads with
  | nil => exact h
  | cons first rest =>
    obtain ⟨voids, he, -⟩ := exists_dropped rest
    rcases List.mem_cons.mp h with rfl | h
    · exact List.mem_cons_self
    · rw [he]
      exact List.mem_cons_of_mem first (List.mem_append_left voids h)

theorem slash_not_mem_of_mem_staying (h : Named p heads m voids) :
    ∀ q ∈ staying heads, '/' ∉ q := by
  intro q hq
  have hp : q ∈ p.parts := by
    rw [h.parts]
    exact List.mem_append_left _ (mem_of_mem_staying hq)
  exact not_mem_of_mem_partsOf hp

/-- What takes the place of a name comes behind the parts that stay. -/
theorem parts_withName_of_named (h : Named p heads m voids) (nm : List Char) :
    (p.withName nm).parts = staying heads ++ partsOf nm := by
  rw [withName, splitName?_of_named h]
  exact partsOf_append_directoryText (slash_not_mem_of_mem_staying h) nm

/-- **Another name comes behind the parts that stay.** -/
theorem parts_withName (h : HasName p heads m) {nm : List Char} (hnm : '/' ∉ nm) :
    (p.withName nm).parts = staying heads ++ [nm] := by
  rw [parts_withName_of_named h.named, partsOf_of_not_mem hnm]

theorem append_append (directory a b : List Char) :
    append directory (a ++ b) = append directory a ++ b := by
  unfold append
  split <;> simp

/-- A suffix makes the name longer, and changes nothing before it. -/
theorem withSuffix_withName (p : Path) (nm : List Char) (suffix : String) :
    (p.withName nm).withSuffix suffix = p.withName (nm ++ suffix.toList) := by
  unfold withName
  split <;> rw [withSuffix, append_append]

/-- It makes the last part longer. -/
theorem parts_withSuffix (h : p.parts = heads ++ [m]) {s : String} (hs : '/' ∉ s.toList) :
    (p.withSuffix s).parts = heads ++ [m ++ s.toList] :=
  partsOf_append_last h hs

theorem name?_of_named (h : Named p heads m voids) : p.name? = some m := by
  rw [name?, splitName?_of_named h]
  rfl

theorem name?_of_hasName (h : HasName p heads m) : p.name? = some m :=
  name?_of_named h.named

theorem slash_not_mem_of_named (h : Named p heads m voids) : '/' ∉ m := by
  have hm : m ∈ p.parts := by
    rw [h.parts]
    exact List.mem_append_right heads List.mem_cons_self
  exact not_mem_of_mem_partsOf hm

theorem slash_not_mem_name (h : HasName p heads m) : '/' ∉ m :=
  slash_not_mem_of_named h.named

theorem staying_staying (heads : List (List Char)) : staying (staying heads) = staying heads := by
  cases heads with
  | nil => rfl
  | cons first rest =>
    rw [staying, staying]
    congr 1
    rcases List.eq_nil_or_concat (dropVoidEnd rest) with hd | ⟨init, x, hd⟩
    · rw [hd]
      rfl
    · rw [List.concat_eq_append] at hd
      rw [hd, dropVoidEnd_concat init (isVoid_of_dropVoidEnd hd)]

/-- **A path with its name exchanged is in the same directory.** -/
theorem parent?_withName (h : Named p heads m voids) {q : Path} {nm : List Char}
    (hq : HasName q (staying heads) nm) : q.parent? = p.parent? := by
  rw [parent?, parent?, splitName?_of_hasName hq, splitName?_of_named h, staying_staying]
  rfl

end Logworks.Disk.Path
