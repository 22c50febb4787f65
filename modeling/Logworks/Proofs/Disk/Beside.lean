import Logworks.Proofs.Disk.Parts
import Logworks.Proofs.Disk.Walk

/-!
# Paths beside one another

A path with its name exchanged leads into the same directory. This file fixes

* `Leads.unique` -- names lead to one directory;
* `Homed.name?_eq` -- the last name of a place is that of the path;
* `Homed.exists_leads` -- the names beside that of a path are those in one directory;
* `Homed.beside` -- **the places of the two paths differ in their last names only**;
* `Homed.suffix_inj` -- and suffixes behind one path can be told from the places.
-/

namespace Logworks.Disk

variable {d : Disk} {links left left' mid : Nat} {p dir dir' between : Place} {ns ns' : List Name}

theorem not_isDots_dot : isDots ['.'] ≠ false := by decide

theorem not_isDots_dots : isDots ['.', '.'] ≠ false := by decide

theorem Leads.append (h : Leads d links p ns mid between) (h' : Leads d mid between ns' left dir) :
    Leads d links p (ns ++ ns') left dir := by
  induction h with
  | here links p => exact h'
  | dot links mid p between ns h ih => exact .dot _ _ _ _ _ (ih h')
  | up links mid p between ns h ih => exact .up _ _ _ _ _ (ih h')
  | down links mid p between n ns hn hl he h ih => exact .down _ _ _ _ _ _ hn hl he (ih h')
  | link links mid p between n ns target hn hl he h ih =>
    have h'' := ih h'
    rw [List.append_assoc] at h''
    exact .link _ _ _ _ _ _ target hn hl he h''

/-- Dots lead nowhere else. -/
theorem leads_dots (d : Disk) (links : Nat) (p : Place) {dots : List Name}
    (h : ∀ n ∈ dots, n = ['.']) : Leads d links p dots links p := by
  induction dots with
  | nil => exact .here links p
  | cons n dots ih =>
    rw [h n List.mem_cons_self]
    exact .dot _ _ _ _ _ (ih fun n hn => h n (List.mem_cons_of_mem _ hn))

/-- **Names lead to one directory.** -/
theorem Leads.unique (h : Leads d links p ns left dir) (h' : Leads d links p ns left' dir') :
    dir = dir' := by
  induction h with
  | here links p =>
    cases h'
    rfl
  | dot links left p dir ns h ih =>
    cases h' with
    | dot _ _ _ _ _ h' => exact ih h'
    | down _ _ _ _ _ _ hn => exact absurd hn not_isDots_dot
    | link _ _ _ _ _ _ _ hn => exact absurd hn not_isDots_dot
  | up links left p dir ns h ih =>
    cases h' with
    | up _ _ _ _ _ h' => exact ih h'
    | down _ _ _ _ _ _ hn => exact absurd hn not_isDots_dots
    | link _ _ _ _ _ _ _ hn => exact absurd hn not_isDots_dots
  | down links left p dir n ns hn hl he h ih =>
    cases h' with
    | dot => exact absurd hn not_isDots_dot
    | up => exact absurd hn not_isDots_dots
    | down _ _ _ _ _ _ _ _ _ h' => exact ih h'
    | link _ _ _ _ _ _ target _ _ he' => cases he.symm.trans he'
  | link links left p dir n ns target hn hl he h ih =>
    cases h' with
    | dot => exact absurd hn not_isDots_dot
    | up => exact absurd hn not_isDots_dots
    | down _ _ _ _ _ _ _ _ he' => cases he.symm.trans he'
    | link _ _ _ _ _ _ target' _ _ he' h' =>
      obtain rfl : target = target' := by
        have e := he.symm.trans he'
        rw [Option.some.injEq, Entry.link.injEq] at e
        exact e
      exact ih h'

/-- What leads somewhere leads somewhere on the way. -/
theorem Leads.split (h : Leads d links p (ns ++ ns') left dir) :
    ∃ mid between, Leads d links p ns mid between ∧ Leads d mid between ns' left dir := by
  generalize hall : ns ++ ns' = all at h
  induction h generalizing ns with
  | here links p =>
    obtain ⟨rfl, rfl⟩ := List.append_eq_nil_iff.mp hall
    exact ⟨links, p, .here links p, .here links p⟩
  | dot links left p dir rest h ih =>
    rcases List.append_eq_cons_iff.mp hall with ⟨rfl, rfl⟩ | ⟨ns, rfl, rfl⟩
    · exact ⟨links, p, .here links p, .dot _ _ _ _ _ h⟩
    · obtain ⟨mid, between, h₁, h₂⟩ := ih rfl
      exact ⟨mid, between, .dot _ _ _ _ _ h₁, h₂⟩
  | up links left p dir rest h ih =>
    rcases List.append_eq_cons_iff.mp hall with ⟨rfl, rfl⟩ | ⟨ns, rfl, rfl⟩
    · exact ⟨links, p, .here links p, .up _ _ _ _ _ h⟩
    · obtain ⟨mid, between, h₁, h₂⟩ := ih rfl
      exact ⟨mid, between, .up _ _ _ _ _ h₁, h₂⟩
  | down links left p dir n rest hn hl he h ih =>
    rcases List.append_eq_cons_iff.mp hall with ⟨rfl, rfl⟩ | ⟨ns, rfl, rfl⟩
    · exact ⟨links, p, .here links p, .down _ _ _ _ _ _ hn hl he h⟩
    · obtain ⟨mid, between, h₁, h₂⟩ := ih rfl
      exact ⟨mid, between, .down _ _ _ _ _ _ hn hl he h₁, h₂⟩
  | link links left p dir n rest target hn hl he h ih =>
    rcases List.append_eq_cons_iff.mp hall with ⟨rfl, rfl⟩ | ⟨ns, rfl, rfl⟩
    · exact ⟨links + 1, p, .here (links + 1) p, .link _ _ _ _ _ _ target hn hl he h⟩
    · obtain ⟨mid, between, h₁, h₂⟩ := ih (List.append_assoc target.names ns ns')
      exact ⟨mid, between, .link _ _ _ _ _ _ target hn hl he h₁, h₂⟩

/-- The names that lead to a name are those of the parts that stay, and dots. -/
theorem exists_dots (heads : List Name) :
    ∃ dots : List Name, (∀ n ∈ dots, n = ['.']) ∧
      heads.filter (fun part => !part.isEmpty) =
        (Path.staying heads).filter (fun part => !part.isEmpty) ++ dots := by
  cases heads with
  | nil => exact ⟨[], by simp, rfl⟩
  | cons first rest =>
    obtain ⟨voids, he, hv⟩ := Path.exists_dropped rest
    refine ⟨voids.filter fun part => !part.isEmpty, ?_, ?_⟩
    · intro n hn
      rw [List.mem_filter] at hn
      have hvoid := hv n hn.1
      simp only [Path.isVoid, Bool.or_eq_true, beq_iff_eq] at hvoid
      rcases hvoid with h | h
      · rw [h] at hn
        cases hn.2
      · exact h
    · rw [← List.filter_append, Path.staying, List.cons_append, ← he]

/-- The path has a name, which stands last in its place. -/
theorem Homed.exists_hasName {q : Path} {place : Place} (h : Homed d q place) :
    ∃ heads m left dir, Path.HasName q heads m ∧ place = dir ++ [m] ∧
      Leads d mostLinks [] (heads.filter fun part => !part.isEmpty) left dir := by
  obtain ⟨ns, m, left, dir, hn, hdots, -, hl, rfl⟩ := h.leads
  obtain ⟨heads, hp, rfl⟩ := Path.exists_heads h.bare hn
  obtain ⟨h1, h2⟩ := isDots_eq_false.mp hdots
  have hm : m ∈ q.names := by rw [hn]; simp
  have hne : m ≠ [] := by
    rintro rfl
    rw [Path.names, List.mem_filter] at hm
    cases hm.2
  exact ⟨heads, m, left, dir, ⟨hp, hne, h1, h2⟩, rfl, hl⟩

/-- The name of the path. -/
theorem Homed.name?_eq {q : Path} {place : Place} (h : Homed d q place) :
    q.name? = place.getLast? := by
  obtain ⟨heads, m, left, dir, hm, rfl, -⟩ := h.exists_hasName
  rw [Path.name?_of_hasName hm, List.getLast?_concat]

/-- **The names beside that of a path are those in one directory**, whatever stands there. -/
theorem Homed.exists_leads {q : Path} {place : Place} (h : Homed d q place) :
    ∃ ns left, Leads d mostLinks [] ns left place.dropLast ∧
      ∀ x : Name, '/' ∉ x → x ≠ [] → (q.withName x).names = ns ++ [x] := by
  obtain ⟨heads, m, left, dir, hm, rfl, hl⟩ := h.exists_hasName
  obtain ⟨dots, hdots, hheads⟩ := exists_dots heads
  rw [hheads] at hl
  obtain ⟨mid, between, hns, hrest⟩ := hl.split
  obtain rfl : between = dir := (leads_dots d mid between hdots).unique hrest
  rw [List.dropLast_concat]
  refine ⟨_, mid, hns, fun x hx hne => ?_⟩
  rw [Path.names, Path.parts_withName hm hx, List.filter_append]
  congr 1
  simp [hne]

/-- **A path with its name exchanged leads into the same directory.** -/
theorem Homed.beside {q : Path} {place place' : Place} {nm : Name} (h : Homed d q place)
    (h' : Homed d (q.withName nm) place') (hslash : '/' ∉ nm) (hne : nm ≠ []) :
    place' = place.dropLast ++ [nm] := by
  obtain ⟨ns, left, hl, hnames⟩ := h.exists_leads
  obtain ⟨ns', m, left', dir, hn', -, -, hl', rfl⟩ := h'.leads
  rw [hnames nm hslash hne] at hn'
  obtain ⟨rfl, hm⟩ := List.append_inj' hn' rfl
  rw [hl.unique hl', List.singleton_inj.mp hm]

/-- Paths that differ in their suffixes stand for different places. -/
theorem Homed.suffix_inj {q : Path} {place₀ place place' : Place} {s t : String}
    (h₀ : Homed d q place₀) (h : Homed d (q.withSuffix s) place)
    (h' : Homed d (q.withSuffix t) place') (hs : '/' ∉ s.toList) (ht : '/' ∉ t.toList)
    (he : place = place') : s = t := by
  obtain ⟨heads, m, -, -, hm, -, -⟩ := h₀.exists_hasName
  -- the last name of each place is the name with the suffix
  have hlast : ∀ {u : String} {there : Place}, '/' ∉ u.toList →
      Homed d (q.withSuffix u) there → ∃ dir, there = dir ++ [m ++ u.toList] := by
    intro u there hu hh
    obtain ⟨heads', m', -, dir, hm', rfl, -⟩ := hh.exists_hasName
    have hparts := hm'.parts
    rw [Path.parts_withSuffix hm.parts hu] at hparts
    rw [← List.singleton_inj.mp (List.append_inj' hparts rfl).2]
    exact ⟨dir, rfl⟩
  obtain ⟨dir, rfl⟩ := hlast hs h
  obtain ⟨dir', rfl⟩ := hlast ht h'
  have hsame := List.singleton_inj.mp (List.append_inj' he rfl).2
  exact String.toList_inj.mp (List.append_cancel_left hsame)

end Logworks.Disk
