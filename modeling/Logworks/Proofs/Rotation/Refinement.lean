import Logworks.Proofs.Disk.Beside
import Logworks.Proofs.Rotation.Keeping

/-!
# A log refines its shelf

From the disk as it is found, over any calls: what a log leaves on its disk is what its shelf
holds. This file fixes

* `Ready` -- the disk as a log may find it: plain files at its paths or nothing, holes allowed;
* `Shelf.found` -- the shelf that is read off a disk;
* `Shows` -- **what the paths of a log show is what the shelf holds**;
* `refines_shelf` -- **so it is after every call**, and reading the history from the oldest and then
  the active file gives all that was there and all that was written, but for whole slots.
-/

namespace Logworks.Rotation

open Logworks.Disk Logworks.Text

/-! ## 1. The disk as it is found -/

/-- The place that a path names. -/
def placeAt (d : Disk) (p : Path) : Place :=
  match d.find .name p with
  | .ok (.named place _ _) => place
  | _ => []

/-- The file at the place that a path names. -/
def fileAt? (d : Disk) (p : Path) : Option Nat :=
  match d.find .name p with
  | .ok (.named _ (some (.file k)) _) => some k
  | _ => none

/-- A log may work here: no operation is going to fail, and each of its paths names a plain file,
or nothing yet, under a name that is not too long. No two of them are one file. -/
structure Ready (base : Path) (maxFiles : Nat) (suffixes : List String) (d : Disk) : Prop where
  harmless : d.mishaps.Harmless
  suffix : ∀ s ∈ suffixes, IsSuffix s
  found : ∀ p, IsOwn base maxFiles suffixes p →
    d.find .name p = .ok (.named (placeAt d p) ((fileAt? d p).map .file) false)
  short : ∀ p, IsOwn base maxFiles suffixes p → hasLongName (placeAt d p) = false
  filed : ∀ p k, IsOwn base maxFiles suffixes p → fileAt? d p = some k → k < d.contents.length
  single : ∀ p q k, IsOwn base maxFiles suffixes p → IsOwn base maxFiles suffixes q →
    fileAt? d p = some k → fileAt? d q = some k → p = q

variable {base : Path} {maxSize maxFiles : Nat} {suffixes : List String} {d : Disk}

theorem Ready.homed (h : Ready base maxFiles suffixes d) {p : Path}
    (hp : IsOwn base maxFiles suffixes p) :
    Homed d p (placeAt d p) ∧ (fileAt? d p).map .file = d.entry? (placeAt d p) :=
  homed_of_find (h.found p hp) (h.short p hp)

theorem Ready.sound (h : Ready base maxFiles suffixes d) : Sound base suffixes where
  name := by
    obtain ⟨heads, m, _, _, hm, -, -⟩ := (h.homed .active).1.exists_hasName
    exact ⟨heads, m, hm⟩
  suffix := h.suffix

/-- All paths of a log name places in one directory. -/
theorem Ready.place_eq (h : Ready base maxFiles suffixes d) {m : Name}
    (hm : base.name? = some m) {p : Path} (hp : IsOwn base maxFiles suffixes p) :
    ∃ x, placeAt d p = (placeAt d base).dropLast ++ [x] ∧
      (p = base ∧ x = m ∨ p = base.withName x ∧ x ≠ m) := by
  obtain ⟨heads, m', left, dir, hm', hplace, -⟩ := (h.homed .active).1.exists_hasName
  obtain rfl : m' = m := by
    have hn := Path.name?_of_hasName hm'
    rw [hm, Option.some.injEq] at hn
    exact hn.symm
  cases hp with
  | active =>
    refine ⟨m', ?_, .inl ⟨rfl, rfl⟩⟩
    rw [hplace, List.dropLast_concat]
  | slot i e hi hn he =>
    have hh := (h.homed (.slot i e hi hn he)).1
    have hnil : slotName base i ++ e.toList ≠ [] := by simp [slotName_ne_nil hm]
    refine ⟨slotName base i ++ e.toList, ?_, .inr ⟨slotPath_eq base i e,
      slotName_append_ne hm i e.toList⟩⟩
    rw [slotPath_eq] at hh ⊢
    exact (h.homed .active).1.beside hh (h.sound.slash_not_mem i he) hnil

/-- **The log can work on the disk as it is found.** -/
theorem Ready.racked (h : Ready base maxFiles suffixes d) :
    Racked base maxFiles suffixes (placeAt d) (fileAt? d) d where
  sound := h.sound
  kept := {
    harmless := h.harmless
    homed := fun p hp => (h.homed hp).1
    entry := fun p hp => (h.homed hp).2.symm
    filed := h.filed
    single := h.single
    apart := by
      intro p q hp hq hpq
      obtain ⟨heads, m, hm⟩ := h.sound.name
      have hname := Path.name?_of_hasName hm
      obtain ⟨x, hx, hpx⟩ := h.place_eq hname hp
      obtain ⟨y, hy, hqy⟩ := h.place_eq hname hq
      rw [hx, hy, List.prefix_append_right_inj] at hpq
      obtain rfl : x = y := by simpa using hpq
      rcases hpx with ⟨rfl, hxm⟩ | ⟨rfl, hxm⟩ <;> rcases hqy with ⟨rfl, hxm'⟩ | ⟨rfl, hxm'⟩
      · rfl
      · exact absurd hxm hxm'
      · exact absurd hxm' hxm
      · rfl }

/-! ## 2. What is shown -/

/-- The shelf that is read off a disk. -/
def Shelf.found (base : Path) (d : Disk) : Shelf where
  active := ((d.read? base).toOption).getD []
  held i e := (d.read? (slotPath base i e)).toOption

/-- **What the paths of a log show is what the shelf holds**; what the writer gathered comes behind
the active file. -/
structure Shows (base : Path) (maxFiles : Nat) (suffixes : List String) (s : Shelf)
    (l : RotatingLog) (d : Disk) : Prop where
  active : ∃ w bytes, l.writer = some w ∧ d.read? base = .ok bytes ∧ bytes ++ w.pending = s.active
  held : ∀ i e, 1 ≤ i → i ≤ maxFiles → IsEnding suffixes e →
    d.read? (slotPath base i e) = match s.held i e with
      | some bytes => .ok bytes
      | none => .error (.system .notFound)
  size : l.size = s.active.length

variable {place : Path → Place} {files : Path → Option Nat} {s : Shelf} {l : RotatingLog}

theorem Keeps.shows (h : Keeps base maxSize maxFiles suffixes place files s l d) :
    Shows base maxFiles suffixes s l d where
  active := by
    obtain ⟨w, n, hw, hn, hholds⟩ := h.writer
    refine ⟨w, d.octetsOf n, hw, ?_, hholds.whole⟩
    rw [h.racked.kept.read? .active, hn]
  held i e hi him he := by
    rw [h.racked.kept.read? (.slot i e hi him he), ← h.held i e hi him he]
    cases files (slotPath base i e) <;> rfl
  size := h.size

/-! ## 3. Runs -/

/-- **A log that is begun keeps the shelf that was found.** -/
theorem create_keeps (h : Ready base maxFiles suffixes d) (hs : 0 < maxSize) :
    ∃ l d' files', RotatingLog.create base maxSize maxFiles suffixes d = (.ok l, d') ∧
      l.rotations = 0 ∧
      Keeps base maxSize maxFiles suffixes (placeAt d) files' (.found base d) l d' := by
  have hr := h.racked
  obtain ⟨n, d', hopen, ho, hharm, hoct⟩ := hr.kept.openAppend .active
  have hactive : (Shelf.found base d).active = d'.octetsOf n := by
    show ((d.read? base).toOption).getD [] = _
    rw [hr.kept.read? .active, hoct]
    cases fileAt? d base <;> rfl
  have hresume : (RotatingLog.resume base).run d =
      (.ok (⟨⟨.file n, none⟩, []⟩, (d'.octetsOf n).length), d') := by
    unfold RotatingLog.resume
    rw [run_bind_ok hopen]
    rfl
  refine ⟨⟨base, maxSize, maxFiles, suffixes, some ⟨⟨.file n, none⟩, []⟩, (d'.octetsOf n).length,
    0⟩, d', _, ?_, rfl, ⟨rfl, rfl, rfl, rfl⟩, ⟨hr.sound, ho.placed, hharm⟩,
    ⟨_, n, rfl, Function.update_self _ _ _, ⟨rfl, ?_, .inl rfl⟩, ?_⟩, ?_, ?_⟩
  · rw [RotatingLog.create, if_neg (by omega), hresume]
  · exact ho.placed.filed base n .active (Function.update_self _ _ _)
  · rw [hactive]
    exact List.append_nil _
  · intro i e hi him he
    have hown : IsOwn base maxFiles suffixes (slotPath base i e) := .slot i e hi him he
    show _ = (d.read? (slotPath base i e)).toOption
    have hne := hr.sound.slotPath_ne (i := i) he
    rw [Function.update_of_ne hne, hr.kept.read? hown]
    cases hk : fileAt? d (slotPath base i e) with
    | none => rfl
    | some k => exact congrArg some (ho.octetsOf_other hr.kept.toPlaced hown hne hk)
  · rw [hactive]

/-- How calls ended, with the log and the disk behind them. -/
structure Done where
  answers : List (Except Fault Bool × List Notice)
  log : RotatingLog
  disk : Disk

/-- Calls, one after the other. -/
def Errand.performAll : List Errand → RotatingLog → Disk → Done
  | [], l, d => ⟨[], l, d⟩
  | c :: calls, l, d =>
    let first := c.perform l d
    let rest := performAll calls first.log first.disk
    { rest with answers := (first.result, first.notices) :: rest.answers }

/-- **Calls take the log along with its shelf.** -/
theorem performAll_keeps (h : Keeps base maxSize maxFiles suffixes place files s l d)
    (calls : List Errand) :
    (Errand.performAll calls l d).answers =
        (s.answers maxSize maxFiles calls).map (fun b => (.ok b, [])) ∧
      (Errand.performAll calls l d).log.rotations =
        l.rotations + (s.answers maxSize maxFiles calls).count true ∧
      ∃ files', Keeps base maxSize maxFiles suffixes place files' (s.run maxSize maxFiles calls)
        (Errand.performAll calls l d).log (Errand.performAll calls l d).disk := by
  induction calls generalizing s l d files with
  | nil => exact ⟨rfl, rfl, files, h⟩
  | cons c calls ih =>
    obtain ⟨l', d', files', hc, hrot, hk⟩ := perform_keeps h c
    obtain ⟨hans, hrots, hkeeps⟩ := ih hk
    rw [Errand.performAll, hc, Shelf.answers, Shelf.run]
    refine ⟨?_, ?_, hkeeps⟩
    · show _ :: (Errand.performAll calls l' d').answers = _
      rw [hans]
      rfl
    · show (Errand.performAll calls l' d').log.rotations = _
      rw [hrots, hrot, List.count_cons]
      cases (s.append c.text).turns maxSize c with
      | false => simp
      | true =>
        simp
        omega

/-- What is read off a disk that shows a shelf is what the shelf has to read. -/
theorem Shows.reading (h : Shows base maxFiles suffixes s l d) :
    ∃ w, l.writer = some w ∧
      ((Shelf.found base d).append w.pending).reading maxFiles suffixes =
        s.reading maxFiles suffixes := by
  obtain ⟨w, bytes, hw, hread, hactive⟩ := h.active
  refine ⟨w, hw, Shelf.reading_congr ?_ fun i e hi him he => ?_⟩
  · show ((d.read? base).toOption).getD [] ++ w.pending = s.active
    rw [hread]
    exact hactive
  · show (d.read? (slotPath base i e)).toOption = s.held i e
    rw [h.held i e hi him (mem_endings.mp he)]
    cases s.held i e <;> rfl

/-- **A log refines its shelf.** Whatever is found at its paths, and whatever is asked of it: every
call succeeds and rotates exactly when the active text is long enough or a rotation is asked for;
what its paths show is what the shelf holds; and the history, read from the oldest, with the active
file behind it is all that was there and all that was written, but for the slots let go. -/
theorem refines_shelf (h : Ready base maxFiles suffixes d) (hs : 0 < maxSize) :
    ∃ l d₀, RotatingLog.create base maxSize maxFiles suffixes d = (.ok l, d₀) ∧
      ∀ calls : List Errand,
        let s := Shelf.found base d
        let done := Errand.performAll calls l d₀
        done.answers = (s.answers maxSize maxFiles calls).map (fun b => (.ok b, [])) ∧
        done.log.rotations = (s.answers maxSize maxFiles calls).count true ∧
        Shows base maxFiles suffixes (s.run maxSize maxFiles calls) done.log done.disk ∧
        ∃ w, done.log.writer = some w ∧
          (s.evicted maxSize maxFiles suffixes calls).flatten ++
              ((Shelf.found base done.disk).append w.pending).reading maxFiles suffixes =
            s.reading maxFiles suffixes ++ (calls.map Errand.text).flatten := by
  obtain ⟨l, d₀, files₀, hc, hrot, hk⟩ := create_keeps h hs
  refine ⟨l, d₀, hc, fun calls => ?_⟩
  obtain ⟨hans, hrots, files', hk'⟩ := performAll_keeps hk calls
  have hempty : "" ∉ suffixes := fun hm => (h.suffix "" hm).ne_empty rfl
  obtain ⟨w, hw, hread⟩ := hk'.shows.reading
  refine ⟨hans, ?_, hk'.shows, w, hw, ?_⟩
  · rw [hrots, hrot, Nat.zero_add]
  · rw [hread, Shelf.evicted_append_reading hempty]

/-- A disk with an active file and a history that has holes. -/
def holed : Disk where
  entries :=
    [(["logs".toList], .directory), (["logs".toList, "app.log".toList], .file 0),
     (["logs".toList, "app.1.log.gz".toList], .file 1)]
  contents := [octetsOf "ab", octetsOf "old"]

def holedBase : Path := .ofString "/logs/app.log"

theorem isOwn_holed {p : Path} (h : IsOwn holedBase 2 [".gz"] p) :
    p = holedBase ∨ p = slotPath holedBase 1 "" ∨ p = slotPath holedBase 1 ".gz" ∨
      p = slotPath holedBase 2 "" ∨ p = slotPath holedBase 2 ".gz" := by
  cases h with
  | active => exact .inl rfl
  | slot i e hi hn he =>
    have hi' : i = 1 ∨ i = 2 := by omega
    have he' : e = "" ∨ e = ".gz" := by
      rcases he with he | he
      · exact .inl he
      · exact .inr (List.mem_singleton.mp he)
    rcases hi' with rfl | rfl <;> rcases he' with rfl | rfl <;> simp

theorem fileAt?_holed {p : Path} {k : Nat} (h : IsOwn holedBase 2 [".gz"] p)
    (hk : fileAt? holed p = some k) :
    p = holedBase ∧ k = 0 ∨ p = slotPath holedBase 1 ".gz" ∧ k = 1 := by
  have h0 : fileAt? holed holedBase = some 0 := rfl
  have h1 : fileAt? holed (slotPath holedBase 1 ".gz") = some 1 := rfl
  have h2 : fileAt? holed (slotPath holedBase 1 "") = none := rfl
  have h3 : fileAt? holed (slotPath holedBase 2 "") = none := rfl
  have h4 : fileAt? holed (slotPath holedBase 2 ".gz") = none := rfl
  rcases isOwn_holed h with rfl | rfl | rfl | rfl | rfl
  · exact .inl ⟨rfl, by simpa [h0] using hk.symm⟩
  · rw [h2] at hk
    cases hk
  · exact .inr ⟨rfl, by simpa [h1] using hk.symm⟩
  · rw [h3] at hk
    cases hk
  · rw [h4] at hk
    cases hk

theorem ready_holed : Ready holedBase 2 [".gz"] holed where
  harmless := Mishaps.harmless_empty
  suffix s hs := by
    obtain rfl := List.mem_singleton.mp hs
    exact ⟨⟨['g', 'z'], rfl⟩, by decide⟩
  found p hp := by rcases isOwn_holed hp with rfl | rfl | rfl | rfl | rfl <;> rfl
  short p hp := by rcases isOwn_holed hp with rfl | rfl | rfl | rfl | rfl <;> rfl
  filed p k hp hk := by
    rcases fileAt?_holed hp hk with ⟨-, rfl⟩ | ⟨-, rfl⟩ <;> decide
  single p q k hp hq hk hk' := by
    rcases fileAt?_holed hp hk with ⟨rfl, rfl⟩ | ⟨rfl, rfl⟩ <;>
      rcases fileAt?_holed hq hk' with ⟨rfl, h⟩ | ⟨rfl, h⟩
    · rfl
    · cases h
    · cases h
    · rfl

/-- Two lines on that disk, of which the second rotates: the compressed file moves to slot 2. -/
theorem refines_shelf_holed :
    Ready holedBase 2 [".gz"] holed ∧ 0 < 5 ∧
      ∃ l d₀, RotatingLog.create holedBase 5 2 [".gz"] holed = (.ok l, d₀) ∧
        let done := Errand.performAll [.line "c", .line "d", .line "e"] l d₀
        done.answers = [(.ok false, []), (.ok true, []), (.ok false, [])] ∧
        done.disk.read? (slotPath holedBase 1 "") = .ok (octetsOf "abc\nd\n") ∧
        done.disk.read? (slotPath holedBase 2 ".gz") = .ok (octetsOf "old") ∧
        ∃ w bytes, done.log.writer = some w ∧ done.disk.read? holedBase = .ok bytes ∧
          bytes ++ w.pending = octetsOf "e\n" := by
  refine ⟨ready_holed, by decide, ?_⟩
  obtain ⟨l, d₀, hc, h⟩ := refines_shelf ready_holed (by decide : 0 < 5)
  obtain ⟨hans, -, hshows, -⟩ := h [.line "c", .line "d", .line "e"]
  refine ⟨l, d₀, hc, hans.trans ?_, ?_, ?_, ?_⟩
  · rfl
  · rw [hshows.held 1 "" (by decide) (by decide) (.inl rfl)]
    rfl
  · rw [hshows.held 2 ".gz" (by decide) (by decide) (.inr List.mem_cons_self)]
    rfl
  · obtain ⟨w, bytes, hw, hread, hactive⟩ := hshows.active
    refine ⟨w, bytes, hw, hread, hactive.trans ?_⟩
    rfl

end Logworks.Rotation
