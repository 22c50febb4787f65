import Logworks.Proofs.Rotation.Neighbours
import Logworks.Proofs.Rotation.Segments

/-!
# A compressed log keeps its row

What a log with a compressed history does with each line, whatever its codec answers. No operation
of the log itself is going to fail. This file fixes

* `verdictOf` -- what the codec makes of the newest segment;
* `Packs` -- **a compressed log with its disk keeps a row of segments**;
* `compressFile_keeps` -- **the plain file of slot 1 gives way to the compressed one**, or stays;
* `writeLine_packs` -- **a line takes the row to the next**, and fails where the codec failed.
-/

namespace Logworks.Rotation

open Logworks.Disk Logworks.Codec Logworks.Text

/-- What a codec makes of a file, as the log takes it. -/
def verdictOf (c : Codec) (source target : Path) (d : Disk) : Verdict :=
  match c.compress source target d with
  | (.ok 0, _) => .error "compressed output is empty"
  | (.ok (_ + 1), d) => (d.read? target).mapError Cause.message
  | (.error f, _) => .error f.message

variable {base : Path} {maxSize maxFiles : Nat} {codec : Codec} {spare : List String}
  {place : Path → Place} {files : Path → Option Nat} {s : Shelf} {d₀ d d' : Disk}

/-! ## 1. Changes beside the active file -/

theorem holds_congr {w : Writer} {n : Nat} {text : Octets} (h : w.Holds n text d)
    (hoct : d'.octetsOf n = d.octetsOf n) (hlength : d.contents.length ≤ d'.contents.length) :
    w.Holds n text d' where
  atEnd := ⟨h.atEnd.target, Nat.lt_of_lt_of_le h.atEnd.filed hlength, by
    rw [hoct]
    exact h.atEnd.position⟩
  whole := by
    rw [hoct]
    exact h.whole

theorem Keeps.stands {suffixes : List String} {l : RotatingLog}
    (h : Keeps base maxSize maxFiles suffixes place files s l d) :
    Stands base maxSize maxFiles suffixes place files s.active l d where
  terms := h.terms
  sound := h.racked.sound
  placed := h.racked.kept.toPlaced
  writable := h.racked.kept.harmless.writes
  reads := by
    obtain ⟨w, n, hw, hn, hholds⟩ := h.writer
    rw [hw]
    exact ⟨n, hn, hholds⟩

/-- A call of a log changes nothing but its own paths. -/
theorem Keeps.within {suffixes : List String} {l : RotatingLog}
    (h : Keeps base maxSize maxFiles suffixes place files s l d) (c : Errand) :
    Within (IsOwn base maxFiles suffixes) place d (c.perform l d).disk := by
  obtain ⟨r, l', d', ns, files', text', hr, hon, -⟩ := h.stands.perform c
  rw [hr]
  exact hon.shifted.within

/-- And of the files that there are it writes to none but the active one. -/
theorem Keeps.spared {suffixes : List String} {l : RotatingLog}
    (h : Keeps base maxSize maxFiles suffixes place files s l d) (c : Errand) :
    Spared (IsOwn base maxFiles suffixes) (· = base) place d (c.perform l d).disk := by
  obtain ⟨r, l', d', ns, files', text', hr, hon, -⟩ := h.stands.perform c
  rw [hr]
  exact hon.shifted.spared

/-! ## 2. Compressing slot 1 -/

/-- **A compressed log with its disk keeps a row.** -/
structure Packs (base : Path) (maxSize maxFiles : Nat) (codec : Codec) (spare : List String)
    (files : Path → Option Nat) (row : Row) (l : CompressedLog) (d₀ d : Disk) : Prop where
  framed : Framed base maxFiles codec.suffix spare d₀ d
  keeps : Keeps base maxSize maxFiles [codec.suffix] (placeAt d₀) files (row.shelf codec.suffix)
    l.log d
  coded : l.codec = some codec
  onRotate : l.options.onRotate = true
  counts : Counts l.tally row.segments
  rotations : l.log.rotations = row.segments.length

/-- How the compression of a file ends. -/
def compressionEnd (source : Path) : Verdict → Except Fault Unit
  | .ok _ => .ok ()
  | .error words => .error (.compression source.toString words)

variable {l : RotatingLog} {segments : List Segment} {text : Octets} {words : String}

/-- Slot 1 has the plain file of a segment that was not compressed. -/
theorem Keeps.first_slot (hm : 1 ≤ maxFiles) (hs : codec.suffix ≠ "")
    (h : Keeps base maxSize maxFiles [codec.suffix] place files
      (Row.shelf codec.suffix ⟨[], ⟨text, .error words⟩ :: segments⟩) l d) :
    ∃ k, files (slotPath base 1 "") = some k ∧ d.octetsOf k = text ∧
      files (slotPath base 1 codec.suffix) = none := by
  have hplain : (files (slotPath base 1 "")).map d.octetsOf = some text :=
    h.held 1 "" (Nat.le_refl 1) hm (.inl rfl)
  have hpacked := h.held 1 codec.suffix (Nat.le_refl 1) hm (.inr List.mem_cons_self)
  have hnone : Segment.file codec.suffix ⟨text, .error words⟩ codec.suffix = none := if_neg hs
  obtain ⟨k, hk, htext⟩ := Option.map_eq_some_iff.mp hplain
  exact ⟨k, hk, htext, Option.map_eq_none_iff.mp (hpacked.trans hnone)⟩

/-- The log keeps its active text whatever has become of the slots. -/
theorem Keeps.reshelved {suffixes : List String} {files' : Path → Option Nat}
    (h : Keeps base maxSize maxFiles suffixes place files s l d)
    (hk : Kept (IsOwn base maxFiles suffixes) place files' d') (hbase : files' base = files base)
    (hlength : d.contents.length ≤ d'.contents.length)
    (hactive : ∀ n, files base = some n → d'.octetsOf n = d.octetsOf n) :
    Keeps base maxSize maxFiles suffixes place files'
      ⟨s.active, fun i e => (files' (slotPath base i e)).map d'.octetsOf⟩ l d' where
  terms := h.terms
  racked := ⟨h.racked.sound, hk⟩
  writer := by
    obtain ⟨w, n, hw, hn, hholds⟩ := h.writer
    exact ⟨w, n, hw, hbase.trans hn, holds_congr hholds (hactive n hn) hlength⟩
  held _ _ _ _ _ := rfl
  size := h.size

/-- **The log keeps the row with the verdict on its newest segment**, once slot 1 has its file. -/
theorem Keeps.repacked {files' : Path → Option Nat} {v : Verdict}
    (h : Keeps base maxSize maxFiles [codec.suffix] place files
      (Row.shelf codec.suffix ⟨[], ⟨text, .error words⟩ :: segments⟩) l d)
    (hk : Kept (IsOwn base maxFiles [codec.suffix]) place files' d')
    (hlength : d.contents.length ≤ d'.contents.length)
    (hcontents : ∀ k < d.contents.length, d'.octetsOf k = d.octetsOf k)
    (hsame : ∀ p, p ≠ slotPath base 1 "" → p ≠ slotPath base 1 codec.suffix → files' p = files p)
    (hplain : (files' (slotPath base 1 "")).map d'.octetsOf =
      Segment.file codec.suffix ⟨text, v⟩ "")
    (hpacked : (files' (slotPath base 1 codec.suffix)).map d'.octetsOf =
      Segment.file codec.suffix ⟨text, v⟩ codec.suffix) :
    Keeps base maxSize maxFiles [codec.suffix] place files'
      (Row.shelf codec.suffix ⟨[], ⟨text, v⟩ :: segments⟩) l d' := by
  have hbase := hsame base (h.racked.sound.slotPath_ne (.inl rfl)).symm
    (h.racked.sound.slotPath_ne (.inr List.mem_cons_self)).symm
  have hr := h.reshelved hk hbase hlength fun n hn =>
    hcontents n (h.racked.kept.filed base n .active hn)
  refine ⟨hr.terms, hr.racked, hr.writer, fun i e hi him he => ?_, hr.size⟩
  obtain ⟨j, rfl⟩ : ∃ j, i = j + 1 := ⟨i - 1, by omega⟩
  rcases j with _ | j
  · rcases he with rfl | he
    · exact hplain
    · rw [List.mem_singleton.mp he]
      exact hpacked
  · have hne : ∀ e', IsEnding [codec.suffix] e' → slotPath base (j + 2) e ≠ slotPath base 1 e' :=
      fun e' he' hp => absurd (h.racked.sound.slotPath_inj he he' hp).1 (by omega)
    have hheld := h.held (j + 2) e hi him he
    rw [hsame _ (hne "" (.inl rfl)) (hne codec.suffix (.inr List.mem_cons_self))]
    refine Eq.trans ?_ hheld
    cases hk : files (slotPath base (j + 2) e) with
    | none => rfl
    | some k =>
      have hlt := h.racked.kept.filed _ k (.slot (j + 2) e hi him he) hk
      exact congrArg some (hcontents k hlt)

/-- A segment that the codec failed on stays as it is. -/
theorem Keeps.left_plain {words' : String} (hb : Bare base maxFiles codec.suffix spare d₀)
    (h : Keeps base maxSize maxFiles [codec.suffix] place files
      (Row.shelf codec.suffix ⟨[], ⟨text, .error words⟩ :: segments⟩) l d)
    (hk : Kept (IsOwn base maxFiles [codec.suffix]) place files d')
    (hlength : d.contents.length ≤ d'.contents.length)
    (hcontents : ∀ k < d.contents.length, d'.octetsOf k = d.octetsOf k) :
    Keeps base maxSize maxFiles [codec.suffix] place files
      (Row.shelf codec.suffix ⟨[], ⟨text, .error words'⟩ :: segments⟩) l d' := by
  obtain ⟨k, hplain, htext, hfree⟩ := h.first_slot hb.slots hb.isSuffix.ne_empty
  have hlt := h.racked.kept.filed _ k hb.own_plain hplain
  refine h.repacked hk hlength hcontents (fun _ _ _ => rfl) ?_ ?_
  · rw [hplain, Option.map_some, hcontents k hlt, htext]
    rfl
  · rw [hfree]
    exact (if_neg hb.isSuffix.ne_empty).symm

/-- A segment that was compressed is in the compressed file, once the plain one is removed. -/
theorem Keeps.left_packed {d₁ : Disk} {j : Nat} (hb : Bare base maxFiles codec.suffix spare d₀)
    (h : Keeps base maxSize maxFiles [codec.suffix] place files
      (Row.shelf codec.suffix ⟨[], ⟨text, .error words⟩ :: segments⟩) l d)
    (hk : Kept (IsOwn base maxFiles [codec.suffix]) place
      (Function.update files (slotPath base 1 codec.suffix) (some j)) d₁)
    (hlength : d.contents.length ≤ d₁.contents.length)
    (hcontents : ∀ k < d.contents.length, d₁.octetsOf k = d.octetsOf k)
    (hre : Rearranged (IsOwn base maxFiles [codec.suffix]) place
      (Function.update (Function.update files (slotPath base 1 codec.suffix) (some j))
        (slotPath base 1 "") none) d₁ d') :
    Keeps base maxSize maxFiles [codec.suffix] place
      (Function.update (Function.update files (slotPath base 1 codec.suffix) (some j))
        (slotPath base 1 "") none)
      (Row.shelf codec.suffix ⟨[], ⟨text, .ok (d₁.octetsOf j)⟩ :: segments⟩) l d' := by
  have hne : slotPath base 1 codec.suffix ≠ slotPath base 1 "" := fun he =>
    hb.isSuffix.ne_empty
      (h.racked.sound.slotPath_inj (.inr List.mem_cons_self) (.inl rfl) he).2
  refine h.repacked (hk.rearranged hre) (hre.contents ▸ hlength)
    (fun k hk => (hre.octetsOf k).trans (hcontents k hk)) (fun p hp hp' => ?_) ?_ ?_
  · rw [Function.update_of_ne hp, Function.update_of_ne hp']
  · rw [Function.update_self]
    exact (if_neg hb.isSuffix.ne_empty.symm).symm
  · rw [Function.update_of_ne hne, Function.update_self, Option.map_some, hre.octetsOf]
    exact (if_pos rfl).symm

/-- **The codec is asked for slot 1, and the plain file goes if there is a compressed one.** -/
theorem compressFile_keeps {l : CompressedLog} (hb : Bare base maxFiles codec.suffix spare d₀)
    (hc : Honest spare codec) (hf : Framed base maxFiles codec.suffix spare d₀ d)
    (hk : Keeps base maxSize maxFiles [codec.suffix] (placeAt d₀) files
      (Row.shelf codec.suffix ⟨[], ⟨text, .error words⟩ :: segments⟩) l.log d)
    (ht : Counts l.tally segments) :
    let source := slotPath base 1 ""
    let target := slotPath base 1 codec.suffix
    let v := verdictOf codec source target d
    ∃ tally d' files', l.compressFile codec source target d =
        ⟨compressionEnd source v, { l with tally := tally }, d', []⟩ ∧
      Counts tally (⟨text, v⟩ :: segments) ∧ Framed base maxFiles codec.suffix spare d₀ d' ∧
      Keeps base maxSize maxFiles [codec.suffix] (placeAt d₀) files'
        (Row.shelf codec.suffix ⟨[], ⟨text, v⟩ :: segments⟩) l.log d' := by
  intro source target v
  have hkept := hk.racked.kept
  obtain ⟨k, hplain, htext, hfree⟩ := hk.first_slot hb.slots hb.isSuffix.ne_empty
  obtain ⟨made, hmade⟩ := hc source target _ d (hf.laid hb hkept hplain hfree)
  have hk₁ := hf.placed hb hkept hfree hmade
  have hf₁ := hf.made hb hmade
  have hfreed : Function.update files target none = files := hfree ▸ Function.update_eq_self _ _
  rcases hcomp : codec.compress source target d with ⟨f | n, d₁⟩
  · -- the codec failed, and there is nothing at the target
    rw [hcomp] at hmade hk₁ hf₁
    have hv : v = .error f.message := by
      show verdictOf codec source target d = _
      rw [verdictOf, hcomp]
    rw [hmade.failed f rfl, hfreed] at hk₁
    rw [hv]
    refine ⟨_, d₁, files, ?_, ht.failure text _, hf₁,
      hk.left_plain hb hk₁ hmade.length hmade.contents⟩
    rw [CompressedLog.compressFile, hcomp]
    rfl
  rw [hcomp] at hmade hk₁ hf₁
  cases n with
  | zero =>
    -- what may be at the target is removed
    have hv : v = .error "compressed output is empty" := by
      show verdictOf codec source target d = _
      rw [verdictOf, hcomp]
    obtain ⟨d₂, hr, hre⟩ := hk₁.toPlaced.removeFile hb.own_packed (run_mishap hk₁.harmless)
    have hk₂ := hk₁.rearranged hre
    rw [Function.update_idem, hfreed] at hk₂
    rw [hv]
    refine ⟨_, d₂, files, ?_, ht.failure text _, hf₁.own hb hre.within,
      hk.left_plain hb hk₂ (hre.contents ▸ hmade.length) fun k hk =>
        (hre.octetsOf k).trans (hmade.contents k hk)⟩
    rw [CompressedLog.compressFile, hcomp]
    dsimp only
    rw [hr]
    rfl
  | succ n =>
    -- the compressed file is there, and the plain one is removed
    obtain ⟨j, hj, hsize⟩ := Option.map_eq_some_iff.mp (hmade.size n rfl)
    rw [hj] at hk₁
    have hread : d₁.read? target = .ok (d₁.octetsOf j) := by
      rw [hk₁.read? hb.own_packed, Function.update_self]
    have hv : v = .ok (d₁.octetsOf j) := by
      show verdictOf codec source target d = _
      rw [verdictOf, hcomp]
      dsimp only
      rw [hread]
      rfl
    have hbefore : d.fileSize source = text.length := by
      rw [Disk.fileSize, hkept.look? hb.own_plain, hplain]
      exact congrArg List.length htext
    have hne : source ≠ target := fun he => hb.isSuffix.ne_empty
      (hk.racked.sound.slotPath_inj (.inl rfl) (.inr List.mem_cons_self) he).2.symm
    obtain ⟨d₂, hr, hre⟩ := hk₁.toPlaced.removeFile hb.own_plain (run_mishap hk₁.harmless)
    rw [Function.update_of_ne hne, hplain] at hr
    rw [hv]
    refine ⟨_, d₂, _, ?_, ht.success text (d₁.octetsOf j), hf₁.own hb hre.within,
      hk.left_packed hb hk₁ hmade.length hmade.contents hre⟩
    rw [CompressedLog.compressFile, hcomp]
    dsimp only
    rw [CompressedLog.dropSource, hr, hbefore, ← hsize]
    rfl

/-- Slot 1 has a plain file, so it is compressed. -/
theorem compressNewest_eq {l : CompressedLog} (hm : 1 ≤ maxFiles) (hs : codec.suffix ≠ "")
    (hcode : l.codec = some codec) (hwant : l.options.onRotate = true)
    (h : Keeps base maxSize maxFiles [codec.suffix] place files
      (Row.shelf codec.suffix ⟨[], ⟨text, .error words⟩ :: segments⟩) l.log d) :
    l.compressNewest d =
      l.compressFile codec (slotPath base 1 "") (slotPath base 1 codec.suffix) d := by
  obtain ⟨k, hplain, -, -⟩ := h.first_slot hm hs
  have hentry : d.hasEntry (slot base 1) = true := by
    rw [← slotPath_empty, h.racked.kept.hasEntry (.slot 1 "" (Nat.le_refl 1) hm (.inl rfl)), hplain]
    rfl
  rw [CompressedLog.compressNewest, hcode]
  dsimp only
  rw [h.terms.base, hwant, hentry, slotPath_empty]
  rfl

/-- What the codec makes of the segment that a line ends, if it ends one. -/
def lineVerdict (base : Path) (codec : Codec) (l : CompressedLog) (line : String) (d : Disk) :
    Verdict :=
  verdictOf codec (slotPath base 1 "") (slotPath base 1 codec.suffix) (l.log.writeLine line d).disk

/-- **A line takes the row to the next**, and fails where the codec failed on a segment. -/
theorem writeLine_packs {l : CompressedLog} {row : Row}
    (hb : Bare base maxFiles codec.suffix spare d₀) (hc : Honest spare codec)
    (h : Packs base maxSize maxFiles codec spare files row l d₀ d) (line : String) :
    let a : Asked := ⟨some line, lineVerdict base codec l line d⟩
    ∃ l' d' files' r, l.writeLine line d = ⟨r, l', d', []⟩ ∧
      Outcome.ofExcept r = row.answer maxSize (slotPath base 1 "").toString a ∧
      Packs base maxSize maxFiles codec spare files' (row.after maxSize a) l' d₀ d' := by
  intro a
  obtain ⟨l₁, d₁, files₁, hline, hrot, hk⟩ := writeLine_keeps h.keeps line
  have hf := h.framed.own hb (h.keeps.within (.line line))
  have hturns : ((row.shelf codec.suffix).append (Errand.line line).text).turns maxSize
      (.line line) = row.ends maxSize a := rfl
  rw [show (Errand.line line).perform l.log d = l.log.writeLine line d from rfl, hline] at hf
  rw [Row.shelf_after (Nat.one_le_iff_ne_zero.mp hb.slots) codec.suffix row line ""] at hk
  rw [hturns] at hline hrot
  have hends : row.ends maxSize ⟨some line, .error ""⟩ = row.ends maxSize a := rfl
  rw [Row.after, hends] at hk
  cases he : row.ends maxSize a with
  | false =>
    rw [he] at hline hrot hk
    refine ⟨{ l with log := l₁ }, d₁, files₁, .ok (), ?_, ?_, ?_⟩
    · rw [CompressedLog.writeLine, hline]
    · rw [Row.answer, he]
      cases a.verdict <;> rfl
    · rw [Row.after, he]
      exact ⟨hf, hk, h.coded, h.onRotate, h.counts, hrot.trans h.rotations⟩
  | true =>
    rw [he] at hline hrot hk
    have hv : a.verdict =
        verdictOf codec (slotPath base 1 "") (slotPath base 1 codec.suffix) d₁ := by
      show lineVerdict base codec l line d = _
      rw [lineVerdict, hline]
    obtain ⟨tally, d₂, files₂, hcomp, hcounts, hf₂, hk₂⟩ :=
      compressFile_keeps (l := { l with log := l₁ }) hb hc hf hk h.counts
    rw [← hv] at hcomp hcounts hk₂
    refine ⟨{ l with log := l₁, tally := tally }, d₂, files₂,
      compressionEnd (slotPath base 1 "") a.verdict, ?_, ?_, ?_⟩
    · rw [CompressedLog.writeLine, hline]
      dsimp only
      rw [compressNewest_eq (l := { l with log := l₁ }) hb.slots hb.isSuffix.ne_empty h.coded
        h.onRotate hk, hcomp]
      rfl
    · rw [Row.answer, he]
      cases a.verdict <;> rfl
    · rw [Row.after, he]
      refine ⟨hf₂, hk₂, h.coded, h.onRotate, hcounts, ?_⟩
      rw [hrot, h.rotations]
      rfl

end Logworks.Rotation
