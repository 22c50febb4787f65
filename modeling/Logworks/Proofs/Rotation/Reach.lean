import Logworks.Proofs.Rotation.Packing

/-!
# The paths a log reaches

A log with a codec of the library works on the active file and the files of its slots, and on one
path beside slot 1, where a file is compressed before it gets its name. This file fixes

* `IsReached` -- these paths, and no others; `IsWritten` -- those whose files are written to;
* `Prepared` -- the disk as such a log may find it: plain files at these paths or nothing, also what
  a compression that was broken off has left;
* `Prepared.kept` -- **then they stand for places that lie apart**;
* `Prepared.not_reached` -- **and slots beyond the last are none of them**, under any suffix;
* `compressFile_repacks` -- **compressing a file writes to the half-way path only**, and leaves
  nothing there.
-/

namespace Logworks.Rotation

open Logworks.Disk Logworks.Codec Logworks.Text

/-! ## 1. Paths -/

/-- The suffixes under which slots are looked for. -/
def suffixesOf (codec : Option Codec) : List String := codec.toList.map Codec.suffix

/-- Where a codec of the library works before slot 1 has its compressed file. -/
def halfPath (base : Path) (c : Codec) : Path := besideTarget (slotPath base 1 c.suffix)

/-- The half-way path, if there is a codec and a slot for it to work on. -/
inductive IsHalf (base : Path) (maxFiles : Nat) (codec : Option Codec) : Path → Prop where
  | mk (c : Codec) (hc : codec = some c) (hm : 1 ≤ maxFiles) :
      IsHalf base maxFiles codec (halfPath base c)

/-- **The paths of a log, and the half-way path of its codec.** -/
def IsReached (base : Path) (maxFiles : Nat) (codec : Option Codec) (p : Path) : Prop :=
  IsOwn base maxFiles (suffixesOf codec) p ∨ IsHalf base maxFiles codec p

/-- Those whose files are written to. The others are renamed and removed only. -/
def IsWritten (base : Path) (maxFiles : Nat) (codec : Option Codec) (p : Path) : Prop :=
  p = base ∨ IsHalf base maxFiles codec p

/-- **The disk as a log may find it**: nothing is going to fail, and each of the paths names a plain
file, or nothing yet, under a name that is not too long. No two of them are one file. -/
structure Prepared (base : Path) (maxFiles : Nat) (codec : Option Codec) (d : Disk) : Prop where
  harmless : d.mishaps.Harmless
  found : ∀ p, IsReached base maxFiles codec p →
    d.find .name p = .ok (.named (placeAt d p) ((fileAt? d p).map .file) false)
  short : ∀ p, IsReached base maxFiles codec p → hasLongName (placeAt d p) = false
  filed : ∀ p k, IsReached base maxFiles codec p → fileAt? d p = some k → k < d.contents.length
  single : ∀ p q k, IsReached base maxFiles codec p → IsReached base maxFiles codec q →
    fileAt? d p = some k → fileAt? d q = some k → p = q

/-- A codec that works beside its target, as those of the library do. -/
structure IsBeside (c : Codec) : Prop where
  suffix : IsSuffix c.suffix
  through : ∃ encode, ∀ source target d,
    c.compress source target d = (throughBeside encode source target).run d

theorem isBeside_of_codec? {o : Options} {c : Codec} (h : o.codec? = some c) : IsBeside c := by
  unfold Options.codec? at h
  split at h
  · cases h
  · cases h
    exact ⟨⟨⟨['g', 'z'], rfl⟩, by decide⟩, Gzip.encode, fun _ _ _ => rfl⟩
  · cases h
    exact ⟨⟨⟨['z', 's', 't'], rfl⟩, by decide⟩, Zstd.encode, fun _ _ _ => rfl⟩

variable {base : Path} {maxFiles : Nat} {codec : Option Codec} {c : Codec} {d d' : Disk}
  {p q : Path}

theorem IsWritten.reached (h : IsWritten base maxFiles codec p) :
    IsReached base maxFiles codec p := by
  rcases h with rfl | h
  · exact .inl .active
  · exact .inr h

theorem mem_suffixesOf {s : String} (h : s ∈ suffixesOf codec) :
    ∃ c, codec = some c ∧ c.suffix = s := by
  obtain ⟨c, hc, rfl⟩ := List.mem_map.mp h
  exact ⟨c, Option.mem_toList.mp hc, rfl⟩

theorem halfPath_eq (base : Path) (c : Codec) :
    halfPath base c = slotPath base 1 (c.suffix ++ ".tmp") :=
  slotPath_withSuffix base 1 c.suffix ".tmp"

theorem IsBeside.dotted_half (h : IsBeside c) : Dotted (c.suffix ++ ".tmp").toList :=
  .half (.inr h.suffix.dot)

theorem IsBeside.slash_half (h : IsBeside c) : '/' ∉ (c.suffix ++ ".tmp").toList := by
  rw [String.toList_append, List.mem_append, not_or]
  exact ⟨h.suffix.slash, by decide⟩

theorem Sound.not_isDots {suffixes : List String} (h : Sound base suffixes) (i : Nat)
    (s : List Char) : isDots (slotName base i ++ s) = false := by
  obtain ⟨heads, m, hm⟩ := h.name
  exact isDots_eq_false.mpr (slotName_append_ne_dots (Path.name?_of_hasName hm) i s)

namespace Prepared

/-- The log itself may work there. -/
theorem ready (h : Prepared base maxFiles codec d) (hb : ∀ c, codec = some c → IsBeside c) :
    Ready base maxFiles (suffixesOf codec) d where
  harmless := h.harmless
  suffix s hs := by
    obtain ⟨c, hc, rfl⟩ := mem_suffixesOf hs
    exact (hb c hc).suffix
  found p hp := h.found p (.inl hp)
  short p hp := h.short p (.inl hp)
  filed p k hp := h.filed p k (.inl hp)
  single p q k hp hq := h.single p q k (.inl hp) (.inl hq)

theorem homed (h : Prepared base maxFiles codec d) (hp : IsReached base maxFiles codec p) :
    Homed d p (placeAt d p) ∧ (fileAt? d p).map .file = d.entry? (placeAt d p) :=
  homed_of_find (h.found p hp) (h.short p hp)

/-- The half-way path stands for a place in the directory of the log. -/
theorem place_half (h : Prepared base maxFiles codec d) (hb : ∀ c, codec = some c → IsBeside c)
    (hc : codec = some c) (hm : 1 ≤ maxFiles) :
    placeAt d (halfPath base c) =
      (placeAt d base).dropLast ++ [slotName base 1 ++ (c.suffix ++ ".tmp").toList] := by
  have hh := (h.homed (.inr (.mk c hc hm))).1
  rw [halfPath_eq] at hh ⊢
  exact (h.ready hb).place_beside hh (hb c hc).slash_half

/-- **Nothing that the log reaches is below one of its paths**, or is that of a slot beyond. -/
theorem not_prefix_half (h : Prepared base maxFiles codec d)
    (hb : ∀ c, codec = some c → IsBeside c) (hp : IsOwn base maxFiles (suffixesOf codec) p)
    (hq : IsHalf base maxFiles codec q) : ¬ placeAt d p <+: placeAt d q := by
  obtain ⟨c, hc, hm⟩ := hq
  have hr := h.ready hb
  rw [h.place_half hb hc hm]
  refine hr.not_prefix (hb c hc).dotted_half (fun e _ he hse => ?_) hp
  have heq := String.toList_inj.mp hse
  rcases he with rfl | he
  · exact (hb c hc).suffix.ne_empty (String.append_eq_empty_iff.mp heq.symm).1
  · obtain ⟨c', hc', rfl⟩ := mem_suffixesOf he
    obtain rfl := Option.some.inj (hc.symm.trans hc')
    rw [String.toList_append] at hse
    cases List.append_right_eq_self.mp hse.symm

theorem half_not_own (h : Prepared base maxFiles codec d) (hb : ∀ c, codec = some c → IsBeside c)
    (hq : IsHalf base maxFiles codec q) : ¬ IsOwn base maxFiles (suffixesOf codec) q := fun ho =>
  h.not_prefix_half hb ho hq (List.prefix_refl _)

/-- **All paths that are reached stand for places that lie apart.** -/
theorem kept (h : Prepared base maxFiles codec d) (hb : ∀ c, codec = some c → IsBeside c) :
    Kept (IsReached base maxFiles codec) (placeAt d) (fileAt? d) d where
  harmless := h.harmless
  homed p hp := (h.homed hp).1
  entry p hp := (h.homed hp).2.symm
  filed := h.filed
  single := h.single
  apart := by
    rintro p q (hp | hp) (hq | hq) hpre
    · exact (h.ready hb).racked.kept.apart p q hp hq hpre
    · exact absurd hpre (h.not_prefix_half hb hp hq)
    · -- places in one directory, so they are the same
      obtain ⟨heads, m, hname⟩ := (h.ready hb).sound.name
      obtain ⟨y, hy, -⟩ := (h.ready hb).exists_name (Path.name?_of_hasName hname) hq
      have hsame : placeAt d q = placeAt d p := by
        obtain ⟨c, hc, hm⟩ := hp
        rw [h.place_half hb hc hm, hy, List.prefix_append_right_inj] at hpre
        rw [h.place_half hb hc hm, hy, List.singleton_inj.mp (hpre.eq_of_length rfl)]
      exact absurd (hsame ▸ List.prefix_refl _) (h.not_prefix_half hb hq hp)
    · obtain ⟨c, hc, -⟩ := hp
      obtain ⟨c', hc', -⟩ := hq
      rw [Option.some.inj (hc.symm.trans hc')]

theorem isVacantOrFile (h : Prepared base maxFiles codec d)
    (hb : ∀ c, codec = some c → IsBeside c) (o : Place)
    (ho : ∃ p, IsReached base maxFiles codec p ∧ placeAt d p = o) : IsVacantOrFile d o := by
  obtain ⟨p, hp, rfl⟩ := ho
  exact (h.kept hb).toPlaced.isVacantOrFile hp

/-- **A slot beyond the last is not reached**, under no suffix. -/
theorem not_reached (h : Prepared base maxFiles codec d) (hb : ∀ c, codec = some c → IsBeside c)
    {i : Nat} (hi : maxFiles < i) {s : List Char} (hs : Dotted s)
    (hp : IsReached base maxFiles codec p) :
    ¬ placeAt d p <+: (placeAt d base).dropLast ++ [slotName base i ++ s] := by
  rcases hp with hp | ⟨c, hc, hm⟩
  · exact Ready.not_prefix (h.ready hb) hs (fun _ hle => by omega) hp
  · obtain ⟨heads, m, hname⟩ := (h.ready hb).sound.name
    rw [h.place_half hb hc hm, List.prefix_append_right_inj]
    intro hpre
    obtain ⟨hone, -⟩ := slotName_append_inj (Path.name?_of_hasName hname) (hb c hc).dotted_half hs
      (List.singleton_inj.mp (hpre.eq_of_length rfl))
    omega

end Prepared

/-! ## 2. Compressing a file -/

/-- **What compressing a file does to a disk**: it writes to the half-way path only and leaves
nothing there; the source and the target come and go, and no other path has another file than
before. -/
structure Repacked (own : Path → Prop) (place : Path → Place) (files files' : Path → Option Nat)
    (source target : Path) (d d' : Disk) : Prop where
  kept : Kept own place files' d'
  within : Within own place d d'
  spared : Spared own (· = besideTarget target) place d d'
  gone : files' (besideTarget target) = none
  others : ∀ p, p ≠ source → p ≠ target → p ≠ besideTarget target → files' p = files p

variable {own : Path → Prop} {place : Path → Place} {files files' : Path → Option Nat} {k : Nat}
  {source target : Path}

/-- The codec puts the compressed file beside the source. -/
theorem compress_repacks (h : Kept own place files d) (hb : IsBeside c) (hsource : own source)
    (htarget : own target) (hhalf : own (besideTarget target)) (hsh : source ≠ besideTarget target)
    (hk : files source = some k) :
    ∃ n d' files', c.compress source target d = (.ok n, d') ∧
      Repacked own place files files' source target d d' := by
  have hth : target ≠ besideTarget target := (besideTarget_ne target).symm
  have hopen : (openSource source).run d = (.ok (), d.begun) :=
    (run_bind_ok (run_mishap h.harmless)).trans
      (run_change_ok (by rw [h.toPlaced.begun.look? hsource, hk]; rfl))
  have hread : ∀ n d', Opened own place files (besideTarget target) n d.begun d' →
      ∃ bytes, d'.read? source = .ok bytes := by
    intro n d' ho
    refine ⟨d'.octetsOf k, ?_⟩
    rw [ho.placed.read? hsource, Function.update_of_ne hsh, hk]
  obtain ⟨encode, hthrough⟩ := hb.through
  obtain ⟨n, d₁, d₂, hr, ho, hharm, hre⟩ := run_beside h hhalf htarget hopen hread encode
  have hk₁ : Kept own place (Function.update files (besideTarget target) (some n)) d₁ :=
    ⟨ho.placed, hharm⟩
  -- the half-way file is at the target now
  have hgone : Placed.moveFile (Function.update files (besideTarget target) (some n))
      (besideTarget target) target (besideTarget target) = none := by
    rw [Placed.moveFile, if_neg hth.symm, if_pos rfl]
  refine ⟨_, d₂, _, (hthrough source target d).trans hr, hk₁.rearranged hre,
    fun o hno => (hre.within o hno).trans (ho.within o hno), ?_, hgone, fun p _ hpt hph => ?_⟩
  · have hbegun : Spared own (· = besideTarget target) place d d.begun :=
      h.toPlaced.rearranged_begun.spared h.toPlaced fun _ hp => ⟨hp ▸ hhalf, .inr rfl⟩
    have hmoved : Spared own (· = besideTarget target) place d₁ d₂ :=
      hre.spared hk₁.toPlaced fun _ hp => ⟨hp ▸ hhalf, .inl (hp ▸ hgone)⟩
    exact (hbegun.trans (spared_of_opened h.toPlaced.begun hhalf ho)).trans hmoved
  · rw [Placed.moveFile, if_neg hpt, if_neg hph, Function.update_of_ne hph]

/-- Then one of the two files is removed. -/
theorem Repacked.removed (h : Repacked own place files files' source target d d')
    (hhalf : own (besideTarget target)) {r : Path} (hown : own r) (hr : r = source ∨ r = target)
    (hrh : r ≠ besideTarget target) :
    ∃ files'', Repacked own place files files'' source target d ((removeFile r).run d').2 := by
  obtain ⟨d'', hrun, hre⟩ := h.kept.toPlaced.removeFile hown (run_mishap h.kept.harmless)
  rw [hrun]
  have hgone : Function.update files' r none (besideTarget target) = none := by
    rw [Function.update_of_ne hrh.symm, h.gone]
  refine ⟨_, h.kept.rearranged hre, fun o hno => (hre.within o hno).trans (h.within o hno),
    h.spared.trans (hre.spared h.kept.toPlaced fun _ hp => ⟨hp ▸ hhalf, .inl (hp ▸ hgone)⟩),
    hgone, fun p hps hpt hph => ?_⟩
  have hpr : p ≠ r := by
    rcases hr with rfl | rfl
    · exact hps
    · exact hpt
  rw [Function.update_of_ne hpr, h.others p hps hpt hph]

/-- **A log that compresses a file does that to the disk**, and nothing to the log it is about. -/
theorem compressFile_repacks (h : Kept own place files d) (hb : IsBeside c) (hsource : own source)
    (htarget : own target) (hhalf : own (besideTarget target)) (hsh : source ≠ besideTarget target)
    (hk : files source = some k) (l : CompressedLog) :
    let e := l.compressFile c source target d
    e.log.log = l.log ∧ e.log.codec = l.codec ∧ e.log.options = l.options ∧
      ∃ files', Repacked own place files files' source target d e.disk := by
  intro e
  obtain ⟨n, d', files', hcomp, hre⟩ := compress_repacks h hb hsource htarget hhalf hsh hk
  cases n with
  | zero =>
    have he : e = ⟨.error (.compression source.toString "compressed output is empty"),
        { l with tally := l.tally.failure }, ((removeFile target).run d').2, []⟩ := by
      show l.compressFile c source target d = _
      rw [CompressedLog.compressFile, hcomp]
    rw [he]
    exact ⟨rfl, rfl, rfl, hre.removed hhalf htarget (.inr rfl) (besideTarget_ne target).symm⟩
  | succ m =>
    have he : e = l.dropSource source (d.fileSize source) (m + 1) d' := by
      show l.compressFile c source target d = _
      rw [CompressedLog.compressFile, hcomp]
    have hgo := hre.removed hhalf hsource (.inl rfl) hsh
    rw [he, CompressedLog.dropSource]
    generalize (removeFile source).run d' = r at hgo ⊢
    obtain ⟨_ | _, d''⟩ := r
    · exact ⟨rfl, rfl, rfl, hgo⟩
    · exact ⟨rfl, rfl, rfl, hgo⟩

end Logworks.Rotation
