import Logworks.Codec.Basic
import Logworks.Proofs.Disk.Beside
import Logworks.Proofs.Disk.Failing

/-!
# What codecs keep

Whoever compresses a file relies on the codec for this much: it makes a new file at the target or
none, it tells the size of that file, and it leaves all else alone. It may work in files beside the
target, and those are gone when it is done. This file fixes

* `Codec.Laid` -- the codec may begin: the source is a file, and nothing stands where it will write;
* `Codec.Made` -- what it may leave, by what it answers;
* `Codec.Honest` -- **it never leaves anything else**;
* `run_beside` -- what the codecs of the library do, whatever they find at their paths;
* `throughBeside_honest`, `Simple.honest` -- **the codecs of the library are honest**, and so are
  all simple ones but the one that takes its source away.
-/

namespace Logworks.Codec

open Logworks.Disk Logworks.Text

/-! ## 1. Terms -/

/-- The target, and the paths beside it that the codec works with. -/
def Uses (spare : List String) (target p : Path) : Prop :=
  ∃ t ∈ "" :: spare, p = target.withSuffix t

/-- A codec may begin. -/
structure Laid (spare : List String) (source target : Path) (place : Path → Place) (d : Disk) :
    Prop where
  harmless : d.mishaps.Harmless
  source : ∃ q k, Homed d source q ∧ d.entry? q = some (.file k) ∧ k < d.contents.length
  homed : ∀ p, Uses spare target p → Homed d p (place p)
  free : ∀ p, Uses spare target p → d.entry? (place p) = none

/-- **What a codec leaves**: at the target the new file `made`, if any, and nothing besides. -/
structure Made (spare : List String) (target : Path) (place : Path → Place) (made : Option Nat)
    (d : Disk) (r : Except Fault Nat) (d' : Disk) : Prop where
  harmless : d'.mishaps.Harmless
  within : Within (Uses spare target) place d d'
  entry : d'.entry? (place target) = made.map .file
  cleared : ∀ p, Uses spare target p → p ≠ target → d'.entry? (place p) = none
  length : d.contents.length ≤ d'.contents.length
  contents : ∀ k < d.contents.length, d'.octetsOf k = d.octetsOf k
  fresh : ∀ k, made = some k → d.contents.length ≤ k ∧ k < d'.contents.length
  /-- An answer above zero is the size of the file. -/
  size : ∀ n, r = .ok (n + 1) → made.map (fun k => (d'.octetsOf k).length) = some (n + 1)
  failed : ∀ f, r = .error f → made = none

/-- **The codec leaves what it may leave**, wherever it may begin. Which answer it gives may hang on
all of the disk, so it may give any answers in turn. -/
def Honest (spare : List String) (c : Codec) : Prop :=
  ∀ source target place d, Laid spare source target place d →
    ∃ made, Made spare target place made d (c.compress source target d).1
      (c.compress source target d).2

section

variable {spare : List String} {source target : Path} {place : Path → Place} {d d' : Disk}

theorem uses_target (spare : List String) (target : Path) : Uses spare target target :=
  ⟨"", List.mem_cons_self, by simp [Path.withSuffix]⟩

/-- The codec's paths lead to nothing yet. -/
theorem Laid.kept (h : Laid spare source target place d)
    (hspare : ∀ t ∈ spare, '/' ∉ t.toList) :
    Kept (Uses spare target) place (fun _ => none) d where
  harmless := h.harmless
  homed := h.homed
  entry := h.free
  filed _ _ _ hk := by cases hk
  single _ _ _ _ _ hk := by cases hk
  apart p q hp hq hpq := by
    have he := (h.homed q hq).eq_of_below (.inl (h.free p hp)) hpq
    have hslash : ∀ t ∈ "" :: spare, '/' ∉ t.toList := List.forall_mem_cons.mpr ⟨by simp, hspare⟩
    have hhp := h.homed p hp
    have hhq := h.homed q hq
    obtain ⟨s, hs, rfl⟩ := hp
    obtain ⟨t, ht, rfl⟩ := hq
    rw [(h.homed target (uses_target spare target)).suffix_inj hhp hhq (hslash s hs) (hslash t ht)
      he]

/-- The file that is to be compressed can be read, whatever the codec has made so far. -/
theorem Laid.read? (h : Laid spare source target place d) :
    ∃ bytes, ∀ d', Within (Uses spare target) place d d' →
      (∀ k < d.contents.length, d'.octetsOf k = d.octetsOf k) → d'.read? source = .ok bytes := by
  obtain ⟨q, k, hq, he, hlt⟩ := h.source
  have hown : ∀ o, (∃ p, Uses spare target p ∧ place p = o) → IsVacantOrFile d o := by
    rintro o ⟨p, hp, rfl⟩
    exact .inl (h.free p hp)
  refine ⟨d.octetsOf k, fun d' hw hcontents => ?_⟩
  have he' : d'.entry? q = some (.file k) := by
    refine (hw q ?_).trans he
    rintro o ho hoq
    obtain rfl := hq.eq_of_below (hown o ho) hoq
    obtain ⟨p, hp, rfl⟩ := ho
    rw [h.free p hp] at he
    cases he
  rw [Disk.read?, Disk.look?, (hq.mono hown hw).find (.inr ⟨k, he'⟩) .look, he']
  exact congrArg Except.ok (hcontents k hlt)

/-- The target leads to a new file, and the answer is its size. -/
theorem made_new {n : Nat}
    (h : Kept (Uses spare target) place (Function.update (fun _ => none) target (some n)) d')
    (hw : Within (Uses spare target) place d d') (hle : d.contents.length ≤ n)
    (hcontents : ∀ k < d.contents.length, d'.octetsOf k = d.octetsOf k) :
    Made spare target place (some n) d (.ok (d'.octetsOf n).length) d' := by
  have hu := uses_target spare target
  have hlt : n < d'.contents.length := h.filed target n hu (Function.update_self _ _ _)
  exact
    { harmless := h.harmless
      within := hw
      entry := by rw [h.entry target hu, Function.update_self]
      cleared := fun p hp hne => by
        rw [h.entry p hp, Function.update_of_ne hne]
        rfl
      length := Nat.le_trans hle (Nat.le_of_lt hlt)
      contents := hcontents
      fresh := fun k hk => Option.some.inj hk ▸ ⟨hle, hlt⟩
      size := fun m hm => congrArg some (Except.ok.inj hm)
      failed := fun f hf => by cases hf }

/-- A codec that fails at once leaves all as it was. -/
theorem made_nothing (h : Laid spare source target place d) (f : Fault) :
    Made spare target place none d (.error f) d where
  harmless := h.harmless
  within _ _ := rfl
  entry := h.free target (uses_target spare target)
  cleared p hp _ := h.free p hp
  length := Nat.le_refl _
  contents _ _ := rfl
  fresh k hk := by cases hk
  size n hn := by cases hn
  failed _ _ := rfl

/-- Octets are written into a file that is begun anew. -/
theorem run_written {own : Path → Prop} {files : Path → Option Nat}
    (h : Kept own place files d) {p : Path} (hp : own p) :
    ∃ n d₁, (openFresh p).run d = (.ok ⟨.file n, some 0⟩, d₁) ∧
      Opened own place files p n d d₁ ∧
      ∀ bytes, ∃ h' d₂, Handle.writeAll ⟨.file n, some 0⟩ bytes d₁ = (.all, h', d₂) ∧
        Opened own place files p n d d₂ ∧ d₂.mishaps.Harmless ∧ d₂.octetsOf n = bytes := by
  obtain ⟨n, d₁, hr₁, ho, hharm, hnil⟩ := h.openFresh hp
  have hlt : n < d₁.contents.length := ho.placed.filed p n hp (Function.update_self _ _ _)
  have hend : Handle.AtEnd ⟨.file n, some 0⟩ n d₁ := ⟨rfl, hlt, .inr (by rw [hnil]; rfl)⟩
  refine ⟨n, d₁, hr₁, ho, fun bytes => ?_⟩
  obtain ⟨h', d₂, hr₂, -, hoct, ht⟩ := hend.writeAll hharm.writes bytes
  refine ⟨h', d₂, hr₂, ho.touched ht, ht.harmless hharm, ?_⟩
  rw [hoct, hnil, List.nil_append]

/-- A file that was new leaves the others as they were. -/
theorem octetsOf_of_opened {own : Path → Prop} {p : Path} {n : Nat}
    (h : Opened own place (fun _ => none) p n d d') :
    ∀ k < d.contents.length, d'.octetsOf k = d.octetsOf k := by
  intro k hk
  have hle := h.fresh rfl
  exact h.others k hk (by omega)

/-! ## 2. Simple codecs -/

/-- A whole file is written where nothing was. -/
theorem run_writeWhole (h : Laid [] source target place d) (bytes : Octets) :
    ∃ d', (Simple.writeWhole target bytes).run d = (.ok bytes.length, d') ∧
      ∃ n, Made [] target place (some n) d (.ok bytes.length) d' := by
  obtain ⟨n, d₁, hr₁, -, hwritten⟩ := run_written (h.kept (by simp)) (uses_target [] target)
  obtain ⟨h', d₂, hr₂, ho, hharm, hoct⟩ := hwritten bytes
  refine ⟨d₂, ?_, n, hoct ▸ made_new ⟨ho.placed, hharm⟩ ho.within (ho.fresh rfl)
    (octetsOf_of_opened ho)⟩
  unfold Simple.writeWhole
  rw [run_bind_ok hr₁]
  refine (run_bind_ok (rfl : (get : Work Disk).run d₁ = (.ok d₁, d₁))).trans ?_
  rw [hr₂]
  rfl

/-- **All simple codecs are honest**, but for the one that takes its source away. -/
theorem Simple.honest {s : Simple} (hs : s ≠ .steal) (suffix : String) :
    Honest [] (s.codec suffix) := by
  intro source target place d h
  obtain ⟨bytes, hbytes⟩ := h.read?
  have hread := hbytes d (fun _ _ => rfl) fun _ _ => rfl
  show ∃ made, Made [] target place made d (s.compress source target d).1
    (s.compress source target d).2
  by_cases hu : s = .unavailable
  · subst hu
    have hr : Simple.unavailable.compress source target d =
        (.error (.other "codec unavailable"), d) := by
      rw [Simple.compress, hread]
    rw [hr]
    exact ⟨none, made_nothing h _⟩
  · obtain ⟨d', hw, n, hmade⟩ := run_writeWhole h (s.output bytes)
    have hr : s.compress source target d = (.ok (s.output bytes).length, d') := by
      have hchange : (change fun d => (d.read? source).map fun bytes => (bytes, d)).run d =
          (.ok bytes, d) := run_change_ok (by rw [hread]; rfl)
      have hwork : (s.work source target).run d = (.ok (s.output bytes).length, d') := by
        unfold Simple.work
        rw [run_bind_ok hchange, if_neg hs]
        exact hw
      have hadapt := run_adapt_ok Fault.io hwork
      cases s with
      | copy | half | empty => exact hadapt
      | unavailable => exact absurd rfl hu
      | steal => exact absurd rfl hs
    rw [hr]
    exact ⟨some n, hmade⟩

/-! ## 3. Codecs that work beside the target -/

theorem run_stage_ok {α : Type} {words : String} {w : Work α} {a : α}
    (h : w.run d = (.ok a, d')) : (stage source target words w).run d = (.ok a, d') := by
  show stage source target words w d = _
  rw [stage, h]

/-- An operation has begun, and the codec may still begin. -/
theorem Laid.begun (h : Laid spare source target place d) :
    Laid spare source target place d.begun := by
  have hnone : ∀ o : Place, False → IsVacantOrFile d o := fun _ ho => ho.elim
  have hmono : ∀ {p : Path} {there : Place}, Homed d p there → Homed d.begun p there := fun hp =>
    hp.mono hnone fun _ _ => rfl
  obtain ⟨q, k, hq, he, hlt⟩ := h.source
  exact ⟨harmless_begun h.harmless, ⟨q, k, hmono hq, he, hlt⟩, fun p hp => hmono (h.homed p hp),
    h.free⟩

theorem run_openSource (h : Laid spare source target place d) :
    (openSource source).run d = (.ok (), d.begun) := by
  obtain ⟨q, k, hq, he, -⟩ := h.begun.source
  have hlook : d.begun.look? source = .ok (q, .file k) := by
    rw [Disk.look?, hq.find (.inr ⟨k, he⟩) .look, he]
  exact (run_bind_ok (run_mishap h.harmless)).trans (run_change_ok (by rw [hlook]; rfl))

theorem besideTarget_ne (target : Path) : besideTarget target ≠ target := by
  intro he
  have hl := congrArg (fun p : Path => p.chars.length) he
  simp [besideTarget, Path.withSuffix] at hl

/-- **The file is encoded beside the target, and what that gives is renamed**, whatever was at
either path. -/
theorem run_beside {own : Path → Prop} {files : Path → Option Nat} (h : Kept own place files d)
    (hhalf : own (besideTarget target)) (htarget : own target)
    (hopen : (openSource source).run d = (.ok (), d.begun))
    (hread : ∀ n d', Opened own place files (besideTarget target) n d.begun d' →
      ∃ bytes, d'.read? source = .ok bytes) (encode : Octets → Octets) :
    ∃ n d₁ d₂, (throughBeside encode source target).run d =
        (.ok (d₂.octetsOf n).length, d₂) ∧
      Opened own place files (besideTarget target) n d.begun d₁ ∧ d₁.mishaps.Harmless ∧
      Rearranged own place
        (Placed.moveFile (Function.update files (besideTarget target) (some n))
          (besideTarget target) target) d₁ d₂ := by
  have hb : Kept own place files d.begun := h.rearranged h.toPlaced.rearranged_begun
  obtain ⟨n, d₁, hr₁, ho₁, hwritten⟩ := run_written hb hhalf
  obtain ⟨bytes, hbytes⟩ := hread n d₁ ho₁
  obtain ⟨h', d₂, hr₂, ho₂, hharm₂, -⟩ := hwritten (encode bytes)
  have hencode : (encodeInto encode source ⟨.file n, some 0⟩).run d₁ = (.ok (), d₂) := by
    show encodeInto encode source _ d₁ = _
    rw [encodeInto, hbytes]
    dsimp only
    rw [hr₂]
  obtain ⟨d₃, hr₃, hre⟩ := ho₂.placed.rename hhalf htarget (besideTarget_ne target)
    (run_mishap hharm₂) (Function.update_self _ _ _)
  have hsize : d₃.fileSize target = (d₃.octetsOf n).length := by
    rw [Disk.fileSize, hre.placed.look? htarget, Placed.moveFile, if_pos rfl, Function.update_self]
  refine ⟨n, d₂, d₃, ?_, ho₂, hharm₂, hre⟩
  unfold throughBeside
  rw [run_bind_ok (run_stage_ok hopen), run_bind_ok (run_stage_ok hr₁),
    run_bind_ok (run_stage_ok hencode), run_bind_ok (run_stage_ok hr₃), ← hsize]
  rfl

/-- Where nothing was, that makes one new file. -/
theorem run_throughBeside (h : Laid [".tmp"] source target place d) (encode : Octets → Octets) :
    ∃ n d', (throughBeside encode source target).run d = (.ok (d'.octetsOf n).length, d') ∧
      Made [".tmp"] target place (some n) d (.ok (d'.octetsOf n).length) d' := by
  have hu : Uses [".tmp"] target (besideTarget target) :=
    ⟨".tmp", List.mem_cons_of_mem _ List.mem_cons_self, rfl⟩
  obtain ⟨bytes, hbytes⟩ := h.begun.read?
  obtain ⟨n, d₁, d₂, hr, ho, hharm, hre⟩ := run_beside (h.kept (by simp)) hu (uses_target _ target)
    (run_openSource h) (fun n d' ho => ⟨bytes, hbytes d' ho.within (octetsOf_of_opened ho)⟩) encode
  rw [Placed.moveFile_single] at hre
  have hk : Kept (Uses [".tmp"] target) place
      (Function.update (fun _ => none) (besideTarget target) (some n)) d₁ := ⟨ho.placed, hharm⟩
  exact ⟨n, d₂, hr, made_new (hk.rearranged hre)
    (fun o hno => (hre.within o hno).trans (ho.within o hno)) (ho.fresh rfl) fun k hk =>
      (hre.octetsOf k).trans (octetsOf_of_opened ho k hk)⟩

/-- **A codec that works beside the target is honest.** The file it works in is renamed in the end,
so it is gone. -/
theorem throughBeside_honest (encode : Octets → Octets) (name suffix : String) :
    Honest [".tmp"]
      ⟨name, suffix, fun source target d => (throughBeside encode source target).run d⟩ := by
  intro source target place d h
  obtain ⟨n, d', hr, hmade⟩ := run_throughBeside h encode
  dsimp only
  rw [hr]
  exact ⟨some n, hmade⟩

theorem gzip_honest : Honest [".tmp"] gzip := throughBeside_honest Gzip.encode "gzip" ".gz"

theorem zstd_honest : Honest [".tmp"] zstd := throughBeside_honest Zstd.encode "zstd" ".zst"

end

end Logworks.Codec
