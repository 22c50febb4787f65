import Logworks.Proofs.Disk.Writing
import Logworks.Proofs.Line.Breaks
import Logworks.Sink.Basic
import Mathlib.Algebra.GroupWithZero.Nat

/-!
# One record, one line

Whoever reads a log back takes it apart at the line feeds. A record is one line then, and one more
for each line feed in the name of its logger, which is written as it is; where the names are
unbroken the lines are the records, in order. This file fixes

* `splitLines_flatMap`, `linesOf_flatMap` -- octets and texts that come apart as they were put
  together;
* `Network.count_encodeLine` -- **what breaks the line of a record on its way**;
* `Sink.performAll` -- records given to a sink one after the other; `performAll_plain`,
  `performAll_screen` -- what a file and a screen have got then;
* `one_record_one_line` -- **the line of a record is broken by its logger's name and by nothing
  else**, on the wire, in a file and on a screen.

NOT here: files and screens that show the time of a zone; how a line is broken is told for any dial.
-/

namespace Logworks

open Disk File Fanout Text Network Line

/-! ## 1. Lines -/

namespace Text

theorem ofNat_eq_lineFeed_iff {n : Nat} (h : n < 256) : UInt8.ofNat n = lineFeed ↔ n = 10 := by
  rw [← UInt8.toNat_inj, UInt8.toNat_ofNat', Nat.mod_eq_of_lt h]
  rfl

/-- An octet is a line feed only where the character is one. -/
theorem count_lineFeed_utf8 (c : Char) :
    (String.utf8EncodeChar c).count lineFeed = if c = '\n' then 1 else 0 := by
  have feed : c = '\n' ↔ c.val.toNat = 10 := by
    rw [Char.ext_iff, ← UInt32.toNat_inj]
    rfl
  simp only [String.utf8EncodeChar, feed]
  generalize c.val.toNat = v
  split
  · have one := ofNat_eq_lineFeed_iff (n := v) (by omega)
    simp [List.count_cons, one]
  · rename_i large
    have high {n : Nat} (h : 128 ≤ n) (h' : n < 256) : lineFeed ≠ UInt8.ofNat n := fun e => by
      have := (ofNat_eq_lineFeed_iff h').mp e.symm
      omega
    rw [if_neg (c := v = 10) (by omega)]
    refine List.count_eq_zero.mpr fun hm => ?_
    split at hm
    · simp only [List.mem_cons, List.not_mem_nil, or_false] at hm
      rcases hm with e | e <;> exact high (by omega) (by omega) e
    · split at hm
      · simp only [List.mem_cons, List.not_mem_nil, or_false] at hm
        rcases hm with e | e | e <;> exact high (by omega) (by omega) e
      · simp only [List.mem_cons, List.not_mem_nil, or_false] at hm
        rcases hm with e | e | e | e <;> exact high (by omega) (by omega) e

theorem count_lineFeed_octets (cs : List Char) : (octets cs).count lineFeed = cs.count '\n' := by
  induction cs with
  | nil => rfl
  | cons c cs ih =>
    rw [octets, List.flatMap_cons, List.count_append, ← octets, ih, count_lineFeed_utf8,
      List.count_cons, Nat.add_comm]
    simp

theorem splitLines_line {line : Octets} (h : lineFeed ∉ line) (rest : Octets) :
    splitLines (line ++ lineFeed :: rest) = (line ++ [lineFeed]) :: splitLines rest := by
  induction line with
  | nil => rfl
  | cons b bs ih =>
    have hb : b ≠ lineFeed := fun e => h (e ▸ List.mem_cons_self)
    rw [List.cons_append, splitLines, if_neg hb, ih fun m => h (List.mem_cons_of_mem _ m)]
    rfl

/-- **Lines come apart as they were put together.** -/
theorem splitLines_flatMap {α : Type} {as : List α} {line : α → Octets}
    (h : ∀ a ∈ as, lineFeed ∉ line a) :
    splitLines (as.flatMap fun a => line a ++ [lineFeed]) =
      as.map fun a => line a ++ [lineFeed] := by
  induction as with
  | nil => rfl
  | cons a as ih =>
    rw [List.flatMap_cons, List.append_assoc, List.singleton_append,
      splitLines_line (h a List.mem_cons_self), ih fun a ha => h a (List.mem_cons_of_mem _ ha),
      List.map_cons]

/-- Octets that end with a line feed have as many lines as line feeds. -/
theorem length_splitLines {bytes : Octets} (h : bytes = [] ∨ bytes.getLast? = some lineFeed) :
    (splitLines bytes).length = bytes.count lineFeed := by
  induction bytes with
  | nil => rfl
  | cons b bs ih =>
    have rest : bs = [] ∨ bs.getLast? = some lineFeed := by
      rcases h with h | h
      · cases h
      · cases bs with
        | nil => exact .inl rfl
        | cons c cs => exact .inr (by simpa using h)
    rw [splitLines]
    split
    · rename_i hb
      rw [List.length_cons, ih rest, hb, List.count_cons_self]
    · rename_i hb
      rw [List.count_cons_of_ne hb, ← ih rest]
      cases hbs : splitLines bs with
      | cons l ls => rfl
      | nil =>
        -- a character behind the last line feed
        exfalso
        have none_left : bs.count lineFeed = 0 := by rw [← ih rest, hbs, List.length_nil]
        rcases rest with rfl | rest
        · exact hb (by simpa using h)
        · exact List.count_eq_zero.mp none_left (List.mem_of_getLast? rest)

/-- Lines with line feeds within count for more than one. -/
theorem length_splitLines_flatMap {α : Type} (as : List α) (line : α → Octets) :
    (splitLines (as.flatMap fun a => line a ++ [lineFeed])).length =
      as.length + (as.map fun a => (line a).count lineFeed).sum := by
  have ended : (as.flatMap fun a => line a ++ [lineFeed]) = [] ∨
      (as.flatMap fun a => line a ++ [lineFeed]).getLast? = some lineFeed := by
    rcases List.eq_nil_or_concat as with rfl | ⟨before, a, rfl⟩
    · exact .inl rfl
    · right
      rw [List.concat_eq_append, List.flatMap_append, List.flatMap_singleton, ← List.append_assoc,
        List.getLast?_concat]
  rw [length_splitLines ended]
  clear ended
  induction as with
  | nil => rfl
  | cons a as ih =>
    rw [List.flatMap_cons, List.count_append, ih, List.count_append, List.count_singleton_self,
      List.map_cons, List.sum_cons, List.length_cons]
    omega

end Text

namespace Screen

theorem linesOf_line {line : List Char} (h : '\n' ∉ line) (rest : List Char) :
    linesOf (line ++ '\n' :: rest) = line :: linesOf rest := by
  induction line with
  | nil => rw [List.nil_append, linesOf, if_pos rfl]
  | cons c cs ih =>
    have hc : c ≠ '\n' := fun e => h (e ▸ List.mem_cons_self)
    rw [List.cons_append, linesOf, if_neg hc, ih fun m => h (List.mem_cons_of_mem _ m)]

/-- As with octets; the line feeds are gone. -/
theorem linesOf_flatMap {α : Type} {as : List α} {line : α → List Char}
    (h : ∀ a ∈ as, '\n' ∉ line a) :
    linesOf (as.flatMap fun a => line a ++ ['\n']) = as.map line := by
  induction as with
  | nil => rfl
  | cons a as ih =>
    rw [List.flatMap_cons, List.append_assoc, List.singleton_append,
      linesOf_line (h a List.mem_cons_self), ih fun a ha => h a (List.mem_cons_of_mem _ ha),
      List.map_cons]

end Screen

/-! ## 2. The wire -/

namespace Network

/-- The line of a record without the line feed that ends it. -/
def lineBody (g : Sink.Given) : List Char :=
  '[' :: g.logger.toList ++ "] ".toList ++ Nat.toDigits 10 g.level.ordinal ++ ": ".toList ++
    lineText g.message

theorem encodeLine_eq (g : Sink.Given) :
    encodeLine g.logger g.level g.message = lineBody g ++ ['\n'] := rfl

/-- **What breaks the line of a record on its way** is what breaks the name of its logger. -/
theorem count_lineBody (g : Sink.Given) {c : Char} (hc : isBreak c = true) :
    (lineBody g).count c = g.logger.toList.count c := by
  have opening : Unbroken ['['] := by decide
  have middle : Unbroken ("] ".toList ++ Nat.toDigits 10 g.level.ordinal ++ ": ".toList) := by
    cases g.level <;> decide
  have split : lineBody g = ['['] ++ (g.logger.toList ++
      (("] ".toList ++ Nat.toDigits 10 g.level.ordinal ++ ": ".toList) ++ lineText g.message)) := by
    simp [lineBody]
  rw [split, List.count_append, List.count_append, List.count_append, opening.count_eq_zero hc,
    middle.count_eq_zero hc, (unbroken_lineText g.message).count_eq_zero hc]
  omega

/-- What is sent of a record. -/
def wireOctets (g : Sink.Given) : Octets := octets (encodeLine g.logger g.level g.message)

theorem wireOctets_eq (g : Sink.Given) : wireOctets g = octets (lineBody g) ++ [lineFeed] := by
  rw [wireOctets, encodeLine_eq, octets_append]
  rfl

/-- **Records one behind the other have a line each, and one more for each line feed in a name.** -/
theorem length_splitLines_wire (sent : List Sink.Given) :
    (splitLines (sent.flatMap wireOctets)).length =
      sent.length + (sent.map fun g => g.logger.toList.count '\n').sum := by
  rw [funext wireOctets_eq, length_splitLines_flatMap]
  congr 2
  refine List.map_congr_left fun g _ => ?_
  rw [count_lineFeed_octets, count_lineBody g rfl]

theorem lineFeed_not_mem_lineBody {g : Sink.Given} (h : '\n' ∉ g.logger.toList) :
    lineFeed ∉ octets (lineBody g) := by
  rw [← List.count_eq_zero, count_lineFeed_octets, count_lineBody g rfl, List.count_eq_zero]
  exact h

/-- Where the names have none, the lines are the records. -/
theorem splitLines_wire {sent : List Sink.Given} (h : ∀ g ∈ sent, '\n' ∉ g.logger.toList) :
    splitLines (sent.flatMap wireOctets) = sent.map wireOctets := by
  rw [funext wireOctets_eq]
  exact splitLines_flatMap fun g hg => lineFeed_not_mem_lineBody (h g hg)

end Network

/-! ## 3. Sinks -/

namespace Screen

theorem unbroken_startColour (c : Colour) : Unbroken (startColour c) := by
  cases c <;> decide

theorem count_keepColour (colour : Colour) (line : List Char) {c : Char} (hc : isBreak c = true) :
    (keepColour colour line).count c = line.count c := by
  have start := (unbroken_startColour colour).count_eq_zero hc
  have stop : endColour.count c = 0 := (show Unbroken endColour by decide).count_eq_zero hc
  fun_induction keepColour colour line with
  | case1 cs ih =>
    have code : ['\x1b', '[', '0', 'm'].count c = 0 :=
      (show Unbroken ['\x1b', '[', '0', 'm'] by decide).count_eq_zero hc
    rw [List.count_append, List.count_append, start, stop, ih, Nat.zero_add]
    show _ = (['\x1b', '[', '0', 'm'] ++ cs).count c
    rw [List.count_append, code, Nat.zero_add]
  | case2 ch cs _ ih => rw [List.count_cons, List.count_cons, ih]
  | case3 => rfl

/-- A colour breaks no line. -/
theorem count_coloured (colour : Colour) (line : List Char) {c : Char} (hc : isBreak c = true) :
    (coloured colour line).count c = line.count c := by
  rw [coloured, List.count_append, List.count_append, count_keepColour colour line hc,
    (unbroken_startColour colour).count_eq_zero hc,
    (show Unbroken endColour by decide).count_eq_zero hc, Nat.zero_add, Nat.add_zero]

end Screen

namespace Sink

/-- Records given to a sink one after the other, each at its time: what the sink answered, and
what has become of it. -/
def performAll (s : Sink) (site : Site) : List Parts → List Outcome × Sink × Site
  | [] => ([], s, site)
  | p :: ps =>
    let first := s.perform (.log p.logger p.level p.message) { site with time := p.time }
    let (outcomes, s, site) := performAll { s with kind := first.kind } first.site ps
    (first.outcome :: outcomes, s, site)

/-- The records that pass the threshold of a sink. -/
def admitted (s : Sink) (ps : List Parts) : List Parts :=
  ps.filter fun p => s.threshold.admits p.level

/-- What a file gets of a record. -/
def fileOctets (f : Formatter) (p : Parts) : Octets := octetsOf (f.render p) ++ [lineFeed]

/-- The line a screen shows of a record. -/
def shownLine (f : Formatter) (isColoured : Bool) (p : Parts) : String :=
  if isColoured then String.ofList (Screen.coloured p.level.colour (f.render p).toList)
  else f.render p

theorem admitted_cons (s : Sink) (p : Parts) (ps : List Parts) :
    s.admitted (p :: ps) = s.admitted [p] ++ s.admitted ps := by
  rw [admitted, ← List.singleton_append, List.filter_append]
  rfl

theorem writeLine_of_wrote {l : PlainLog} {w w' : Writer} {line : String} {d d' : Disk}
    (writer : l.writer = some w)
    (wrote : w.writePieces d [octetsOf line, [lineFeed]] = (.ok (), w', d')) :
    l.writeLine line d = (.ok (), { l with writer := some w' }, d') := by
  rw [PlainLog.writeLine, writer]
  dsimp only
  rw [wrote]
  rfl

/-- One record at a file. -/
theorem perform_plain {s : Sink} {f : Formatter} {l : PlainLog} {w : Writer} {n : Nat}
    {text : Octets} {site : Site} (kind : s.kind = .plain f l) (writer : l.writer = some w)
    (holds : w.Holds n text site.disk) (writable : site.disk.mishaps.Writable) (p : Parts) :
    ∃ w' site', s.perform (.log p.logger p.level p.message) { site with time := p.time } =
        ⟨.ok, .plain f { l with writer := some w' }, site'⟩ ∧
      w'.Holds n (text ++ (s.admitted [p]).flatMap (fileOctets f)) site'.disk ∧
      site'.disk.mishaps.Writable := by
  unfold perform
  simp only [kind, admitted]
  cases passes : s.threshold.admits p.level with
  | false =>
    refine ⟨w, { site with time := p.time }, ?_, by simpa [passes] using holds, writable⟩
    rw [if_neg Bool.false_ne_true, ← writer]
  | true =>
    obtain ⟨w', d', wrote, holds', touched⟩ :=
      holds.writePieces writable [octetsOf (f.render p), [lineFeed]]
    refine ⟨w', { site with time := p.time, disk := d' }, ?_, ?_, touched.writable writable⟩
    · rw [if_pos rfl, Kind.take]
      dsimp only
      rw [show lineOf f p.time ⟨p.logger, p.level, p.message⟩ = f.render p from rfl,
        writeLine_of_wrote writer wrote]
      rfl
    · simpa [passes, fileOctets] using holds'

/-- **A file gets the records that pass, one behind the other.** -/
theorem performAll_plain {s : Sink} {f : Formatter} {l : PlainLog} {w : Writer} {n : Nat}
    {text : Octets} {site : Site} (kind : s.kind = .plain f l) (writer : l.writer = some w)
    (holds : w.Holds n text site.disk) (writable : site.disk.mishaps.Writable) (ps : List Parts) :
    ∃ w' site', s.performAll site ps = (List.replicate ps.length .ok,
        { s with kind := .plain f { l with writer := some w' } }, site') ∧
      w'.Holds n (text ++ (s.admitted ps).flatMap (fileOctets f)) site'.disk := by
  induction ps generalizing s l w text site with
  | nil =>
    refine ⟨w, site, ?_, by simpa [admitted] using holds⟩
    rw [performAll, ← writer, ← kind]
    rfl
  | cons p ps ih =>
    obtain ⟨w₁, site₁, first, holds₁, writable₁⟩ := perform_plain kind writer holds writable p
    obtain ⟨w₂, site₂, rest, holds₂⟩ :=
      ih (s := { s with kind := .plain f { l with writer := some w₁ } }) rfl rfl holds₁ writable₁
    refine ⟨w₂, site₂, ?_, ?_⟩
    · rw [performAll, first]
      dsimp only
      rw [rest]
      rfl
    · rw [List.append_assoc, ← List.flatMap_append] at holds₂
      rw [admitted_cons]
      exact holds₂

/-- One record at a screen. -/
theorem perform_screen {s : Sink} {f : Formatter} {isColoured : Bool}
    (kind : s.kind = .screen f isColoured) (site : Site) (p : Parts) :
    ∃ site', s.perform (.log p.logger p.level p.message) { site with time := p.time } =
        ⟨.ok, s.kind, site'⟩ ∧
      site'.screen =
        site.screen ++ (s.admitted [p]).map fun p => shownLine f isColoured p ++ "\n" := by
  unfold perform
  simp only [kind, admitted]
  cases passes : s.threshold.admits p.level with
  | false => exact ⟨{ site with time := p.time }, rfl, by simp [passes]⟩
  | true =>
    refine ⟨{ site with time := p.time }.write (shownLine f isColoured p ++ "\n"), rfl, ?_⟩
    simp [passes, Site.write]

/-- **A screen shows the records that pass.** -/
theorem performAll_screen {s : Sink} {f : Formatter} {isColoured : Bool}
    (kind : s.kind = .screen f isColoured) (site : Site) (ps : List Parts) :
    ∃ site', s.performAll site ps = (List.replicate ps.length .ok, s, site') ∧
      site'.screen =
        site.screen ++ (s.admitted ps).map fun p => shownLine f isColoured p ++ "\n" := by
  induction ps generalizing site with
  | nil => exact ⟨site, rfl, by simp [admitted]⟩
  | cons p ps ih =>
    obtain ⟨site₁, first, shown₁⟩ := perform_screen kind site p
    obtain ⟨site₂, rest, shown₂⟩ := ih site₁
    refine ⟨site₂, ?_, ?_⟩
    · rw [performAll, first]
      dsimp only
      rw [rest]
      rfl
    · rw [shown₂, shown₁, admitted_cons s p ps, List.map_append, List.append_assoc]

end Sink

/-! ## 4. All together -/

section

variable {f : Formatter} {dial : Dial} (smooth : f.Smooth dial)

include smooth

/-- Lines have a line each, and one more for each line feed in a name the pattern has. -/
theorem length_splitLines_rendered (ps : List Parts) :
    (splitLines (ps.flatMap fun p => octetsOf (f.renderBy dial p) ++ [lineFeed])).length =
      ps.length +
        (ps.map fun p => f.tokens.count .loggerName * p.logger.toList.count '\n').sum := by
  rw [length_splitLines_flatMap]
  congr 2
  refine List.map_congr_left fun p _ => ?_
  rw [Text.octetsOf, count_lineFeed_octets, smooth.count_renderBy p rfl]

theorem lineFeed_not_mem_renderBy {p : Parts} (name : '\n' ∉ p.logger.toList) :
    '\n' ∉ (f.renderBy dial p).toList := by
  rw [← List.count_eq_zero, smooth.count_renderBy p rfl, List.count_eq_zero.mpr name, Nat.mul_zero]

theorem splitLines_rendered {ps : List Parts} (names : ∀ p ∈ ps, '\n' ∉ p.logger.toList) :
    splitLines (ps.flatMap fun p => octetsOf (f.renderBy dial p) ++ [lineFeed]) =
      ps.map fun p => octetsOf (f.renderBy dial p) ++ [lineFeed] := by
  refine splitLines_flatMap fun p hp => ?_
  rw [Text.octetsOf, ← List.count_eq_zero, count_lineFeed_octets, List.count_eq_zero]
  exact lineFeed_not_mem_renderBy smooth (names p hp)

end

theorem linesOfAll_screen {f : Formatter} (smooth : f.Smooth Time.Directive.render)
    {ps : List Parts} (names : ∀ p ∈ ps, '\n' ∉ p.logger.toList) (isColoured : Bool) :
    Screen.linesOfAll (ps.map fun p => Sink.shownLine f isColoured p ++ "\n") =
      ps.map (Sink.shownLine f isColoured) := by
  have clean : ∀ p ∈ ps, '\n' ∉ (Sink.shownLine f isColoured p).toList := by
    intro p hp
    have h := lineFeed_not_mem_renderBy smooth (names p hp)
    cases isColoured with
    | false => exact h
    | true =>
      rw [Sink.shownLine, if_pos rfl, String.toList_ofList, ← List.count_eq_zero,
        Screen.count_coloured _ _ rfl, List.count_eq_zero]
      exact h
  rw [Screen.linesOfAll, List.flatMap_map]
  simp only [String.toList_append]
  rw [show "\n".toList = ['\n'] from rfl, Screen.linesOf_flatMap clean, List.map_map]
  simp [Function.comp_def]

/-- **Only the name of its logger breaks the line of a record.** On its way a record ends with a
line feed, and other breaks are in the name. So it is in a line made after a pattern without
breaks, as often as the pattern has the name, whichever way the time is shown without breaks; the
known directives are shown so. A file and a screen get the records that pass, and where the names
have no line feed, what is read back are these records, a line each. -/
theorem one_record_one_line {pattern : String} {f : Formatter}
    (accepted : Formatter.ofPattern pattern = .ok f)
    (plain : ∀ text, Token.literal text ∈ f.tokens → Unbroken text) :
    (∀ g : Sink.Given, ∃ body, encodeLine g.logger g.level g.message = body ++ ['\n'] ∧
      ∀ c, isBreak c = true → body.count c = g.logger.toList.count c) ∧
    (∀ sent : List Sink.Given,
      (splitLines (sent.flatMap wireOctets)).length =
          sent.length + (sent.map fun g => g.logger.toList.count '\n').sum ∧
        ((∀ g ∈ sent, '\n' ∉ g.logger.toList) →
          splitLines (sent.flatMap wireOctets) = sent.map wireOctets)) ∧
    (∀ dial : Dial, (∀ spec, Token.time spec ∈ f.tokens → ∀ t, Unbroken (dial spec t)) →
      (∀ (p : Parts) (c : Char), isBreak c = true →
        (f.renderBy dial p).toList.count c =
          f.tokens.count .loggerName * p.logger.toList.count c) ∧
      ∀ ps : List Parts,
        let written := ps.flatMap fun p => octetsOf (f.renderBy dial p) ++ [lineFeed]
        (splitLines written).length = ps.length +
            (ps.map fun p => f.tokens.count .loggerName * p.logger.toList.count '\n').sum ∧
          ((∀ p ∈ ps, '\n' ∉ p.logger.toList) →
            splitLines written = ps.map fun p => octetsOf (f.renderBy dial p) ++ [lineFeed])) ∧
    (∀ (p : Parts) (c : Char), isBreak c = true →
      (f.render p).toList.count c = f.tokens.count .loggerName * p.logger.toList.count c) ∧
    (∀ (s : Sink) (l : PlainLog) (w : Writer) (n : Nat) (text : Octets) (site : Site)
        (ps : List Parts), s.kind = .plain f l → l.writer = some w →
      w.Holds n text site.disk → site.disk.mishaps.Writable →
      ∃ w' site' written, s.performAll site ps = (List.replicate ps.length .ok,
            { s with kind := .plain f { l with writer := some w' } }, site') ∧
        w'.Holds n (text ++ written) site'.disk ∧
        (splitLines written).length = (s.admitted ps).length + ((s.admitted ps).map fun p =>
          f.tokens.count .loggerName * p.logger.toList.count '\n').sum ∧
        ((∀ p ∈ s.admitted ps, '\n' ∉ p.logger.toList) →
          splitLines written = (s.admitted ps).map (Sink.fileOctets f))) ∧
    (∀ (s : Sink) (isColoured : Bool) (site : Site) (ps : List Parts),
      s.kind = .screen f isColoured →
      ∃ site' texts, s.performAll site ps = (List.replicate ps.length .ok, s, site') ∧
        site'.screen = site.screen ++ texts ∧
        ((∀ p ∈ s.admitted ps, '\n' ∉ p.logger.toList) →
          Screen.linesOfAll texts = (s.admitted ps).map (Sink.shownLine f isColoured))) := by
  have smooth := Formatter.smooth_of_accepted accepted plain
  refine ⟨fun g => ⟨lineBody g, encodeLine_eq g, fun c hc => count_lineBody g hc⟩,
    fun sent => ⟨length_splitLines_wire sent, splitLines_wire⟩,
    fun dial unbroken => ?_, fun p c hc => smooth.count_renderBy p hc,
    fun s l w n text site ps kind writer holds writable => ?_,
    fun s isColoured site ps kind => ?_⟩
  · have any : f.Smooth dial := ⟨plain, unbroken⟩
    exact ⟨fun p c hc => any.count_renderBy p hc,
      fun ps => ⟨length_splitLines_rendered any ps, splitLines_rendered any⟩⟩
  · obtain ⟨w', site', done, holds'⟩ := Sink.performAll_plain kind writer holds writable ps
    exact ⟨w', site', _, done, holds', length_splitLines_rendered smooth _,
      splitLines_rendered smooth⟩
  · obtain ⟨site', done, shown⟩ := Sink.performAll_screen kind site ps
    exact ⟨site', _, done, shown, fun names => linesOfAll_screen smooth names isColoured⟩

/-- A formatter of the level, the name and the message. -/
def shortFormatter : Formatter :=
  ⟨"[%l] %n: %v", [.literal ['['], .level, .literal [']', ' '], .loggerName, .literal [':', ' '],
    .message]⟩

/-- A sink that writes to a file. -/
def fileSink (w : Writer) : Sink := ⟨.trace, .plain shortFormatter ⟨⟨['a']⟩, some w⟩⟩

/-- A message that looks like another record, written to an empty file. -/
theorem one_record_one_line_forged :
    ∃ w' site' written,
      (fileSink ⟨⟨.file 0, none⟩, []⟩).performAll { disk := { entries := [], contents := [[]] } }
          [⟨⟨0, 0⟩, "svc", .info, "a\n[INFO] svc: b"⟩] = ([.ok], fileSink w', site') ∧
        w'.Holds 0 written site'.disk ∧
        splitLines written = [Text.octetsOf "[INFO] svc: a\\n[INFO] svc: b\n"] := by
  have accepted : Formatter.ofPattern "[%l] %n: %v" = .ok shortFormatter := rfl
  have plain : ∀ text, Token.literal text ∈ shortFormatter.tokens → Unbroken text := by
    intro text h
    simp only [shortFormatter, List.mem_cons, Token.literal.injEq, reduceCtorEq, List.not_mem_nil,
      or_false, false_or] at h
    rcases h with rfl | rfl | rfl <;> decide
  obtain ⟨-, -, -, -, file, -⟩ := one_record_one_line accepted plain
  obtain ⟨w', site', written, done, holds, -, lines⟩ :=
    file (fileSink ⟨⟨.file 0, none⟩, []⟩) _ _ 0 [] { disk := { entries := [], contents := [[]] } }
      [⟨⟨0, 0⟩, "svc", .info, "a\n[INFO] svc: b"⟩] rfl rfl
      ⟨⟨rfl, by decide, .inl rfl⟩, rfl⟩ (fun a h => by cases h)
  refine ⟨w', site', written, done, holds, (lines (by decide)).trans (by decide)⟩

/-- **A line feed in the name of a logger starts another line.** -/
theorem line_broken_by_name :
    ¬ ∀ (logger : String) (level : Level) (message : String),
      (encodeLine logger level message).count '\n' = 1 ∧
        (encodeLine logger level message).getLast? = some '\n' ∧
        '\r' ∉ encodeLine logger level message := by
  intro h
  exact absurd (h "a\nb" .info "m").1 (by decide)

end Logworks
