import Logworks.Config
import Logworks.Proofs.Json.Reading

/-!
# A configuration kept as a document

A configuration is written to a document and read from one. What was written is read as it was,
whatever the pattern is made of, and then looked at as any other: if it does not hold together, the
refusal is the one it would have got without the detour. This file fixes

* `Level.reads`, `Span.reads`, `Policy.reads` -- each part is read back as it was written;
* `Config.reads` -- **so is the whole**, before it is looked at;
* `Config.kept_or_refused` -- **a configuration that holds together comes back, and one that does
  not is refused for its own reason**, never for its document.
-/

namespace Logworks

open Json Json.Reader

/-! ## 1. The parts -/

theorem Level.reads (l : Level) : Reads Level.reader l.toValue l := by
  cases l <;> exact reads_bare rfl

namespace Time.Span

variable (s : Span)

/-- Both parts of a span fit their words, so that nothing carries over. -/
theorem ofParts?_self : ofParts? s.seconds s.nanos = some s := by
  have whole : s.seconds + s.nanos / 1000000000 = s.seconds := by
    rw [Nat.div_eq_of_lt s.nanos_lt, Nat.add_zero]
  simp only [ofParts?, whole, s.seconds_lt, dite_true, Nat.mod_eq_of_lt s.nanos_lt]

theorem readable_toValue : s.toValue.Readable := by
  have seconds := s.seconds_lt
  have nanos := s.nanos_lt
  rw [UInt64.size] at seconds
  exact ⟨⟨by omega, by omega⟩, ⟨by omega, by omega⟩, trivial⟩

theorem reads : Reads Span.reader s.toValue s := by
  have nanos := s.nanos_lt
  have seconds := s.seconds_lt
  have fits : s.nanos < UInt64.size := by
    rw [UInt64.size]
    omega
  have fields : Reads (record "Duration" ⟨true, true⟩
      [⟨"secs", word64 "u64"⟩, ⟨"nanos", natural (UInt32.size - 1) "u32"⟩]) s.toValue
      [("secs", s.seconds), ("nanos", s.nanos)] := by
    refine reads_record (.cons ⟨rfl, _, rfl, ?_⟩ (.cons ⟨rfl, _, rfl, ?_⟩ .nil))
      (show ["secs", "nanos"].Nodup by decide) ?_
    · exact reads_natural (Nat.le_sub_one_of_lt seconds) seconds _
    · refine reads_natural ?_ fits _
      rw [UInt32.size]
      omega
    · intro _ f hf
      exact List.mem_map_of_mem (f := Field.name) hf
  have carried : ofParts? (([("secs", s.seconds), ("nanos", s.nanos)].lookup "secs").getD 0)
      (([("secs", s.seconds), ("nanos", s.nanos)].lookup "nanos").getD 0) = some s :=
    s.ofParts?_self
  refine fields.bind fun rest => ?_
  rw [carried]
  rfl

end Time.Span

namespace Delivery.Policy

theorem readable_toValue (p : Policy) : p.toValue.Readable := by
  cases p with
  | blockWithin limit => exact ⟨limit.readable_toValue, trivial⟩
  | dropNewest | dropOldest | block | alertAndDrop => trivial

theorem reads (p : Policy) : Reads Policy.reader p.toValue p := by
  cases p with
  | blockWithin limit => exact reads_carrying rfl (limit.reads.map _)
  | dropNewest | dropOldest | block | alertAndDrop => exact reads_bare rfl

end Delivery.Policy

/-! ## 2. The whole -/

namespace Config

variable {c : Config}

theorem readable_toValue (h : c.queueCapacity < UInt64.size) : c.toValue.Readable := by
  rw [UInt64.size] at h
  exact ⟨trivial, trivial, ⟨by omega, by omega⟩, c.policy.readable_toValue, trivial⟩

/-- **A configuration is read as it was written.** -/
theorem reads (h : c.queueCapacity < UInt64.size) : Reads Config.reader c.toValue c := by
  have read : Reads (record "Config" ⟨false, false⟩ fields) c.toValue
      [("default_level", .level c.level), ("pattern", .pattern c.pattern),
        ("queue_capacity", .queueCapacity c.queueCapacity),
        ("overflow_policy", .policy c.policy)] := by
    refine reads_record (.cons ⟨rfl, _, rfl, ?_⟩ (.cons ⟨rfl, _, rfl, ?_⟩
      (.cons ⟨rfl, _, rfl, ?_⟩ (.cons ⟨rfl, _, rfl, ?_⟩ .nil))))
      (show ["default_level", "pattern", "queue_capacity", "overflow_policy"].Nodup by decide)
      nofun
    · exact c.level.reads.map _
    · exact (reads_string c.pattern).map _
    · exact (reads_natural (Nat.le_sub_one_of_lt h) h _).map _
    · exact c.policy.reads.map _
  exact read.map _

/-- What is wrong with a configuration is told as such. -/
theorem isConfiguration_of_validate {f : Fault} (h : c.validate = .error f) :
    f.isConfiguration = true := by
  have pattern {f : Fault} (h : Line.Formatter.ofPattern c.pattern = .error f) :
      f.isConfiguration = true := by
    unfold Line.Formatter.ofPattern at h
    split at h
    · cases h
    · cases h
      rfl
  unfold validate at h
  split at h
  · cases h
    rfl
  · split at h
    · split at h
      · cases h
        rfl
      · exact pattern h
    · exact pattern h

/-- **A configuration that holds together comes back from its document as it was, and one that does
not is refused for the same reason as without the document**: a fault of the configuration, not of
the document. -/
theorem kept_or_refused (c : Config) (h : c.queueCapacity < UInt64.size) :
    (∀ f, c.validate = .ok f → ofDocument c.toValue.render = .ok c) ∧
      ∀ f, c.validate = .error f →
        ofDocument c.toValue.render = .error f ∧ f.isConfiguration = true := by
  have unchecked : ofDocumentUnchecked c.toValue.render = .ok c := by
    rw [ofDocumentUnchecked, (reads h).run (readable_toValue h)]
  refine ⟨fun f valid => ?_, fun f invalid => ⟨?_, isConfiguration_of_validate invalid⟩⟩
  · rw [ofDocument, unchecked]
    dsimp only
    rw [valid]
  · rw [ofDocument, unchecked]
    dsimp only
    rw [invalid]

/-- A configuration at the end of every range, with a pattern that has to be escaped. -/
def extreme (pattern : String) : Config where
  level := .off
  pattern := pattern
  queueCapacity := 0xFFFFFFFFFFFFFFFF
  policy := .blockWithin ⟨0xFFFFFFFFFFFFFFFF, 999999999, by decide, by decide⟩

theorem kept_or_refused_extreme :
    (extreme "").queueCapacity < UInt64.size ∧
      ofDocument (extreme "\"%v\"\t\\ \x01😀").toValue.render = .ok (extreme "\"%v\"\t\\ \x01😀") ∧
      ofDocument (extreme "100%").toValue.render =
        .error (.linePattern "100%" "dangling '%' at end of pattern") := by
  have word (pattern : String) : (extreme pattern).queueCapacity < UInt64.size := by
    show 0xFFFFFFFFFFFFFFFF < UInt64.size
    decide
  refine ⟨word _, ?_, ?_⟩
  · exact (kept_or_refused _ (word _)).1 ⟨"\"%v\"\t\\ \x01😀",
      [.literal ['"'], .message, .literal ['"', '\t', '\\', ' ', '\x01', '😀']]⟩ rfl
  · exact ((kept_or_refused _ (word _)).2 _ rfl).1

end Config

end Logworks
