import Logworks.Proofs.Json.Decoding
import Mathlib.Data.List.Forall2

/-!
# Typed values, read back

A reader gives back what was written where it takes exactly the tokens of the value and leaves
what is behind them. This file fixes

* `Reads` -- the reader takes the tokens of a value for something;
* `reads_natural`, `reads_string`, `reads_bare`, `reads_carrying` -- numbers, texts and
  alternatives;
* `reads_record` -- **a record with its fields in any order**, each read by its own reader;
* `Reads.run` -- **a whole document is read as what it was written for**.
-/

namespace Logworks.Json.Reader

variable {α β ρ : Type}

/-! ## 1. Single values -/

/-- The reader takes the tokens of a value for something, whatever is behind them. -/
def Reads (r : Reader α) (v : Value) (a : α) : Prop :=
  ∀ rest, r (v.tokens ++ rest) = .ok (a, rest)

variable {r : Reader α} {v : Value} {a : α}

theorem Reads.bind (h : Reads r v a) {f : α → Reader β} {b : β}
    (hf : ∀ rest, f a rest = .ok (b, rest)) : Reads (r.bind f) v b := by
  intro rest
  rw [Reader.bind, h rest]
  exact hf rest

theorem Reads.map (h : Reads r v a) (f : α → β) : Reads (r.map f) v (f a) :=
  h.bind fun _ => rfl

theorem reads_string (s : String) : Reads string (.text s) s := by
  intro rest
  show Except.ok (String.ofList s.toList, rest) = _
  rw [String.ofList_toList]

/-- A number up to the greatest is read as itself. -/
theorem reads_natural {n greatest : Nat} (h : n ≤ greatest) (word : n < UInt64.size)
    (wanted : String) : Reads (natural greatest wanted) (.whole n) n := by
  intro rest
  have taken : numeral wanted ((Value.whole n).tokens ++ rest) = .ok (.natural n, rest) := by
    show (Value.wholeParts n).numeral.map _ = _
    rw [Literal.numeral_natural (Nat.le_sub_one_of_lt word)]
    rfl
  rw [natural, taken]
  exact if_pos h

/-! ## 2. Alternatives -/

section

variable {alternatives : List (String × Alternative α)} {name : String}

theorem pick_of_lookup {x : Alternative α} (h : alternatives.lookup name = some x) :
    pick alternatives name.toList = .ok x := by
  rw [pick, String.ofList_toList, h]

/-- An alternative without a value is written as its name. -/
theorem reads_bare (h : alternatives.lookup name = some (.bare a)) :
    Reads (choice alternatives) (.text name) a := by
  intro rest
  show choice alternatives (.text name.toList :: rest) = _
  rw [choice, pick_of_lookup h]

/-- One with a value is an object with this one member. -/
theorem reads_carrying (h : alternatives.lookup name = some (.carrying r)) (hr : Reads r v a) :
    Reads (choice alternatives) (.object [(name, v)]) a := by
  intro rest
  have value := hr (.endObject :: rest)
  show choice alternatives
    (.beginObject :: .key name.toList :: (v.tokens ++ [.endObject] ++ rest)) = _
  rw [choice, pick_of_lookup h, List.append_assoc]
  dsimp only
  rw [List.singleton_append, value]

end

/-! ## 3. Records -/

section

variable {fields : List (Field ρ)} {ms : List (String × Value)} {vs : List (String × ρ)}

/-- A member of an object has the name of a field, whose reader takes its value. -/
def ReadsField (fields : List (Field ρ)) (m : String × Value) (x : String × ρ) : Prop :=
  m.1 = x.1 ∧ ∃ f, fields.find? (fun f => f.name == m.1) = some f ∧ Reads f.read m.2 x.2

/-- One member, if no member before it had its name. -/
theorem readMembers_field {refuses : Bool} {fuel : Nat} {read : List (String × ρ)}
    {m : String × Value} {x : String × ρ} (h : ReadsField fields m x)
    (fresh : x.1 ∉ read.map Prod.fst) (rest : List Token) :
    Field.readMembers fields refuses (fuel + 1) read
        (.key m.1.toList :: (m.2.tokens ++ rest)) =
      Field.readMembers fields refuses fuel (read ++ [x]) rest := by
  obtain ⟨name, f, found, reads⟩ := h
  have unread : (read.lookup m.1).isSome = false := by
    rw [Option.isSome_eq_false_iff, Option.isNone_iff_eq_none, List.lookup_eq_none_iff]
    intro p hp
    rw [name, bne_iff_ne]
    intro same
    exact fresh (same ▸ List.mem_map_of_mem hp)
  rw [Field.readMembers, String.ofList_toList, found]
  dsimp only
  rw [unread, reads rest, name]
  rfl

/-- **The members of an object are read one after the other.** -/
theorem readMembers_memberTokens {refuses : Bool} (h : List.Forall₂ (ReadsField fields) ms vs)
    {fuel : Nat} {read : List (String × ρ)} (rest : List Token)
    (nodup : ((read ++ vs).map Prod.fst).Nodup) (enough : (Value.memberTokens ms).length < fuel) :
    Field.readMembers fields refuses fuel read (Value.memberTokens ms ++ .endObject :: rest) =
      .ok (read ++ vs, rest) := by
  induction h generalizing fuel read with
  | nil =>
    obtain ⟨fuel, rfl⟩ := Nat.exists_eq_add_one_of_ne_zero (Nat.ne_of_gt enough)
    rw [List.append_nil]
    rfl
  | @cons m x ms vs first _ ih =>
    have fresh : x.1 ∉ read.map Prod.fst := by
      rw [List.map_append, List.nodup_append] at nodup
      exact fun hx => nodup.2.2 _ hx _ List.mem_cons_self rfl
    rw [List.append_cons read] at nodup ⊢
    have behind {k : Nat} (enough : (Value.memberTokens ms).length < k) :
        Field.readMembers fields refuses k (read ++ [x])
          (Value.memberTokens ms ++ .endObject :: rest) = .ok (read ++ [x] ++ vs, rest) :=
      ih nodup enough
    cases ms with
    | nil =>
      rw [Value.memberTokens, List.length_cons] at enough
      obtain ⟨fuel, rfl⟩ : ∃ k, fuel = k + 1 + 1 := ⟨fuel - 2, by omega⟩
      rw [Value.memberTokens, List.cons_append, readMembers_field first fresh]
      exact behind (Nat.succ_pos fuel)
    | cons m' ms =>
      rw [Value.memberTokens_cons_cons, List.length_cons, List.length_append,
        List.length_cons] at enough
      obtain ⟨fuel, rfl⟩ : ∃ k, fuel = k + 1 + 1 := ⟨fuel - 2, by omega⟩
      rw [Value.memberTokens_cons_cons, List.cons_append, List.append_assoc, List.cons_append,
        readMembers_field first fresh]
      exact behind (by omega)

/-- **A record is read whatever the order of its fields.** Where all fields have to be there, they
are. -/
theorem reads_record {name : String} {strictness : Strictness}
    (h : List.Forall₂ (ReadsField fields) ms vs) (nodup : (vs.map Prod.fst).Nodup)
    (complete : strictness.requiresAll = true → ∀ f ∈ fields, f.name ∈ vs.map Prod.fst) :
    Reads (record name strictness fields) (.object ms) vs := by
  intro rest
  have members : Field.readMembers fields strictness.refusesUnknown
      (Value.memberTokens ms ++ .endObject :: rest).length []
      (Value.memberTokens ms ++ .endObject :: rest) = .ok ([] ++ vs, rest) :=
    readMembers_memberTokens h rest nodup (by rw [List.length_append, List.length_cons]; omega)
  have found : fields.find? (fun f => strictness.requiresAll && (vs.lookup f.name).isNone) =
      none := by
    rw [List.find?_eq_none]
    intro f hf missing
    rw [Bool.and_eq_true, Option.isNone_iff_eq_none, List.lookup_eq_none_iff] at missing
    obtain ⟨x, hx, same⟩ := List.mem_map.mp (complete missing.1 f hf)
    exact bne_iff_ne.mp (missing.2 x hx) same.symm
  show record name strictness fields
    (.beginObject :: (Value.memberTokens ms ++ [.endObject] ++ rest)) = _
  rw [List.append_assoc, List.singleton_append, record, members]
  dsimp only
  rw [List.nil_append, found]

end

/-! ## 4. Documents -/

/-- **A document is read as what it was written for.** -/
theorem Reads.run (h : Reads r v a) (readable : v.Readable) : Reader.run r v.render = .ok a := by
  rw [Reader.run, tokens_render readable, h]

end Logworks.Json.Reader
