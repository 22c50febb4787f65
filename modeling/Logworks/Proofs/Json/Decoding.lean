import Logworks.Proofs.Json.Scanning

/-!
# Any document, read back

Whoever gets a document without knowing what is in it puts its tokens together again: values are
put into the innermost bracket that is open. This file fixes

* `Builder` -- the brackets that are open, each with what has been read of it;
* `Value.ofDocument` -- the value of a document, with all members of an object, in their order;
* `Builder.build_tokens` -- **the tokens of a value are put together to the value**;
* `Value.ofDocument_render` -- **what is written is read back as it was**.
-/

namespace Logworks.Json

open Logworks.Text

/-! ## 1. Numbers -/

namespace Numeral

/-- A number as a value. -/
def toValue : Numeral → Value
  | natural n => .whole n
  | negative n => .whole (-n)
  | double x => .double x

end Numeral

namespace Literal

/-- Digits are taken as long as what they stand for has sixty-four bits. -/
theorem takeDigits_of_le {n : Nat} {ds : List Char} (h : Nat.ofDigitChars 10 ds n ≤ maxWord) :
    takeDigits n ds = (Nat.ofDigitChars 10 ds n, []) := by
  induction ds generalizing n with
  | nil => rfl
  | cons d ds ih =>
    rw [Nat.ofDigitChars_cons] at h
    have small : 10 * n + (d.toNat - 48) ≤ maxWord :=
      Nat.le_trans (by
        rw [Nat.ofDigitChars_eq_ofDigitChars_zero]
        exact Nat.le_trans (Nat.le_mul_of_pos_left _ (Nat.pow_pos (by decide)))
          (Nat.le_add_right _ _)) h
    rw [takeDigits, if_pos small, Nat.ofDigitChars_cons]
    exact ih h

theorem takeDigits_digits {n : Nat} (h : n ≤ maxWord) : takeDigits 0 (digits n) = (n, []) := by
  have value : Nat.ofDigitChars 10 (digits n) 0 = n := Nat.ofDigitChars_ten_toDigits
  rw [takeDigits_of_le (value.symm ▸ h), value]

theorem numeral_natural {n : Nat} (h : n ≤ maxWord) :
    (Value.wholeParts n).numeral = .ok (.natural n) := by
  have positive : ¬ (n : Int) < 0 := by omega
  rw [numeral, Value.wholeParts]
  dsimp only
  rw [Int.natAbs_natCast, takeDigits_digits h, decide_eq_false positive]
  rfl

theorem numeral_negative {z : Int} (h : z < 0) (least : -0x8000000000000000 ≤ z) :
    (Value.wholeParts z).numeral = .ok (.negative z.natAbs) := by
  have fits : z.natAbs ≤ maxWord := by
    rw [maxWord, UInt64.size]
    omega
  have signed : ¬ (z.natAbs = 0 ∨ 0x8000000000000000 < z.natAbs) := by omega
  rw [numeral, Value.wholeParts]
  dsimp only
  rw [takeDigits_digits fits, decide_eq_true h]
  exact if_neg signed

/-- **A whole number of sixty-four bits is read as itself.** -/
theorem numeral_wholeParts {z : Int} (h : (Value.whole z).Readable) :
    ∃ n, (Value.wholeParts z).numeral = .ok n ∧ n.toValue = .whole z := by
  obtain ⟨least, greatest⟩ := h
  by_cases negative : z < 0
  · refine ⟨_, numeral_negative negative least, ?_⟩
    rw [Numeral.toValue]
    congr 1
    omega
  · obtain ⟨n, rfl⟩ : ∃ n : Nat, z = n := ⟨z.toNat, by omega⟩
    refine ⟨_, numeral_natural ?_, rfl⟩
    rw [maxWord, UInt64.size]
    omega

end Literal

/-! ## 2. Values from tokens -/

/-- A bracket that is open: the items so far, or the members so far and the key of the next. -/
inductive Frame where
  | items (read : List Value)
  | members (read : List (String × Value)) (key : String)

/-- The open brackets, innermost first, and the value of the whole once it is complete. -/
structure Builder where
  opened : List Frame := []
  whole : Option Value := none

namespace Builder

/-- Puts a value where it belongs. -/
def put (b : Builder) (v : Value) : Builder :=
  match b.opened with
  | [] => { b with whole := some v }
  | .items vs :: outer => { b with opened := .items (vs ++ [v]) :: outer }
  | .members ms k :: outer => { b with opened := .members (ms ++ [(k, v)]) k :: outer }

def enter (b : Builder) (f : Frame) : Builder := { b with opened := f :: b.opened }

/-- The value that tokens stand for, behind those that have been read. -/
def build (b : Builder) : List Token → Except Error Value
  | .beginArray :: ts => build (b.enter (.items [])) ts
  | .beginObject :: ts => build (b.enter (.members [] "")) ts
  | .endArray :: ts =>
    match b.opened with
    | .items vs :: outer => build ({ b with opened := outer }.put (.array vs)) ts
    | _ => .error .malformed
  | .endObject :: ts =>
    match b.opened with
    | .members ms _ :: outer => build ({ b with opened := outer }.put (.object ms)) ts
    | _ => .error .malformed
  | .key k :: ts =>
    match b.opened with
    | .members ms _ :: outer =>
      build { b with opened := .members ms (String.ofList k) :: outer } ts
    | _ => .error .malformed
  | .more :: ts | .mark :: ts => build b ts
  | .text s :: ts => build (b.put (.text (String.ofList s))) ts
  | .null :: ts => build (b.put .null) ts
  | .bool x :: ts => build (b.put (.bool x)) ts
  | .number l :: ts =>
    match l.numeral with
    | .ok n => build (b.put n.toValue) ts
    | .error e => .error e
  | .done :: _ =>
    match b.whole with
    | some v => .ok v
    | none => .error .ended
  | ts => .error (Reader.endError ts)

end Builder

/-- The value of a document. -/
def Value.ofDocument (document : String) : Except Error Value :=
  ({} : Builder).build (Json.tokens document)

namespace Builder

mutual
/-- **The tokens of a value are put together to the value.** -/
theorem build_tokens : ∀ (v : Value) (b : Builder) (rest : List Token), v.Readable →
    b.build (v.tokens ++ rest) = (b.put v).build rest
  | .null, _, _, _ => rfl
  | .bool _, _, _, _ => rfl
  | .whole z, b, rest, h => by
    obtain ⟨n, hn, hv⟩ := Literal.numeral_wholeParts h
    show b.build (.mark :: .number (Value.wholeParts z) :: rest) = _
    rw [build, build, hn, ← hv]
  | .text s, b, rest, _ => by
    show b.build (.text s.toList :: rest) = _
    rw [build, String.ofList_toList]
  | .array vs, b, rest, h => by
    have items := build_itemTokens vs b [] (.endArray :: rest) h
    rw [List.nil_append] at items
    rw [Value.tokens, List.cons_append, build, List.append_assoc, List.singleton_append, items]
    rfl
  | .object ms, b, rest, h => by
    obtain ⟨k, members⟩ := build_memberTokens ms b [] "" (.endObject :: rest) h
    rw [List.nil_append] at members
    rw [Value.tokens, List.cons_append, build, List.append_assoc, List.singleton_append, members]
    rfl

theorem build_itemTokens : ∀ (vs : List Value) (b : Builder) (read : List Value)
    (rest : List Token), Value.ReadableItems vs →
    (b.enter (.items read)).build (Value.itemTokens vs ++ rest) =
      (b.enter (.items (read ++ vs))).build rest
  | [], b, read, rest, _ => by
    rw [List.append_nil]
    rfl
  | [v], b, read, rest, h => build_tokens v (b.enter (.items read)) rest h.1
  | v :: w :: vs, b, read, rest, h => by
    have items := build_itemTokens (w :: vs) b (read ++ [v]) rest h.2
    rw [List.append_assoc, List.singleton_append] at items
    rw [Value.itemTokens_cons_cons, List.append_assoc,
      build_tokens v (b.enter (.items read)) _ h.1, List.cons_append, build]
    exact items

theorem build_memberTokens : ∀ (ms : List (String × Value)) (b : Builder)
    (read : List (String × Value)) (key : String) (rest : List Token), Value.ReadableMembers ms →
    ∃ k, (b.enter (.members read key)).build (Value.memberTokens ms ++ rest) =
      (b.enter (.members (read ++ ms) k)).build rest
  | [], b, read, key, rest, _ => by
    rw [List.append_nil]
    exact ⟨key, rfl⟩
  | [(k, v)], b, read, key, rest, h => by
    refine ⟨k, ?_⟩
    rw [Value.memberTokens, List.cons_append]
    show (b.enter (.members read (String.ofList k.toList))).build (v.tokens ++ rest) = _
    rw [String.ofList_toList, build_tokens v _ rest h.1]
    rfl
  | (k, v) :: m :: ms, b, read, key, rest, h => by
    obtain ⟨l, members⟩ := build_memberTokens (m :: ms) b (read ++ [(k, v)]) k rest h.2
    rw [List.append_assoc, List.singleton_append] at members
    refine ⟨l, ?_⟩
    rw [Value.memberTokens_cons_cons, List.cons_append, List.append_assoc]
    show (b.enter (.members read (String.ofList k.toList))).build
      (v.tokens ++ (.more :: Value.memberTokens (m :: ms) ++ rest)) = _
    rw [String.ofList_toList, build_tokens v _ _ h.1, List.cons_append, build]
    exact members
end

end Builder

namespace Value

/-- **What is written is read back as it was.** -/
theorem ofDocument_render {v : Value} (h : v.Readable) : ofDocument v.render = .ok v := by
  rw [ofDocument, tokens_render h, Builder.build_tokens v _ _ h]
  rfl

end Value

end Logworks.Json
