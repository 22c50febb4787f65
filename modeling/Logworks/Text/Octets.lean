/-!
# Texts as octets

What a text is on a disk or on a wire: the octets of its characters, one to four each. Writing
one text behind another writes their octets one behind another (`octets_append`).
-/

namespace Logworks.Text

abbrev Octets := List UInt8

/-- The octets of a text. -/
def octets (cs : List Char) : Octets := cs.flatMap String.utf8EncodeChar

def octetsOf (s : String) : Octets := octets s.toList

@[simp] theorem octets_nil : octets [] = [] := rfl

@[simp] theorem octets_append (a b : List Char) : octets (a ++ b) = octets a ++ octets b := by
  simp [octets]

theorem octets_flatten (ps : List (List Char)) : octets ps.flatten = (ps.map octets).flatten := by
  induction ps with
  | nil => rfl
  | cons p ps ih => rw [List.flatten_cons, octets_append, ih, List.map_cons, List.flatten_cons]

/-- The text of some octets, if they are one. -/
def textOf? (bytes : Octets) : Option String :=
  String.fromUTF8? (ByteArray.mk bytes.toArray)

/-- **The octets of a text are that text.** -/
theorem textOf?_octets (cs : List Char) : textOf? (octets cs) = some (String.ofList cs) := by
  have bytes : ByteArray.mk (octets cs).toArray = (String.ofList cs).toByteArray := by
    rw [String.toByteArray_ofList, List.utf8Encode]
    exact (congrArg ByteArray.mk List.data_toByteArray).symm
  rw [textOf?, bytes, String.fromUTF8?, dif_pos (String.ofList cs).isValidUTF8]
  rfl

/-- The octet that ends a line. -/
def lineFeed : UInt8 := 10

/-- Octets cut behind each line feed; the last piece may have none. -/
def splitLines : Octets → List Octets
  | [] => []
  | b :: bs =>
    if b = lineFeed then [b] :: splitLines bs
    else match splitLines bs with
      | [] => [[b]]
      | l :: ls => (b :: l) :: ls

/-- Nothing is lost by cutting. -/
theorem flatten_splitLines (bytes : Octets) : (splitLines bytes).flatten = bytes := by
  induction bytes with
  | nil => rfl
  | cons b bs ih =>
    rw [splitLines]
    split
    · rw [List.flatten_cons, ih]
      rfl
    · split
      · rename_i none_left
        rw [none_left] at ih
        rw [← ih]
        rfl
      · rename_i l ls some_left
        rw [some_left, List.flatten_cons] at ih
        rw [List.flatten_cons, List.cons_append, ih]

end Logworks.Text
