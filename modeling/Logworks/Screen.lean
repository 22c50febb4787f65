import Logworks.Level

/-!
# Lines on a terminal

A line may be shown in the colour of its level: an escape sequence before it, and one behind it
that ends the colour. Where the line itself ends a colour, the colour is taken up again.
-/

namespace Logworks.Screen

def startColour (c : Colour) : List Char := '\x1b' :: '[' :: c.code.toList ++ ['m']

def endColour : List Char := "\x1b[0m".toList

/-- The line with the colour taken up again wherever it is ended. -/
def keepColour (c : Colour) : List Char → List Char
  | '\x1b' :: '[' :: '0' :: 'm' :: cs => endColour ++ startColour c ++ keepColour c cs
  | ch :: cs => ch :: keepColour c cs
  | [] => []

def coloured (c : Colour) (line : List Char) : List Char :=
  startColour c ++ keepColour c line ++ endColour

/-- The pieces of a text between line feeds; none behind a last one. -/
def linesOf : List Char → List (List Char)
  | [] => []
  | c :: cs =>
    if c = '\n' then [] :: linesOf cs
    else match linesOf cs with
      | [] => [[c]]
      | l :: ls => (c :: l) :: ls

/-- The lines of texts written one behind the other. -/
def linesOfAll (texts : List String) : List String :=
  (linesOf (texts.flatMap String.toList)).map String.ofList

end Logworks.Screen
