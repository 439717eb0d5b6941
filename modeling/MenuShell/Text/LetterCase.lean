import MenuShell.Text.CaseTable
import MenuShell.Text.Words

/-!
Lower and upper case of a text. A character may become several, and a capital sigma becomes a
final sigma at the end of a word.
-/

namespace MenuShell

namespace LetterCase

def image? (runs : List (Nat × Nat × Nat × Nat)) (code : Nat) : Option Nat :=
  (runs.find? fun (first, last, step, _) =>
    first ≤ code && code ≤ last && (code - first) % step == 0).map
      fun (first, _, _, image) => image + (code - first)

def isCased (char : Char) : Bool :=
  Chars.inRanges casedRanges char

def isIgnorable (char : Char) : Bool :=
  Chars.inRanges ignorableRanges char

/-- The capital I with a dot is the only character whose lower case is two characters. -/
def lowerChar (char : Char) : List Char :=
  let code := char.toNat
  if code < 0x80 then [char.toLower]
  else if code == 0x130 then ['i', Char.ofNat 0x307]
  else [((image? lowerRuns code).map Char.ofNat).getD char]

def upperChar (char : Char) : List Char :=
  let code := char.toNat
  if code < 0x80 then [char.toUpper]
  else match upperExpansions.lookup code with
    | some codes => codes.map Char.ofNat
    | none => [((image? upperRuns code).map Char.ofNat).getD char]

def meetsCased (text : List Char) : Bool :=
  match text.dropWhile isIgnorable with
  | char :: _ => isCased char
  | [] => false

/-- A capital sigma after a cased character and before none ends a word; `before` is what stands
in front of it, the nearest character first. -/
def lowerSigma (before after : List Char) : Char :=
  if meetsCased before && !meetsCased after then 'ς' else 'σ'

def lowerAfter (before : List Char) : List Char → List Char
  | [] => []
  | char :: rest =>
    (if char = 'Σ' then [lowerSigma before rest] else lowerChar char) ++
      lowerAfter (char :: before) rest

end LetterCase

namespace Chars

def lower (text : List Char) : List Char :=
  LetterCase.lowerAfter [] text

def upper (text : List Char) : List Char :=
  text.flatMap LetterCase.upperChar

end Chars

namespace Text

def lower (text : String) : String :=
  String.ofList (Chars.lower text.toList)

def upper (text : String) : String :=
  String.ofList (Chars.upper text.toList)

end Text

end MenuShell
