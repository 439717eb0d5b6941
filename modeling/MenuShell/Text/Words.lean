/-!
Classes of characters, given as ranges of codes, and words. A line is cut at white space only and there
is no quoting. The first word of a line and the rest of it are both trimmed; the white space inside the
rest is kept.
-/

namespace MenuShell

namespace Chars

def inRanges (ranges : List (Nat × Nat)) (char : Char) : Bool :=
  ranges.any fun (first, last) => first ≤ char.toNat && char.toNat ≤ last

/-- White space is every character with the White_Space property. -/
def isBlank (char : Char) : Bool :=
  let code := char.toNat
  (9 ≤ code && code ≤ 13) || code == 0x20 || code == 0x85 || code == 0xA0 || code == 0x1680 ||
    (0x2000 ≤ code && code ≤ 0x200A) || code == 0x2028 || code == 0x2029 || code == 0x202F ||
    code == 0x205F || code == 0x3000

def trimStart (text : List Char) : List Char :=
  text.dropWhile isBlank

def trimEnd (text : List Char) : List Char :=
  (text.reverse.dropWhile isBlank).reverse

def trim (text : List Char) : List Char :=
  trimEnd (trimStart text)

def firstWord (line : List Char) : List Char :=
  (trim line).takeWhile (!isBlank ·)

def afterFirstWord (line : List Char) : List Char :=
  trim ((trim line).dropWhile (!isBlank ·))

def prependToWords (char : Char) (rest : List Char) (words : List (List Char)) :
    List (List Char) :=
  if isBlank char then words
  else match rest, words with
    | next :: _, word :: others =>
      if isBlank next then [char] :: words else (char :: word) :: others
    | _, _ => [char] :: words

def words : List Char → List (List Char)
  | [] => []
  | char :: rest => prependToWords char rest (words rest)

end Chars

namespace Text

def trim (line : String) : String :=
  String.ofList (Chars.trim line.toList)

def trimEnd (line : String) : String :=
  String.ofList (Chars.trimEnd line.toList)

def isBlank (line : String) : Bool :=
  line.toList.all Chars.isBlank

def splitFirstWord (line : String) : String × String :=
  (String.ofList (Chars.firstWord line.toList), String.ofList (Chars.afterFirstWord line.toList))

def words (line : String) : List String :=
  (Chars.words line.toList).map String.ofList

end Text

end MenuShell
