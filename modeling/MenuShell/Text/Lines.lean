/-!
Lines of a byte stream and of a text. A line reaches up to its newline; a last piece without one
counts if it is not empty.
-/

namespace MenuShell

def prependToPieces {α : Type} [BEq α] (separator item : α) (pieces : List (List α)) :
    List (List α) :=
  if item == separator then [item] :: pieces
  else match pieces with
    | [] => [[item]]
    | piece :: others => (item :: piece) :: others

/-- The stretches of a list that end with a separator, and the rest behind the last one. -/
def pieces {α : Type} [BEq α] (separator : α) (items : List α) : List (List α) :=
  items.foldr (prependToPieces separator) []

namespace Text

def newlineByte : UInt8 := 10

def firstLine (bytes : List UInt8) : List UInt8 :=
  bytes.takeWhile (· ≠ newlineByte) ++ (bytes.dropWhile (· ≠ newlineByte)).take 1

def decode? (bytes : List UInt8) : Option String :=
  String.fromUTF8? ⟨bytes.toArray⟩

def encode (text : String) : List UInt8 :=
  text.toUTF8.data.toList

def isLineEnd (char : Char) : Bool :=
  char == '\n' || char == '\r'

def stripLineEnds (line : String) : String :=
  String.ofList (line.toList.reverse.dropWhile isLineEnd).reverse

/-- Takes away one newline at the end, and then one carriage return before it. -/
def stripNewline (line : String) : String :=
  match line.toList.reverse with
  | '\n' :: '\r' :: rest => String.ofList rest.reverse
  | '\n' :: rest => String.ofList rest.reverse
  | _ => line

def lines (text : String) : List String :=
  (pieces '\n' text.toList).map fun piece => stripNewline (String.ofList piece)

def rawLines (bytes : List UInt8) : List (List UInt8) :=
  pieces newlineByte bytes

end Text

end MenuShell
