import MenuShell.Text.HiddenTable
import MenuShell.Text.Words

/-!
Quoted texts: a text between double quotes in which quotes, backslashes and the characters that
cannot be shown are written as escapes.
-/

namespace MenuShell

namespace Quoted

def isHidden (char : Char) : Bool :=
  Chars.inRanges hiddenRanges char

def number (char : Char) : List Char :=
  ['\\', 'u', '\x7b'] ++ Nat.toDigits 16 char.toNat ++ ['\x7d']

def encodeChar (char : Char) : List Char :=
  match char with
  | '\x00' => ['\\', '0']
  | '\t' => ['\\', 't']
  | '\n' => ['\\', 'n']
  | '\r' => ['\\', 'r']
  | '"' => ['\\', '"']
  | '\\' => ['\\', '\\']
  | _ => if isHidden char then number char else [char]

end Quoted

def Text.quoted (text : String) : String :=
  String.ofList ('"' :: text.toList.flatMap Quoted.encodeChar ++ ['"'])

end MenuShell
