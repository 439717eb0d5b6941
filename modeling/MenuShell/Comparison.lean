import MenuShell.Text.LetterCase

/-!
How typed words are compared with selectors: letter by letter, or by their lower case forms.
-/

namespace MenuShell

inductive Comparison where
  | sensitive
  | insensitive
deriving DecidableEq, Repr

namespace Comparison

def key : Comparison → String → String
  | .sensitive, text => text
  | .insensitive, text => Text.lower text

def same (mode : Comparison) (left right : String) : Bool :=
  mode.key left == mode.key right

def begins (mode : Comparison) (text start : String) : Bool :=
  (mode.key start).toList.isPrefixOf (mode.key text).toList

end Comparison

end MenuShell
