import MenuShell.Text.ClusterTable
import MenuShell.Text.Words

/-!
Clusters: the stretches of a text that a reader takes for one character, such as a letter with its
accents, a syllable, a flag or a picture joined from several. Whether a character stays in a
cluster is decided by the standard's rules for extended clusters, which look at the cluster so far
and at that character.
-/

namespace MenuShell

namespace Cluster

inductive Kind where
  | plain
  | control
  | extending
  | joiner
  | spacing
  | leading
  | initial
  | medial
  | final
  | openSyllable
  | closedSyllable
  | flagLetter
  | picture
  | consonant
deriving DecidableEq, Repr

def isFlagLetter (char : Char) : Bool :=
  0x1F1E6 ≤ char.toNat && char.toNat ≤ 0x1F1FF

/-- Whole syllables follow one another by their final letter, the one without any first. -/
def syllable? (char : Char) : Option Kind :=
  let code := char.toNat
  if code < 0xAC00 || 0xD7A3 < code then none
  else if (code - 0xAC00) % 28 = 0 then some .openSyllable
  else some .closedSyllable

def kind (char : Char) : Kind :=
  let within := fun ranges => Chars.inRanges ranges char
  if ' ' ≤ char && char ≤ '~' then .plain
  else if char = '\u200D' then .joiner
  else if within controlRanges then .control
  else if within extendingRanges then .extending
  else if within spacingRanges then .spacing
  else if within leadingRanges then .leading
  else if within initialRanges then .initial
  else if within medialRanges then .medial
  else if within finalRanges then .final
  else if isFlagLetter char then .flagLetter
  else if within pictureRanges then .picture
  else if within consonantRanges then .consonant
  else (syllable? char).getD .plain

/-- An extending mark that does not stand between a linked consonant and its link. -/
def isConjunctMark (char : Char) : Bool :=
  match kind char with
  | .extending => char ≠ '\u200C'
  | .joiner => true
  | _ => false

def startsWith (wanted : Kind) (text : List Char) : Bool :=
  match text with
  | char :: _ => kind char = wanted
  | [] => false

/-- A joiner goes on with a picture that has only marks behind it; `before` is what stands in
front of the joiner, the nearest character first. -/
def joinsPicture (before : List Char) : Bool :=
  startsWith .picture (before.dropWhile fun char => kind char = .extending)

def linksConsonant (before : List Char) : Bool :=
  (before.takeWhile isConjunctMark).any (Chars.inRanges linkRanges) &&
    startsWith .consonant (before.dropWhile isConjunctMark)

/-- Two letters make a flag, so a third one begins the next. -/
def halfFlag (before : List Char) : Bool :=
  (before.takeWhile isFlagLetter).length % 2 = 1

/-- Tells if a character stays in a cluster whose last character is `last`; `before` is what the
cluster has in front of that, the nearest character first. -/
def continues (last : Char) (before : List Char) (next : Char) : Bool :=
  match kind last, kind next with
  | .control, _ => last = '\r' && next = '\n'
  | _, .control => false
  | _, .extending | _, .joiner | _, .spacing => true
  | .leading, _ => true
  | .initial, .initial | .initial, .medial => true
  | .initial, .openSyllable | .initial, .closedSyllable => true
  | .medial, .medial | .openSyllable, .medial => true
  | .medial, .final | .openSyllable, .final | .closedSyllable, .final | .final, .final => true
  | .joiner, .picture => joinsPicture before
  | _, .consonant => linksConsonant (last :: before)
  | .flagLetter, .flagLetter => halfFlag (last :: before)
  | _, _ => false

def split (last : Char) (before : List Char) : List Char → List (List Char)
  | [] => [(last :: before).reverse]
  | next :: rest =>
    if continues last before next then split next (last :: before) rest
    else (last :: before).reverse :: split next [] rest

end Cluster

def Chars.clusters : List Char → List (List Char)
  | [] => []
  | first :: rest => Cluster.split first [] rest

end MenuShell
