import MenuShell.Commands.Menu
import MenuShell.Commands.Number
import MenuShell.Text.LetterCase

/-!
Sample commands: `echo`, `pause`, `repeat`, the menu `convert`, the adding machine `add`, and
`greet`.
-/

namespace MenuShell

namespace Commands

variable {Host : Type}

def runEcho : Action Host := fun text =>
  .say text (.done .normal)

def runPause : Action Host := fun _ =>
  .ask (.readExternal none) fun _ => .done .normal

def runRepeat : Action Host := fun command =>
  .andThen (.pushLines [command]) <|
  .andThen (.pushLines [command]) (.done .normal)

def runNumber (menu : NodeId) : Action Host := fun text =>
  match Number.word? text with
  | some _ => .andThen (.note menu text) (.done .normal)
  | none => .say (text ++ " is not a valid number.") (.done .normal)

/-- The total is a machine word and wraps around. -/
def sumOf (numbers : List String) : Int64 :=
  (numbers.filterMap Number.word?).foldl (fun total number => total + Int64.ofInt number) 0

def runAdd (menu : NodeId) : Action Host := fun _ =>
  .say "You're now in submenu <Add>." <|
  .say "Enter numbers. To print their sum and exit the submenu, enter \"=\"." <|
  .andThen (.clearNotes menu) <|
  .enter (.menu menu) fun _ =>
  .ask (.notes menu) fun numbers =>
  .say ("Sum = " ++ toString (sumOf numbers)) (.done .normal)

/-- A name and a number: a word, white space, and digits up to the end. -/
def nameAndTimes? (text : String) : Option (String × String) :=
  let name := text.toList.takeWhile (!Chars.isBlank ·)
  let others := text.toList.dropWhile (!Chars.isBlank ·)
  let times := Chars.trimStart others
  if name.isEmpty || others.isEmpty || !Number.isDigits times then none
  else some (String.ofList name, String.ofList times)

def runGreet : Action Host := fun text =>
  match nameAndTimes? text with
  | none => .say "usage: greet <name> <times>" (.done .normal)
  | some (name, digits) =>
    let times := Number.digitsValue digits.toList
    if times < Number.countLimit then
      .andThen (.write (String.join (List.replicate times ("Hello " ++ name ++ "!\n"))))
        (.done .normal)
    else
      .fail ((Failure.ofMessage "number too large to fit in target type").during
        ("greet: bad repeat count " ++ digits))

def installConvert : Builder Host Unit := do
  let convert ← Builder.add Tree.root ((Node.menu "convert").withHelp
    "convert upper|lower [text]\nConverts the text to upper or lower case")
  discard (Builder.add convert ((Node.leaf "upper" fun text =>
    .say (Text.upper text) (.done .normal)).withHelp "Converts to upper case"))
  discard (Builder.add convert ((Node.leaf "lower" fun text =>
    .say (Text.lower text) (.done .normal)).withHelp "Converts to lower case"))

def installAdd : Builder Host Unit := do
  let menu ← addMenu Tree.root (((Node.menu "add").withHelp
    "add\nAdds numbers until \"=\" is entered.").withPrompt "+")
  discard (Builder.add menu ((Node.leaf "=" fun _ => .done .quit).withHelp
    "Prints the sum and quits the add submenu"))
  discard (Builder.add menu (Node.defaultItem (runNumber menu)))
  Builder.setAction menu (runAdd menu)

def installSamples : Builder Host Unit := do
  discard (Builder.add Tree.root ((Node.leaf "echo" runEcho).withHelp
    "echo [text]\nPrints the specified text to stdout."))
  discard (Builder.add Tree.root ((Node.leaf "pause" runPause).withHelp
    "pause\nStops further operation until the enter key is pressed."))
  discard (Builder.add Tree.root ((Node.leaf "repeat" runRepeat).withHelp
    "repeat <command>\nRepeats a command two times."))
  installConvert
  installAdd
  discard (Builder.add Tree.root ((Node.leaf "greet" runGreet).withHelp
    "greet <name> <times>\nGreets a name a number of times."))

end Commands

end MenuShell
