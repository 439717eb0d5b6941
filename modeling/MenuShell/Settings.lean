import MenuShell.Comparison

/-!
The adjustable parts of a shell, and how named variables change them.
-/

namespace MenuShell

structure Settings where
  prompt : String := "$"
  recordFolder : String := "Records"
  labelMarker : Char := ':'
  endRecord : String := "endrecord"
  endReplay : String := "endreplay"
  endProc : String := "endproc"
  comparison : Comparison := .insensitive
deriving DecidableEq, Repr

namespace Settings

def promptVariable : String := "MENU_PROMPT"

def recordFolderVariable : String := "MENU_RECORD_DIR"

def caseVariable : String := "MENU_CASE_SENSITIVE"

def isYes (flag : String) : Bool :=
  ["1", "true", "yes"].contains (Text.lower flag)

/-- An empty record folder and an unrecognised flag leave the defaults. -/
def ofVariables (valueOf : String → Option String) : Settings :=
  let standard : Settings := {}
  { standard with
    prompt := (valueOf promptVariable).getD standard.prompt
    recordFolder :=
      ((valueOf recordFolderVariable).filter (!·.isEmpty)).getD standard.recordFolder
    comparison :=
      if (valueOf caseVariable).any isYes then .sensitive else standard.comparison }

end Settings

end MenuShell
