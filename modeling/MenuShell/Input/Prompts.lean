/-!
The prompts of nested loops; the innermost loop's prompt is shown.
-/

namespace MenuShell

/-- The innermost loop's prompt comes first; a loop may have none. -/
structure PromptStack where
  prompts : List (Option String) := []
deriving DecidableEq, Repr

namespace PromptStack

def push (stack : PromptStack) (prompt? : Option String) : PromptStack :=
  { prompts := prompt? :: stack.prompts }

def pop (stack : PromptStack) : PromptStack :=
  { prompts := stack.prompts.tail }

def current? (stack : PromptStack) : Option String :=
  stack.prompts.head?.join

def depth (stack : PromptStack) : Nat :=
  stack.prompts.length

end PromptStack

end MenuShell
