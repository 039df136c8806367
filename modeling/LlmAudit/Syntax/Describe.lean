import LlmAudit.Syntax.Node
import LlmAudit.Text.Quoted

/-!
# Nodes in one line
-/

namespace LlmAudit.Node

/-- A node in one line: its type, its line and the first forty characters of its text. -/
def describe (n : Node) : String :=
  let shown := if 40 < n.text.length then String.ofList (n.text.toList.take 40) ++ "..." else n.text
  "SyntaxNode(" ++ n.type ++ ", line=" ++ toString n.line ++ ", " ++ Text.quoted shown ++ ")"

end LlmAudit.Node
