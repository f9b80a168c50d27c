/-
What an invocation knows about itself:

* `Context`: its tool, its request, its token and its deadline;
* `Context.view`: how these stand at some time;
* `Context.detached`: the context of work that no executor runs, whose
  deadline fires no token.
-/
import ToolServer.Execution.Behaviour
import ToolServer.Execution.Token

namespace ToolServer.Execution

/-- What an invocation knows about itself. -/
structure Context where
  tool : String
  requestId : String
  scope : Token
  deadline : Nat
  deriving Repr, DecidableEq

namespace Context

/-- How a context stands at some time, once some tokens have been fired. -/
def view (c : Context) (fired : List Token) (now : Nat) : View where
  tool := c.tool
  requestId := c.requestId
  cancelled := c.scope.isCancelled fired
  deadlineExceeded := decide (c.deadline ≤ now)
  remaining := c.deadline - now
  now := now

/-- The context of work that no executor runs. -/
def detached (now timeout : Nat) : Context :=
  ⟨"detached", "detached", .named "detached", Duration.deadlineAfter now timeout⟩

end Context

end ToolServer.Execution
