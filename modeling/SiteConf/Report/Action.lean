import SiteConf.Data.Literal
import SiteConf.Report.Action.Expression
import SiteConf.Text.Blank

/-!
# Actions

A tag whose name starts with `@` has an action, such as `show(1, 'a')`: the name of a handler and
its arguments, or arguments alone. The arguments must be literals. An action leaves no trace in a
printed text, but a tag with a faulty one cannot be closed.
-/

namespace SiteConf
open Text

/-- Why an action is none. -/
inductive ActionFault where
  /-- The arguments of an action are no expression. -/
  | unreadable (arguments action : String) (fault : Action.SyntaxFault)
  /-- The arguments of an action are no literals. -/
  | noValue (action : String) (fault : Action.ValueFault)
  /-- An action with the character zero. -/
  | zero (action : String)
  deriving DecidableEq, Repr

def ActionFault.message : ActionFault → String
  | unreadable arguments action f => "error parsing " ++ Data.quoted arguments ++ " in " ++
      Data.quoted action ++ "; " ++ f.message
  | noValue action f => "error parsing " ++ Data.quoted action ++ "; " ++ f.message
  | zero action => "error parsing " ++ Data.quoted action ++
      "; source code string cannot contain null bytes"

namespace Action

/-- The arguments in a trimmed action: all of it if no handler is named, and none for a handler
alone. -/
def arguments (cs : List Char) : List Char :=
  let rest := cs.dropWhile fun c => isAlphanumeric c || c == '_' || c == '.'
  if rest.isEmpty then ['(', ')']
  else if rest.head? = some '(' ∧ 2 ≤ rest.length ∧ rest.getLast? = some ')' ∧ '\n' ∉ rest then rest
  else cs

/-- Reads an action. -/
def check (action : String) : Except ActionFault Unit := do
  let cs := arguments (trimChars action.toList)
  if cs.contains '\x00' then throw (.zero action)
  let e ← ((tokensOf (unifyLineEnds cs)).bind Expr.ofTokens).mapError
    (.unreadable (.ofList cs) action)
  let _ ← e.value.mapError (.noValue action)
  return ()

end Action
end SiteConf
