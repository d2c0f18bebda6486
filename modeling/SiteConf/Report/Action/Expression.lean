import SiteConf.Report.Action.Token

/-!
# Expressions

What the tokens of an expression stand for, as far as a reader of literals asks: whether it is a
value, and whether that value can be a key. The faults follow how far a text can be read: it is read
up to the first token that cannot follow, and a hint is given where a known slip explains that
token.
-/

namespace SiteConf.Action

/-- Why an expression is no value. -/
inductive ValueFault where
  /-- It computes something. -/
  | computed
  /-- A map takes over another one. -/
  | unpacked
  /-- Something that can change is an element of a set or a key. -/
  | unhashable (kind : String)
  deriving DecidableEq, Repr

def ValueFault.message : ValueFault → String
  | computed => "malformed node or string"
  | unpacked => "malformed node or string: None"
  | unhashable kind => "unhashable type: '" ++ kind ++ "'"

/-- A value, as far as it matters: its kind, if it can change. -/
abbrev Value := Option String

/-- What is known of an expression. -/
structure Expr where
  /-- What it is called where it stands before an equals sign. -/
  what : String
  /-- Of a number whether it is imaginary, and whether it has a sign. -/
  number : Option (Bool × Bool) := none
  value : Except ValueFault Value := .error .computed

/-- A reader of an expression at the start of tokens. -/
abbrev Reader := List Token → Except SyntaxFault (Expr × List Token)

/-! ### Steps -/

/-- The next token is there. -/
def look : List Token → Except SyntaxFault Unit
  | .stop (some f) :: _ => .error f
  | _ => .ok ()

/-- What follows something that has started. -/
def further {α : Type} : Except SyntaxFault α → Except SyntaxFault α
  | .error .unexpected => .error .broken
  | r => r

/-- Something that starts only if it can be read to its end. -/
def whole {α : Type} : Except SyntaxFault α → Except SyntaxFault α
  | .error .broken => .error .unexpected
  | r => r

/-- Whether something starts. -/
def starts {α : Type} : Except SyntaxFault α → Except SyntaxFault Bool
  | .ok _ | .error .broken => .ok true
  | .error .unexpected => .ok false
  | .error f => .error f

/-- What follows a first operand. -/
def chainRest (operand : Reader) (operator? : List Token → Option (String × List Token))
    (join : String → Expr → Expr → Expr) : Nat → Expr → Reader
  | 0, _, _ => .error .broken
  | n + 1, e, ts => do
    look ts
    match operator? ts with
    | none => return (e, ts)
    | some (o, ts) => do
      let (r, ts) ← further (operand ts)
      chainRest operand operator? join n (join o e r) ts

/-- Operands with operators between them. -/
def chain (operand : Reader) (operator? : List Token → Option (String × List Token))
    (join : String → Expr → Expr → Expr) : Reader := fun ts => do
  let (e, ts) ← operand ts
  chainRest operand operator? join (ts.length + 1) e ts

/-! ### Words and signs -/

/-- Words that are no names. -/
def reserved : List String :=
  ["False", "None", "True", "and", "as", "assert", "async", "await", "break", "class", "continue",
    "def", "del", "elif", "else", "except", "finally", "for", "from", "global", "if", "import",
    "in", "is", "lambda", "nonlocal", "not", "or", "pass", "raise", "return", "try", "while",
    "with", "yield"]

def isName (s : String) : Bool := !reserved.contains s

def arithmeticSign? : List Token → Option (String × List Token)
  | .sign s :: ts =>
    if ["|", "^", "&", "<<", ">>", "+", "-", "*", "/", "//", "%", "@", "**"].contains s then
      some (s, ts)
    else none
  | _ => none

def comparisonSign? : List Token → Option (String × List Token)
  | .sign s :: ts =>
    if ["==", "!=", "<", ">", "<=", ">="].contains s then some (s, ts) else none
  | .name "in" :: ts => some ("in", ts)
  | .name "not" :: .name "in" :: ts => some ("not in", ts)
  | .name "is" :: .name "not" :: ts => some ("is not", ts)
  | .name "is" :: ts => some ("is", ts)
  | _ => none

def logicalSign? : List Token → Option (String × List Token)
  | .name "and" :: ts => some ("and", ts)
  | .name "or" :: ts => some ("or", ts)
  | _ => none

/-! ### Values -/

def Expr.constant (what : String) : Expr := { what, value := .ok none }

def Expr.operation : Expr := { what := "expression" }

/-- A number with a sign is a value. -/
def Expr.signed (e : Expr) : Expr :=
  match e.number with
  | some (imaginary, false) =>
    { what := "expression", number := some (imaginary, true), value := .ok none }
  | _ => .operation

/-- Of the operations only a real number and an imaginary one, added, are a value. -/
def Expr.joined (o : String) (l r : Expr) : Expr :=
  match l.number, r.number with
  | some (false, _), some (true, false) =>
    if o = "+" ∨ o = "-" then .constant "expression" else .operation
  | _, _ => .operation

def Expr.tuple (es : List Expr) : Expr :=
  { what := "tuple", value := do return (← es.mapM (·.value)).findSome? id }

/-- A value that can be an element of a set or a key. -/
def Expr.keyValue (e : Expr) : Except ValueFault Unit := do
  match ← e.value with
  | some kind => throw (.unhashable kind)
  | none => return ()

def Expr.set (es : List Expr) : Expr :=
  { what := "set display", value := do es.forM Expr.keyValue; return some "set" }

/-- A map; an entry without a key takes over another map. -/
def Expr.map (entries : List (Option Expr × Expr)) : Expr :=
  { what := "dict literal"
    value := do
      entries.forM fun e => do
        match e.1 with
        | none => throw .unpacked
        | some k =>
          let _ ← k.value
          let _ ← e.2.value
          k.keyValue
      return some "dict" }

/-- Texts one after the other are one text. -/
def Expr.texts (kinds : List TextKind) : Except SyntaxFault Expr := do
  let isBytes : TextKind → Bool
    | .bytes _ => true
    | _ => false
  let first := kinds.head?.any isBytes
  kinds.forM fun kind => do
    if kind = .bytes false then throw .nonAsciiBytes
    if isBytes kind ≠ first then throw .mixedTexts
  return if kinds.contains .formatted then { what := "f-string expression" }
    else .constant "literal"

/-! ### Lists -/

/-- The items after a first one, a comma before each, up to a bracket. A comma may stand before the
bracket. -/
def separated {α : Type} (close : String)
    (item : List Token → Except SyntaxFault (α × List Token)) :
    Nat → List Token → Except SyntaxFault (List α × List Token)
  | 0, _ => .error .unexpected
  | n + 1, ts => do
    look ts
    match ts with
    | .sign "," :: ts => do
      look ts
      if ts.head? = some (.sign close) then return ([], ts.drop 1)
      let (a, ts) ← item ts
      let (as, ts) ← separated close item n ts
      return (a :: as, ts)
    | ts => if ts.head? = some (.sign close) then return ([], ts.drop 1) else throw .unexpected

/-- An argument of a call. -/
inductive Argument where
  | positional
  | keyword
  /-- The elements of a list, or the entries of a map. -/
  | unpacked (map : Bool)
  deriving DecidableEq, Repr

/-- The order of arguments; `before` are those that came already. -/
def checkOrder (before : List Argument) : List Argument → Except SyntaxFault Unit
  | [] => .ok ()
  | a :: as =>
    let unpacking := before.contains (.unpacked true)
    if a = .positional ∧ (unpacking ∨ before.contains .keyword) then
      .error (.positionalAfterKeyword unpacking)
    else if a = .unpacked false ∧ unpacking then .error .unpackingAfterUnpacking
    else checkOrder (a :: before) as

/-! ### Inside of brackets -/

/-- How to read what stands inside of brackets, and what goes on outside of them. -/
structure Inner where
  expression : Reader
  arithmetic : Reader
  outside : Reader

namespace Inner
variable (i : Inner)

/-- Looks for a slip where an equals sign follows an expression. -/
def checkAssignment (ts : List Token) : Except SyntaxFault Unit := do
  let (l, rest) ← i.arithmetic ts
  if rest.head? = some (.sign "=") then
    let isValue ← match i.arithmetic (rest.drop 1) with
      | .ok (_, .sign s :: _) => pure (s != "=" && s != ":=")
      | r => starts r
    if isValue then
      match ts with
      | .name s :: .sign "=" :: _ => if isName s then throw .assignment
      | _ =>
        if ["tuple", "True", "False", "None"].contains l.what then return ()
        throw (.assignmentTo l.what)

/-- An element of a tuple or a set, once its expression is read. -/
def elementRest (ts : List Token) (e : Expr) (rest : List Token) :
    Except SyntaxFault (Expr × List Token) := do
  look rest
  match rest with
  | .sign ":=" :: more => do
    let (_, after) ← i.expression more
    match ts with
    | .name _ :: .sign ":=" :: _ => return ({ what := "named expression" }, after)
    | _ => throw (.namedAssignmentTo e.what)
  | .sign "=" :: _ => do
    i.checkAssignment ts
    throw .unexpected
  | .name "for" :: more => do
    look more
    throw .unexpected
  | _ => return (e, rest)

/-- What follows a star. -/
def starred (ts : List Token) : Except SyntaxFault (Expr × List Token) :=
  match i.expression ts with
  | .ok (_, rest) => .ok ({ what := "starred" }, rest)
  | .error .unexpected => .error .badStar
  | .error f => .error f

/-- An element of a tuple or a set after the first one. -/
def element : Reader
  | .sign "*" :: ts => do return ({ what := "starred" }, (← i.arithmetic ts).2)
  | ts => do
    let (e, rest) ← i.expression ts
    i.elementRest ts e rest

/-- What follows an opening parenthesis. -/
def group : Reader
  | .sign ")" :: ts => .ok (.tuple [], ts)
  | .sign "**" :: ts => do
    let (_, rest) ← i.expression ts
    look rest
    if rest.head? = some (.sign ")") then throw (.starredGroup true) else throw .unexpected
  | ts => do
    let (e, rest) ← match ts with
      | .sign "*" :: rest => i.starred rest
      | _ => i.element ts
    look rest
    if rest.head? = some (.sign ")") then
      if e.what = "starred" then throw (.starredGroup false)
      return (e, rest.drop 1)
    let (es, rest) ← separated ")" i.element rest.length rest
    return (.tuple (e :: es), rest)

/-- The value of an entry of a map. -/
def entryValue (ts : List Token) : Except SyntaxFault (Expr × List Token) := do
  match ts with
  | .sign "*" :: rest => do
    let _ ← i.arithmetic rest
    throw .starredValue
  | .sign "," :: _ | .sign "\x7d" :: _ => throw .missingValue
  | _ => i.expression ts

/-- An entry of a map after the first one. -/
def entry (ts : List Token) : Except SyntaxFault ((Option Expr × Expr) × List Token) := do
  match ts with
  | .sign "**" :: ts => do
    let (e, rest) ← i.arithmetic ts
    return ((none, e), rest)
  | _ => do
    let (k, rest) ← i.expression ts
    look rest
    match rest with
    | .sign ":" :: rest => do
      let (v, rest) ← i.entryValue rest
      return ((some k, v), rest)
    | _ => throw .missingColon

/-- What follows an opening brace: a map if its first entry has a colon. -/
def braces : Reader := fun ts => do
  let set (e : Expr) (rest : List Token) := do
    let (es, rest) ← separated "\x7d" i.element rest.length rest
    return (Expr.set (e :: es), rest)
  let map (e : Option Expr × Expr) (rest : List Token) := do
    let (es, rest) ← separated "\x7d" i.entry rest.length rest
    return (Expr.map (e :: es), rest)
  match ts with
  | .sign "\x7d" :: rest => return (.map [], rest)
  | .sign "**" :: _ => do
    let (e, rest) ← i.entry ts
    map e rest
  | .sign "*" :: rest => do
    let (e, rest) ← i.starred rest
    set e rest
  | _ => do
    let (e, rest) ← i.expression ts
    look rest
    match rest with
    | .sign ":" :: rest => do
      let (v, rest) ← i.entryValue rest
      map (some e, v) rest
    | _ => do
      let (e, rest) ← i.elementRest ts e rest
      set e rest

/-- An argument of a call. -/
def argument (ts : List Token) : Except SyntaxFault (Argument × List Token) := do
  match ts with
  | .sign "*" :: rest => return (.unpacked false, (← i.starred rest).2)
  | .sign "**" :: rest => return (.unpacked true, (← i.expression rest).2)
  | .name s :: .sign "=" :: rest =>
    if ["True", "False", "None"].contains s then throw (.keywordAssignmentTo s)
    else if isName s then return (.keyword, (← i.expression rest).2)
    else throw .unexpected
  | _ => do
    let (_, rest) ← i.expression ts
    look rest
    if rest.head? = some (.sign "=") then throw .keywordAssignment
    return (.positional, rest)

/-- The arguments of a call up to the parenthesis. -/
def arguments (ts : List Token) : Except SyntaxFault (List Token) := do
  if ts.head? = some (.sign ")") then return ts.drop 1
  let (a, rest) ← i.argument ts
  let (as, rest) ← separated ")" i.argument rest.length rest
  checkOrder [] (a :: as)
  return rest

/-! ### Operands -/

/-- An operand without a sign, and without what follows it. -/
def operand : Reader := fun ts => do
  look ts
  match ts with
  | .name s :: ts =>
    if ["True", "False", "None"].contains s then return (.constant s, ts)
    else if isName s then return ({ what := "name" }, ts)
    else
      if s = "lambda" then look ts
      throw .unexpected
  | .number imaginary :: ts =>
    return ({ what := "literal", number := some (imaginary, false), value := .ok none }, ts)
  | .text kind :: ts =>
    let kinds := ts.map fun
      | .text kind => some kind
      | _ => none
    let more := (kinds.takeWhile Option.isSome).filterMap id
    let rest := ts.drop more.length
    look rest
    return (← Expr.texts (kind :: more), rest)
  | .sign "..." :: ts => return (.constant "ellipsis", ts)
  | .sign "(" :: ts => do
    look ts
    whole (i.group ts)
  | .sign "\x7b" :: ts => do
    look ts
    whole (i.braces ts)
  | _ => throw .unexpected

/-- Attributes and calls after an operand. -/
def trailers : Nat → Expr → Reader
  | 0, _, _ => .error .broken
  | n + 1, e, ts => do
    look ts
    match ts with
    | .sign "." :: ts => do
      look ts
      match ts with
      | .name s :: ts => if isName s then trailers n { what := "attribute" } ts else throw .broken
      | _ => throw .broken
    | .sign "(" :: ts => do
      look ts
      trailers n { what := "function call" } (← further (i.arguments ts))
    | _ => return (e, ts)

/-- An operand without a sign. The empty set is written as a call. -/
def primary : Reader
  | .name "set" :: .sign "(" :: .sign ")" :: ts =>
    i.trailers (ts.length + 1) { what := "function call", value := .ok (some "set") } ts
  | .name "await" :: ts => do
    let (e, ts) ← i.operand ts
    let (_, ts) ← i.trailers (ts.length + 1) e ts
    return ({ what := "await expression" }, ts)
  | ts => do
    let (e, ts) ← i.operand ts
    i.trailers (ts.length + 1) e ts

/-- An operand with its signs. -/
def signed : Nat → Reader
  | 0, _ => .error .unexpected
  | n + 1, ts =>
    match ts with
    | .sign s :: rest =>
      if ["+", "-", "~"].contains s then do
        let (e, rest) ← signed n rest
        return (if s = "~" then .operation else e.signed, rest)
      else i.primary ts
    | _ => i.primary ts

def sum : Reader := fun ts => chain (i.signed ts.length) arithmeticSign? Expr.joined ts

def comparison : Reader :=
  chain i.sum comparisonSign? fun _ _ _ => { what := "comparison" }

def negation : Nat → Reader
  | 0, _ => .error .unexpected
  | n + 1, ts =>
    match ts with
    | .name "not" :: rest => do return (.operation, (← negation n rest).2)
    | _ => i.comparison ts

def disjunction : Reader := fun ts =>
  chain (i.negation ts.length) logicalSign? (fun _ _ _ => .operation) ts

/-! ### Hints -/

/-- The condition after an expression, if there is one; with a hint if it has no other side. -/
def condition (hint : Bool) (e : Expr) (ts : List Token) :
    Except SyntaxFault (Expr × List Token) := do
  let other : Except SyntaxFault (Expr × List Token) :=
    if hint then .error .missingElse else .ok (e, ts)
  match ts with
  | .name "if" :: more =>
    match i.disjunction more with
    | .ok (_, rest) => do
      look rest
      match rest with
      | .name "else" :: more => do
        return ({ what := "conditional expression" }, (← further (i.outside more)).2)
      | .sign ":" :: _ => throw .broken
      | _ => other
    | .error .broken => other
    | .error f => further (.error f)
  | _ => return (e, ts)

/-- Functions that are often called as if they were words. -/
def calledFunctions : List String := ["print", "exec"]

/-- A name that starts like one of some words may be meant as that word, and a name before a text as
the letters of that text. -/
def isDoubtful : List Token → Bool
  | .name s :: .text _ :: _ => isName s
  | .name s :: _ => ["_", "case", "match"].any fun w => s.toList.isPrefixOf w.toList
  | _ => false

/-- Looks for a slip in `ts`, of which `rest` comes after an expression: in brackets another
expression there misses a comma. -/
def checkMissing (bracketed : Bool) (ts rest : List Token) : Except SyntaxFault Unit := do
  let single := match ts with
    | .name s :: more => if isName s && more.length == rest.length then some s else none
    | _ => none
  let called := single.filter calledFunctions.contains
  if called.isNone && !isDoubtful ts then
    let next ← starts do
      let (e, rest) ← i.disjunction rest
      i.condition false e rest
    if !next then return ()
    if bracketed then throw .missingComma
  if single.isSome then
    if ← starts (i.outside rest) then
      if let some s := called then throw (.missingCall s)

/-- An expression, perhaps with a condition. -/
def hinted (bracketed : Bool) : Reader := fun ts => do
  let (e, rest) ← i.disjunction ts
  i.checkMissing bracketed ts rest
  i.condition true e rest

end Inner

/-- A reader at the depth that is too deep. -/
def noReader : Reader := fun _ => .error .unexpected

/-- Readers for brackets that go at most so deep. -/
def inner : Nat → Inner
  | 0 => ⟨noReader, noReader, noReader⟩
  | n + 1 => ⟨(inner n).hinted true, (inner n).sum, (inner n).hinted true⟩

/-- A reader outside of brackets. -/
def outer : Nat → Reader
  | 0 => noReader
  | n + 1 => { inner n with outside := outer n }.hinted false

/-- Expressions with commas between them, and whether there is a comma. -/
def expressions (read : Reader) : Nat → List Token →
    Except SyntaxFault (List Expr × Bool × List Token)
  | 0, _ => .error .unexpected
  | n + 1, ts => do
    let (e, rest) ← read ts
    look rest
    match rest with
    | .sign "," :: rest => do
      look rest
      match rest with
      | .lineEnd :: _ | .stop none :: _ => return ([e], true, rest)
      | _ => do
        let (es, _, rest) ← expressions read n rest
        return (e :: es, true, rest)
    | _ => return ([e], false, rest)

/-- The expression that tokens are. -/
def Expr.ofTokens (ts : List Token) : Except SyntaxFault Expr := do
  if ts.head? = some .indent then throw .unexpectedIndent
  let (es, comma, rest) ← expressions (outer ts.length) ts.length ts
  match rest.dropWhile (· = .lineEnd) with
  | .stop none :: _ => return if comma then .tuple es else es.headD .operation
  | .indent :: _ => throw .unexpectedIndent
  | rest => look rest; throw .unexpected

end SiteConf.Action
