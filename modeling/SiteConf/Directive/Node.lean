import SiteConf.Directive.Token

/-!
# Trees of directives

A directive is a statement that ends with a semicolon, a block one that holds further statements
between braces. `Tree.ofTokens` nests a token list; it always gives a tree, and reports what it had
to skip or to close by itself.

Comments and semicolons that end no statement carry no structure. After a statement that ends
neither way, the tokens on the line of its name are skipped.
-/

namespace SiteConf

inductive Node where
  | directive (name : String) (args : List String) (line : Int)
  | block (name : String) (args : List String) (line : Int) (children : List Node)
  deriving Repr, Inhabited

namespace Node

def name : Node → String
  | directive name _ _ => name
  | block name _ _ _ => name

def args : Node → List String
  | directive _ args _ => args
  | block _ args _ _ => args

/-- The line of the name. -/
def line : Node → Int
  | directive _ _ line => line
  | block _ _ line _ => line

def children : Node → List Node
  | directive _ _ _ => []
  | block _ _ _ children => children

def isBlock : Node → Bool
  | directive _ _ _ => false
  | block _ _ _ _ => true

/-- The argument at a place, empty if there are fewer. -/
def arg (n : Node) (i : Nat) : String := n.args[i]?.getD ""

end Node

/-- What is wrong with the structure of a text. -/
inductive SyntaxError where
  | unexpectedClose (line : Int)
  | unexpectedToken (name : String) (line : Int)
  | unclosedBlock (name : String) (line : Int)
  deriving DecidableEq, Repr

def SyntaxError.message : SyntaxError → String
  | unexpectedClose line => "Unexpected '\x7d' at line " ++ toString line
  | unexpectedToken name line => "Unexpected token after '" ++ name ++ "' at line " ++ toString line
  | unclosedBlock name line => "Unclosed block '" ++ name ++ "' at line " ++ toString line

/-- The nodes at the top and all errors, both in the order of the tokens. -/
structure Tree where
  nodes : List Node
  errors : List SyntaxError
  deriving Repr, Inhabited

namespace Tree

/-- A block that is still open, and its earlier siblings, the latest first. -/
structure Frame where
  name : String
  args : List String
  line : Int
  before : List Node

/-- The block with its children, the latest first, added to its siblings. -/
def Frame.close (f : Frame) (children : List Node) : List Node :=
  .block f.name f.args f.line children.reverse :: f.before

/-- The nodes at the top once all open blocks are closed. -/
def closeAll : List Frame → List Node → List Node
  | [], nodes => nodes.reverse
  | f :: stack, nodes => closeAll stack (f.close nodes)

/-- Only the innermost of the blocks that stay open is reported. -/
def unclosed : List Frame → List SyntaxError
  | [] => []
  | f :: _ => [.unclosedBlock f.name f.line]

/-- The words at the start. -/
def leadingWords : List Token → List String
  | ⟨_, .word w⟩ :: ts => w :: leadingWords ts
  | _ => []

def dropWords : List Token → List Token
  | ⟨_, .word _⟩ :: ts => dropWords ts
  | ts => ts

theorem length_dropWords_le (ts : List Token) : (dropWords ts).length ≤ ts.length := by
  fun_induction dropWords ts with
  | case1 _ _ ts ih => simp; omega
  | case2 => exact Nat.le_refl _

/-- Nests the tokens. `stack` holds the open blocks, the innermost first, and `nodes` the nodes so
far of the innermost one, the latest first. -/
def build (stack : List Frame) (nodes : List Node) (ts : List Token) : Tree :=
  match ts with
  | [] => ⟨closeAll stack nodes, unclosed stack⟩
  | ⟨line, .blockClose⟩ :: ts =>
    match stack with
    | f :: stack => build stack (f.close nodes) ts
    | [] =>
      let tree := build [] nodes ts
      { tree with errors := .unexpectedClose line :: tree.errors }
  | ⟨_, .blockOpen⟩ :: ts => build stack nodes ts
  | ⟨_, .semicolon⟩ :: ts => build stack nodes ts
  | ⟨_, .comment _⟩ :: ts => build stack nodes ts
  | ⟨line, .word name⟩ :: ts =>
    let args := leadingWords ts
    match _h : dropWords ts with
    | ⟨_, .blockOpen⟩ :: rest => build (⟨name, args, line, nodes⟩ :: stack) [] rest
    | ⟨_, .semicolon⟩ :: rest => build stack (.directive name args line :: nodes) rest
    | rest =>
      let tree := build stack nodes (rest.dropWhile (·.line == line))
      { tree with errors := .unexpectedToken name line :: tree.errors }
termination_by ts.length
decreasing_by
  all_goals try (simp; done)
  all_goals
    have h1 := length_dropWords_le ts
    simp only [_h, List.length_cons] at h1 ⊢
  · omega
  · omega
  · have h2 := (List.dropWhile_suffix (fun t : Token => t.line == line) (l := rest)).length_le
    omega

def ofTokens (ts : List Token) : Tree := build [] [] ts

/-- The tree of a text. -/
def ofText (text : String) : Tree := ofTokens (tokenize text)

end Tree
end SiteConf
