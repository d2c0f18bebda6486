import SiteConf.Data.Yaml.Token

/-!
# Nodes of YAML

What the tokens of a text say: lists and maps of words and quoted texts. `Node.ofTokens?` reads the
one document of a text; a text without any has no node.

The readers of parts take the tokens from the start and give back the rest. Every call takes a token
or is one of a bounded number between two tokens, so `fuel` in the number of tokens suffices.
-/

namespace SiteConf.Data.Yaml

inductive Node where
  | word (s : String)
  | quoted (s : String)
  | list (items : List Node)
  | map (entries : List (Node × Node))
  deriving Repr

namespace Node

/-- What stands where nothing is written. -/
def nothing : Node := .word ""

/-- The next token is one of some. -/
def next (ts : List Token) (some_ : List Token) : Bool :=
  match ts with
  | t :: _ => some_.contains t
  | [] => false

mutual
/-- A value; lists and maps by indentation only in a `block`. The items of a `flat` list may be
indented no more than the key before it. -/
def value? (fuel : Nat) (block flat : Bool) (ts : List Token) : Option (Node × List Token) :=
  match fuel with
  | 0 => none
  | fuel + 1 =>
    match ts with
    | .word s :: ts => some (.word s, ts)
    | .quoted s :: ts => some (.quoted s, ts)
    | .flowListStart :: ts => flowItems? fuel [] ts
    | .flowMapStart :: ts => flowEntries? fuel [] ts
    | .listStart :: ts => if block then items? fuel [] ts else none
    | .mapStart :: ts => if block then entries? fuel [] ts else none
    | .entry :: _ => if flat then flatItems? fuel [] ts else none
    | _ => none

/-- A value, or nothing before one of the tokens `ends`. -/
def valueBefore? (fuel : Nat) (block flat : Bool) (ends ts : List Token) :
    Option (Node × List Token) :=
  match fuel with
  | 0 => none
  | fuel + 1 => if next ts ends then some (nothing, ts) else value? fuel block flat ts

/-- What follows a colon, or nothing if there is none. -/
def afterColon? (fuel : Nat) (block : Bool) (ends ts : List Token) : Option (Node × List Token) :=
  match fuel with
  | 0 => none
  | fuel + 1 =>
    match ts with
    | .value :: ts => valueBefore? fuel block block ends ts
    | _ => some (nothing, ts)

/-- The items of a list by indentation. -/
def items? (fuel : Nat) (done : List Node) (ts : List Token) : Option (Node × List Token) :=
  match fuel with
  | 0 => none
  | fuel + 1 =>
    match ts with
    | .entry :: ts => do
      let (n, ts) ← valueBefore? fuel true false [.entry, .blockEnd] ts
      items? fuel (n :: done) ts
    | .blockEnd :: ts => some (.list done.reverse, ts)
    | _ => none

/-- The items of a list that is indented no more than its key. -/
def flatItems? (fuel : Nat) (done : List Node) (ts : List Token) : Option (Node × List Token) :=
  match fuel with
  | 0 => none
  | fuel + 1 =>
    match ts with
    | .entry :: ts => do
      let (n, ts) ← valueBefore? fuel true false [.entry, .key, .value, .blockEnd] ts
      flatItems? fuel (n :: done) ts
    | ts => some (.list done.reverse, ts)

/-- The entries of a map by indentation. -/
def entries? (fuel : Nat) (done : List (Node × Node)) (ts : List Token) :
    Option (Node × List Token) :=
  match fuel with
  | 0 => none
  | fuel + 1 =>
    match ts with
    | .key :: ts => do
      let ends := [.key, .value, .blockEnd]
      let (k, ts) ← valueBefore? fuel true true ends ts
      let (v, ts) ← afterColon? fuel true ends ts
      entries? fuel ((k, v) :: done) ts
    | .blockEnd :: ts => some (.map done.reverse, ts)
    | _ => none

/-- The items of a list in brackets; one with a colon in it is a map of one entry. -/
def flowItems? (fuel : Nat) (done : List Node) (ts : List Token) : Option (Node × List Token) :=
  match fuel with
  | 0 => none
  | fuel + 1 =>
    match ts with
    | .flowListEnd :: ts => some (.list done.reverse, ts)
    | _ => do
      let (n, ts) ← match ts with
        | .key :: ts => do
          let (k, ts) ← valueBefore? fuel false false [.value, .comma, .flowListEnd] ts
          let (v, ts) ← afterColon? fuel false [.comma, .flowListEnd] ts
          pure (.map [(k, v)], ts)
        | _ => value? fuel false false ts
      match ts with
      | .comma :: ts => flowItems? fuel (n :: done) ts
      | .flowListEnd :: ts => some (.list (n :: done).reverse, ts)
      | _ => none

/-- The entries of a map in braces; one without a colon has no value. -/
def flowEntries? (fuel : Nat) (done : List (Node × Node)) (ts : List Token) :
    Option (Node × List Token) :=
  match fuel with
  | 0 => none
  | fuel + 1 =>
    match ts with
    | .flowMapEnd :: ts => some (.map done.reverse, ts)
    | _ => do
      let (e, ts) ← match ts with
        | .key :: ts => do
          let (k, ts) ← valueBefore? fuel false false [.value, .comma, .flowMapEnd] ts
          let (v, ts) ← afterColon? fuel false [.comma, .flowMapEnd] ts
          pure ((k, v), ts)
        | _ => do
          let (k, ts) ← value? fuel false false ts
          pure ((k, nothing), ts)
      match ts with
      | .comma :: ts => flowEntries? fuel (e :: done) ts
      | .flowMapEnd :: ts => some (.map (e :: done).reverse, ts)
      | _ => none
end

/-- The content of a document up to its end. -/
def document? (ts : List Token) : Option Node := do
  let fuel := 4 * ts.length + 4
  let (n, ts) ← valueBefore? fuel true false [.documentEnd] (ts ++ [.documentEnd])
  if (ts.dropLast.all (· == .documentEnd)) then some n else none

/-- The one document of a text. -/
def ofTokens? : List Token → Option Node
  | [] => some nothing
  | .documentStart :: ts => document? ts
  | .documentEnd :: _ => none
  | ts => document? ts

end Node
end SiteConf.Data.Yaml
