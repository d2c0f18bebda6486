import SiteConf.Site.Amend

/-!
# Edits of single parts

Changing one part of a site that a path names. A step of a path is the name of a field or a place in
a list; places count from 0, negative ones from the end. No condition of `Site.Valid` is checked: an
edit can leave a site that no reader would accept. Only a keyword has to stay one.
-/

namespace SiteConf

/-- A step of a path. -/
inductive Step where
  | field (name : String)
  | place (index : Int)
  deriving DecidableEq, Repr

/-- The position that a place means in a list of some length. -/
def Step.position? (length : Nat) (index : Int) : Option Nat :=
  let i := if index < 0 then index + length else index
  if 0 ≤ i ∧ i < length then some i.toNat else none

/-- Why a path names nothing, or nothing that can be changed. -/
inductive EditFault where
  | noField (kind name : String)
  | noItems (kind : String)
  /-- A list or text has no such place. -/
  | outOfRange (kind : String)
  | noPlaceToChange
  | noKey (key : Data)
  | fixedItems (kind : String)
  | noDeletion (kind : String)
  | notAPlace
  /-- A number is added to a sequence. -/
  | notJoined (kind : String)
  | noSum (kind : String)
  | fault (f : Fault)
  deriving Repr

def EditFault.message : EditFault → String
  | noField kind name => "'" ++ kind ++ "' object has no attribute '" ++ name ++ "'"
  | noItems kind => "'" ++ kind ++ "' object is not subscriptable"
  | outOfRange kind => kind ++ " index out of range"
  | noPlaceToChange => "list assignment index out of range"
  | noKey key => key.literal
  | fixedItems kind => "'" ++ kind ++ "' object does not support item assignment"
  | noDeletion kind => "'" ++ kind ++ "' object doesn't support item deletion"
  | notAPlace => "list indices must be integers or slices, not str"
  | notJoined kind => "can only concatenate " ++ kind ++ " (not \"int\") to " ++ kind
  | noSum kind => "unsupported operand type(s) for +: '" ++ kind ++ "' and 'int'"
  | fault f => f.message

namespace Part

/-! ### Looking up -/

/-- The character of a text at a place. -/
def characterAt (s : String) (index : Int) : Except EditFault Part :=
  match (Step.position? s.toList.length index).bind (s.toList[·]?) with
  | some c => .ok (.single (.text c.toString))
  | none => .error (.outOfRange "string")

/-- The part at a step. -/
def child (p : Part) (step : Step) : Except EditFault Part :=
  match step, p with
  | .field name, .record kind fs => match fs.lookup name with
    | some q => .ok q
    | none => .error (.noField kind name)
  | .field name, p => .error (.noField p.kind name)
  | .place i, .list ps => match (Step.position? ps.length i).bind (ps[·]?) with
    | some q => .ok q
    | none => .error (.outOfRange "list")
  | .place i, .map _ => .error (.noKey (.int i))
  | .place i, .single (.text s) => characterAt s i
  | .place i, .keyword _ s => characterAt s i
  | .place _, p => .error (.noItems p.kind)

/-- The part at a path. -/
def find (p : Part) : List Step → Except EditFault Part
  | [] => .ok p
  | step :: path => do (← p.child step).find path

/-! ### Changing -/

/-- The part with another one at a step that it has. -/
def setChild (p : Part) (step : Step) (q : Part) : Part :=
  match step, p with
  | .field name, .record kind fs => .record kind (Fields.put name q fs)
  | .place i, .list ps => match Step.position? ps.length i with
    | some n => .list (ps.set n q)
    | none => .list ps
  | _, p => p

/-- The part with the one at a path changed by `f`. -/
def modify (f : Part → Except EditFault Part) (p : Part) : List Step → Except EditFault Part
  | [] => f p
  | step :: path => do
    let q ← (← p.child step).modify f path
    return p.setChild step q

/-- Data in the place of a part; in the place of a keyword it has to spell one of the same type. -/
def replacement (current : Part) (value : Data) : Except Fault Part :=
  match current with
  | .keyword label _ =>
    if label = Keyword.label CipherProfile then asKeyword CipherProfile (ofData value)
    else if label = Keyword.label SizeUnit then asKeyword SizeUnit (ofData value)
    else if label = Keyword.label LogLevel then asKeyword LogLevel (ofData value)
    else if label = Keyword.label Balancing then asKeyword Balancing (ofData value)
    else if label = Keyword.label MatchType then asKeyword MatchType (ofData value)
    else asKeyword LocationKind (ofData value)
  | _ => .ok (ofData value)

/-- The part with data at a step. -/
def assign (step : Step) (value : Data) (p : Part) : Except EditFault Part :=
  match step with
  | .field _ => do
    let q ← (replacement (← p.child step) value).mapError .fault
    return p.setChild step q
  | .place i => match p with
    | .list ps => match Step.position? ps.length i with
      | some n => .ok (.list (ps.set n (ofData value)))
      | none => .error .noPlaceToChange
    | .map es => .ok (.map (Fields.put (toString i) (ofData value) es))
    | p => .error (.fixedItems p.kind)

/-- The part without what is at a step: an item of a list or an entry of a map. -/
def delete (step : Step) (p : Part) : Except EditFault Part :=
  match step, p with
  | .place i, .list ps => match Step.position? ps.length i with
    | some n => .ok (.list (ps.eraseIdx n))
    | none => .error .noPlaceToChange
  | .field _, .list _ => .error .notAPlace
  | .field name, .map es =>
    if (es.lookup name).isSome then .ok (.map (es.filter (·.1 != name)))
    else .error (.noKey (.text name))
  | .place i, .map _ => .error (.noKey (.int i))
  | _, p => .error (.noDeletion p.kind)

/-- Changes the part that holds the last step of a path, which is handed to `f`. -/
def modifyLast (f : Step → Part → Except EditFault Part) (path : List Step) (p : Part) :
    Except EditFault Part :=
  match path.getLast? with
  | none => .error (.outOfRange "list")
  | some step => p.modify (f step) path.dropLast

/-- The part with data at a path. -/
def set (path : List Step) (value : Data) (p : Part) : Except EditFault Part :=
  p.modifyLast (assign · value) path

/-- The part with an item added to the list at a path; an item of a list of records is checked first
and given its defaults. -/
def append (path : List Step) (item : Data) (p : Part) : Except EditFault Part :=
  match path.getLast? with
  | none => .error (.outOfRange "list")
  | some step => do
    let read := match step with
      | .field name => itemReader? name
      | .place _ => none
    let item ← match read with
      | some read => (read item).mapError .fault
      | none => .ok (ofData item)
    p.modify (fun
      | .list ps => .ok (.list (ps ++ [item]))
      | q => .error (.noField q.kind "append")) path

/-- The part without what is at a path. -/
def remove (path : List Step) (p : Part) : Except EditFault Part := p.modifyLast delete path

/-! ### Arithmetic -/

/-- A number with `n` added. -/
def plus (n : Int) : Part → Except EditFault Data
  | single (.int m) => .ok (.int (m + n))
  | single (.bool b) => .ok (.int ((if b then 1 else 0) + n))
  | single (.float x) => .ok (.float (x.plus n))
  | single (.text _) | keyword .. => .error (.notJoined "str")
  | list _ => .error (.notJoined "list")
  | p => .error (.noSum p.kind)

end Part
end SiteConf
