import SiteConf.Import.Draft

/-!
# Reading upstream pools
-/

namespace SiteConf
open Text

/-- A number, or `fallback` for a text that is none or too small a number. -/
def numberFrom (least fallback : Nat) (s : String) : Except NumberFault Nat :=
  if isNumber s.toList then do
    let n ← readNumber s.toList
    pure (if least ≤ n then n else fallback)
  else .ok fallback

/-- A pool member with the next of its parameters. A value that is no number of the right size
counts as the default; an unknown parameter changes nothing and is reported. -/
def PoolMember.addParameter (m : PoolMember) (parameter : String) :
    Except NumberFault (PoolMember × List Warning) := do
  let (key, value) := cutAtChar '=' parameter
  match key with
  | "weight" => do
    let n ← numberFrom 1 1 value
    pure ({ m with weight := n }, [])
  | "max_fails" => do
    let n ← numberFrom 0 1 value
    pure ({ m with maxFails := n }, [])
  | "fail_timeout" => do
    let s ← readSeconds value
    pure ({ m with failTimeout := s.getD 10 }, [])
  | _ => pure (m, [.ignoredParameter parameter])

def PoolMember.addParameters (m : PoolMember) :
    List String → Except NumberFault (PoolMember × List Warning)
  | [] => .ok (m, [])
  | p :: ps => do
    let (m, w) ← m.addParameter p
    let (m, ws) ← m.addParameters ps
    pure (m, w ++ ws)

/-- The methods that a pool names by a directive. -/
def Balancing.ofDirective? (name : String) : Option Balancing :=
  [leastConn, ipHash, random].find? fun b => spell b == name

/-- A pool with the next of its statements. -/
def Upstream.add (u : Upstream) (n : Node) : Except NumberFault (Upstream × List Warning) :=
  match n with
  | .block name _ _ _ => .ok (u, [.ignoredInUpstream true name])
  | .directive name args _ =>
    match name, args with
    | "server", address :: parameters => do
      let (m, ws) ← ({ address } : PoolMember).addParameters parameters
      pure ({ u with servers := u.servers ++ [m] }, ws)
    | _, _ => match Balancing.ofDirective? name with
      | some b => .ok ({ u with method := b }, [])
      | none => .ok (u, [.ignoredInUpstream false name])

def Upstream.addAll (u : Upstream) : List Node → Except NumberFault (Upstream × List Warning)
  | [] => .ok (u, [])
  | n :: ns => do
    let (u, w) ← u.add n
    let (u, ws) ← u.addAll ns
    pure (u, w ++ ws)

/-- An upstream block. -/
def Draft.upstream (d : Draft) (n : Node) : Except NumberFault Draft :=
  let name := n.arg 0
  if name.isEmpty then .ok (d.warn (.upstreamWithoutName n.line))
  else do
    let (u, ws) ← ({ enabled := true, name } : Upstream).addAll n.children
    pure { d with site.upstream := u, warnings := d.warnings ++ ws }

end SiteConf
