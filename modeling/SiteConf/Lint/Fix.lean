import SiteConf.Lint.Rule
import SiteConf.Site.Codec

/-!
# Fixes

Repairing a model by the fixes of the rules that fire on it: one rule (`applyFix`), or the whole
table again and again until nothing changes (`applyAllFixes`). A fix that fails or changes nothing
counts as not applied. Changes show in the signatures of models, so a repair breaks off at a model
that has none.
-/

namespace SiteConf

/-- The outcome of fixing. -/
structure FixResult (α : Type) where
  model : α
  /-- The model has changed. -/
  applied : Bool
  /-- The rules whose fixes changed the model, in order. -/
  ruleIds : List String

/-- A model under repair, with the rules applied so far and the incidents so far. -/
structure Repair (α : Type) where
  model : α
  ruleIds : List String := []
  incidents : List Incident := []

variable {α ε : Type} [Signed α ε]

namespace Repair

/-- Applies the fix of a rule that fires, if it changes the model. -/
def step (st : Repair α) (r : Rule α) : Except ε (Repair α) :=
  match r.fix with
  | none => .ok st
  | some fix =>
    let st := { st with incidents := st.incidents ++ r.testIncidents st.model }
    if r.fires st.model then
      match fix st.model with
      | .ok a => do
        let same ← sameSignature st.model a
        return if same then st else { st with model := a, ruleIds := st.ruleIds ++ [r.id] }
      | .error m => .ok { st with incidents := st.incidents ++ [.fixFailed r.id m] }
    else .ok st

/-- One pass over the rules; later rules see what earlier ones did. -/
def sweep (rules : List (Rule α)) (st : Repair α) : Except ε (Repair α) := rules.foldlM step st

/-- At most `n` sweeps. The last is one that changes nothing, or after which the model is one that
was there before; `seen` holds the signatures of those. -/
def sweeps (rules : List (Rule α)) (seen : List String) (st : Repair α) :
    Nat → Except ε (Repair α)
  | 0 => .ok st
  | n + 1 => do
    let next ← st.sweep rules
    let state ← signature next.model
    if next.ruleIds.length = st.ruleIds.length ∨ state ∈ seen then return next
    else next.sweeps rules (state :: seen) n

end Repair

/-- Repairs a model by all rules, in at most `maxPasses` sweeps. -/
def applyAllFixes (rules : List (Rule α)) (maxPasses : Int) (a : α) :
    Except ε (FixResult α × List Incident) := do
  let start ← signature a
  let st ← ({ model := a } : Repair α).sweeps rules [start] maxPasses.toNat
  let unchanged ← sameSignature a st.model
  return (⟨st.model, !unchanged, st.ruleIds⟩, st.incidents)

/-- Repairs a model by the rule with an id. A rule that does not fire or has no fix does nothing. -/
def applyFix (rules : List (Rule α)) (id : String) (a : α) :
    Except ε (FixResult α × List Incident) :=
  match rules.find? (·.id == id) with
  | none => .ok (⟨a, false, []⟩, [.unknownRule id])
  | some r => do
    let st ← ({ model := a } : Repair α).step r
    return (⟨st.model, !st.ruleIds.isEmpty, st.ruleIds⟩, st.incidents)

end SiteConf
