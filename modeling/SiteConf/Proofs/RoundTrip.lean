import SiteConf.Proofs.Spelling

/-!
# Written trees are read back

A node is `Legible` if its name is one word and its arguments are `Quotable`, here and in all its
children. This is all that reading needs: legible nodes, written at any level, are read as nodes that
differ from them in their lines only, without errors (`ofText_serialize`).
-/

namespace SiteConf
open Text

mutual
/-- The name and the arguments are read back from their written forms, also in the children. -/
def Node.Legible : Node → Prop
  | .directive name args _ => IsName name ∧ ∀ a ∈ args, Quotable a
  | .block name args _ children => (IsName name ∧ ∀ a ∈ args, Quotable a) ∧ AllLegible children

def AllLegible : List Node → Prop
  | [] => True
  | n :: ns => n.Legible ∧ AllLegible ns
end

mutual
/-- Whether a node is legible. -/
def Node.decideLegible : ∀ n : Node, Decidable n.Legible
  | .directive name args _ => inferInstanceAs (Decidable (IsName name ∧ ∀ a ∈ args, Quotable a))
  | .block name args _ children =>
    letI := decideAllLegible children
    inferInstanceAs (Decidable ((IsName name ∧ ∀ a ∈ args, Quotable a) ∧ AllLegible children))

def decideAllLegible : ∀ ns : List Node, Decidable (AllLegible ns)
  | [] => .isTrue trivial
  | n :: ns =>
    letI := n.decideLegible
    letI := decideAllLegible ns
    inferInstanceAs (Decidable (n.Legible ∧ AllLegible ns))
end

instance (n : Node) : Decidable n.Legible := n.decideLegible

instance (ns : List Node) : Decidable (AllLegible ns) := decideAllLegible ns

theorem isBlank_pad (level : Int) : ∀ c ∈ (pad level).toList, isBlank c = true := by
  intro c hc
  rw [pad, String.toList_ofList] at hc
  rw [List.eq_of_mem_replicate hc]
  decide

theorem Writes.blanks {c : Bool} {l : String} {lines : List String} {ns : List Node} (level : Int)
    (h : Writes c (l :: lines) ns) : Writes c ((pad level ++ l) :: lines) ns := by
  obtain ⟨lx, h1, h2⟩ := h
  cases h1 with
  | cons hl hls =>
    refine ⟨_, .cons ?_ hls, h2⟩
    rw [String.toList_append]
    exact hl.blanks (isBlank_pad level)

mutual
theorem writes_toLines {c : Bool} (level : Int) : ∀ n : Node, n.Legible → Writes c (n.toLines level) [n]
  | .directive name args line, h => by
    rw [Node.Legible] at h
    rw [Node.toLines]
    exact (Writes.directive line h.1 h.2).blanks level
  | .block name args line children, h => by
    rw [Node.Legible] at h
    obtain ⟨⟨hn, ha⟩, hc⟩ := h
    have hin := writes_serialize (c := c) (level + 1) children hc
    rw [Node.toLines]
    refine Writes.block line (isBlank_pad level) ?_ (readsWords_statement hn ha) hin ?_
    · rw [String.toList_append]; rfl
    · rw [String.append_assoc, String.toList_append]; rfl

theorem writes_serialize {c : Bool} (level : Int) : ∀ ns : List Node, AllLegible ns → Writes c (serialize level ns) ns
  | [], _ => .nil
  | n :: ns, h => by
    rw [AllLegible] at h
    rw [serialize]
    exact (writes_toLines level n h.1).append (writes_serialize level ns h.2)
end

/-- Legible nodes, written at any level, are read back up to their lines. -/
theorem ofText_serialize (level : Int) (ns : List Node) (h : AllLegible ns) :
    (Tree.ofText (joinLines (serialize level ns))).errors = [] ∧
      withoutLines (Tree.ofText (joinLines (serialize level ns))).nodes = withoutLines ns :=
  (writes_serialize level ns h).ofText (.inl rfl)

/-- A block in a block, with bare arguments and arguments in each kind of quotes. -/
theorem ofText_serialize_nested :
    let ns := [.block "location" ["~*", "\\.(css|js)$"] 1 [.directive "expires" ["30 d"] 2,
      .block "if" ["", "say \"x\"", "it's \\\"so\\\""] 3 []]]
    AllLegible ns ∧ (Tree.ofText (joinLines (serialize 1 ns))).errors = [] ∧
      withoutLines (Tree.ofText (joinLines (serialize 1 ns))).nodes = withoutLines ns := by
  intro ns
  have h : AllLegible ns := by decide +kernel
  exact ⟨h, ofText_serialize 1 ns h⟩

end SiteConf
