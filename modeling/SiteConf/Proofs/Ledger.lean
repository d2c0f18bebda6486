import SiteConf.Proofs.Changes

/-!
# What location blocks add

The ledger of a draft holds what is read from location blocks, and what such a reading depends on. No
other statement of a server changes it, and a location block changes it in one of three ways (`Enters`).
-/

namespace SiteConf
open Text

/-- The parts of a draft that location blocks add to, and the parts that stay as they were before the server. -/
structure Ledger where
  locations : List Location
  caching : List (AssetClass × String)
  rateLimiting : Bool
  assetExpiry : List (String × String)
  reverseProxy : ReverseProxy

/-! ### Location blocks -/

namespace Node

def isLocation (n : Node) : Bool := n.isBlock && n.name == "location"

def matchType (n : Node) : MatchType := n.locationTarget.1

def path (n : Node) : String := n.locationTarget.2.1

/-- The children of a location block after the rate limit. -/
def contents (rateLimiting : Bool) (n : Node) : List Node := (splitLimit rateLimiting n.children).1

/-- The asset class and the expiry of a caching location. -/
def stanza? (rateLimiting : Bool) (n : Node) : Option (AssetClass × String) :=
  if n.matchType = .regexIgnoreCase then cachingStanza? n.path (n.contents rateLimiting) else none

end Node

/-- What a location block can do to a ledger: it is skipped without a path, it sets the expiry of an asset class
that has none so far, or it becomes a location. -/
inductive Enters (k : Ledger) (n : Node) : Ledger → Prop
  | skipped (hp : n.path = "") : Enters k n k
  | cached (s : AssetClass × String) (hp : n.path ≠ "") (hs : n.stanza? k.rateLimiting = some s)
    (hnew : k.caching.lookup s.1 = none) : Enters k n { k with caching := k.caching ++ [s] }
  | placed (l : Location) (hp : n.path ≠ "")
    (hs : ∀ s ∈ n.stanza? k.rateLimiting, (k.caching.lookup s.1).isSome = true)
    (hl : Location.ofChildren n.path n.matchType (n.contents k.rateLimiting) = .ok l) :
    Enters k n { k with locations := k.locations ++ [l] }

namespace Draft

def ledger (d : Draft) : Ledger :=
  ⟨d.site.locations, d.caching, d.site.security.rateLimiting, d.site.performance.assetCacheExpiry,
    d.site.reverseProxy⟩

theorem ensures_enters (d : Draft) (n : Node) : Ensures (d.location n) fun d' => Enters d.ledger n d'.ledger := by
  have hwarned : (if n.locationTarget.2.2 then ({ d with locationSeen := true } : Draft).warn (.strongModifier n.line)
      else { d with locationSeen := true }).ledger = d.ledger := by
    split_ifs <;> rfl
  rw [location_eq]
  dsimp only
  generalize (if n.locationTarget.2.2 then ({ d with locationSeen := true } : Draft).warn (.strongModifier n.line)
    else { d with locationSeen := true }) = e at hwarned ⊢
  rw [← hwarned]
  split_ifs with hpath
  · exact .ok (.skipped (String.isEmpty_iff.1 hpath))
  · have hp : n.path ≠ "" := fun h => hpath (String.isEmpty_iff.2 h)
    refine (changes_setBurst e _).bind fun f ⟨b, hb⟩ => ?_
    have hf : f.ledger = e.ledger := by
      rw [hb]
      rfl
    have hcontents : (splitLimit e.site.security.rateLimiting n.children).1 = n.contents f.ledger.rateLimiting := by
      rw [hf]
      rfl
    rw [hcontents, ← hf]
    unfold place
    split
    · next s hs =>
      obtain ⟨hstanza, hnew⟩ := Option.filter_eq_some_iff.1 hs
      exact .ok (.cached s hp hstanza (Option.isNone_iff_eq_none.1 hnew))
    · next hs =>
      have hseen : ∀ s ∈ n.stanza? f.ledger.rateLimiting, (f.ledger.caching.lookup s.1).isSome = true := by
        intro s hstanza
        exact Option.isSome_iff_ne_none.2 fun hnone =>
          Option.filter_eq_none_iff.1 hs s hstanza (Option.isNone_iff_eq_none.2 hnone)
      exact (Ensures.self _).map fun l hl => .placed l hp hseen hl

/-! ### Other statements -/

theorem ledger_unmodelled (d : Draft) (n : Node) : (d.unmodelled n).ledger = d.ledger := by
  unfold unmodelled
  split_ifs <;> rfl

theorem Sets.ledger_eq {d d' : Draft} {n : Node} {name : String} (h : Sets d n name d') : d'.ledger = d.ledger := by
  cases h
  case otherHeader => exact ledger_unmodelled d n
  all_goals rfl

theorem ledger_directive (d : Draft) (n : Node) : Ensures (d.directive n) fun d' => d'.ledger = d.ledger := by
  refine (d.sets_directive n).mono ?_
  rintro d' (⟨-, rfl⟩ | ⟨-, -, h⟩ | ⟨-, -, rfl⟩)
  · rfl
  · exact h.ledger_eq
  · exact ledger_unmodelled d n

theorem ensures_serverStatement (d : Draft) (n : Node) : Ensures (d.serverStatement n) fun d' =>
    if n.isLocation then Enters d.ledger n d'.ledger else d'.ledger = d.ledger := by
  unfold serverStatement
  split
  · exact ensures_enters d _
  · next name args line children hname =>
    have hother : (Node.block name args line children).isLocation = false := by
      show (name == "location") = false
      exact beq_eq_false_iff_ne.2 hname
    refine .ok ?_
    rw [hother, if_neg Bool.false_ne_true]
    exact ledger_unmodelled d _
  · exact ledger_directive d _

end Draft

/-! ### The whole import -/

/-- The ledger before the server. -/
def Ledger.start (rateLimiting : Bool) : Ledger := ⟨[], [], rateLimiting, [], {}⟩

namespace Import

theorem ensures_fileDraft (other : List Node) (redirected : Bool) (candidates : Nat) :
    Ensures (fileDraft other redirected candidates) fun d => ∃ r, d.ledger = .start r := by
  refine (changes_fileDraft other redirected candidates).mono ?_
  rintro _ ⟨rate, ws, -, rfl⟩
  exact ⟨other.any Node.isZone, rfl⟩

theorem ensures_withUpstreams (d : Draft) (us : List Node) :
    Ensures (withUpstreams d us) fun d' => d'.ledger = d.ledger := by
  refine (d.changes_withUpstreams us).mono ?_
  rintro _ ⟨upstream, ws, -, rfl⟩
  rfl

/-- The import of a tree with a server is settled from the drafts after the file level, after the server and
after the upstream pools. -/
theorem exists_runs {nodes : List Node} {errors : List String} {i : Import} {s : Node} {ss : List Node}
    (h : ofNodes nodes errors = .ok i) (hs : (fileScope nodes).filter Node.isServer = s :: ss) :
    ∃ d e f : Draft, (∃ other redirected candidates, fileDraft other redirected candidates = .ok d) ∧
      (chooseServer s ss).1.children.foldlM Draft.serverStatement d = .ok e ∧
      (∃ us, withUpstreams e us = .ok f) ∧ i.site = f.finish.site ∧ i.warnings = f.finish.warnings := by
  unfold ofNodes at h
  dsimp only at h
  rw [hs] at h
  obtain ⟨d, hd, h⟩ := exists_of_bind_eq_ok h
  obtain ⟨e, he, h⟩ := exists_of_bind_eq_ok h
  obtain ⟨f, hf, h⟩ := exists_of_bind_eq_ok h
  have hi := (Except.ok.inj h).symm
  exact ⟨d, e, f, ⟨_, _, _, hd⟩, he, ⟨_, hf⟩, congrArg Import.site hi, congrArg Import.warnings hi⟩

theorem exists_draft {nodes : List Node} {errors : List String} {i : Import} {s : Node} {ss : List Node}
    (h : ofNodes nodes errors = .ok i) (hs : (fileScope nodes).filter Node.isServer = s :: ss) :
    ∃ d e f : Draft, ∃ r, d.ledger = .start r ∧ (chooseServer s ss).1.children.foldlM Draft.serverStatement d = .ok e ∧
      f.ledger = e.ledger ∧ i.site = f.finish.site := by
  obtain ⟨d, e, f, ⟨other, redirected, candidates, hd⟩, he, ⟨us, hf⟩, hsite, -⟩ := exists_runs h hs
  obtain ⟨r, hr⟩ := ensures_fileDraft other redirected candidates d hd
  exact ⟨d, e, f, r, hr, he, ensures_withUpstreams e us f hf, hsite⟩

end Import
end SiteConf
