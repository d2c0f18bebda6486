import SiteConf.Proofs.Ledger
import SiteConf.Proofs.Settled

/-!
# Statements without a place in a site

Of the statements of a server, those that no field holds are kept as text up to the first location block, in
their order (`Draft.remainder_run`). No other statement touches what is kept. Main statement:
`Import.customDirectives_eq`.
-/

namespace SiteConf
open Text

/-- A field stands for the header. -/
def isFieldHeader (name : String) : Bool :=
  let name := String.ofList (lower name)
  name == "strict-transport-security" || (hardeningHeaders.map fun h => String.ofList (lower h.1)).contains name

theorem isFieldHeader_iff {name : String} : isFieldHeader name = true ↔
    String.ofList (lower name) = "strict-transport-security" ∨
      (hardeningHeaders.map fun h => String.ofList (lower h.1)).contains (String.ofList (lower name)) = true := by
  simp only [isFieldHeader, Bool.or_eq_true, beq_iff_eq]

/-- A block that is no location, a directive in neither of the two tables, or a header that no field stands for. -/
def Node.isUnmodelled (n : Node) : Bool :=
  if n.isBlock then n.name != "location"
  else !absorbedDirectives.contains n.name &&
    ((serverDirectives.lookup n.name).isNone || n.name == "add_header" && !isFieldHeader (n.arg 0))

theorem Node.isLocation_of_isUnmodelled {n : Node} (h : n.isUnmodelled = true) : n.isLocation = false := by
  cases n with
  | directive => rfl
  | block name args line children => exact beq_eq_false_iff_ne.2 (bne_iff_ne.1 h)

/-- The unmodelled statements before the first location block. -/
def keptStatements (ns : List Node) : List Node := (ns.takeWhile (!·.isLocation)).filter Node.isUnmodelled

/-- The parts of a draft that directives do not set: what is kept, whether a location has been seen, and two fields
of the site that are settled at the end. -/
structure Remainder where
  kept : List Node
  locationSeen : Bool
  customDirectives : String
  staticCaching : Bool

namespace Draft

def remainder (d : Draft) : Remainder :=
  ⟨d.kept, d.locationSeen, d.site.customDirectives, d.site.performance.staticCaching⟩

/-! ### What one statement does -/

/-- A directive of the table sets fields, and nothing of it is kept or dropped, unless it is a header that no field
stands for. -/
theorem Sets.remainder_eq {d d' : Draft} {n : Node} {name : String} (h : Sets d n name d') :
    if name = "add_header" ∧ isFieldHeader (n.arg 0) = false then d' = d.unmodelled n
    else d'.remainder = d.remainder ∧ d'.ignored = d.ignored := by
  cases h
  case otherHeader hs h => rw [if_pos ⟨rfl, eq_false_of_ne_true fun hfield => (isFieldHeader_iff.1 hfield).elim hs h⟩]
  case strictTransport h =>
    rw [if_neg fun hother => Bool.false_ne_true (hother.2.symm.trans (isFieldHeader_iff.2 (.inl h)))]
    exact ⟨rfl, rfl⟩
  case hardening hs h =>
    rw [if_neg fun hother => Bool.false_ne_true (hother.2.symm.trans (isFieldHeader_iff.2 (.inr h)))]
    exact ⟨rfl, rfl⟩
  all_goals rw [if_neg (by simp)]
  case bodySize h => exact ⟨rfl, ignored_of_silent h rfl⟩
  case keepalive h => exact ⟨rfl, ignored_of_silent h rfl⟩
  case errorLog h => exact ⟨rfl, ignored_of_silent h rfl⟩
  all_goals exact ⟨rfl, rfl⟩

theorem remainder_directive (d : Draft) {n : Node} (hn : n.isBlock = false) : Ensures (d.directive n) fun d' =>
    if n.isUnmodelled then d' = d.unmodelled n else d'.remainder = d.remainder ∧ d'.ignored = d.ignored := by
  refine (d.sets_directive n).mono ?_
  unfold Node.isUnmodelled
  rw [hn, if_neg Bool.false_ne_true]
  rintro d' (⟨habsorbed, rfl⟩ | ⟨habsorbed, hlookup, h⟩ | ⟨habsorbed, hnone, rfl⟩)
  · rw [habsorbed]
    exact ⟨rfl, rfl⟩
  · have hremainder := h.remainder_eq
    rw [habsorbed, Option.isNone_eq_false_iff.2 hlookup]
    simpa using hremainder
  · rw [habsorbed, hnone]
    rfl

theorem remainder_location (d : Draft) (n : Node) : Ensures (d.location n) fun d' =>
    d'.remainder = { d.remainder with locationSeen := true } ∧ d'.ignored = d.ignored := by
  refine (d.changes_location n).mono ?_
  rintro _ ⟨burst, caching, locations, ws, hws, rfl⟩
  exact ⟨rfl, ignored_of_silent hws rfl⟩

theorem remainder_serverStatement (d : Draft) (n : Node) : Ensures (d.serverStatement n) fun d' =>
    if n.isUnmodelled then d' = d.unmodelled n
    else d'.remainder = { d.remainder with locationSeen := d.locationSeen || n.isLocation } ∧
      d'.ignored = d.ignored := by
  unfold serverStatement
  split
  · refine (d.remainder_location _).mono fun d' hd' => ?_
    obtain ⟨hremainder, hignored⟩ := hd'
    rw [hremainder]
    exact ⟨congrArg (Remainder.mk _ · _ _) (Bool.or_true _).symm, hignored⟩
  · next name args line children hname =>
    have hother : (Node.block name args line children).isUnmodelled = true := bne_iff_ne.2 hname
    refine .ok ?_
    rw [if_pos hother]
  · refine (d.remainder_directive rfl).mono fun d' hd' => ?_
    split_ifs at hd' ⊢
    · exact hd'
    · rw [hd'.1]
      exact ⟨congrArg (Remainder.mk _ · _ _) (Bool.or_false _).symm, hd'.2⟩

/-! ### What a server does -/

/-- What a run keeps: nothing once a location has been seen. -/
theorem remainder_run {ns : List Node} {d e : Draft} (h : ns.foldlM serverStatement d = .ok e) :
    e.kept = (if d.locationSeen then d.kept else d.kept ++ keptStatements ns) ∧
      e.site.customDirectives = d.site.customDirectives ∧
        e.site.performance.staticCaching = d.site.performance.staticCaching := by
  induction ns generalizing d with
  | nil =>
    cases h
    simp [keptStatements]
  | cons n ns ih =>
    rw [List.foldlM_cons] at h
    obtain ⟨d', hd', hrest⟩ := exists_of_bind_eq_ok h
    obtain ⟨hkept, hcustom, hcaching⟩ := ih hrest
    have hstep := d.remainder_serverStatement n d' hd'
    split_ifs at hstep with hn
    · have hlocation := Node.isLocation_of_isUnmodelled hn
      rw [hkept, hcustom, hcaching, hstep, unmodelled]
      cases hseen : d.locationSeen <;> simp [keptStatements, warn, hseen, hn, hlocation]
    · obtain ⟨hremainder, -⟩ := hstep
      have hfirst : d'.kept = d.kept := congrArg Remainder.kept hremainder
      have hseen : d'.locationSeen = (d.locationSeen || n.isLocation) := congrArg Remainder.locationSeen hremainder
      have htext : d'.site.customDirectives = d.site.customDirectives := congrArg Remainder.customDirectives hremainder
      have hstatic : d'.site.performance.staticCaching = d.site.performance.staticCaching :=
        congrArg Remainder.staticCaching hremainder
      rw [hkept, hcustom, hcaching, hfirst, hseen, htext, hstatic]
      cases d.locationSeen <;> cases hlocation : n.isLocation <;> simp [keptStatements, hn, hlocation]

end Draft

/-! ### The whole import -/

namespace Import

theorem remainder_fileDraft (other : List Node) (redirected : Bool) (candidates : Nat) :
    Ensures (fileDraft other redirected candidates) fun d => d.remainder = ⟨[], false, "", false⟩ := by
  refine (changes_fileDraft other redirected candidates).mono ?_
  rintro _ ⟨rate, ws, -, rfl⟩
  rfl

theorem customDirectives_eq {nodes : List Node} {errors : List String} {i : Import} {s : Node} {ss : List Node}
    (h : ofNodes nodes errors = .ok i) (hs : (fileScope nodes).filter Node.isServer = s :: ss) :
    i.site.customDirectives = joinLines (serialize 0 (keptStatements (chooseServer s ss).1.children)) := by
  obtain ⟨d, e, f, ⟨other, redirected, candidates, hd⟩, he, ⟨us, hf⟩, hsite, -⟩ := exists_runs h hs
  have hstart := remainder_fileDraft other redirected candidates d hd
  have hseen : d.locationSeen = false := congrArg Remainder.locationSeen hstart
  have hnone : d.kept = [] := congrArg Remainder.kept hstart
  have hblank : d.site.customDirectives = "" := congrArg Remainder.customDirectives hstart
  obtain ⟨hkept, htext, -⟩ := Draft.remainder_run he
  rw [hseen, if_neg Bool.false_ne_true, hnone, List.nil_append] at hkept
  obtain ⟨upstream, ws, -, rfl⟩ := e.changes_withUpstreams us f hf
  rw [hsite, Draft.finish_eq]
  show (if e.kept.isEmpty then e.site.customDirectives else joinLines (serialize 0 e.kept)) = _
  rw [htext, hblank, hkept]
  split_ifs with hempty
  · rw [List.isEmpty_iff.1 hempty]
    rfl
  · rfl

end Import
end SiteConf
