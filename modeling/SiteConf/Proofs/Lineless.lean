import SiteConf.Proofs.Settled
import SiteConf.Proofs.Spelling

/-!
# Line numbers matter for warnings only

An import of nodes without lines gives the same site and the same warnings, without lines
(`ofNodes_withoutLines`). So the import of a text that is known up to lines is known, too.
-/

namespace SiteConf
open Text

/-- The warning with line number zero. -/
def Warning.withoutLine : Warning → Warning
  | rate _ r => rate 0 r
  | bodySize value _ => bodySize value 0
  | keepaliveTimeout value _ => keepaliveTimeout value 0
  | locationWithoutPath _ => locationWithoutPath 0
  | strongModifier _ => strongModifier 0
  | upstreamWithoutName _ => upstreamWithoutName 0
  | w => w

def Draft.withoutLines (d : Draft) : Draft :=
  { d with warnings := d.warnings.map Warning.withoutLine, kept := SiteConf.withoutLines d.kept }

theorem exists_of_bind_eq_ok {ε α β : Type} {x : Except ε α} {f : α → Except ε β} {b : β}
    (h : (x >>= f) = .ok b) : ∃ a, x = .ok a ∧ f a = .ok b := by
  cases x with
  | error e => cases h
  | ok a => exact ⟨a, rfl, h⟩

/-- A function of a draft and a node in which lines count for warnings only. -/
def Lineless (f : Draft → Node → Except NumberFault Draft) : Prop :=
  ∀ d n, f d.withoutLines n.withoutLines = (f d n).map Draft.withoutLines

theorem foldlM_withoutLines {f : Draft → Node → Except NumberFault Draft} (hf : Lineless f)
    (ns : List Node) (d : Draft) :
    (withoutLines ns).foldlM f d.withoutLines = (ns.foldlM f d).map Draft.withoutLines := by
  induction ns generalizing d with
  | nil => rfl
  | cons n ns ih =>
    rw [withoutLines, List.foldlM_cons, List.foldlM_cons, hf]
    cases f d n with
    | error e => rfl
    | ok d' => exact ih d'

/-! ### Nodes -/

namespace Node

@[simp] theorem name_withoutLines (n : Node) : n.withoutLines.name = n.name := by
  cases n <;> simp [Node.withoutLines, Node.name]

@[simp] theorem args_withoutLines (n : Node) : n.withoutLines.args = n.args := by
  cases n <;> simp [Node.withoutLines, Node.args]

@[simp] theorem arg_withoutLines (n : Node) (i : Nat) : n.withoutLines.arg i = n.arg i := by
  rw [Node.arg, args_withoutLines, Node.arg]

@[simp] theorem isBlock_withoutLines (n : Node) : n.withoutLines.isBlock = n.isBlock := by
  cases n <;> simp [Node.withoutLines, Node.isBlock]

@[simp] theorem line_withoutLines (n : Node) : n.withoutLines.line = 0 := by
  cases n <;> simp [Node.withoutLines, Node.line]

@[simp] theorem children_withoutLines (n : Node) :
    n.withoutLines.children = SiteConf.withoutLines n.children := by
  cases n <;> simp [Node.withoutLines, Node.children, SiteConf.withoutLines]

end Node

theorem filter_withoutLines {p : Node → Bool} (hp : ∀ n, p n.withoutLines = p n) (ns : List Node) :
    (withoutLines ns).filter p = withoutLines (ns.filter p) := by
  rw [withoutLines_eq_map, withoutLines_eq_map, List.filter_map]
  congr 1
  exact List.filter_congr fun n _ => hp n

theorem any_withoutLines {p : Node → Bool} (hp : ∀ n, p n.withoutLines = p n) (ns : List Node) :
    (withoutLines ns).any p = ns.any p := by
  rw [withoutLines_eq_map, List.any_map]
  congr 1
  exact funext hp

theorem map_name_withoutLines (ns : List Node) : (withoutLines ns).map Node.name = ns.map Node.name := by
  rw [withoutLines_eq_map, List.map_map]
  congr 1
  exact funext Node.name_withoutLines

theorem Draft.withoutLines_warn (d : Draft) (w : Warning) :
    (d.warn w).withoutLines = d.withoutLines.warn w.withoutLine := by
  simp [Draft.warn, Draft.withoutLines]

theorem Draft.withoutLines_unmodelled (d : Draft) (n : Node) :
    d.withoutLines.unmodelled n.withoutLines = (d.unmodelled n).withoutLines := by
  unfold Draft.unmodelled
  split
  · next h =>
    rw [if_pos (show d.locationSeen = true from h), withoutLines_warn]
    simp [Warning.withoutLine]
  · next h =>
    rw [if_neg (show ¬d.locationSeen = true from h)]
    simp [Draft.withoutLines, SiteConf.withoutLines_append, SiteConf.withoutLines]

/-! ### Server level -/

namespace Draft

theorem lineless_plain {f : Draft → Node → Draft}
    (hf : ∀ d n, f d.withoutLines n.withoutLines = (f d n).withoutLines) : Lineless (plain f) := by
  intro d n
  rw [plain, hf]
  rfl

theorem lineless_listen : Lineless listen := by
  intro d n
  simp only [listen, Node.arg_withoutLines, Node.args_withoutLines]
  cases portOf (n.arg 0) <;> rfl

theorem lineless_addHeader : Lineless (plain addHeader) := by
  refine lineless_plain fun d n => ?_
  unfold addHeader
  rw [Node.arg_withoutLines, withoutLines_unmodelled]
  dsimp only
  split_ifs <;> rfl

theorem lineless_sslCiphers : Lineless (plain sslCiphers) := by
  refine lineless_plain fun d n => ?_
  unfold sslCiphers
  rw [Node.arg_withoutLines]
  dsimp only
  split <;> rfl

theorem lineless_authBasic : Lineless (plain authBasic) := by
  refine lineless_plain fun d n => ?_
  unfold authBasic
  rw [Node.arg_withoutLines]
  split_ifs <;> rfl

theorem lineless_accessLog : Lineless (plain accessLog) := by
  refine lineless_plain fun d n => ?_
  unfold accessLog
  rw [Node.arg_withoutLines]
  split_ifs <;> rfl

theorem lineless_errorLog : Lineless (plain errorLog) := by
  refine lineless_plain fun d n => ?_
  unfold errorLog
  rw [Node.arg_withoutLines, Node.arg_withoutLines]
  dsimp only
  split_ifs
  · rfl
  · split
    · rfl
    · simp [Draft.withoutLines, Draft.warn, Warning.withoutLine]

theorem lineless_clientMaxBodySize : Lineless clientMaxBodySize := by
  intro d n
  unfold clientMaxBodySize
  rw [Node.arg_withoutLines, Node.line_withoutLines]
  split
  · rw [show Warning.bodySize (n.arg 0) 0 = (Warning.bodySize (n.arg 0) n.line).withoutLine from rfl,
      ← withoutLines_warn]
    rfl
  · next ds suffix _ =>
    cases readNumber ds with
    | error e => rfl
    | ok size =>
      simp only [bind, Except.bind]
      cases suffix with
      | kilo =>
        dsimp only
        cases megabytes size with
        | error e => rfl
        | ok size => simp [Except.map, pure, Except.pure, Draft.withoutLines, Draft.warn, Warning.withoutLine]
      | none => rfl
      | mega => rfl
      | giga => rfl

theorem lineless_keepaliveTimeout : Lineless keepaliveTimeout := by
  intro d n
  unfold keepaliveTimeout
  rw [Node.arg_withoutLines, Node.line_withoutLines]
  cases readSeconds (n.arg 0) with
  | error e => rfl
  | ok s =>
    cases s with
    | none =>
      show Except.ok (d.withoutLines.warn (Warning.keepaliveTimeout (n.arg 0) n.line).withoutLine) = _
      rw [← withoutLines_warn]
      rfl
    | some s => rfl

theorem lineless_set {f : Draft → Node → Draft}
    (hd : ∀ d name args line, f d.withoutLines (.directive name args 0) =
      (f d (.directive name args line)).withoutLines)
    (hb : ∀ d name args line children, f d.withoutLines (.block name args 0 (SiteConf.withoutLines children)) =
      (f d (.block name args line children)).withoutLines) : Lineless (plain f) := by
  refine lineless_plain fun d n => ?_
  cases n with
  | directive name args line => exact hd d name args line
  | block name args line children => exact hb d name args line children

theorem lineless_serverDirectives : ∀ e ∈ serverDirectives, Lineless e.2 := by
  simp only [serverDirectives, List.forall_mem_cons]
  refine ⟨lineless_listen, ?_, ?_, ?_, ?_, ?_, ?_, lineless_sslCiphers, ?_, ?_, ?_, lineless_addHeader, ?_, ?_,
    lineless_authBasic, ?_, ?_, ?_, ?_, ?_, ?_, lineless_clientMaxBodySize, lineless_keepaliveTimeout,
    lineless_accessLog, lineless_errorLog, by simp⟩
  all_goals exact lineless_set (fun _ _ _ _ => rfl) fun _ _ _ _ _ => rfl

theorem mem_of_lookup_eq_some {name : String} {f : Effect} (h : serverDirectives.lookup name = some f) :
    (name, f) ∈ serverDirectives := by
  obtain ⟨l₁, l₂, hl, -⟩ := List.lookup_eq_some_iff.1 h
  rw [hl]
  simp

theorem lineless_directive : Lineless directive := by
  intro d n
  unfold directive
  rw [Node.name_withoutLines]
  split_ifs
  · rfl
  · split
    · next f hf => exact lineless_serverDirectives _ (mem_of_lookup_eq_some hf) d n
    · rw [withoutLines_unmodelled]
      rfl

end Draft

/-! ### Locations -/

theorem Node.locationTarget_withoutLines (n : Node) : n.withoutLines.locationTarget = n.locationTarget := by
  unfold Node.locationTarget
  rw [Node.arg_withoutLines, Node.arg_withoutLines]

theorem splitLimit_withoutLines (r : Bool) (ns : List Node) :
    splitLimit r (withoutLines ns) = (withoutLines (splitLimit r ns).1, (splitLimit r ns).2) := by
  cases ns with
  | nil => rfl
  | cons n ns =>
    cases n with
    | block name args line children => rfl
    | directive name args line =>
      rw [withoutLines, Node.withoutLines]
      by_cases hn : name = "limit_req"
      · subst hn
        cases r with
        | false => rfl
        | true =>
          simp only [splitLimit, if_true]
          cases limitBurst? args <;> rfl
      · unfold splitLimit
        simp [hn, withoutLines, Node.withoutLines]

theorem cachingStanza?_withoutLines (path : String) (ns : List Node) :
    cachingStanza? path (withoutLines ns) = cachingStanza? path ns := by
  unfold cachingStanza?
  cases AssetClass.ofPattern? path with
  | none => rfl
  | some a =>
    rcases ns with _ | ⟨n, _ | ⟨m, _ | ⟨k, ns⟩⟩⟩
    · rfl
    · cases n <;> simp [withoutLines, Node.withoutLines]
    · cases n with
      | block => simp [withoutLines, Node.withoutLines]
      | directive name args line =>
        cases m with
        | block => simp [withoutLines, Node.withoutLines]
        | directive name' args' line' =>
          by_cases h : name = "expires" ∧ name' = "add_header"
          · obtain ⟨rfl, rfl⟩ := h
            rfl
          · rw [not_and] at h
            simp only [withoutLines, Node.withoutLines]
            split
            · next h1 _ => simp_all
            · next h1 => split <;> simp_all
    · cases n <;> cases m <;> simp [withoutLines, Node.withoutLines]

namespace Location

theorem redirect?_withoutLines (path : String) (m : MatchType) (ns : List Node) :
    redirect? path m (SiteConf.withoutLines ns) = redirect? path m ns := by
  unfold redirect?
  rcases ns with _ | ⟨n, _ | ⟨k, ns⟩⟩
  · rfl
  · cases n with
    | block => simp [SiteConf.withoutLines, Node.withoutLines]
    | directive name args line =>
      by_cases h : name = "return"
      · subst h
        rfl
      · simp only [SiteConf.withoutLines, Node.withoutLines]
        split
        · next h1 => simp_all
        · next h1 => split <;> simp_all
  · cases n <;> simp [SiteConf.withoutLines, Node.withoutLines]

theorem addProxyDirective_withoutLines (l : Location) (n : Node) :
    l.addProxyDirective n.withoutLines = l.addProxyDirective n := by
  unfold addProxyDirective
  rw [Node.name_withoutLines, Node.args_withoutLines, Node.arg_withoutLines]

theorem addProxyDirectives_withoutLines (l : Location) (ns : List Node) :
    l.addProxyDirectives (SiteConf.withoutLines ns) = l.addProxyDirectives ns := by
  induction ns generalizing l with
  | nil => rfl
  | cons n ns ih =>
    rw [SiteConf.withoutLines, addProxyDirectives, addProxyDirectives, addProxyDirective_withoutLines]
    congr 1
    funext o
    cases o with
    | none => rfl
    | some l => exact ih l

theorem proxy?_withoutLines (path : String) (m : MatchType) (ns : List Node) :
    proxy? path m (SiteConf.withoutLines ns) = proxy? path m ns := by
  unfold proxy?
  rw [map_name_withoutLines, any_withoutLines (by simp), addProxyDirectives_withoutLines]

theorem addFileDirective_withoutLines (l : Location) (n : Node) :
    l.addFileDirective n.withoutLines = l.addFileDirective n := by
  unfold addFileDirective
  rw [Node.name_withoutLines, Node.args_withoutLines, Node.isBlock_withoutLines]

theorem files?_withoutLines (path : String) (m : MatchType) (ns : List Node) :
    files? path m (SiteConf.withoutLines ns) = files? path m ns := by
  unfold files?
  rw [map_name_withoutLines, withoutLines_eq_map, List.foldlM_map]
  simp only [addFileDirective_withoutLines]

theorem typed?_withoutLines (path : String) (m : MatchType) (ns : List Node) :
    typed? path m (SiteConf.withoutLines ns) = typed? path m ns := by
  unfold typed?
  rw [redirect?_withoutLines, proxy?_withoutLines, files?_withoutLines]

theorem reproduces_withoutLines (l : Location) (ns : List Node) :
    l.reproduces (SiteConf.withoutLines ns) = l.reproduces ns := by
  unfold reproduces
  rw [serialize_withoutLines]

theorem asText_withoutLines (path : String) (m : MatchType) (ns : List Node) :
    asText path m (SiteConf.withoutLines ns) = asText path m ns := by
  unfold asText
  rw [serialize_withoutLines]

theorem ofChildren_withoutLines (path : String) (m : MatchType) (ns : List Node) :
    ofChildren path m (SiteConf.withoutLines ns) = ofChildren path m ns := by
  unfold ofChildren
  rw [typed?_withoutLines, asText_withoutLines]
  simp only [reproduces_withoutLines]

end Location

/-- The draft with the burst of a rate limit. -/
def Draft.setBurst (d : Draft) : Option (List Char) → Except NumberFault Draft
  | none => .ok d
  | some ds => (readNumber ds).map fun b => { d with site.security.rateBurst := b }

/-- The draft with the location that a block without rate limit stands for. -/
def Draft.place (d : Draft) (matchType : MatchType) (path : String) (children : List Node) :
    Except NumberFault Draft :=
  match (if matchType = .regexIgnoreCase then cachingStanza? path children else none).filter
      fun s => (d.caching.lookup s.1).isNone with
  | some s => .ok { d with caching := d.caching ++ [s] }
  | none => (Location.ofChildren path matchType children).map fun l =>
      { d with site.locations := d.site.locations ++ [l] }

theorem Draft.place_eq (d : Draft) (m : MatchType) (path : String) (ns : List Node) :
    d.place m path ns = (do
      match (if m = .regexIgnoreCase then cachingStanza? path ns else none).filter
          fun s => (d.caching.lookup s.1).isNone with
      | some s => pure { d with caching := d.caching ++ [s] }
      | none =>
        let l ← Location.ofChildren path m ns
        pure { d with site.locations := d.site.locations ++ [l] }) := by
  unfold place
  split
  · rfl
  · cases Location.ofChildren path m ns <;> rfl

/-- A location block is placed after its modifier and its rate limit are dealt with. -/
theorem Draft.location_eq (d : Draft) (n : Node) :
    d.location n =
      let t := n.locationTarget
      let d := { d with locationSeen := true }
      let d := if t.2.2 then d.warn (.strongModifier n.line) else d
      let split := splitLimit d.site.security.rateLimiting n.children
      if t.2.1.isEmpty then .ok (d.warn (.locationWithoutPath n.line))
      else (d.setBurst split.2).bind fun d => d.place t.1 t.2.1 split.1 := by
  simp only [place_eq]
  unfold Draft.location
  dsimp only
  split
  · rfl
  · cases (splitLimit _ n.children).2 with
    | none => rfl
    | some ds =>
      dsimp only
      rw [setBurst]
      cases readNumber ds <;> rfl

theorem Draft.setBurst_withoutLines (d : Draft) (burst : Option (List Char)) :
    d.withoutLines.setBurst burst = (d.setBurst burst).map Draft.withoutLines := by
  cases burst with
  | none => rfl
  | some ds =>
    rw [setBurst, setBurst]
    cases readNumber ds <;> rfl

theorem Draft.place_withoutLines (d : Draft) (m : MatchType) (path : String) (ns : List Node) :
    d.withoutLines.place m path (SiteConf.withoutLines ns) = (d.place m path ns).map Draft.withoutLines := by
  unfold place
  rw [cachingStanza?_withoutLines, Location.ofChildren_withoutLines]
  show (match (if m = .regexIgnoreCase then cachingStanza? path ns else none).filter
      fun s => (d.caching.lookup s.1).isNone with
    | some s => _
    | none => _) = _
  split
  · rfl
  · cases Location.ofChildren path m ns <;> rfl

theorem Draft.lineless_location : Lineless Draft.location := by
  intro d n
  rw [location_eq, location_eq, Node.locationTarget_withoutLines, Node.line_withoutLines,
    Node.children_withoutLines]
  obtain ⟨m, path, strong⟩ := n.locationTarget
  dsimp only
  -- a warning about the modifier loses its line
  have hwarn : (if strong = true then
        ({ d.withoutLines with locationSeen := true } : Draft).warn (.strongModifier 0)
      else { d.withoutLines with locationSeen := true }) =
      (if strong = true then ({ d with locationSeen := true } : Draft).warn (.strongModifier n.line)
        else { d with locationSeen := true }).withoutLines := by
    split_ifs
    · rw [withoutLines_warn]; rfl
    · rfl
  rw [hwarn]
  generalize (if strong = true then ({ d with locationSeen := true } : Draft).warn (.strongModifier n.line)
    else { d with locationSeen := true }) = d'
  split_ifs
  · show _ = Except.ok (d'.warn (.locationWithoutPath n.line)).withoutLines
    rw [withoutLines_warn]
    rfl
  · rw [splitLimit_withoutLines, setBurst_withoutLines]
    show ((d'.setBurst (splitLimit d'.site.security.rateLimiting n.children).2).map Draft.withoutLines).bind
      (fun d => d.place m path
        (SiteConf.withoutLines (splitLimit d'.site.security.rateLimiting n.children).1)) = _
    cases d'.setBurst (splitLimit d'.site.security.rateLimiting n.children).2 with
    | error e => rfl
    | ok d => exact place_withoutLines d m path _

/-! ### File level -/

theorem Upstream.add_withoutLines (u : Upstream) (n : Node) : u.add n.withoutLines = u.add n := by
  cases n with
  | block => rfl
  | directive => rfl

theorem Upstream.addAll_withoutLines (u : Upstream) (ns : List Node) :
    u.addAll (withoutLines ns) = u.addAll ns := by
  induction ns generalizing u with
  | nil => rfl
  | cons n ns ih =>
    rw [withoutLines, addAll, addAll, add_withoutLines]
    simp only [ih]

theorem PoolMember.addParameter_warnings {m m' : PoolMember} {p : String} {ws : List Warning}
    (h : m.addParameter p = .ok (m', ws)) : ws.map Warning.withoutLine = ws := by
  unfold PoolMember.addParameter at h
  dsimp only at h
  split at h
  · obtain ⟨n, hn, h⟩ := exists_of_bind_eq_ok h
    cases h
    rfl
  · obtain ⟨n, hn, h⟩ := exists_of_bind_eq_ok h
    cases h
    rfl
  · obtain ⟨n, hn, h⟩ := exists_of_bind_eq_ok h
    cases h
    rfl
  · cases h
    rfl

theorem PoolMember.addParameters_warnings {m m' : PoolMember} {ps : List String} {ws : List Warning}
    (h : m.addParameters ps = .ok (m', ws)) : ws.map Warning.withoutLine = ws := by
  induction ps generalizing m ws with
  | nil => cases h; rfl
  | cons p ps ih =>
    obtain ⟨⟨m₁, w⟩, hp, h⟩ := exists_of_bind_eq_ok h
    obtain ⟨⟨m₂, ws'⟩, hps, h⟩ := exists_of_bind_eq_ok h
    cases h
    rw [List.map_append, addParameter_warnings hp, ih hps]

theorem Upstream.add_warnings {u v : Upstream} {n : Node} {ws : List Warning} (h : u.add n = .ok (v, ws)) :
    ws.map Warning.withoutLine = ws := by
  unfold Upstream.add at h
  split at h
  · cases h
    rfl
  · split at h
    · obtain ⟨⟨m, ws'⟩, hm, h⟩ := exists_of_bind_eq_ok h
      cases h
      exact PoolMember.addParameters_warnings hm
    · split at h <;> cases h <;> rfl

theorem Upstream.addAll_warnings {u v : Upstream} {ns : List Node} {ws : List Warning}
    (h : u.addAll ns = .ok (v, ws)) : ws.map Warning.withoutLine = ws := by
  induction ns generalizing u ws with
  | nil => cases h; rfl
  | cons n ns ih =>
    obtain ⟨⟨u₁, w⟩, hn, h⟩ := exists_of_bind_eq_ok h
    obtain ⟨⟨u₂, ws'⟩, hns, h⟩ := exists_of_bind_eq_ok h
    cases h
    rw [List.map_append, add_warnings hn, ih hns]

theorem Draft.lineless_upstream : Lineless Draft.upstream := by
  intro d n
  unfold Draft.upstream
  simp only [Node.arg_withoutLines, Node.line_withoutLines, Node.children_withoutLines,
    Upstream.addAll_withoutLines]
  split_ifs
  · show _ = Except.ok (d.warn (.upstreamWithoutName n.line)).withoutLines
    rw [withoutLines_warn]
    rfl
  · cases h : ({ enabled := true, name := n.arg 0 } : Upstream).addAll n.children with
    | error e => rfl
    | ok r =>
      show Except.ok _ = Except.ok _
      simp [Draft.withoutLines, Upstream.addAll_warnings h]

theorem Draft.lineless_serverStatement : Lineless Draft.serverStatement := by
  intro d n
  cases n with
  | directive name args line => exact lineless_directive d (.directive name args line)
  | block name args line children =>
    by_cases h : name = "location"
    · subst h
      exact lineless_location d (.block "location" args line children)
    · have h1 : ∀ d l c, Draft.serverStatement d (.block name args l c) =
          .ok (d.unmodelled (.block name args l c)) := by
        intro d l c
        unfold Draft.serverStatement
        split <;> simp_all
      rw [Node.withoutLines, h1, h1]
      show Except.ok (d.withoutLines.unmodelled (Node.block name args line children).withoutLines) = _
      rw [withoutLines_unmodelled]
      rfl

theorem Draft.lineless_limitReqZone : Lineless Draft.limitReqZone := by
  intro d n
  unfold limitReqZone
  rw [Node.args_withoutLines, Node.line_withoutLines]
  dsimp only
  split
  · next ds _ => cases readNumber ds <;> rfl
  · show _ = Except.ok (Draft.withoutLines (({ d with site.security.rateLimiting := true } : Draft).warn _))
    rw [withoutLines_warn]
    rfl

theorem Draft.lineless_fileStatement : Lineless Draft.fileStatement := by
  intro d n
  unfold fileStatement
  rw [Node.isBlock_withoutLines, Node.name_withoutLines]
  split_ifs
  · exact lineless_limitReqZone d n
  · show _ = Except.ok (d.warn (.ignoredTopLevel n.isBlock n.name)).withoutLines
    rw [withoutLines_warn]
    rfl

mutual
theorem Node.fileScope_withoutLines : ∀ n : Node, n.withoutLines.fileScope = withoutLines n.fileScope
  | .directive _ _ _ => by
    rw [Node.withoutLines, Node.fileScope, Node.fileScope, withoutLines, Node.withoutLines, withoutLines]
  | .block name args line children => by
    rw [Node.withoutLines, Node.fileScope, Node.fileScope, fileScope_withoutLines children]
    split_ifs
    · rfl
    · rw [withoutLines, Node.withoutLines, withoutLines]

theorem fileScope_withoutLines : ∀ ns : List Node, fileScope (withoutLines ns) = withoutLines (fileScope ns)
  | [] => rfl
  | n :: ns => by
    rw [withoutLines, fileScope, fileScope, n.fileScope_withoutLines, fileScope_withoutLines ns,
      withoutLines_append]
end

theorem Node.isHttpsRedirect_withoutLines (n : Node) : n.withoutLines.isHttpsRedirect = n.isHttpsRedirect := by
  unfold Node.isHttpsRedirect
  rw [Node.children_withoutLines]
  dsimp only
  rw [any_withoutLines (by simp), any_withoutLines (by simp), filter_withoutLines (by simp)]
  generalize List.filter _ n.children = returns
  rcases returns with _ | ⟨r, _ | ⟨r', rs⟩⟩
  · rfl
  · rw [withoutLines_eq_map, List.map_singleton]
    dsimp only
    rw [Node.args_withoutLines]
  · rfl

theorem Draft.finish_withoutLines (d : Draft) : d.withoutLines.finish = d.finish.withoutLines := by
  have hempty : d.withoutLines.kept.isEmpty = d.kept.isEmpty := by
    show (SiteConf.withoutLines d.kept).isEmpty = _
    rw [withoutLines_eq_map, List.isEmpty_map]
  have htext : serialize 0 d.withoutLines.kept = serialize 0 d.kept := serialize_withoutLines 0 d.kept
  rw [finish_eq, finish_eq, hempty, htext]
  rfl

/-! ### The whole import -/

namespace Import

theorem chooseServer_withoutLines (s : Node) (ss : List Node) :
    chooseServer s.withoutLines (withoutLines ss) =
      ((chooseServer s ss).1.withoutLines, (chooseServer s ss).2) := by
  unfold chooseServer
  have hfilter : (s.withoutLines :: withoutLines ss).filter (!·.isHttpsRedirect) =
      withoutLines ((s :: ss).filter (!·.isHttpsRedirect)) :=
    filter_withoutLines (fun n => by rw [Node.isHttpsRedirect_withoutLines]) (s :: ss)
  rw [hfilter]
  cases (s :: ss).filter (!·.isHttpsRedirect) with
  | nil => simp [withoutLines_eq_map]
  | cons c cs => simp [withoutLines_eq_map, withoutLines]

theorem fileDraft_withoutLines (other : List Node) (redirected : Bool) (candidates : Nat) :
    fileDraft (withoutLines other) redirected candidates =
      (fileDraft other redirected candidates).map Draft.withoutLines := by
  unfold fileDraft
  have hfold := foldlM_withoutLines Draft.lineless_fileStatement other {}
  rw [show ({} : Draft).withoutLines = {} from rfl] at hfold
  rw [hfold]
  cases other.foldlM Draft.fileStatement {} with
  | error e => rfl
  | ok d =>
    show Except.ok _ = Except.ok _
    congr 1
    dsimp only
    split_ifs
    all_goals first | rfl | (rw [Draft.withoutLines_warn]; rfl)

theorem withUpstreams_withoutLines (d : Draft) (us : List Node) :
    withUpstreams d.withoutLines (withoutLines us) = (withUpstreams d us).map Draft.withoutLines := by
  cases us with
  | nil => rfl
  | cons u us =>
    rw [withoutLines, withUpstreams, withUpstreams]
    have hempty : (withoutLines us).isEmpty = us.isEmpty := by rw [withoutLines_eq_map, List.isEmpty_map]
    have hlen : (withoutLines us).length = us.length := by rw [withoutLines_eq_map, List.length_map]
    rw [hempty, hlen, ← Draft.lineless_upstream]
    congr 1
    split_ifs
    · rfl
    · rw [Draft.withoutLines_warn]
      rfl

/-- An import of nodes without lines gives the same site, and the same warnings without lines. -/
theorem ofNodes_withoutLines (nodes : List Node) (errors : List String) :
    ofNodes (withoutLines nodes) errors =
      (ofNodes nodes errors).map fun i => { i with warnings := i.warnings.map Warning.withoutLine } := by
  unfold ofNodes
  dsimp only
  rw [fileScope_withoutLines, filter_withoutLines (by simp [Node.isServer]),
    filter_withoutLines (by simp [Node.isServer, Node.isUpstream]), filter_withoutLines (by simp [Node.isUpstream])]
  cases (fileScope nodes).filter Node.isServer with
  | nil => rfl
  | cons s ss =>
    rw [withoutLines]
    dsimp only
    rw [chooseServer_withoutLines]
    obtain ⟨server, redirected, candidates⟩ := chooseServer s ss
    dsimp only
    rw [fileDraft_withoutLines, Node.children_withoutLines]
    cases fileDraft _ redirected candidates with
    | error e => rfl
    | ok d =>
      simp only [Except.map, bind, Except.bind]
      rw [foldlM_withoutLines Draft.lineless_serverStatement]
      cases server.children.foldlM Draft.serverStatement d with
      | error e => rfl
      | ok d =>
        simp only [Except.map]
        rw [withUpstreams_withoutLines]
        cases withUpstreams d _ with
        | error e => rfl
        | ok d =>
          simp only [Except.map, Draft.finish_withoutLines]
          rfl

end Import

end SiteConf
