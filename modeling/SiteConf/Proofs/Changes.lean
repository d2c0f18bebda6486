import SiteConf.Proofs.Bounds
import SiteConf.Proofs.Lineless

/-!
# What the steps of an import can change

Each step of an import as the parts of a draft that it sets, with all others as they were. A directive of a server
does what its name says (`Draft.Sets`, `Draft.sets_directive`). What a step keeps, or how it changes one part of a
draft, is read off these statements. A part that one directive sets is at the end as the last of them says
(`Draft.IsSetting.run`).

Steps add to the warnings and take none away. `Silent` warnings are those about other things than a statement of the
server that is dropped.
-/

namespace SiteConf
open Text

/-- A statement of the server was dropped. -/
def Warning.isIgnored : Warning → Bool
  | .ignored _ _ => true
  | _ => false

/-- None of the warnings is about a statement of the server that is dropped. -/
def Silent (ws : List Warning) : Prop := ∀ w ∈ ws, w.isIgnored = false

namespace Silent
variable {ws ws' : List Warning}

theorem nil : Silent [] := by simp [Silent]

theorem single {w : Warning} (h : w.isIgnored = false) : Silent [w] := by simpa [Silent] using h

theorem append (h : Silent ws) (h' : Silent ws') : Silent (ws ++ ws') := List.forall_mem_append.2 ⟨h, h'⟩

theorem filter_eq_nil (h : Silent ws) : ws.filter Warning.isIgnored = [] :=
  List.filter_eq_nil_iff.2 fun w hw => by simp [h w hw]

end Silent

namespace Draft

/-- The warnings about statements of the server that were dropped. -/
def ignored (d : Draft) : List Warning := d.warnings.filter Warning.isIgnored

theorem ignored_of_silent {d d' : Draft} {ws : List Warning} (h : Silent ws) (hw : d'.warnings = d.warnings ++ ws) :
    d'.ignored = d.ignored := by
  rw [ignored, hw, List.filter_append, h.filter_eq_nil, List.append_nil, ignored]

theorem site_unmodelled (d : Draft) (n : Node) : (d.unmodelled n).site = d.site := by
  unfold unmodelled
  split_ifs <;> rfl

theorem preferServerCiphers_unmodelled (d : Draft) (n : Node) :
    (d.unmodelled n).preferServerCiphers = d.preferServerCiphers := by
  unfold unmodelled
  split_ifs <;> rfl

/-! ### Directives of a server -/

/-- What a directive of the name does to a draft. Of a number that is read, and of warnings, only the kind is said. -/
inductive Sets (d : Draft) (n : Node) : String → Draft → Prop
  | listen (port : Int) (h : port = d.site.listenPort ∨ 1 ≤ port ∧ FewDigits port) : Sets d n "listen" { d with
      site.listenPort := port
      site.listenIpv6 := d.site.listenIpv6 || startsWith (n.arg 0) "["
      ipv4Seen := d.ipv4Seen || !startsWith (n.arg 0) "["
      site.ssl.enabled := d.site.ssl.enabled || (n.args.drop 1).contains "ssl"
      site.performance.http2 := d.site.performance.http2 || (n.args.drop 1).contains "http2" }
  | serverName : Sets d n "server_name" { d with site.serverNames := d.site.serverNames ++ n.args }
  | root : Sets d n "root" { d with site.rootPath := n.arg 0, rootSeen := true }
  | index : Sets d n "index" { d with site.indexFiles := n.args, rootSeen := true }
  | certificate : Sets d n "ssl_certificate" { d with
      site.ssl.certificatePath := n.arg 0, site.ssl.enabled := true }
  | certificateKey : Sets d n "ssl_certificate_key" { d with site.ssl.keyPath := n.arg 0 }
  | protocols : Sets d n "ssl_protocols" { d with site.ssl.protocols := n.args }
  | ciphers : Sets d n "ssl_ciphers" { d with
      site.ssl.preset := .nearest (n.arg 0)
      site.ssl.ciphers := if (CipherProfile.ofCiphers? (n.arg 0)).isSome then "" else n.arg 0 }
  | preferServerCiphers : Sets d n "ssl_prefer_server_ciphers" { d with
      preferServerCiphers := some (n.arg 0 == "on") }
  | stapling : Sets d n "ssl_stapling" { d with site.ssl.enableOcsp := n.arg 0 == "on" }
  | serverTokens : Sets d n "server_tokens" { d with site.security.hideVersion := n.arg 0 == "off" }
  | strictTransport (h : String.ofList (lower (n.arg 0)) = "strict-transport-security") :
    Sets d n "add_header" { d with site.ssl.enableHsts := true }
  | hardening (hs : String.ofList (lower (n.arg 0)) ≠ "strict-transport-security")
    (h : (hardeningHeaders.map fun h => String.ofList (lower h.1)).contains (String.ofList (lower (n.arg 0))) = true) :
    Sets d n "add_header" { d with site.security.securityHeaders := true }
  | otherHeader (hs : String.ofList (lower (n.arg 0)) ≠ "strict-transport-security")
    (h : (hardeningHeaders.map fun h => String.ofList (lower h.1)).contains (String.ofList (lower (n.arg 0))) ≠ true) :
    Sets d n "add_header" (d.unmodelled n)
  | allow : Sets d n "allow" { d with site.security.ipAllowlist := d.site.security.ipAllowlist ++ [n.arg 0] }
  | deny : Sets d n "deny" { d with site.security.ipDenylist := d.site.security.ipDenylist ++ [n.arg 0] }
  | authOff (h : n.arg 0 = "off") : Sets d n "auth_basic" { d with site.security.basicAuth := false }
  | auth (h : n.arg 0 ≠ "off") : Sets d n "auth_basic" { d with
      site.security.basicAuth := true, site.security.basicAuthRealm := n.arg 0 }
  | authFile : Sets d n "auth_basic_user_file" { d with site.security.basicAuthFile := n.arg 0 }
  | gzip : Sets d n "gzip" { d with site.performance.gzip := n.arg 0 == "on" }
  | gzipTypes : Sets d n "gzip_types" { d with site.performance.gzipTypes := n.args }
  | brotli : Sets d n "brotli" { d with site.performance.brotli := n.arg 0 == "on" }
  | brotliTypes : Sets d n "brotli_types" { d with brotliTypes := some n.args }
  | http2 : Sets d n "http2" { d with site.performance.http2 := n.arg 0 == "on" }
  | bodySize (size : Int) (unit : SizeUnit) {ws : List Warning}
    (hsize : size = d.site.performance.clientMaxBodySize ∨ 0 ≤ size ∧ FewDigits size) (h : Silent ws) :
    Sets d n "client_max_body_size" { d with
      site.performance.clientMaxBodySize := size
      site.performance.clientMaxBodyUnit := unit
      warnings := d.warnings ++ ws }
  | keepalive (timeout : Int) {ws : List Warning}
    (ht : timeout = d.site.performance.keepaliveTimeout ∨ FewDigits timeout) (h : Silent ws) :
    Sets d n "keepalive_timeout" { d with
      site.performance.keepaliveTimeout := timeout, warnings := d.warnings ++ ws }
  | accessLogOff (h : n.arg 0 = "off") : Sets d n "access_log" { d with site.logging.accessLog := false }
  | accessLog (h : n.arg 0 ≠ "off") : Sets d n "access_log" { d with
      site.logging.accessLog := true, site.logging.accessLogPath := n.arg 0 }
  | errorLog (level : LogLevel) {ws : List Warning} (h : Silent ws) : Sets d n "error_log" { d with
      site.logging.errorLog := true
      site.logging.errorLogPath := n.arg 0
      site.logging.errorLogLevel := level
      warnings := d.warnings ++ ws }

theorem ensures_portOf (address : String) : Ensures (portOf address) fun o => ∀ p ∈ o, FewDigits (p : Int) := by
  unfold portOf
  dsimp only
  split_ifs
  · refine (ensures_readNumber _).map fun n hn m hm => ?_
    rw [← Option.some.inj hm]
    exact hn
  · exact .ok (by simp)

theorem sets_listen (d : Draft) (n : Node) : Ensures (listen d n) (Sets d n "listen") := by
  refine (ensures_portOf _).bind fun o ho => .ok (.listen _ ?_)
  cases o with
  | none => exact .inl rfl
  | some p =>
    dsimp only
    split_ifs with hp
    · simp only [Bool.and_eq_true, decide_eq_true_eq] at hp
      exact .inr ⟨by omega, ho p rfl⟩
    · exact .inl rfl

theorem sslCiphers_eq (d : Draft) (n : Node) : d.sslCiphers n = { d with
    site.ssl.preset := .nearest (n.arg 0)
    site.ssl.ciphers := if (CipherProfile.ofCiphers? (n.arg 0)).isSome then "" else n.arg 0 } := by
  unfold sslCiphers CipherProfile.nearest
  dsimp only
  cases CipherProfile.ofCiphers? (n.arg 0) <;> rfl

theorem sets_ciphers (d : Draft) (n : Node) : Sets d n "ssl_ciphers" (sslCiphers d n) := by
  rw [sslCiphers_eq]
  exact .ciphers

theorem sets_addHeader (d : Draft) (n : Node) : Sets d n "add_header" (addHeader d n) := by
  unfold addHeader
  dsimp only
  split_ifs with hs h
  · exact .strictTransport hs
  · exact .hardening hs h
  · exact .otherHeader hs h

theorem sets_authBasic (d : Draft) (n : Node) : Sets d n "auth_basic" (authBasic d n) := by
  unfold authBasic
  split_ifs with h
  · exact .authOff h
  · exact .auth h

theorem sets_accessLog (d : Draft) (n : Node) : Sets d n "access_log" (accessLog d n) := by
  unfold accessLog
  split_ifs with h
  · exact .accessLogOff h
  · exact .accessLog h

theorem sets_errorLog (d : Draft) (n : Node) : Sets d n "error_log" (errorLog d n) := by
  have hquiet : ∀ level, Sets d n "error_log" { d with
      site.logging.errorLog := true
      site.logging.errorLogPath := n.arg 0
      site.logging.errorLogLevel := level } := by
    intro level
    have h := Sets.errorLog (d := d) (n := n) level .nil
    rwa [List.append_nil] at h
  unfold errorLog
  dsimp only
  split_ifs
  · exact hquiet _
  · split
    · exact hquiet _
    · exact .errorLog .error (.single rfl)

theorem sets_clientMaxBodySize (d : Draft) (n : Node) :
    Ensures (clientMaxBodySize d n) (Sets d n "client_max_body_size") := by
  have hquiet : ∀ (size : Nat) unit, FewDigits (size : Int) → Sets d n "client_max_body_size" { d with
      site.performance.clientMaxBodySize := size
      site.performance.clientMaxBodyUnit := unit } := by
    intro size unit hsize
    have h := Sets.bodySize (d := d) (n := n) size unit (.inr ⟨by simp, hsize⟩) .nil
    rwa [List.append_nil] at h
  unfold clientMaxBodySize
  split
  · exact .ok (.bodySize _ _ (.inl rfl) (.single rfl))
  · refine (ensures_readNumber _).bind fun size hsize => ?_
    split
    · exact (ensures_megabytes _).bind fun m hm => .ok (.bodySize m _ (.inr ⟨by simp, hm⟩) (.single rfl))
    · exact .ok (hquiet size _ hsize)

theorem sets_keepaliveTimeout (d : Draft) (n : Node) :
    Ensures (Draft.keepaliveTimeout d n) (Sets d n "keepalive_timeout") := by
  refine (ensures_readSeconds _).bind fun o ho => ?_
  split
  · exact .ok (.keepalive _ (.inl rfl) (.single rfl))
  · next s =>
    refine .ok ?_
    have h := Sets.keepalive (d := d) (n := n) s (.inr (ho s rfl)) .nil
    rwa [List.append_nil] at h

/-- Each directive of the table sets what its name says. -/
theorem sets_serverDirectives : ∀ e ∈ serverDirectives, ∀ d n, Ensures (e.2 d n) (Sets d n e.1) := by
  simp only [serverDirectives, List.forall_mem_cons]
  exact ⟨sets_listen, fun _ _ => .ok .serverName, fun _ _ => .ok .root, fun _ _ => .ok .index,
    fun _ _ => .ok .certificate, fun _ _ => .ok .certificateKey, fun _ _ => .ok .protocols,
    fun d n => .ok (sets_ciphers d n), fun _ _ => .ok .preferServerCiphers, fun _ _ => .ok .stapling,
    fun _ _ => .ok .serverTokens, fun d n => .ok (sets_addHeader d n), fun _ _ => .ok .allow, fun _ _ => .ok .deny,
    fun d n => .ok (sets_authBasic d n), fun _ _ => .ok .authFile, fun _ _ => .ok .gzip, fun _ _ => .ok .gzipTypes,
    fun _ _ => .ok .brotli, fun _ _ => .ok .brotliTypes, fun _ _ => .ok .http2, sets_clientMaxBodySize,
    sets_keepaliveTimeout, fun d n => .ok (sets_accessLog d n), fun d n => .ok (sets_errorLog d n), by simp⟩

/-- A directive leaves the draft as it is, does what its name says, or has no place in a site. -/
theorem sets_directive (d : Draft) (n : Node) : Ensures (d.directive n) fun d' =>
    absorbedDirectives.contains n.name = true ∧ d' = d ∨
      absorbedDirectives.contains n.name = false ∧ (serverDirectives.lookup n.name).isSome = true ∧
        Sets d n n.name d' ∨
      absorbedDirectives.contains n.name = false ∧ serverDirectives.lookup n.name = none ∧ d' = d.unmodelled n := by
  unfold directive
  split_ifs with habsorbed
  · exact .ok (.inl ⟨habsorbed, rfl⟩)
  · rw [Bool.not_eq_true] at habsorbed
    split
    · next f hf =>
      refine (sets_serverDirectives _ (mem_of_lookup_eq_some hf) d n).mono fun d' hd' => ?_
      exact .inr (.inl ⟨habsorbed, Option.isSome_of_eq_some hf, hd'⟩)
    · next hnone => exact .ok (.inr (.inr ⟨habsorbed, hnone, rfl⟩))

/-! ### Location blocks -/

theorem changes_setBurst (d : Draft) (burst : Option (List Char)) :
    Ensures (d.setBurst burst) fun d' => ∃ b, d' = { d with site.security.rateBurst := b } := by
  cases burst with
  | none => exact .ok ⟨_, rfl⟩
  | some ds =>
    rw [setBurst]
    exact (Ensures.self _).map fun n _ => ⟨n, rfl⟩

theorem changes_place (d : Draft) (m : MatchType) (path : String) (ns : List Node) :
    Ensures (d.place m path ns) fun d' =>
      ∃ caching locations, d' = { d with caching, site.locations := locations } := by
  unfold place
  split
  · exact .ok ⟨_, _, rfl⟩
  · exact (Ensures.self _).map fun _ _ => ⟨_, _, rfl⟩

theorem changes_location (d : Draft) (n : Node) : Ensures (d.location n) fun d' =>
    ∃ burst caching locations ws, Silent ws ∧ d' = { d with
      locationSeen := true
      site.security.rateBurst := burst
      caching
      site.locations := locations
      warnings := d.warnings ++ ws } := by
  -- the draft before the block is placed
  have hwarned : ∃ ws, Silent ws ∧ (if n.locationTarget.2.2 then
      ({ d with locationSeen := true } : Draft).warn (.strongModifier n.line) else { d with locationSeen := true }) =
        { d with locationSeen := true, warnings := d.warnings ++ ws } := by
    split_ifs
    · exact ⟨_, .single rfl, rfl⟩
    · refine ⟨[], .nil, ?_⟩
      rw [List.append_nil]
  obtain ⟨ws, hws, hwarned⟩ := hwarned
  rw [location_eq]
  dsimp only
  rw [hwarned]
  split_ifs
  · refine .ok ⟨d.site.security.rateBurst, d.caching, d.site.locations, ws ++ [.locationWithoutPath n.line],
      hws.append (.single rfl), ?_⟩
    rw [← List.append_assoc]
    rfl
  · refine (changes_setBurst _ _).bind ?_
    rintro _ ⟨burst, rfl⟩
    refine (changes_place _ _ _ _).mono ?_
    rintro _ ⟨caching, locations, rfl⟩
    exact ⟨burst, caching, locations, ws, hws, rfl⟩

/-! ### Settings of one directive -/

end Draft

/-- A directive of the name. -/
def Node.isDirective (name : String) (n : Node) : Bool := !n.isBlock && n.name == name

namespace Draft

/-- A part of a draft that no statement of a server changes but the directive of one name. -/
structure IsPart {γ : Type} (get : Draft → γ) (name : String) : Prop where
  sets {d d' : Draft} {n : Node} {name' : String} (h : Sets d n name' d') (hne : name' ≠ name) : get d' = get d
  unmodelled (d : Draft) (n : Node) : get (d.unmodelled n) = get d
  location (d : Draft) (n : Node) : Ensures (d.location n) fun d' => get d' = get d

namespace IsPart
variable {γ : Type} {get : Draft → γ} {name : String}

theorem serverStatement (h : IsPart get name) (d : Draft) (n : Node) (hn : n.isDirective name = false) :
    Ensures (d.serverStatement n) fun d' => get d' = get d := by
  unfold Draft.serverStatement
  split
  · exact h.location d _
  · exact .ok (h.unmodelled d _)
  · next name' args line =>
    have hne : name' ≠ name := by simpa [Node.isDirective, Node.isBlock, Node.name] using hn
    refine (d.sets_directive _).mono ?_
    rintro d' (⟨-, rfl⟩ | ⟨-, -, hsets⟩ | ⟨-, -, rfl⟩)
    · rfl
    · exact h.sets hsets hne
    · exact h.unmodelled d _

/-- At the end of a run the part is as the last directive of the name left it. -/
theorem run (h : IsPart get name) {ns : List Node} {n : Node}
    (hn : (ns.filter (Node.isDirective name)).getLast? = some n) (d : Draft) :
    Ensures (ns.foldlM Draft.serverStatement d) fun e =>
      ∃ d₁ d₂ : Draft, d₁.serverStatement n = .ok d₂ ∧ get e = get d₂ :=
  Ensures.foldlM_at_last h.serverStatement hn d

end IsPart

/-- A part of a draft that the directive of one name sets, whatever it was before, and nothing else in a server. -/
structure IsSetting {γ : Type} (get : Draft → γ) (name : String) (value : Node → γ) : Prop where
  known : absorbedDirectives.contains name = false ∧ (serverDirectives.lookup name).isSome = true
  sets {d d' : Draft} {n : Node} {name' : String} (h : Sets d n name' d') :
    get d' = if name' = name then value n else get d
  unmodelled (d : Draft) (n : Node) : get (d.unmodelled n) = get d
  location (d : Draft) (n : Node) : Ensures (d.location n) fun d' => get d' = get d

namespace IsSetting
variable {γ : Type} {get : Draft → γ} {name : String} {value : Node → γ}

theorem directive (h : IsSetting get name value) (d : Draft) (n : Node) : Ensures (d.directive n) fun d' =>
    get d' = if n.name = name then value n else get d := by
  refine (d.sets_directive n).mono ?_
  rintro d' (⟨habsorbed, rfl⟩ | ⟨-, -, hsets⟩ | ⟨-, hnone, rfl⟩)
  · have hname : n.name ≠ name := by
      rintro rfl
      exact Bool.false_ne_true (h.known.1.symm.trans habsorbed)
    rw [if_neg hname]
  · exact h.sets hsets
  · have hname : n.name ≠ name := by
      rintro rfl
      exact Option.isSome_iff_ne_none.1 h.known.2 hnone
    rw [if_neg hname, h.unmodelled]

theorem serverStatement (h : IsSetting get name value) (d : Draft) (n : Node) :
    Ensures (d.serverStatement n) fun d' => get d' = if n.isDirective name then value n else get d := by
  unfold Draft.serverStatement
  split
  · exact h.location d _
  · exact .ok (h.unmodelled d _)
  · refine (h.directive d _).mono fun d' hd' => ?_
    rw [hd', Node.isDirective]
    simp [Node.isBlock]

theorem run (h : IsSetting get name value) (d : Draft) (ns : List Node) :
    Ensures (ns.foldlM Draft.serverStatement d) fun d' =>
      get d' = ((ns.filter (Node.isDirective name)).getLast?.map value).getD (get d) :=
  Ensures.foldlM_last h.serverStatement d ns

end IsSetting

/-! ### Around the server -/

end Draft

/-- A zone for a rate limit. -/
def Node.isZone (n : Node) : Bool := !n.isBlock && n.name == "limit_req_zone"

namespace Draft

theorem changes_limitReqZone (d : Draft) (n : Node) : Ensures (d.limitReqZone n) fun d' =>
    ∃ rate ws, Silent ws ∧ d' = { d with
      site.security.rateLimiting := true
      site.security.rateLimit := rate
      warnings := d.warnings ++ ws } := by
  unfold limitReqZone
  dsimp only
  split
  · refine Ensures.of_bind fun rate => .ok ⟨rate, [], .nil, ?_⟩
    rw [List.append_nil]
  · exact .ok ⟨_, _, .single rfl, rfl⟩

theorem changes_fileStatement (d : Draft) (n : Node) : Ensures (d.fileStatement n) fun d' =>
    ∃ rate ws, Silent ws ∧ d' = { d with
      site.security.rateLimiting := d.site.security.rateLimiting || n.isZone
      site.security.rateLimit := rate
      warnings := d.warnings ++ ws } := by
  unfold fileStatement Node.isZone
  split_ifs with h
  · rw [h, Bool.or_true]
    exact d.changes_limitReqZone n
  · rw [eq_false_of_ne_true h, Bool.or_false]
    exact .ok ⟨_, _, .single rfl, rfl⟩

theorem changes_fileRun (d : Draft) (ns : List Node) : Ensures (ns.foldlM fileStatement d) fun d' =>
    ∃ rate ws, Silent ws ∧ d' = { d with
      site.security.rateLimiting := d.site.security.rateLimiting || ns.any Node.isZone
      site.security.rateLimit := rate
      warnings := d.warnings ++ ws } := by
  induction ns generalizing d with
  | nil =>
    refine .ok ⟨d.site.security.rateLimit, [], .nil, ?_⟩
    rw [List.any_nil, Bool.or_false, List.append_nil]
  | cons n ns ih =>
    rw [List.foldlM_cons, List.any_cons]
    refine (d.changes_fileStatement n).bind ?_
    rintro _ ⟨rate, ws, hws, rfl⟩
    refine (ih _).mono ?_
    rintro _ ⟨rate', ws', hws', rfl⟩
    -- one zone is enough, wherever it stands
    refine ⟨rate', ws ++ ws', hws.append hws', ?_⟩
    rw [← Bool.or_assoc, ← List.append_assoc]

end Draft

/-! ### Upstream pools -/

theorem PoolMember.silent_addParameter (m : PoolMember) (p : String) :
    Ensures (m.addParameter p) fun r => Silent r.2 := by
  unfold addParameter
  dsimp only
  split
  · exact Ensures.of_bind fun _ => .ok .nil
  · exact Ensures.of_bind fun _ => .ok .nil
  · exact Ensures.of_bind fun _ => .ok .nil
  · exact .ok (.single rfl)

theorem PoolMember.silent_addParameters (m : PoolMember) (ps : List String) :
    Ensures (m.addParameters ps) fun r => Silent r.2 := by
  induction ps generalizing m with
  | nil => exact .ok .nil
  | cons p ps ih =>
    refine (m.silent_addParameter p).bind fun r hr => ?_
    exact (ih r.1).bind fun r' hr' => .ok (hr.append hr')

theorem Upstream.silent_add (u : Upstream) (n : Node) : Ensures (u.add n) fun r => Silent r.2 := by
  unfold add
  split
  · exact .ok (.single rfl)
  · split
    · exact (PoolMember.silent_addParameters _ _).bind fun r hr => .ok hr
    · split
      · exact .ok .nil
      · exact .ok (.single rfl)

theorem Upstream.silent_addAll (u : Upstream) (ns : List Node) : Ensures (u.addAll ns) fun r => Silent r.2 := by
  induction ns generalizing u with
  | nil => exact .ok .nil
  | cons n ns ih =>
    refine (u.silent_add n).bind fun r hr => ?_
    exact (ih r.1).bind fun r' hr' => .ok (hr.append hr')

namespace Draft

theorem changes_upstream (d : Draft) (n : Node) : Ensures (d.upstream n) fun d' =>
    ∃ upstream ws, Silent ws ∧ d' = { d with site.upstream := upstream, warnings := d.warnings ++ ws } := by
  unfold upstream
  dsimp only
  split_ifs
  · exact .ok ⟨_, _, .single rfl, rfl⟩
  · exact (Upstream.silent_addAll _ _).bind fun r hr => .ok ⟨_, _, hr, rfl⟩

theorem changes_withUpstreams (d : Draft) (us : List Node) : Ensures (Import.withUpstreams d us) fun d' =>
    ∃ upstream ws, Silent ws ∧ d' = { d with site.upstream := upstream, warnings := d.warnings ++ ws } := by
  cases us with
  | nil =>
    refine .ok ⟨d.site.upstream, [], .nil, ?_⟩
    rw [List.append_nil]
  | cons u us =>
    rw [Import.withUpstreams]
    refine (changes_upstream _ u).mono ?_
    rintro _ ⟨upstream, ws, hws, rfl⟩
    split_ifs
    · exact ⟨upstream, ws, hws, rfl⟩
    · refine ⟨upstream, .manyUpstreams (us.length + 1) :: ws, (Silent.single rfl).append hws, ?_⟩
      rw [warn, List.append_assoc, List.singleton_append]

end Draft

theorem Import.changes_fileDraft (other : List Node) (redirected : Bool) (candidates : Nat) :
    Ensures (fileDraft other redirected candidates) fun d => ∃ rate ws, Silent ws ∧
      d = { ({} : Draft) with
        site.security.rateLimiting := other.any Node.isZone
        site.security.rateLimit := rate
        site.ssl.httpRedirect := redirected
        warnings := ws } := by
  refine (Draft.changes_fileRun {} other).bind ?_
  rintro _ ⟨rate, ws, hws, rfl⟩
  refine .ok ?_
  by_cases hmany : 1 < candidates
  · rw [if_pos hmany]
    refine ⟨rate, ws ++ [.manyServers candidates], hws.append (.single rfl), ?_⟩
    cases redirected <;> rfl
  · rw [if_neg hmany]
    refine ⟨rate, ws, hws, ?_⟩
    cases redirected <;> rfl

end SiteConf
