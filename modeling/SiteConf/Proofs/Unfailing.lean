import SiteConf.Proofs.Normal
import SiteConf.Proofs.Protection
import SiteConf.Proofs.Returning
import SiteConf.Proofs.Stable

/-!
# The text of a site does not stop an import

Only a number of too many digits stops an import. The numbers in the text of a site are few
(`Site.writtenIntegers`), and where each of them can be read, the text is imported, whatever the site is
otherwise (`Site.returns_ofText_render`).
-/

namespace SiteConf
open Text

/-! ### Statements by their names -/

/-- Directives, none of them with one of the names. -/
def Avoids (names : List String) (ns : List Node) : Prop := ∀ n ∈ ns, n.isBlock = false ∧ n.name ∉ names

namespace Avoids
variable {names : List String} {xs ys : List Node}

theorem nil : Avoids names [] := by simp [Avoids]

theorem cons {name : String} {args : List String} (h : name ∉ names) (hx : Avoids names xs) :
    Avoids names (.stmt name args :: xs) :=
  List.forall_mem_cons.2 ⟨⟨rfl, h⟩, hx⟩

theorem append (hx : Avoids names xs) (hy : Avoids names ys) : Avoids names (xs ++ ys) :=
  List.forall_mem_append.2 ⟨hx, hy⟩

theorem ite {c : Prop} [Decidable c] (hx : Avoids names xs) (hy : Avoids names ys) :
    Avoids names (if c then xs else ys) := by
  split_ifs
  · exact hx
  · exact hy

theorem map {α : Type} {f : α → Node} (as : List α) (h : ∀ a, (f a).isBlock = false ∧ (f a).name ∉ names) :
    Avoids names (as.map f) := by
  intro n hn
  obtain ⟨a, -, rfl⟩ := List.mem_map.1 hn
  exact h a

theorem mono {names' : List String} (h : Avoids names xs) (hsub : names' ⊆ names) : Avoids names' xs :=
  fun n hn => ⟨(h n hn).1, fun hmem => (h n hn).2 (hsub hmem)⟩

end Avoids

/-- The directives of a server whose value is a number. -/
def numericDirectives : List String := ["listen", "client_max_body_size", "keepalive_timeout"]

namespace Draft

theorem returns_serverDirectives : ∀ e ∈ serverDirectives, e.1 ∉ numericDirectives →
    ∀ d n, Returns (e.2 d n) := by
  simp only [serverDirectives, List.forall_mem_cons]
  refine ⟨fun h => absurd (by decide) h, ?_, ?_, ?_, ?_, ?_, ?_, ?_, ?_, ?_, ?_, ?_, ?_, ?_, ?_, ?_, ?_, ?_, ?_,
    ?_, ?_, fun h => absurd (by decide) h, fun h => absurd (by decide) h, ?_, ?_, by simp⟩
  all_goals exact fun _ _ _ => .ok _

theorem returns_directive {n : Node} (h : n.name ∉ numericDirectives) (d : Draft) : Returns (d.directive n) := by
  unfold directive
  split_ifs
  · exact .ok _
  · split
    · next f hf => exact returns_serverDirectives _ (mem_of_lookup_eq_some hf) h d n
    · exact .ok _

end Draft

/-- Each of the statements can be read, whatever the draft is before it. -/
def Unfailing (ns : List Node) : Prop := ∀ n ∈ ns, ∀ d : Draft, Returns (d.serverStatement n)

namespace Unfailing
variable {xs ys : List Node}

theorem of_avoids (h : Avoids numericDirectives xs) : Unfailing xs := by
  intro n hn d
  obtain ⟨hblock, hname⟩ := h n hn
  cases n with
  | directive name args line => exact d.returns_directive hname
  | block => cases hblock

theorem append (hx : Unfailing xs) (hy : Unfailing ys) : Unfailing (xs ++ ys) := List.forall_mem_append.2 ⟨hx, hy⟩

theorem nil : Unfailing [] := by simp [Unfailing]

theorem stmt {name : String} {args : List String} {f : Draft.Effect} (hl : serverDirectives.lookup name = some f)
    (hf : ∀ d, Returns (f d (.stmt name args))) (ha : absorbedDirectives.contains name = false) :
    Unfailing [.stmt name args] := by
  intro n hn d
  obtain ⟨e, he⟩ := hf d
  obtain ⟨e', he', -⟩ := exists_of_bind_eq_ok (Draft.Reads.stmt hl he ha)
  rw [List.mem_singleton.1 hn]
  exact ⟨e', he'⟩

theorem ite {c : Prop} [Decidable c] (hx : c → Unfailing xs) (hy : ¬c → Unfailing ys) :
    Unfailing (if c then xs else ys) := by
  split_ifs with h
  · exact hx h
  · exact hy h

theorem map {α : Type} {f : α → Node} {as : List α} (h : ∀ a ∈ as, ∀ d : Draft, Returns (d.serverStatement (f a))) :
    Unfailing (as.map f) := by
  intro n hn
  obtain ⟨a, ha, rfl⟩ := List.mem_map.1 hn
  exact h a ha

end Unfailing

/-! ### Groups of a server -/

theorem Site.avoids_nameNodes (s : Site) : Avoids (numericDirectives ++ Protection.names) s.nameNodes :=
  .ite .nil (.cons (by decide) .nil)

theorem Site.avoids_fileNodes (s : Site) : Avoids (numericDirectives ++ Protection.names) s.fileNodes :=
  .ite .nil ((Avoids.ite .nil (.cons (by decide) .nil)).append (.ite .nil (.cons (by decide) .nil)))

theorem Performance.avoids_gzipNodes (p : Performance) :
    Avoids (numericDirectives ++ Protection.names) p.gzipNodes :=
  .ite (.cons (by decide) (.cons (by decide) (.cons (by decide) (.cons (by decide) (.cons (by decide) .nil))))) .nil

theorem Performance.avoids_brotliNodes (p : Performance) :
    Avoids (numericDirectives ++ Protection.names) p.brotliNodes :=
  .ite (.cons (by decide) (.cons (by decide) (.cons (by decide) .nil))) .nil

theorem Logging.avoids_nodes (l : Logging) : Avoids (numericDirectives ++ Protection.names) l.nodes :=
  .append (.cons (by decide) .nil) (.ite (.cons (by decide) .nil) .nil)

theorem Ssl.avoids_nodes (s : Ssl) : Avoids numericDirectives s.nodes := by
  have hfiles : Avoids numericDirectives [.stmt "ssl_certificate" [orElse s.certificatePath placeholderCertificate],
      .stmt "ssl_certificate_key" [orElse s.keyPath placeholderKey]] :=
    .cons (by decide) (.cons (by decide) .nil)
  have hprotocols : Avoids numericDirectives s.protocolNodes := .ite .nil (.cons (by decide) .nil)
  have hciphers : Avoids numericDirectives (.stmt "ssl_ciphers" [s.effectiveCiphers] :: s.sessionNodes) :=
    .cons (by decide) (.cons (by decide) (.cons (by decide) (.cons (by decide) (.cons (by decide) .nil))))
  have hhsts : Avoids numericDirectives s.hstsNodes := .ite (.cons (by decide) .nil) .nil
  have hstapling : Avoids numericDirectives s.staplingNodes := .ite (.cons (by decide) (.cons (by decide) .nil)) .nil
  exact .ite ((((hfiles.append hprotocols).append hciphers).append hhsts).append hstapling) .nil

theorem Security.avoids_nodes (s : Security) : Avoids numericDirectives s.nodes := by
  have htokens : Avoids numericDirectives s.tokenNodes := .ite (.cons (by decide) .nil) .nil
  have hname : "add_header" ∉ numericDirectives := by decide
  have hheaders : Avoids numericDirectives s.headerNodes := .ite (.map _ fun _ => ⟨rfl, hname⟩) .nil
  have haddresses : ∀ {name : String} as, name ∉ numericDirectives →
      Avoids numericDirectives (addressNodes name as) := fun _ h => .map _ fun _ => ⟨rfl, h⟩
  have hauth : Avoids numericDirectives s.authNodes := .ite (.cons (by decide) (.cons (by decide) .nil)) .nil
  exact (((htokens.append hheaders).append (haddresses _ (by decide))).append (haddresses _ (by decide))).append
    hauth

theorem Site.unfailing_headNodes {s : Site} (hp : 1 ≤ s.listenPort) (hf : FewDigits s.listenPort) :
    Unfailing s.headNodes := by
  have hport : 0 ≤ s.listenPort := by omega
  have hlisten : ∀ address, Draft.portOf address = .ok (some s.listenPort.natAbs) →
      Unfailing [.stmt "listen" (address :: s.listenFlags)] := fun address h =>
    .stmt (by rfl) (fun _ => ⟨_, Draft.listen_eq hp h⟩) (by rfl)
  have hrest : Unfailing (s.nameNodes ++ s.fileNodes) :=
    .of_avoids ((s.avoids_nameNodes.append s.avoids_fileNodes).mono (List.subset_append_left _ _))
  unfold headNodes
  rw [List.append_assoc]
  exact .append (.append (hlisten _ (portOf_toString hport hf)) (.ite (fun _ => hlisten _ (portOf_ipv6 hport hf))
    fun _ => .nil)) hrest

theorem Performance.unfailing_nodes {p : Performance} (h : ∀ n ∈ p.writtenIntegers, FewDigits n) :
    Unfailing p.nodes := by
  unfold writtenIntegers at h
  have hcompression : Unfailing (p.gzipNodes ++ p.brotliNodes) :=
    .of_avoids ((p.avoids_gzipNodes.append p.avoids_brotliNodes).mono (List.subset_append_left _ _))
  have hsize : Unfailing p.sizeNodes := by
    refine .ite (fun hs => ?_) fun _ => .nil
    have hf := h p.clientMaxBodySize (by simp [hs])
    exact .stmt (by rfl) (fun d => ⟨_, d.clientMaxBodySize_eq (by omega) hf _⟩) (by rfl)
  have hkeepalive : Unfailing p.keepaliveNodes := by
    refine .ite (fun hk => ?_) fun _ => .nil
    have hf := h p.keepaliveTimeout (by simp [hk])
    exact .stmt (by rfl) (fun d => ⟨_, d.keepaliveTimeout_eq (by omega) hf⟩) (by rfl)
  exact (hcompression.append hsize).append hkeepalive

/-! ### Locations -/

namespace Location

/-- The proxy directives whose value is a number. -/
def timeoutDirectives : List String := ["proxy_read_timeout", "proxy_send_timeout"]

theorem returns_addProxyDirective_of_avoids {ns : List Node} (h : Avoids timeoutDirectives ns) :
    ∀ n ∈ ns, ∀ l : Location, Returns (l.addProxyDirective n) := by
  intro n hn l
  have hname := (h n hn).2
  unfold addProxyDirective
  split
  · exact .ok _
  · exact .ok _
  · next hread => exact absurd (by rw [hread]; decide) hname
  · next hsend => exact absurd (by rw [hsend]; decide) hname
  · exact .ok _
  · exact .ok _

theorem returns_addProxyDirective_timeoutNodes {l : Location} (h : 0 < l.proxyTimeout → FewDigits l.proxyTimeout) :
    ∀ n ∈ l.timeoutNodes, ∀ b : Location, Returns (b.addProxyDirective n) := by
  intro n hn b
  unfold timeoutNodes at hn
  split_ifs at hn with ht
  · have hread : Returns (positiveSeconds (toString l.proxyTimeout ++ "s")) :=
      ⟨_, positiveSeconds_toString ht (h ht)⟩
    rcases List.mem_pair.1 hn with rfl | rfl
    · refine hread.bind fun o _ => ?_
      cases o <;> exact .ok _
    · refine hread.bind fun o _ => ?_
      cases o <;> exact .ok _
  · cases hn

theorem avoids_fileNodes (l : Location) : Avoids ("limit_req" :: timeoutDirectives) l.fileNodes :=
  .append (.append (.append (.append (.ite .nil (.cons (by decide) .nil)) (.ite .nil (.cons (by decide) .nil)))
    (.ite .nil (.cons (by decide) .nil))) (.ite (.cons (by decide) .nil) .nil)) (.ite .nil (.cons (by decide) .nil))

theorem avoids_proxyNodes (realIp : Bool) (l : Location) :
    Avoids ("limit_req" :: timeoutDirectives)
        ([.stmt "proxy_pass" (if l.proxyPass.isEmpty then [] else [l.proxyPass]), .stmt "proxy_http_version" ["1.1"]] ++
          (l.writtenHeaders realIp).map headerNode) ∧
      Avoids ("limit_req" :: timeoutDirectives) l.bufferingNodes := by
  have hheader : "proxy_set_header" ∉ "limit_req" :: timeoutDirectives := by decide
  exact ⟨.append (.cons (by decide) (.cons (by decide) .nil)) (.map _ fun _ => ⟨rfl, hheader⟩),
    .ite .nil (.cons (by decide) .nil)⟩

theorem returns_addProxyDirective_bodyNodes {l : Location} (realIp : Bool) (hk : l.kind ≠ .custom)
    (h : ∀ n ∈ l.writtenIntegers, FewDigits n) :
    ∀ n ∈ l.bodyNodes realIp, ∀ b : Location, Returns (b.addProxyDirective n) := by
  have hsub : timeoutDirectives ⊆ "limit_req" :: timeoutDirectives := List.subset_cons_self _ _
  unfold writtenIntegers at h
  unfold bodyNodes
  cases hkind : l.kind with
  | files => exact returns_addProxyDirective_of_avoids (l.avoids_fileNodes.mono hsub)
  | proxy =>
    rw [hkind] at h
    have htimeout : 0 < l.proxyTimeout → FewDigits l.proxyTimeout := fun ht => h _ (by simp [ht])
    obtain ⟨hbefore, hafter⟩ := l.avoids_proxyNodes realIp
    refine List.forall_mem_append.2 ⟨List.forall_mem_append.2 ⟨?_, ?_⟩, ?_⟩
    · exact returns_addProxyDirective_of_avoids (hbefore.mono hsub)
    · exact returns_addProxyDirective_timeoutNodes htimeout
    · exact returns_addProxyDirective_of_avoids (hafter.mono hsub)
  | redirect => exact returns_addProxyDirective_of_avoids (.cons (by decide) .nil)
  | custom => exact absurd hkind hk

/-- Only the text of a location can hold a rate limit of its own. -/
theorem avoids_bodyNodes {l : Location} (realIp : Bool) (hk : l.kind ≠ .custom) :
    Avoids ["limit_req"] (l.bodyNodes realIp) := by
  have hsub : ["limit_req"] ⊆ "limit_req" :: timeoutDirectives := by simp
  unfold bodyNodes
  cases hkind : l.kind with
  | files => exact l.avoids_fileNodes.mono hsub
  | proxy =>
    obtain ⟨hbefore, hafter⟩ := l.avoids_proxyNodes realIp
    have htimeouts : Avoids ["limit_req"] l.timeoutNodes := .ite (.cons (by decide) (.cons (by decide) .nil)) .nil
    exact ((hbefore.mono hsub).append htimeouts).append (hafter.mono hsub)
  | redirect => exact .cons (by decide) .nil
  | custom => exact absurd hkind hk

end Location

theorem splitLimit_false (ns : List Node) : splitLimit false ns = (ns, none) := by
  unfold splitLimit
  split <;> rfl

theorem splitLimit_of_avoids {ns : List Node} (h : Avoids ["limit_req"] ns) (r : Bool) :
    splitLimit r ns = (ns, none) := by
  unfold splitLimit
  split
  · next args line rest => exact absurd (by simp [Node.name]) (h (.directive "limit_req" args line) (by simp)).2
  · rfl

namespace Site
variable {s : Site}

theorem returns_locationNode {l : Location} (hs : ∀ n ∈ s.security.writtenIntegers, FewDigits n)
    (hk : l.kind ≠ .custom) (h : ∀ n ∈ l.writtenIntegers, FewDigits n) (d : Draft) :
    Returns (d.serverStatement (s.locationNode l)) := by
  have hbody := Location.avoids_bodyNodes s.reverseProxy.realIpHeaders hk
  unfold Security.writtenIntegers at hs
  refine Draft.returns_location (fun d r => ?_) ?_ d
  · show Returns (d.setBurst (splitLimit r (s.security.limitNodes ++ l.bodyNodes s.reverseProxy.realIpHeaders)).2)
    -- the draft may know of a zone or not, and the site may have a limit or not
    cases r with
    | false =>
      rw [splitLimit_false]
      exact .ok _
    | true =>
      cases hlimit : s.security.rateLimiting with
      | false =>
        rw [Security.limitNodes, hlimit, if_neg (by simp), List.nil_append, splitLimit_of_avoids hbody]
        exact .ok _
      | true =>
        have hburst : FewDigits s.security.burst := hs _ (by simp [hlimit])
        have hsplit := Draft.splitLimit_limitNodes s.security (l.bodyNodes s.reverseProxy.realIpHeaders)
        rw [hlimit] at hsplit
        rw [hsplit]
        exact ⟨_, d.setBurst_toDigits true (Draft.burst_nonneg _) hburst⟩
  · have hlimits : Avoids Location.timeoutDirectives s.security.limitNodes := .ite (.cons (by decide) .nil) .nil
    exact List.forall_mem_append.2 ⟨Location.returns_addProxyDirective_of_avoids hlimits,
      Location.returns_addProxyDirective_bodyNodes _ hk h⟩

theorem returns_assetNode (p : Performance) (a : AssetClass) (d : Draft) :
    Returns (d.serverStatement (p.assetNode a)) := by
  have hchildren : Avoids ("limit_req" :: Location.timeoutDirectives) [.stmt "expires" (words (p.assetExpiry a)),
      .stmt "add_header" ["Cache-Control", assetCacheControl]] := .cons (by decide) (.cons (by decide) .nil)
  show Returns (d.location (p.assetNode a))
  refine Draft.returns_location (fun d r => ?_) ?_ d
  · show Returns (d.setBurst (splitLimit r [.stmt "expires" (words (p.assetExpiry a)),
      .stmt "add_header" ["Cache-Control", assetCacheControl]]).2)
    rw [splitLimit_of_avoids (hchildren.mono (by simp))]
    exact .ok _
  · exact Location.returns_addProxyDirective_of_avoids (hchildren.mono (List.subset_cons_self _ _))

theorem unfailing_serverNodes (hp : 1 ≤ s.listenPort) (hk : ∀ l ∈ s.effectiveLocations, l.kind ≠ .custom)
    (h : ∀ n ∈ s.writtenIntegers, FewDigits n) : Unfailing s.serverNodes := by
  have hhead := unfailing_headNodes hp (h s.listenPort (by simp [writtenIntegers]))
  have hperformance := Performance.unfailing_nodes (p := s.performance) fun n hn =>
    h n (by simp [writtenIntegers, hn])
  have hlogging : Unfailing s.logging.nodes :=
    .of_avoids (s.logging.avoids_nodes.mono (List.subset_append_left _ _))
  have hlocations : Unfailing s.locationNodes := .map fun l hl =>
    returns_locationNode (fun n hn => h n (by simp [writtenIntegers, hn])) (hk l hl) fun n hn => h n <| by
      simp only [writtenIntegers, List.mem_cons, List.mem_append, List.mem_flatMap]
      exact .inr (.inr ⟨l, hl, hn⟩)
  have hcaching : Unfailing s.cachingNodes := .map fun a _ => returns_assetNode s.performance a
  exact (((((hhead.append (.of_avoids s.ssl.avoids_nodes)).append (.of_avoids s.security.avoids_nodes)).append
    hperformance).append hlogging).append hlocations).append hcaching

end Site

/-! ### Pools -/

theorem isNumber_toString_of_neg {n : Int} (h : n < 0) : isNumber (toString n).toList = false := by
  have hsign : isDecimal '-' = false := by decide
  rw [toList_toString_int, if_pos h, isNumber, List.all_cons, hsign, Bool.false_and, Bool.and_false]

theorem numberFrom_toString_of_neg {n : Int} (h : n < 0) (least fallback : Nat) :
    numberFrom least fallback (toString n) = .ok fallback := by
  rw [numberFrom, isNumber_toString_of_neg h]
  rfl

/-- A time with a sign is no time. -/
theorem readSeconds_toString_of_neg {n : Int} (h : n < 0) : readSeconds (toString n ++ "s") = .ok none := by
  have hsign : isDecimal '-' = false := by decide
  have hspan : (spanDigits (toString n ++ "s").toList).1 = [] := by
    rw [String.toList_append, toList_toString_int, if_pos h, spanDigits, List.cons_append, List.takeWhile_cons, hsign]
    rfl
  unfold readSeconds
  dsimp only
  rw [hspan]
  rfl

theorem returns_numberFrom_toString {n : Int} (h : FewDigits n) (least fallback : Nat) :
    Returns (numberFrom least fallback (toString n)) := by
  by_cases hn : n < 0
  · exact ⟨_, numberFrom_toString_of_neg hn least fallback⟩
  · unfold numberFrom
    rw [toList_toString (by omega), if_pos (isNumber_toDigits _), readNumber_toDigits h]
    exact .ok _

theorem returns_readSeconds_toString {n : Int} (h : FewDigits n) : Returns (readSeconds (toString n ++ "s")) := by
  by_cases hn : n < 0
  · exact ⟨_, readSeconds_toString_of_neg hn⟩
  · exact ⟨_, readSeconds_toString (by omega) h⟩

theorem PoolMember.returns_addParameter_args {m : PoolMember} (h : ∀ n ∈ m.integers, FewDigits n) :
    ∀ p ∈ m.args.tail, ∀ b : PoolMember, Returns (b.addParameter p) := by
  have hcut : ∀ (key value : String), (key.toList.all fun c => c != '=') = true →
      cutAtChar '=' (key ++ "=" ++ value) = (key, value) := fun key value hk =>
    cutAtChar_append key (List.all_eq_true.1 hk) value
  have hweight : ∀ b : PoolMember, Returns (b.addParameter ("weight=" ++ toString m.weight)) := by
    intro b
    unfold addParameter
    rw [show cutAtChar '=' ("weight=" ++ toString m.weight) = ("weight", toString m.weight) from
      hcut "weight" _ (by decide)]
    exact (returns_numberFrom_toString (h _ (by simp [integers])) 1 1).bind fun _ _ => .ok _
  have hfails : ∀ b : PoolMember, Returns (b.addParameter ("max_fails=" ++ toString m.maxFails)) := by
    intro b
    unfold addParameter
    rw [show cutAtChar '=' ("max_fails=" ++ toString m.maxFails) = ("max_fails", toString m.maxFails) from
      hcut "max_fails" _ (by decide)]
    exact (returns_numberFrom_toString (h _ (by simp [integers])) 0 1).bind fun _ _ => .ok _
  have htimeout : ∀ b : PoolMember, Returns (b.addParameter ("fail_timeout=" ++ toString m.failTimeout ++ "s")) := by
    intro b
    unfold addParameter
    rw [String.append_assoc, show cutAtChar '=' ("fail_timeout=" ++ (toString m.failTimeout ++ "s")) =
      ("fail_timeout", toString m.failTimeout ++ "s") from hcut "fail_timeout" _ (by decide)]
    exact (returns_readSeconds_toString (h _ (by simp [integers]))).bind fun _ _ => .ok _
  have hif : ∀ {c : Prop} [Decidable c] {p : String}, (∀ b : PoolMember, Returns (b.addParameter p)) →
      ∀ q ∈ (if c then [] else [p]), ∀ b : PoolMember, Returns (b.addParameter q) := by
    intro c _ p hp q hq
    split_ifs at hq
    · cases hq
    · rwa [List.mem_singleton.1 hq]
  have hall := List.forall_mem_append.2 ⟨List.forall_mem_append.2
    ⟨hif (c := m.weight = 1) hweight, hif (c := m.maxFails = 1) hfails⟩, hif (c := m.failTimeout = 10) htimeout⟩
  exact hall

theorem Upstream.returns_nodes {u : Upstream} (h : ∀ n ∈ u.writtenIntegers, FewDigits n) :
    ∀ n ∈ u.nodes, ∀ d : Draft, Returns (d.upstream n) := by
  intro n hn
  unfold nodes at hn
  unfold writtenIntegers at h
  split_ifs at hn h
  · rw [List.mem_singleton.1 hn]
    refine Draft.returns_upstream (List.forall_mem_append.2 ⟨fun m hm v => ?_, fun m hm v => ?_⟩)
    · split_ifs at hm
      · cases hm
      · rw [List.mem_singleton.1 hm]
        cases u.method <;> exact .ok _
    · obtain ⟨m', hm', rfl⟩ := List.mem_map.1 hm
      have hdigits : ∀ x ∈ m'.integers, FewDigits x := fun x hx => h x (List.mem_flatMap.2 ⟨m', hm', hx⟩)
      have hargs := PoolMember.returns_addParameter_args hdigits
      exact (PoolMember.returns_addParameters hargs _).bind fun _ _ => .ok _
  · cases hn

/-! ### The whole text -/

theorem Security.returns_zoneNodes {s : Security} (h : ∀ n ∈ s.writtenIntegers, FewDigits n) :
    ∀ n ∈ s.zoneNodes, ∀ d : Draft, Returns (d.fileStatement n) := by
  intro n hn d
  unfold zoneNodes at hn
  unfold writtenIntegers at h
  split_ifs at hn h
  · rw [List.mem_singleton.1 hn]
    exact ⟨_, d.limitReqZone_eq (h s.rate (by simp))⟩
  · cases hn

theorem Site.unfailing_redirectNodes (s : Site) : Unfailing s.redirectNodes := by
  have hfew : FewDigits 80 := by decide
  have hport : Draft.portOf "80" = .ok (some 80) := by
    have hread := portOf_toString (by decide) hfew
    rwa [show toString (80 : Int) = "80" by decide] at hread
  have hport6 : Draft.portOf "[::]:80" = .ok (some 80) := by
    have hread := portOf_ipv6 (by decide) hfew
    rwa [show "[::]:" ++ toString (80 : Int) = "[::]:80" by decide] at hread
  have hlisten : ∀ address, Draft.portOf address = .ok (some 80) → Unfailing [.stmt "listen" [address]] :=
    fun address h => .stmt (by rfl) (fun _ => ⟨_, Draft.listen_eq (by decide : (1 : Int) ≤ 80) h⟩) (by rfl)
  have hnames : Unfailing s.nameNodes := .of_avoids (s.avoids_nameNodes.mono (List.subset_append_left _ _))
  have hipv6 : Unfailing (if s.listenIpv6 then [.stmt "listen" ["[::]:80"]] else []) :=
    .ite (fun _ => hlisten _ hport6) fun _ => .nil
  exact (((hlisten _ hport).append hipv6).append hnames).append (.of_avoids (.cons (by decide) .nil))

namespace Site
variable {s : Site}

theorem returns_ofNodes_nodes (hp : 1 ≤ s.listenPort) (hk : ∀ l ∈ s.effectiveLocations, l.kind ≠ .custom)
    (h : ∀ n ∈ s.writtenIntegers, FewDigits n) (errors : List String) :
    Returns (Import.ofNodes s.nodes errors) := by
  have hservers : ∀ n ∈ s.httpsRedirectNodes ++ [.scope "server" [] s.serverNodes], Unfailing n.children := by
    intro n hn
    rcases List.mem_append.1 hn with hn | hn
    · unfold httpsRedirectNodes at hn
      split_ifs at hn
      · rw [List.mem_singleton.1 hn]
        exact s.unfailing_redirectNodes
      · cases hn
    · rw [List.mem_singleton.1 hn]
      exact unfailing_serverNodes hp hk h
  obtain ⟨hserver, hupstream, hzone⟩ := filter_nodes s
  refine Import.returns_ofNodes_of_forall errors ?_ ?_ ?_
  · rw [fileScope_nodes, hzone]
    exact Security.returns_zoneNodes fun n hn => h n (by simp [writtenIntegers, hn])
  · rw [fileScope_nodes, hserver]
    exact hservers
  · rw [fileScope_nodes, hupstream]
    exact Upstream.returns_nodes fun n hn => h n (by simp [writtenIntegers, hn])

theorem map_site_ofText_render (hl : s.Legible) (hc : isBlankText s.customDirectives = true) :
    (Import.ofText s.render).map Import.site = (Import.ofNodes s.nodes []).map Import.site := by
  obtain ⟨herrors, hnodes⟩ := ofText_render hl hc
  have hsite : ∀ nodes, (Import.ofNodes nodes []).map Import.site =
      (Import.ofNodes (withoutLines nodes) []).map Import.site := by
    intro nodes
    rw [Import.ofNodes_withoutLines]
    cases Import.ofNodes nodes [] <;> rfl
  unfold Import.ofText
  dsimp only
  rw [herrors, List.map_nil, hsite, hnodes, ← hsite]

theorem ensures_ofText_render (hl : s.Legible) (hc : isBlankText s.customDirectives = true) {P : Site → Prop}
    (h : Ensures (Import.ofNodes s.nodes []) fun i => P i.site) :
    Ensures (Import.ofText s.render) fun i => P i.site := by
  intro i hi
  have hmap := map_site_ofText_render hl hc
  rw [hi] at hmap
  cases hj : Import.ofNodes s.nodes [] with
  | error e =>
    rw [hj] at hmap
    cases hmap
  | ok j =>
    rw [hj] at hmap
    have hsite : i.site = j.site := Except.ok.inj hmap
    rw [hsite]
    exact h j hj

/-- The text of a legible site is imported if its numbers can be read. -/
theorem returns_ofText_render (hl : s.Legible) (hc : isBlankText s.customDirectives = true) (hp : 1 ≤ s.listenPort)
    (hk : ∀ l ∈ s.effectiveLocations, l.kind ≠ .custom) (h : ∀ n ∈ s.writtenIntegers, FewDigits n) :
    Returns (Import.ofText s.render) := by
  have hmap := map_site_ofText_render hl hc
  obtain ⟨i, hi⟩ := returns_ofNodes_nodes hp hk h []
  rw [hi] at hmap
  obtain ⟨j, hj, -⟩ := Import.exists_of_map_site hmap
  exact ⟨j, hj⟩

theorem returns_ofText_render_of_plain (hv : s.Valid) (hp : ∀ t ∈ s.strings, Plain t)
    (hc : isBlankText s.customDirectives = true) (hk : ∀ l ∈ s.locations, l.kind ≠ .custom)
    (hn : ∀ n ∈ s.writtenIntegers, FewDigits n) : Returns (Import.ofText s.render) := by
  have hkinds : ∀ l ∈ s.effectiveLocations, l.kind ≠ .custom := forall_effectiveLocations hk (by simp) (by simp)
  exact returns_ofText_render (legible_of_plain hp hk) hc hv.listenPort hkinds hn

end Site
end SiteConf
